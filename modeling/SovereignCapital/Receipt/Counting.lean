import SovereignCapital.Lib.Runs
import SovereignCapital.Receipt.Stages

/-! # The counters of the treasury

`rolling_gas_cost_wei`, `rolling_failures` and `turnover_count` should count every committed
receipt once. The receipt service counts it, and the capital write service it then calls
counts it again; neither takes it back when the commit raises. A call never counts too
little, so the counters of a run are right exactly when every call counts its receipt once.
-/

namespace SovereignCapital.Receipt

open Decimal Prime Capital Runs

variable {S M : Type}

/-! ## Counters -/

abbrev Counters := Int × Int × Int

/-- The counters of the metadata; an absent key counts nothing. -/
def counters (settings : TreasuryMeta) : Counters :=
  (settings.rollingGasCostWei.getD 0, settings.rollingFailures.getD 0,
    settings.turnoverCount.getD 0)

def tally (tx : ReceiptTx) : Counters := (tx.gasCostWei, if tx.status = 1 then 0 else 1, 1)

/-- The receipt of a call adds the same, whatever the call settles with. -/
def SyncCall.tally (c : SyncCall) : Counters :=
  (c.decoded.realizedGasCostWei, if c.status = 1 then 0 else 1, 1)

def firstRows : List String → List ReceiptTx → List ReceiptTx
  | _, [] => []
  | seen, tx :: rows =>
    if tx.receiptId ∈ seen then firstRows seen rows
    else tx :: firstRows (tx.receiptId :: seen) rows

def receiptIds (rt : ReceiptRuntime S M) : List String := rt.rows.receipts.map ReceiptTx.receiptId

/-- The distinct receipts committed between two states. -/
def committedSince (rt rt' : ReceiptRuntime S M) : List ReceiptTx :=
  firstRows (receiptIds rt) (rt'.rows.receipts.drop rt.rows.receipts.length)

def tallySince (rt rt' : ReceiptRuntime S M) : Counters :=
  ((committedSince rt rt').map Receipt.tally).sum

def treasuryCounters (rt : ReceiptRuntime S M) : Option Counters :=
  rt.treasury.map fun t => counters t.settings

/-- The counters are those of before, and every receipt committed since counts once. -/
def CountsOnce (rt rt' : ReceiptRuntime S M) : Prop :=
  treasuryCounters rt' = (treasuryCounters rt).map (· + tallySince rt rt')

/-! ## The distinct receipts -/

theorem firstRows_congr {seen seen' : List String} (h : ∀ id, id ∈ seen ↔ id ∈ seen')
    (rows : List ReceiptTx) : firstRows seen rows = firstRows seen' rows := by
  induction rows generalizing seen seen' with
  | nil => rfl
  | cons tx rows ih =>
    simp only [firstRows, h tx.receiptId]
    split
    · exact ih h
    · exact congrArg (tx :: ·) (ih fun id => by simp only [List.mem_cons, h id])

theorem firstRows_append (seen : List String) (rows rows' : List ReceiptTx) :
    firstRows seen (rows ++ rows')
      = firstRows seen rows ++ firstRows (seen ++ rows.map ReceiptTx.receiptId) rows' := by
  induction rows generalizing seen with
  | nil => simp [firstRows]
  | cons tx rows ih =>
    simp only [List.cons_append, firstRows, List.map_cons]
    split
    · rename_i hseen
      rw [ih]
      congr 1
      apply firstRows_congr
      intro id
      simp only [List.mem_append, List.mem_cons]
      constructor
      · rintro (h | h)
        · exact .inl h
        · exact .inr (.inr h)
      · rintro (h | rfl | h)
        · exact .inl h
        · exact .inl hseen
        · exact .inr h
    · rw [ih, List.cons_append]
      congr 2
      apply firstRows_congr
      intro id
      simp only [List.mem_append, List.mem_cons]
      tauto

/-- The second state extends the first; its counters are `extra` too high. -/
structure Counted (rt rt' : ReceiptRuntime S M) (extra : Counters) : Prop where
  rows : rt.rows.receipts <+: rt'.rows.receipts
  counters : treasuryCounters rt' = (treasuryCounters rt).map (· + (tallySince rt rt' + extra))

theorem committedSince_self (rt : ReceiptRuntime S M) : committedSince rt rt = [] := by
  rw [committedSince, List.drop_length]
  rfl

theorem committedSince_append {rt rt' : ReceiptRuntime S M} {added : List ReceiptTx}
    (h : rt'.rows.receipts = rt.rows.receipts ++ added) :
    committedSince rt rt' = firstRows (receiptIds rt) added := by
  rw [committedSince, h, List.drop_left]

theorem Counted.refl (rt : ReceiptRuntime S M) : Counted rt rt 0 := by
  refine ⟨List.prefix_refl _, ?_⟩
  rw [tallySince, committedSince_self]
  cases h : treasuryCounters rt <;> simp

theorem Counted.trans {rt rt₁ rt₂ : ReceiptRuntime S M} {extra extra' : Counters}
    (h : Counted rt rt₁ extra) (h' : Counted rt₁ rt₂ extra') :
    Counted rt rt₂ (extra + extra') := by
  obtain ⟨added, hadded⟩ := h.rows
  obtain ⟨added', hadded'⟩ := h'.rows
  have hrows : rt₂.rows.receipts = rt.rows.receipts ++ (added ++ added') := by
    rw [← hadded', ← hadded, List.append_assoc]
  have hids : receiptIds rt₁ = receiptIds rt ++ added.map ReceiptTx.receiptId := by
    rw [receiptIds, ← hadded, List.map_append]
    rfl
  have hsince : tallySince rt rt₂ = tallySince rt rt₁ + tallySince rt₁ rt₂ := by
    rw [tallySince, tallySince, tallySince, committedSince_append hrows,
      committedSince_append hadded.symm, committedSince_append hadded'.symm, hids,
      firstRows_append, List.map_append, List.sum_append]
  refine ⟨h.rows.trans h'.rows, ?_⟩
  rw [h'.counters, h.counters, hsince]
  cases treasuryCounters rt with
  | none => rfl
  | some n =>
    simp only [Option.map_some, Option.some.injEq]
    abel

/-! ## What a call counts -/

/-- The commit of a call counts its receipt once: it raises before the assignment, or it writes
a receipt that has no row yet. -/
def CommitCountsOnce (w : Wiring) (f : SyncFaults) (rt : ReceiptRuntime S M) (c : SyncCall)
    (realizedAfterUsd : Usd) : Prop :=
  let a := c.settlement realizedAfterUsd (preparedLoan f rt c realizedAfterUsd).transition
  raisesEarly (f.commitFaults w) rt.toRuntime a = true
    ∨ (selectFails (f.commitFaults w) rt.toRuntime
        || transactionFails (f.commitFaults w) rt.toRuntime a) = false
      ∧ c.txHash ∉ receiptIds rt

/-- A call counts its receipt once: there is no treasury, or the call ends before the treasury
section, or that section raises before it counts and the commit is left to count. -/
def CountedOnce (w : Wiring) (rt : ReceiptRuntime S M) (call : SyncFaults × SyncCall) : Prop :=
  let f := call.1
  let c := call.2
  rt.treasury.isNone = true
    ∨ match entered w f rt c with
      | none => True
      | some realizedAfterUsd =>
        (hasLoan rt c && f.prepare == .escapes) = true
          ∨ if f.readMeta then
              f.treasuryHandled = false ∨ CommitCountsOnce w f rt c realizedAfterUsd
            else sizingLeaves f rt = true

theorem counters_settledMeta (settings : TreasuryMeta) (bankroll : Option Bankroll)
    (post : PostBankroll) (c : SyncCall) (realizedAfterUsd : Usd)
    (transition : Option SettlementTransition) :
    counters (settledMeta settings bankroll post (c.settlement realizedAfterUsd transition))
      = counters settings + c.tally := by
  by_cases hstatus : c.status = 1 <;>
    simp [counters, settledMeta, SyncCall.settlement, ReceiptSettlement.success, SyncCall.tally,
      hstatus]

theorem counters_serviceMeta (settings : TreasuryMeta) (bankroll : Option Bankroll) (next : Int)
    (c : SyncCall) (realizedAfterUsd : Usd) (transition : Option SettlementTransition) :
    counters (serviceMeta settings bankroll next (c.settlement realizedAfterUsd transition))
      = counters settings + c.tally := by
  unfold serviceMeta
  cases bankroll with
  | some b => exact counters_settledMeta settings (some b) _ c realizedAfterUsd transition
  | none =>
    by_cases hstatus : c.status = 1 <;>
      simp [counters, SyncCall.settlement, ReceiptSettlement.success, SyncCall.tally, hstatus]

theorem counters_assignMeta (now : Int) (bankroll : Option Bankroll) (t : Treasury S)
    (c : SyncCall) (realizedAfterUsd : Usd) (transition : Option SettlementTransition) :
    counters (assignMeta now bankroll (c.settlement realizedAfterUsd transition) t).settings
      = counters t.settings + c.tally :=
  counters_settledMeta t.settings bankroll _ c realizedAfterUsd transition

theorem tallySince_commit {rt rt' : ReceiptRuntime S M} {c : SyncCall} {realizedAfterUsd : Usd}
    (h : rt'.rows.receipts = rt.rows.receipts ++ [c.receiptTx realizedAfterUsd]) :
    tallySince rt rt' = if c.txHash ∈ receiptIds rt then 0 else c.tally := by
  rw [tallySince, committedSince_append h]
  simp only [firstRows]
  show ((if c.txHash ∈ receiptIds rt then _ else _ : List ReceiptTx).map tally).sum = _
  split
  · rfl
  · simp [tally, SyncCall.tally, SyncCall.receiptTx]

theorem tallySince_same {rt rt' : ReceiptRuntime S M}
    (h : rt'.rows.receipts = rt.rows.receipts) : tallySince rt rt' = 0 := by
  rw [tallySince, committedSince, h, List.drop_length]
  rfl

/-- The live objects after the commit of a call are those the capital write service leaves. -/
theorem commitSettlement_runtime (numbers : Numbers S M) (f : SyncFaults) (w : Wiring)
    (rt : ReceiptRuntime S M) (c : SyncCall) (realizedAfterUsd : Usd) (loan : LoanResult) :
    (commitSettlement numbers f w rt c realizedAfterUsd loan).1.toRuntime
      = (commitReceiptSettlement numbers.toStrategy (f.commitFaults w) c.clock.now rt.toRuntime
        (c.settlement realizedAfterUsd loan.transition)).1 := by
  simp only [commitSettlement]
  rcases commitReceiptSettlement numbers.toStrategy (f.commitFaults w) c.clock.now rt.toRuntime
    (c.settlement realizedAfterUsd loan.transition) with ⟨rt', result⟩
  cases result with
  | none => rfl
  | some result =>
    cases loan with
    | none => rfl
    | unprepared => rfl
    | settled => rfl
    | prepared transition =>
      simp only
      split <;> rfl

/-- What the commit counts too much: its receipt, unless `CommitCountsOnce`. -/
theorem commitSettlement_counted (numbers : Numbers S M) (f : SyncFaults) (w : Wiring)
    (rt₀ rt : ReceiptRuntime S M) (c : SyncCall) (realizedAfterUsd : Usd) :
    let loan := preparedLoan f rt₀ c realizedAfterUsd
    let a := c.settlement realizedAfterUsd loan.transition
    ∃ n : ℕ, Counted rt (commitSettlement numbers f w rt c realizedAfterUsd loan).1 (n • c.tally)
      ∧ (n = 0 ↔ raisesEarly (f.commitFaults w) rt.toRuntime a = true
        ∨ (selectFails (f.commitFaults w) rt.toRuntime
            || transactionFails (f.commitFaults w) rt.toRuntime a) = false
          ∧ c.txHash ∉ receiptIds rt) := by
  intro loan a
  have hcases := commitReceiptSettlement_cases numbers.toStrategy (f.commitFaults w) c.clock.now
    rt.toRuntime a (balanced_settlement rt.toRuntime f rt₀ c realizedAfterUsd)
  have hruntime := commitSettlement_runtime numbers f w rt c realizedAfterUsd loan
  rcases hout : commitReceiptSettlement numbers.toStrategy (f.commitFaults w) c.clock.now
    rt.toRuntime a with ⟨rt₁, result⟩
  rw [hout] at hcases
  rcases hafter : commitSettlement numbers f w rt c realizedAfterUsd loan with ⟨rt', settled⟩
  rw [hafter, hout] at hruntime
  have hlive : rt'.toRuntime = rt₁ := hruntime
  subst hlive
  simp only at hcases ⊢
  cases hearly : raisesEarly (f.commitFaults w) rt.toRuntime a with
  | true =>
    rw [hearly, if_pos rfl] at hcases
    have hsame : rt'.toRuntime = rt.toRuntime := congrArg Prod.fst hcases
    refine ⟨0, ⟨by rw [hsame], ?_⟩, by simp⟩
    rw [treasuryCounters, hsame, tallySince_same (by rw [hsame]), zero_nsmul, add_zero]
    cases h : treasuryCounters rt with
    | none => exact h
    | some n =>
      rw [Option.map_some, add_zero]
      exact h
  | false =>
    rw [hearly, if_neg Bool.false_ne_true] at hcases
    obtain ⟨hsettings, -, hcommit⟩ := hcases
    have hcounters : treasuryCounters rt' = (treasuryCounters rt).map (· + c.tally) := by
      have hmap := congrArg (Option.map counters) hsettings
      rw [Option.map_map, Option.map_map] at hmap
      rw [treasuryCounters, treasuryCounters, Option.map_map]
      refine hmap.trans (congrArg (rt.treasury.map ·) (funext fun t => ?_))
      exact counters_assignMeta c.clock.now rt.bankroll t c realizedAfterUsd loan.transition
    cases hfails : selectFails (f.commitFaults w) rt.toRuntime
        || transactionFails (f.commitFaults w) rt.toRuntime a with
    | true =>
      rw [hfails, if_pos rfl] at hcommit
      obtain ⟨-, hreceipts, -⟩ := hcommit
      refine ⟨1, ⟨by rw [hreceipts], ?_⟩, by simp⟩
      rw [hcounters, tallySince_same hreceipts, one_nsmul, zero_add]
    | false =>
      rw [hfails, if_neg Bool.false_ne_true] at hcommit
      obtain ⟨-, hreceipts, -⟩ := hcommit
      have hpre : rt.rows.receipts <+: rt'.rows.receipts :=
        ⟨[c.receiptTx realizedAfterUsd], hreceipts.symm⟩
      have htally : tallySince rt rt' = if c.txHash ∈ receiptIds rt then 0 else c.tally :=
        tallySince_commit hreceipts
      by_cases hseen : c.txHash ∈ receiptIds rt
      · refine ⟨1, ⟨hpre, ?_⟩, by simp [hseen]⟩
        rw [hcounters, htally, if_pos hseen, one_nsmul, zero_add]
      · refine ⟨0, ⟨hpre, ?_⟩, by simp [hseen]⟩
        rw [hcounters, htally, if_neg hseen, zero_nsmul, add_zero]

/-- The treasury section counts the receipt, unless it ends before. -/
theorem recordTreasury_counted (numbers : Numbers S M) (f : SyncFaults) (now : Int)
    (rt : ReceiptRuntime S M) (c : SyncCall) (realizedAfterUsd : Usd)
    (transition : Option SettlementTransition) :
    let out := recordTreasury numbers f now rt (c.settlement realizedAfterUsd transition)
    Counted rt out.1
      ((if rt.treasury.isSome && !f.readMeta && !sizingLeaves f rt then 1 else 0 : ℕ)
        • c.tally) := by
  intro out
  obtain ⟨hkeeps, hcases⟩ := recordTreasury_cases numbers f now rt
    (c.settlement realizedAfterUsd transition)
  refine ⟨by rw [hkeeps.receipts], ?_⟩
  rw [tallySince_same hkeeps.receipts, zero_add]
  cases htreasury : rt.treasury with
  | none =>
    rw [htreasury] at hcases
    have hsame : out = (rt, true) := hcases
    simp [hsame, treasuryCounters, htreasury]
  | some t =>
    rw [htreasury] at hcases
    simp only at hcases
    cases hread : f.readMeta with
    | true =>
      rw [hread, if_pos rfl] at hcases
      have hsame : out = (rt, f.treasuryHandled) := hcases
      simp [hsame, treasuryCounters, htreasury]
    | false =>
      rw [hread, if_neg Bool.false_ne_true] at hcases
      cases hleaves : sizingLeaves f rt with
      | true =>
        rw [hleaves, if_pos rfl] at hcases
        have hsame : out.1.treasury = some t := hcases.2
        simp [hsame, treasuryCounters, htreasury]
      | false =>
        rw [hleaves, if_neg Bool.false_ne_true] at hcases
        obtain ⟨next, t', hassigned, hsettings⟩ := hcases
        have hafter : out.1.treasury = some t' := hassigned
        have hcounters := counters_serviceMeta t.settings rt.bankroll next c
          realizedAfterUsd transition
        rw [← hsettings] at hcounters
        simp [hafter, treasuryCounters, htreasury, hcounters, one_nsmul]

/-- **What a call counts too much**: nothing exactly when it counts its receipt once. -/
theorem synchronize_counted (numbers : Numbers S M) {w : Wiring} (hwriter : w.hasWriter = true)
    (rt : ReceiptRuntime S M) (call : SyncFaults × SyncCall) :
    ∃ n : ℕ, Counted rt (synchronize numbers w call.1 rt call.2).1 (n • call.2.tally)
      ∧ (rt.treasury.isSome = true → (n = 0 ↔ CountedOnce w rt call)) := by
  rcases call with ⟨f, c⟩
  unfold CountedOnce
  simp only
  cases hentered : entered w f rt c with
  | none =>
    refine ⟨0, ?_, by simp⟩
    rw [zero_nsmul]
    rcases synchronize_of_not_entered numbers w f rt c hentered with ⟨hmarked, -⟩ | ⟨hsame, -⟩
    · rw [hmarked]
      exact ⟨(Counted.refl rt).rows, (Counted.refl rt).counters⟩
    · rw [hsame]
      exact .refl rt
  | some realizedAfterUsd =>
    obtain ⟨-, -, hsync⟩ := synchronize_of_entered numbers w f rt c hentered
    rw [hsync, settleReceipt_writer numbers hwriter]
    cases hescapes : hasLoan rt c && f.prepare == .escapes with
    | true => exact ⟨0, by rw [zero_nsmul]; exact .refl rt, by simp⟩
    | false =>
      simp only [Bool.false_eq_true, if_false, false_or]
      have hfirst := recordTreasury_counted numbers f c.clock.now rt c realizedAfterUsd
        (preparedLoan f rt c realizedAfterUsd).transition
      obtain ⟨-, hcases⟩ := recordTreasury_cases numbers f c.clock.now rt
        (c.settlement realizedAfterUsd (preparedLoan f rt c realizedAfterUsd).transition)
      rcases hout : recordTreasury numbers f c.clock.now rt
        (c.settlement realizedAfterUsd (preparedLoan f rt c realizedAfterUsd).transition)
        with ⟨rt', proceeds⟩
      rw [hout] at hfirst hcases
      simp only at hfirst hcases
      cases proceeds with
      | false =>
        refine ⟨_, hfirst, fun hsome => ?_⟩
        -- The section raised: before it counted, or after.
        obtain ⟨t, ht⟩ := Option.isSome_iff_exists.1 hsome
        rw [ht] at hcases
        simp only at hcases
        cases hread : f.readMeta with
        | true =>
          rw [hread, if_pos rfl, Prod.mk.injEq] at hcases
          simp [← hcases.2]
        | false =>
          cases hleaves : sizingLeaves f rt <;> simp [ht]
      | true =>
        obtain ⟨n, hsecond, hn⟩ := commitSettlement_counted numbers f w rt rt' c
          realizedAfterUsd
        have hboth := hfirst.trans hsecond
        rw [← add_nsmul] at hboth
        refine ⟨_, hboth, fun hsome => ?_⟩
        obtain ⟨t, ht⟩ := Option.isSome_iff_exists.1 hsome
        rw [ht] at hcases
        simp only at hcases
        cases hread : f.readMeta with
        | true =>
          rw [hread, if_pos rfl, Prod.mk.injEq] at hcases
          obtain ⟨rfl, hhandled⟩ := hcases
          rw [Nat.add_eq_zero_iff, hn]
          simp [← hhandled, CommitCountsOnce, ht]
        | false =>
          rw [hread, if_neg Bool.false_ne_true] at hcases
          cases hleaves : sizingLeaves f rt with
          | true =>
            rw [hleaves, if_pos rfl] at hcases
            cases hcases.1
          | false => simp [ht]

/-! ## Runs -/

def syncStep (numbers : Numbers S M) (w : Wiring) (rt : ReceiptRuntime S M)
    (call : SyncFaults × SyncCall) : ReceiptRuntime S M :=
  (synchronize numbers w call.1 rt call.2).1

theorem Counted.treasury {rt rt' : ReceiptRuntime S M} {extra : Counters}
    (h : Counted rt rt' extra) : rt'.treasury.isSome = rt.treasury.isSome := by
  have hsome := congrArg Option.isSome h.counters
  simpa [treasuryCounters] using hsome

/-- The turnover a call adds too much is the number of times it counts too often. -/
theorem turnover_nsmul_tally (n : ℕ) (c : SyncCall) : (n • c.tally).2.2 = n := by
  show n • (1 : Int) = n
  simp

/-- What a run counts too much shows in the turnover. -/
theorem run_counted (numbers : Numbers S M) {w : Wiring} (hwriter : w.hasWriter = true)
    (rt : ReceiptRuntime S M) (hsome : rt.treasury.isSome = true)
    (calls : List (SyncFaults × SyncCall)) :
    ∃ extra : Counters, Counted rt (run (syncStep numbers w) rt calls) extra
      ∧ 0 ≤ extra.2.2
      ∧ (AllSteps (syncStep numbers w) (CountedOnce w) rt calls → extra = 0)
      ∧ (extra.2.2 = 0 → AllSteps (syncStep numbers w) (CountedOnce w) rt calls) := by
  induction calls generalizing rt with
  | nil => exact ⟨0, .refl rt, le_refl _, fun _ => rfl, fun _ => trivial⟩
  | cons call calls ih =>
    obtain ⟨n, hcall, hn⟩ := synchronize_counted numbers hwriter rt call
    obtain ⟨extra, hrun, hnonneg, hzero, hturnover⟩ :=
      ih (syncStep numbers w rt call) (hcall.treasury.trans hsome)
    have hn := hn hsome
    have hfirst := turnover_nsmul_tally n call.2
    have hsum : (n • call.2.tally + extra).2.2 = n + extra.2.2 := by rw [← hfirst]; rfl
    refine ⟨n • call.2.tally + extra, hcall.trans hrun, ?_, ?_, ?_⟩
    · omega
    · rintro ⟨honce, hrest⟩
      rw [hn.2 honce, hzero hrest, zero_nsmul, add_zero]
    · intro hexact
      rw [hsum] at hexact
      exact ⟨hn.1 (by omega), hturnover (by omega)⟩

/-- **The counters of a run are right exactly when every call counts its receipt once.** -/
theorem counts_once_iff (numbers : Numbers S M) {w : Wiring} (hwriter : w.hasWriter = true)
    (rt : ReceiptRuntime S M) (calls : List (SyncFaults × SyncCall)) :
    CountsOnce rt (run (syncStep numbers w) rt calls)
      ↔ AllSteps (syncStep numbers w) (CountedOnce w) rt calls := by
  cases hsome : rt.treasury.isSome with
  | true =>
    obtain ⟨extra, hrun, -, hzero, hturnover⟩ := run_counted numbers hwriter rt hsome calls
    obtain ⟨n, hn⟩ : ∃ n, treasuryCounters rt = some n := by
      obtain ⟨t, ht⟩ := Option.isSome_iff_exists.1 hsome
      exact ⟨counters t.settings, by rw [treasuryCounters, ht, Option.map_some]⟩
    have hcounters := hrun.counters
    constructor
    · intro h
      rw [CountsOnce, hcounters, hn, Option.map_some, Option.map_some, Option.some.injEq,
        ← add_assoc, add_eq_left] at h
      exact hturnover (by rw [h]; rfl)
    · intro h
      rw [CountsOnce, hcounters, hzero h, add_zero]
  | false =>
    -- Without a treasury there is nothing to count.
    have hnone : rt.treasury = none := by simpa using hsome
    suffices h : ∀ calls (rt : ReceiptRuntime S M), rt.treasury = none →
        (run (syncStep numbers w) rt calls).treasury = none
          ∧ AllSteps (syncStep numbers w) (CountedOnce w) rt calls by
      obtain ⟨hafter, hall⟩ := h calls rt hnone
      constructor
      · exact fun _ => hall
      · intro _
        rw [CountsOnce, treasuryCounters, treasuryCounters, hafter, hnone]
        rfl
    intro calls
    induction calls with
    | nil => exact fun rt h => ⟨h, trivial⟩
    | cons call calls ih =>
      intro rt h
      obtain ⟨n, hcall, -⟩ := synchronize_counted numbers hwriter rt call
      have hnext : (syncStep numbers w rt call).treasury = none := by
        have htreasury := hcall.treasury
        rw [h] at htreasury
        simpa [syncStep] using htreasury
      obtain ⟨hafter, hall⟩ := ih _ hnext
      exact ⟨hafter, .inl (by rw [h]; rfl), hall⟩

/-! ## A receipt that is counted twice -/

def SyncFaults.none : SyncFaults where
  repoCheck := .ok
  fileCheck := .ok
  append := .ok
  persistInsert := .ok
  persistEvent := .ok
  prepare := .ok
  settle := .none
  settleHandled := true
  readMeta := false
  sizing := ⟨.ok, .ok, .ok, true⟩
  select := ⟨false, .ok, false⟩
  treasuryState := .ok
  treasuryEvent := .ok
  treasuryHandled := true
  commit := .none
  commitHandled := true
  publish := .ok

def fullWiring : Wiring := ⟨true, true, true⟩

def unitNumbers : Numbers Unit Unit := { unitStrategy with sizing := fun _ => 1000 }

def freshRuntime : ReceiptRuntime Unit Unit :=
  { smallRuntime with settledReceipts := [], settledLoans := [] }

/-- The receipt of a trade that earned two dollars without a loan. -/
def plainCall : SyncCall where
  txHash := "0x1"
  pending := ⟨[], [], [], [], "flash_arb", "flash_arb", "", ⟨"", "", false, false, 0⟩⟩
  decoded := ⟨.digits 2000000, .missing, 5⟩
  status := 1
  amountIn := 1000
  realizedAfter := 7
  submitToReceiptMs := 10
  routeId := "route-1"
  routeFamily := "flash_arb"
  strategyFamily := "flash_arb"
  captureLanePending := "private"
  outcomeTruthVerified := true
  outcomeTruthReasonCode := "ok"
  stamp := ⟨"tx_1", 1⟩
  clock := ⟨1, ⟨"tx_2", 1⟩, ⟨"tx_3", 1⟩, "loan-1"⟩

/-- One settlement in which nothing fails is counted twice. -/
theorem plainCall_counted_twice :
    ¬ CountsOnce freshRuntime
        (run (syncStep unitNumbers fullWiring) freshRuntime [(SyncFaults.none, plainCall)])
      ∧ treasuryCounters
          (run (syncStep unitNumbers fullWiring) freshRuntime [(SyncFaults.none, plainCall)])
        = some (10, 0, 2) := by
  unfold CountsOnce
  decide +kernel

/-- The metadata cannot be read at first, and the commit alone counts the receipt; a second
call finds the duplicate. -/
theorem counts_once_iff_readMeta :
    CountsOnce freshRuntime
      (run (syncStep unitNumbers fullWiring) freshRuntime
        [({ SyncFaults.none with readMeta := true }, plainCall), (SyncFaults.none, plainCall)]) := by
  refine (counts_once_iff unitNumbers (w := fullWiring) rfl freshRuntime _).2
    ⟨.inr ?_, .inr ?_, trivial⟩
  · have hentered : entered fullWiring { SyncFaults.none with readMeta := true } freshRuntime
        plainCall = some 2 := by
      decide +kernel
    simp only [hentered]
    exact .inr (.inr (.inr (by decide +kernel)))
  · have hentered : entered fullWiring SyncFaults.none
        (syncStep unitNumbers fullWiring freshRuntime
          ({ SyncFaults.none with readMeta := true }, plainCall)) plainCall = none := by
      decide +kernel
    simp only [hentered]

end SovereignCapital.Receipt
