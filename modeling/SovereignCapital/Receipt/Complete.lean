import SovereignCapital.Receipt.Counting

/-! # Complete settlements

A call that returns `ok` should have settled its receipt completely: one row in the repository,
and the loan of the pending record settled. The duplicate check looks for traces of the
receipt, and a call that fails half-way may have left one; the same call made again is then a
duplicate and `ok`. `ok_complete` names the calls that make this happen; without them every
`ok` is complete.
-/

namespace SovereignCapital.Receipt

open Decimal Prime Capital Runs

variable {S M : Type}

/-! ## Completeness -/

def rowsOf (rt : ReceiptRuntime S M) (receiptId : String) : ℕ :=
  (receiptIds rt).count receiptId

structure CompleteFor (w : Wiring) (rt : ReceiptRuntime S M) (receiptId loanId : String) :
    Prop where
  row : w.hasRepo = true → rowsOf rt receiptId = 1
  loan : rt.prime.isSome = true → loanId ≠ "" → loanId ∈ rt.settledLoans

/-- The receipt left a trace the duplicate check may find. -/
def Known (rt : ReceiptRuntime S M) (receiptId : String) : Prop :=
  receiptId ∈ rt.settledReceipts ∨ receiptId ∈ receiptIds rt
    ∨ receiptId ∈ rt.ledgerFile.map ReceiptTx.receiptId

/-- Every receipt that left a trace is settled completely. -/
def Consistent (w : Wiring) (loanOf : String → String) (rt : ReceiptRuntime S M) : Prop :=
  ∀ receiptId, Known rt receiptId → CompleteFor w rt receiptId (loanOf receiptId)

/-! ## The calls that complete what they begin -/

/-- The loan can be settled: it is active, its asset is tracked, and there is capacity. -/
def LoanAccepted (s : PrimeState) (loanId : String) : Prop :=
  s.stateReady = true ∧ ∃ loan, s.loans.get? loanId = some loan ∧ loan.active = true
    ∧ (loan.asset = "" ∨ s.inventory.contains loan.asset = true) ∧ 0 < s.capacityLimit none

def settleWrites (f : Prime.Faults) (asset : String) : Bool :=
  (asset == "" || f.inventorySave) && f.stateSave && f.ledger.insert == .ok
    && f.ledger.publish != .escapes && f.ledger.append && f.snapshot == .ok && f.event == .ok

def insertsRow (w : Wiring) (f : SyncFaults) (rt : ReceiptRuntime S M) (c : SyncCall)
    (realizedAfterUsd : Usd) : Bool :=
  if w.hasWriter then
    commitWrites w f rt
      (c.settlement realizedAfterUsd (preparedLoan f rt c realizedAfterUsd).transition)
      && !(hasLoan rt c && f.prepare == .escapes)
  else f.append == .ok && w.hasRepo && f.persistInsert == .ok

def leavesTrace (w : Wiring) (f : SyncFaults) (rt : ReceiptRuntime S M) (c : SyncCall)
    (realizedAfterUsd : Usd) : Bool :=
  if w.hasWriter then insertsRow w f rt c realizedAfterUsd else f.append == .ok

def SettlesLoan (w : Wiring) (f : SyncFaults) (rt : ReceiptRuntime S M) (c : SyncCall) : Prop :=
  ∀ s, rt.prime = some s →
    LoanAccepted s c.pending.loanId
      ∧ if w.hasWriter then f.prepare = .ok
        else
          (w.hasRepo = true → f.persistInsert = .ok ∧ f.persistEvent ≠ .escapes)
            ∧ ∀ loan, s.loans.get? c.pending.loanId = some loan →
              settleWrites f.settle loan.asset = true

/-- A call that enters completes what it begins: it inserts no second row; if it leaves a trace
the repository has the row and the loan is settled. -/
structure Completes (w : Wiring) (f : SyncFaults) (rt : ReceiptRuntime S M) (c : SyncCall)
    (realizedAfterUsd : Usd) : Prop where
  fresh : insertsRow w f rt c realizedAfterUsd = true → c.txHash ∉ receiptIds rt
  row : leavesTrace w f rt c realizedAfterUsd = true → w.hasRepo = true →
    insertsRow w f rt c realizedAfterUsd = true ∨ c.txHash ∈ receiptIds rt
  loan : leavesTrace w f rt c realizedAfterUsd = true → hasLoan rt c = true →
    c.pending.loanId ∈ rt.settledLoans ∨ SettlesLoan w f rt c

/-- The condition on a call: it names the loan of its receipt, and completes if it enters. -/
def SafeCall (w : Wiring) (loanOf : String → String) (rt : ReceiptRuntime S M)
    (call : SyncFaults × SyncCall) : Prop :=
  call.2.pending.loanId = loanOf call.2.txHash
    ∧ ∀ realizedAfterUsd, entered w call.1 rt call.2 = some realizedAfterUsd →
      Completes w call.1 rt call.2 realizedAfterUsd

/-! ## The loan stage -/

theorem prepareSettlement_ok {s : PrimeState} {loanId : String} (h : LoanAccepted s loanId)
    (realizedPnlUsd : Usd) (receiptId : String) (clock : Clock) :
    (prepareSettlementTransition s loanId realizedPnlUsd receiptId clock).ok = true := by
  obtain ⟨hready, loan, hloan, hactive, htracked, hcapacity⟩ := h
  have hsnapshot : (decide (loan.asset ≠ "") && !s.inventory.snapshot.contains loan.asset)
      = false := by
    rcases htracked with hempty | htracked
    · simp [hempty]
    · have hcontains : s.inventory.snapshot.contains loan.asset = true := by
        simpa [Inventory.snapshot, Dict.contains] using htracked
      simp [hcontains]
  unfold prepareSettlementTransition
  simp only [hready, hloan, hactive, hsnapshot, not_true, if_false, Bool.false_eq_true]
  rw [if_neg (not_le.2 hcapacity)]

theorem writeLedgerTransaction_ok {f : LedgerFaults} (hinsert : f.insert = .ok)
    (hpublish : f.publish ≠ .escapes) (happend : f.append = true) (store : Store)
    (tx : JournalTx) : (writeLedgerTransaction f store tx).2 = .ok := by
  simp [writeLedgerTransaction, hinsert, hpublish, happend]

theorem persistCommit_done {f : Prime.Faults} {asset : String}
    (h : settleWrites f asset = true) (w : World) (tx : JournalTx) (holds : Bool)
    (persistFailed journalFailed : PrimeReason) :
    (persistCommit f w tx holds persistFailed journalFailed).2 = .done tx := by
  simp only [settleWrites, Bool.and_eq_true, beq_iff_eq, bne_iff_ne] at h
  obtain ⟨⟨⟨⟨⟨⟨-, hstate⟩, hinsert⟩, hpublish⟩, happend⟩, hsnapshot⟩, hevent⟩ := h
  have hledger := writeLedgerTransaction_ok hinsert hpublish happend w.store tx
  rcases hwrite : writeLedgerTransaction f.ledger w.store tx with ⟨store, fault⟩
  rw [hwrite] at hledger
  have hfault : fault = .ok := hledger
  subst hfault
  simp [persistCommit, hstate, hwrite, recordStateSnapshot, hsnapshot, hevent]

/-- **A direct settlement of an accepted loan settles it** when no write fails. -/
theorem settle_settled {f : Prime.Faults} {w : World} {loanId : String}
    (haccepted : LoanAccepted w.prime loanId)
    (hwrites : ∀ loan, w.prime.loans.get? loanId = some loan → settleWrites f loan.asset = true)
    (clock : Clock) (realizedPnlUsd : Usd) :
    ∃ loan utilization tx,
      (settle f clock w loanId realizedPnlUsd).2 = .settled loan utilization tx := by
  obtain ⟨hready, loan, hloan, hactive, htracked, hcapacity⟩ := haccepted
  have hwrites := hwrites loan hloan
  have huntracked : (decide (loan.asset ≠ "") && !w.prime.inventory.contains loan.asset)
      = false := by
    rcases htracked with hempty | htracked <;> simp [*]
  have hsettle : settle f clock w loanId realizedPnlUsd
      = settleDirect f clock w loanId loan realizedPnlUsd := by
    simp only [settle, hready, hloan, hactive, huntracked]
    simp [not_le.2 hcapacity]
  have hcommit : (commitSettle f clock w loanId loan realizedPnlUsd).2
      = .done (settlementTransaction clock.tx (loan.settle clock.now) realizedPnlUsd "") := by
    unfold commitSettle
    by_cases hasset : loan.asset = ""
    · simp only [hasset, ne_eq, not_true, if_false]
      exact persistCommit_done hwrites _ _ _ _ _
    · have hsave : f.inventorySave = true := by
        simp only [settleWrites, Bool.and_eq_true, Bool.or_eq_true, beq_iff_eq] at hwrites
        exact hwrites.1.1.1.1.1.1.resolve_left hasset
      simp only [ne_eq, hasset, not_false_eq_true, if_true, hsave]
      exact persistCommit_done hwrites _ _ _ _ _
  rw [hsettle, settleDirect]
  rcases hresult : commitSettle f clock w loanId loan realizedPnlUsd with ⟨w', attempt⟩
  rw [hresult] at hcommit
  have hdone : attempt = _ := hcommit
  subst hdone
  exact ⟨_, _, _, rfl⟩

/-! ## What a call that enters writes -/

structure Wrote (w : Wiring) (f : SyncFaults) (rt : ReceiptRuntime S M) (c : SyncCall)
    (realizedAfterUsd : Usd) (out : ReceiptRuntime S M × SyncResult) : Prop where
  receipts : out.1.rows.receipts
    = rt.rows.receipts
      ++ if insertsRow w f rt c realizedAfterUsd then [c.receiptTx realizedAfterUsd] else []
  file : ∀ tx ∈ out.1.ledgerFile, tx ∈ rt.ledgerFile
    ∨ tx.receiptId = c.txHash ∧ leavesTrace w f rt c realizedAfterUsd = true
  prime : out.1.prime.isSome = rt.prime.isSome
  loans : rt.settledLoans ⊆ out.1.settledLoans
  loan : leavesTrace w f rt c realizedAfterUsd = true → hasLoan rt c = true →
    SettlesLoan w f rt c → c.pending.loanId ∈ out.1.settledLoans
  settled : ∀ id ∈ out.1.settledReceipts, id ∈ rt.settledReceipts
    ∨ id = c.txHash ∧ leavesTrace w f rt c realizedAfterUsd = true
  ok : out.2.ok = true → c.txHash ∈ out.1.settledReceipts

variable {w : Wiring} {f : SyncFaults} {c : SyncCall} {realizedAfterUsd : Usd}

/-- **A call that completes what it begins keeps every settlement complete.** -/
theorem Wrote.consistent {loanOf : String → String} {rt : ReceiptRuntime S M}
    {out : ReceiptRuntime S M × SyncResult} (h : Wrote w f rt c realizedAfterUsd out)
    (hstart : Consistent w loanOf rt) (hloan : c.pending.loanId = loanOf c.txHash)
    (hcompletes : Completes w f rt c realizedAfterUsd) : Consistent w loanOf out.1 := by
  have hids : receiptIds out.1 = receiptIds rt
      ++ if insertsRow w f rt c realizedAfterUsd then [c.txHash] else [] := by
    rw [receiptIds, h.receipts, List.map_append]
    split <;> rfl
  intro receiptId hknown
  by_cases hid : receiptId = c.txHash ∧ leavesTrace w f rt c realizedAfterUsd = true
  · -- The receipt of the call, which left a trace.
    obtain ⟨rfl, htrace⟩ := hid
    constructor
    · intro hrepo
      rw [rowsOf, hids, List.count_append]
      cases hinserts : insertsRow w f rt c realizedAfterUsd with
      | true =>
        have hzero : (receiptIds rt).count c.txHash = 0 :=
          List.count_eq_zero.2 (hcompletes.fresh hinserts)
        simp [hzero]
      | false =>
        have hrow := (hcompletes.row htrace hrepo).resolve_left (by simp [hinserts])
        have hone := (hstart c.txHash (.inr (.inl hrow))).row hrepo
        rw [rowsOf] at hone
        simp [hone]
    · intro hprime hnamed
      rw [h.prime] at hprime
      rw [← hloan] at hnamed ⊢
      have hhas : hasLoan rt c = true := by simp [hasLoan, hprime, hnamed]
      rcases hcompletes.loan htrace hhas with hbefore | hsettles
      · exact h.loans hbefore
      · exact h.loan htrace hhas hsettles
  · -- A receipt that had left its trace before.
    have hbefore : Known rt receiptId := by
      rcases hknown with hsettled | hrow | hfile
      · rcases h.settled receiptId hsettled with hold | hnew
        · exact .inl hold
        · exact absurd hnew hid
      · rw [hids, List.mem_append] at hrow
        rcases hrow with hold | hnew
        · exact .inr (.inl hold)
        · split at hnew
          · rename_i hinserts
            have htrace : leavesTrace w f rt c realizedAfterUsd = true := by
              unfold leavesTrace
              split
              · exact hinserts
              · rename_i hwriter
                simp only [insertsRow, hwriter, Bool.false_eq_true, if_false, Bool.and_eq_true]
                  at hinserts
                exact hinserts.1.1
            exact absurd ⟨List.mem_singleton.1 hnew, htrace⟩ hid
          · cases hnew
      · obtain ⟨tx, htx, rfl⟩ := List.mem_map.1 hfile
        rcases h.file tx htx with hold | hnew
        · exact .inr (.inr (List.mem_map_of_mem hold))
        · exact absurd hnew hid
    obtain ⟨hrow, hloans⟩ := hstart receiptId hbefore
    constructor
    · intro hrepo
      have hone := hrow hrepo
      rw [rowsOf] at hone ⊢
      rw [hids, List.count_append, hone]
      cases hinserts : insertsRow w f rt c realizedAfterUsd with
      | false => simp
      | true =>
        have hne : receiptId ≠ c.txHash := by
          rintro rfl
          refine hid ⟨rfl, ?_⟩
          have hpresent : c.txHash ∈ receiptIds rt := by
            rw [← List.count_pos_iff, hone]
            exact Nat.one_pos
          exact absurd hpresent (hcompletes.fresh hinserts)
        simp [hne.symm]
    · intro hprime hnamed
      exact h.loans (hloans (h.prime ▸ hprime) hnamed)

/-! ## The call with a capital write service -/

/-- A commit that returns: the receipt is marked settled unless the loan was not. -/
theorem commitSettlement_returns (numbers : Numbers S M) (f : SyncFaults) (w : Wiring)
    {rt : ReceiptRuntime S M} {loan : LoanResult} {rt₁ : Runtime S M} {result : CommitResult S}
    (h : commitReceiptSettlement numbers.toStrategy (f.commitFaults w) c.clock.now rt.toRuntime
      (c.settlement realizedAfterUsd loan.transition) = (rt₁, some result)) :
    let out := commitSettlement numbers f w rt c realizedAfterUsd loan
    out.1.toRuntime = rt₁ ∧ rt.settledLoans ⊆ out.1.settledLoans
      ∧ (∀ id ∈ out.1.settledReceipts, id ∈ rt.settledReceipts ∨ id = c.txHash)
      ∧ (out.2.ok = true → c.txHash ∈ out.1.settledReceipts)
      ∧ (∀ transition, loan = .prepared transition → transition.ok = true →
        c.pending.loanId ∈ out.1.settledLoans) := by
  intro out
  simp only [out, commitSettlement, h]
  have hmarked : ∀ id ∈ rt.settledReceipts.insert c.txHash,
      id ∈ rt.settledReceipts ∨ id = c.txHash := by
    intro id hid
    exact (List.mem_insert_iff.1 hid).symm
  cases loan with
  | none =>
    exact ⟨rfl, fun _ h => h, hmarked, fun _ => List.mem_insert_self, fun _ h => by cases h⟩
  | settled =>
    exact ⟨rfl, fun _ h => h, hmarked, fun _ => List.mem_insert_self, fun _ h => by cases h⟩
  | unprepared =>
    exact ⟨rfl, fun _ h => h, fun _ h => .inl h, (by intro h; cases h), fun _ h => by cases h⟩
  | prepared transition =>
    cases hok : transition.ok with
    | true =>
      simp only [hok, if_true]
      refine ⟨rfl, List.subset_append_left _ _, hmarked, fun _ => List.mem_insert_self, ?_⟩
      exact fun _ _ _ => List.mem_append_right _ (List.mem_singleton_self _)
    | false =>
      simp only [hok, Bool.false_eq_true, if_false]
      refine ⟨trivial, fun _ h => h, fun _ h => .inl h, (by intro h; cases h), ?_⟩
      intro transition' heq hok'
      cases heq
      rw [hok] at hok'
      cases hok'

theorem commitSettlement_raises (numbers : Numbers S M) (f : SyncFaults) (w : Wiring)
    {rt : ReceiptRuntime S M} {loan : LoanResult} {rt₁ : Runtime S M}
    (h : commitReceiptSettlement numbers.toStrategy (f.commitFaults w) c.clock.now rt.toRuntime
      (c.settlement realizedAfterUsd loan.transition) = (rt₁, none)) :
    (commitSettlement numbers f w rt c realizedAfterUsd loan).1 = { rt with toRuntime := rt₁ }
      ∧ (commitSettlement numbers f w rt c realizedAfterUsd loan).2.ok = false := by
  simp only [commitSettlement, h]
  refine ⟨trivial, ?_⟩
  split <;> rfl

theorem Wrote.of_nothing {rt : ReceiptRuntime S M} {out : ReceiptRuntime S M × SyncResult}
    (hreceipts : out.1.rows.receipts = rt.rows.receipts) (hfile : out.1.ledgerFile = rt.ledgerFile)
    (hprime : out.1.prime.isSome = rt.prime.isSome)
    (hsettled : out.1.settledReceipts = rt.settledReceipts)
    (hloans : out.1.settledLoans = rt.settledLoans)
    (hinserts : insertsRow w f rt c realizedAfterUsd = false)
    (htrace : leavesTrace w f rt c realizedAfterUsd = false) (hfailed : out.2.ok = false) :
    Wrote w f rt c realizedAfterUsd out where
  receipts := by simp [hreceipts, hinserts]
  file := fun tx htx => .inl (hfile ▸ htx)
  prime := hprime
  loans := by rw [hloans]; exact fun _ h => h
  loan := by simp [htrace]
  settled := fun id hid => .inl (hsettled ▸ hid)
  ok := by simp [hfailed]

theorem Wrote.of_keeps {rt : ReceiptRuntime S M} {out : ReceiptRuntime S M × SyncResult}
    (h : Keeps rt out.1) (hinserts : insertsRow w f rt c realizedAfterUsd = false)
    (htrace : leavesTrace w f rt c realizedAfterUsd = false) (hfailed : out.2.ok = false) :
    Wrote w f rt c realizedAfterUsd out :=
  .of_nothing h.receipts h.ledgerFile h.prime h.settledReceipts h.settledLoans hinserts htrace
    hfailed

theorem preparedLoan_of_settles {w : Wiring} (hwriter : w.hasWriter = true) {f : SyncFaults}
    {rt : ReceiptRuntime S M} {c : SyncCall} (hhas : hasLoan rt c = true)
    (hsettles : SettlesLoan w f rt c) (realizedAfterUsd : Usd) :
    ∃ transition, preparedLoan f rt c realizedAfterUsd = .prepared transition
      ∧ transition.ok = true := by
  simp only [hasLoan, Bool.and_eq_true, bne_iff_ne] at hhas
  obtain ⟨hprime, hnamed⟩ := hhas
  obtain ⟨s, hs⟩ := Option.isSome_iff_exists.1 hprime
  obtain ⟨haccepted, hprepare⟩ := hsettles s hs
  rw [if_pos hwriter] at hprepare
  refine ⟨prepareSettlementTransition s c.pending.loanId
    (pyRound 6 (c.netRealizedUsd realizedAfterUsd)) c.txHash c.clock, ?_,
    prepareSettlement_ok haccepted _ _ _⟩
  rw [preparedLoan, hs]
  simp only [if_neg hnamed, if_pos hprepare]

theorem commitSettlement_wrote (numbers : Numbers S M) (hwriter : w.hasWriter = true)
    {rt rt' : ReceiptRuntime S M} (hkeeps : Keeps rt rt')
    (hescapes : (hasLoan rt c && f.prepare == .escapes) = false)
    (hraises : treasuryRaises f rt = false) :
    Wrote w f rt c realizedAfterUsd
      (commitSettlement numbers f w rt' c realizedAfterUsd
        (preparedLoan f rt c realizedAfterUsd)) := by
  have htrace : leavesTrace w f rt c realizedAfterUsd = insertsRow w f rt c realizedAfterUsd := by
    rw [leavesTrace, if_pos hwriter]
  have hbalanced := balanced_settlement rt'.toRuntime f rt c realizedAfterUsd
  have hloan := fun hhas hsettles =>
    @preparedLoan_of_settles _ _ w hwriter f rt c hhas hsettles realizedAfterUsd
  obtain ⟨hearly, hselect, htransaction⟩ := hkeeps.commit (f.commitFaults w)
    (c.settlement realizedAfterUsd (preparedLoan f rt c realizedAfterUsd).transition)
  have hinserts : insertsRow w f rt c realizedAfterUsd
      = commitWrites w f rt
        (c.settlement realizedAfterUsd (preparedLoan f rt c realizedAfterUsd).transition) := by
    rw [insertsRow, if_pos hwriter, hescapes, Bool.not_false, Bool.and_true]
  rw [commitWrites, hraises, ← hearly, ← hselect, ← htransaction, Bool.not_false,
    Bool.true_and] at hinserts
  generalize preparedLoan f rt c realizedAfterUsd = loan at *
  have hcases := commitReceiptSettlement_cases numbers.toStrategy (f.commitFaults w) c.clock.now
    rt'.toRuntime (c.settlement realizedAfterUsd loan.transition) hbalanced
  rcases hcommit : commitReceiptSettlement numbers.toStrategy (f.commitFaults w) c.clock.now
    rt'.toRuntime (c.settlement realizedAfterUsd loan.transition) with ⟨rt₁, result⟩
  rw [hcommit] at hcases
  simp only at hcases
  cases hraisesEarly : raisesEarly (f.commitFaults w) rt'.toRuntime
      (c.settlement realizedAfterUsd loan.transition) with
  | true =>
    rw [hraisesEarly, if_pos rfl, Prod.mk.injEq] at hcases
    obtain ⟨rfl, rfl⟩ := hcases
    rw [hraisesEarly] at hinserts
    obtain ⟨hsame, hfailed⟩ := commitSettlement_raises numbers f w hcommit
    exact .of_keeps (by rw [hsame]; exact hkeeps) hinserts (htrace.trans hinserts) hfailed
  | false =>
    rw [hraisesEarly, if_neg Bool.false_ne_true] at hcases
    rw [hraisesEarly, Bool.not_false, Bool.true_and] at hinserts
    obtain ⟨-, hprime, hcases⟩ := hcases
    cases hfails : selectFails (f.commitFaults w) rt'.toRuntime
        || transactionFails (f.commitFaults w) rt'.toRuntime
          (c.settlement realizedAfterUsd loan.transition) with
    | true =>
      rw [hfails, if_pos rfl] at hcases
      rw [hfails, Bool.not_true] at hinserts
      obtain ⟨rfl, hreceipts, hfile⟩ := hcases
      obtain ⟨hsame, hfailed⟩ := commitSettlement_raises numbers f w hcommit
      refine .of_nothing ?_ ?_ ?_ ?_ ?_ hinserts (htrace.trans hinserts) hfailed
      · rw [hsame]
        exact hreceipts.trans hkeeps.receipts
      · rw [hsame]
        exact hfile.trans hkeeps.ledgerFile
      · rw [hsame]
        exact hprime.trans hkeeps.prime
      · rw [hsame]
        exact hkeeps.settledReceipts
      · rw [hsame]
        exact hkeeps.settledLoans
    | false =>
      rw [hfails, if_neg Bool.false_ne_true] at hcases
      rw [hfails, Bool.not_false] at hinserts
      obtain ⟨hsome, hreceipts, hfile⟩ := hcases
      obtain ⟨value, rfl⟩ := Option.isSome_iff_exists.1 hsome
      obtain ⟨hruntime, hloans, hsettled, hok, hprepared⟩ :=
        commitSettlement_returns numbers f w hcommit
      have htraced := htrace.trans hinserts
      constructor
      · rw [hruntime, hreceipts, hkeeps.receipts, if_pos hinserts]
        rfl
      · intro tx htx
        rw [hruntime, hfile, hkeeps.ledgerFile, List.mem_append] at htx
        rcases htx with hold | hnew
        · exact .inl hold
        · split at hnew
          · rw [List.mem_singleton.1 hnew]
            exact .inr ⟨rfl, htraced⟩
          · cases hnew
      · rw [hruntime]
        exact hprime.trans hkeeps.prime
      · rw [← hkeeps.settledLoans]
        exact hloans
      · intro _ hhas hsettles
        obtain ⟨transition, hprepare, htransition⟩ := hloan hhas hsettles
        exact hprepared transition hprepare htransition
      · intro id hid
        rcases hsettled id hid with hold | hnew
        · exact .inl (hkeeps.settledReceipts ▸ hold)
        · exact .inr ⟨hnew, htraced⟩
      · exact hok

/-- **What a call with a capital write service leaves.** -/
theorem settleReceipt_wrote (numbers : Numbers S M) (hwriter : w.hasWriter = true) (f : SyncFaults)
    (rt : ReceiptRuntime S M) (c : SyncCall) (realizedAfterUsd : Usd) :
    Wrote w f rt c realizedAfterUsd (settleReceipt numbers w f rt c realizedAfterUsd) := by
  have htrace : leavesTrace w f rt c realizedAfterUsd = insertsRow w f rt c realizedAfterUsd := by
    rw [leavesTrace, if_pos hwriter]
  have hinserts : insertsRow w f rt c realizedAfterUsd
      = (commitWrites w f rt
          (c.settlement realizedAfterUsd (preparedLoan f rt c realizedAfterUsd).transition)
        && !(hasLoan rt c && f.prepare == .escapes)) := by
    rw [insertsRow, if_pos hwriter]
  rw [settleReceipt_writer numbers hwriter]
  cases hescapes : hasLoan rt c && f.prepare == .escapes with
  | true =>
    rw [hescapes, Bool.not_true, Bool.and_false] at hinserts
    exact .of_keeps (.refl rt) hinserts (htrace.trans hinserts) rfl
  | false =>
    simp only [Bool.false_eq_true, if_false]
    have hproceeds := recordTreasury_proceeds numbers f c.clock.now rt
      (c.settlement realizedAfterUsd (preparedLoan f rt c realizedAfterUsd).transition)
    obtain ⟨hkeeps, -⟩ := recordTreasury_cases numbers f c.clock.now rt
      (c.settlement realizedAfterUsd (preparedLoan f rt c realizedAfterUsd).transition)
    rcases hout : recordTreasury numbers f c.clock.now rt
      (c.settlement realizedAfterUsd (preparedLoan f rt c realizedAfterUsd).transition)
      with ⟨rt', proceeds⟩
    rw [hout] at hproceeds hkeeps
    have hflag : proceeds = !treasuryRaises f rt := hproceeds
    subst hflag
    cases hraises : treasuryRaises f rt with
    | true =>
      have hnone : insertsRow w f rt c realizedAfterUsd = false := by
        rw [hinserts, commitWrites, hraises]
        rfl
      exact .of_keeps hkeeps hnone (htrace.trans hnone) rfl
    | false => exact commitSettlement_wrote numbers hwriter hkeeps hescapes hraises

/-! ## The call without a capital write service -/

/-- The direct writes: the ledger file, then the repository. -/
theorem appendDirect_cases (w : Wiring) (f : SyncFaults) (rt : ReceiptRuntime S M)
    (tx : ReceiptTx) :
    let out := appendDirect w f rt tx
    out.1.rows.receipts = rt.rows.receipts
        ++ (if f.append == .ok && w.hasRepo && f.persistInsert == .ok then [tx] else [])
      ∧ out.1.ledgerFile = rt.ledgerFile ++ (if f.append == .ok then [tx] else [])
      ∧ out.1.prime = rt.prime ∧ out.1.settledReceipts = rt.settledReceipts
      ∧ out.1.settledLoans = rt.settledLoans
      ∧ (out.2 = .ok ↔ f.append = .ok
        ∧ (w.hasRepo = true → f.persistInsert = .ok ∧ f.persistEvent ≠ .escapes)) := by
  intro out
  simp only [out, appendDirect]
  cases f.append with
  | caught => simp
  | escapes => simp
  | ok =>
    cases w.hasRepo with
    | false => simp
    | true =>
      cases f.persistInsert with
      | caught => simp
      | escapes => simp
      | ok => cases f.persistEvent <;> simp [addReceipt, addEvent]

/-- The direct settlement of the loan: it touches neither receipts nor marks, and a loan that
can be settled is. -/
theorem settleLoan_direct (hwriter : w.hasWriter = false) (f : SyncFaults) (rt : ReceiptRuntime S M)
    (c : SyncCall) (realizedAfterUsd : Usd) : let out := settleLoan w f rt c realizedAfterUsd
    out.1.rows.receipts = rt.rows.receipts ∧ out.1.ledgerFile = rt.ledgerFile
      ∧ out.1.prime.isSome = rt.prime.isSome ∧ out.1.settledReceipts = rt.settledReceipts
      ∧ rt.settledLoans ⊆ out.1.settledLoans
      ∧ (∀ result, out.2 = .error result → result.ok = false)
      ∧ (hasLoan rt c = true → SettlesLoan w f rt c →
        c.pending.loanId ∈ out.1.settledLoans) := by
  intro out
  simp only [out, settleLoan, hwriter, Bool.false_eq_true, if_false]
  cases hprime : rt.prime with
  | none =>
    refine ⟨rfl, rfl, by rw [hprime], rfl, fun _ h => h, (by intro _ h; cases h), ?_⟩
    simp [hasLoan, hprime]
  | some s =>
    simp only
    split
    · rename_i hnamed
      refine ⟨rfl, rfl, by rw [hprime], rfl, fun _ h => h, (by intro _ h; cases h), ?_⟩
      simp [hasLoan, hnamed]
    · have hsettled := fun hsettles : SettlesLoan w f rt c =>
        @settle_settled f.settle (primeWorld rt s) c.pending.loanId
          (hsettles s hprime).1
          (by
            have hdirect := (hsettles s hprime).2
            rw [if_neg (by simp [hwriter])] at hdirect
            exact hdirect.2)
          c.clock (pyRound 6 (c.netRealizedUsd realizedAfterUsd))
      -- Only `settled` goes on.
      rcases hresult : settle f.settle c.clock (primeWorld rt s) c.pending.loanId
        (pyRound 6 (c.netRealizedUsd realizedAfterUsd)) with ⟨world, result⟩
      rw [hresult] at hsettled
      cases result with
      | settled loan utilization tx =>
        refine ⟨rfl, rfl, rfl, rfl, List.subset_append_left _ _, (by intro _ h; cases h), ?_⟩
        exact fun _ _ => List.mem_append_right _ (List.mem_singleton_self _)
      | disputed loan tx =>
        refine ⟨rfl, rfl, rfl, rfl, fun _ h => h, (by rintro _ ⟨⟩; rfl), fun _ hsettles => ?_⟩
        obtain ⟨_, _, _, h⟩ := hsettled hsettles
        cases h
      | rejected reason audit =>
        refine ⟨rfl, rfl, rfl, rfl, fun _ h => h, (by rintro _ ⟨⟩; rfl), fun _ hsettles => ?_⟩
        obtain ⟨_, _, _, h⟩ := hsettled hsettles
        cases h
      | failed reason =>
        refine ⟨rfl, rfl, rfl, rfl, fun _ h => h, (by rintro _ ⟨⟩; rfl), fun _ hsettles => ?_⟩
        obtain ⟨_, _, _, h⟩ := hsettled hsettles
        cases h
      | raised =>
        refine ⟨rfl, rfl, rfl, rfl, fun _ h => h, ?_, fun _ hsettles => ?_⟩
        · rintro _ ⟨⟩
          split <;> rfl
        · obtain ⟨_, _, _, h⟩ := hsettled hsettles
          cases h

theorem publishReceipt_cases (f : SyncFaults) (rt : ReceiptRuntime S M) (c : SyncCall)
    (a : ReceiptSettlement) :
    let out := publishReceipt f rt c a
    out.1.rows.receipts = rt.rows.receipts ∧ out.1.ledgerFile = rt.ledgerFile
      ∧ out.1.prime = rt.prime ∧ out.1.settledLoans = rt.settledLoans
      ∧ (∀ id ∈ out.1.settledReceipts, id ∈ rt.settledReceipts ∨ id = c.txHash)
      ∧ (out.2.ok = true → c.txHash ∈ out.1.settledReceipts) := by
  intro out
  simp only [out, publishReceipt]
  have hmarked : ∀ id ∈ rt.settledReceipts.insert c.txHash,
      id ∈ rt.settledReceipts ∨ id = c.txHash :=
    fun id hid => (List.mem_insert_iff.1 hid).symm
  cases f.publish with
  | ok => exact ⟨rfl, rfl, rfl, rfl, hmarked, fun _ => List.mem_insert_self⟩
  | caught => exact ⟨rfl, rfl, rfl, rfl, hmarked, fun _ => List.mem_insert_self⟩
  | escapes => exact ⟨rfl, rfl, rfl, rfl, fun _ h => .inl h, (by intro h; cases h)⟩

/-- **What a call without a capital write service leaves.** -/
theorem settleReceipt_direct_wrote (numbers : Numbers S M) (hwriter : w.hasWriter = false)
    (f : SyncFaults) (rt : ReceiptRuntime S M) (c : SyncCall) (realizedAfterUsd : Usd) :
    Wrote w f rt c realizedAfterUsd (settleReceipt numbers w f rt c realizedAfterUsd) := by
  have hinserts : insertsRow w f rt c realizedAfterUsd
      = (f.append == .ok && w.hasRepo && f.persistInsert == .ok) := by
    rw [insertsRow, hwriter, if_neg Bool.false_ne_true]
  have htrace : leavesTrace w f rt c realizedAfterUsd = (f.append == .ok) := by
    rw [leavesTrace, hwriter, if_neg Bool.false_ne_true]
  have hrecord : recordReceipt w f rt (c.receiptTx realizedAfterUsd)
      = appendDirect w f rt (c.receiptTx realizedAfterUsd) := by
    rw [recordReceipt, validLines_receiptTx, hwriter, if_neg (by simp),
      if_neg Bool.false_ne_true]
  obtain ⟨hreceipts, hfile, hprime, hsettled, hloans, hok⟩ :=
    appendDirect_cases w f rt (c.receiptTx realizedAfterUsd)
  rw [← hinserts] at hreceipts
  have hfile' : ∀ tx ∈ (appendDirect w f rt (c.receiptTx realizedAfterUsd)).1.ledgerFile,
      tx ∈ rt.ledgerFile
        ∨ tx.receiptId = c.txHash ∧ leavesTrace w f rt c realizedAfterUsd = true := by
    intro tx htx
    rw [hfile, List.mem_append] at htx
    rcases htx with hold | hnew
    · exact .inl hold
    · split at hnew
      · rename_i happend
        rw [List.mem_singleton.1 hnew]
        exact .inr ⟨rfl, htrace.trans happend⟩
      · cases hnew
  unfold settleReceipt
  rw [hrecord]
  rcases happend : appendDirect w f rt (c.receiptTx realizedAfterUsd) with ⟨rt₁, fault⟩
  rw [happend] at hreceipts hprime hsettled hloans hok hfile'
  simp only at hreceipts hprime hsettled hloans hok hfile'
  -- When the direct writes fail the loan is not settled, and the call is not one that does.
  have hstopped : fault ≠ .ok → ∀ result : SyncResult, result.ok = false →
      Wrote w f rt c realizedAfterUsd (rt₁, result) := by
    intro hfault result hfailed
    refine ⟨hreceipts, hfile', by rw [hprime], by rw [hloans]; exact fun _ h => h, ?_,
      fun id hid => .inl (hsettled ▸ hid), by simp [hfailed]⟩
    intro happended hhas hsettles
    rw [htrace, beq_iff_eq] at happended
    simp only [hasLoan, Bool.and_eq_true] at hhas
    obtain ⟨s, hs⟩ := Option.isSome_iff_exists.1 hhas.1
    have hdirect := (hsettles s hs).2
    rw [if_neg (by simp [hwriter])] at hdirect
    exact absurd (hok.2 ⟨happended, hdirect.1⟩) hfault
  cases fault with
  | caught => exact hstopped (by simp) _ rfl
  | escapes => exact hstopped (by simp) _ rfl
  | ok =>
    have htraced : leavesTrace w f rt c realizedAfterUsd = true := by
      rw [htrace, (hok.1 rfl).1]
      rfl
    obtain ⟨hreceipts₂, hfile₂, hprime₂, hsettled₂, hloans₂, hfailed₂, hloan₂⟩ :=
      settleLoan_direct hwriter f rt₁ c realizedAfterUsd
    have hhas : hasLoan rt₁ c = hasLoan rt c := by rw [hasLoan, hasLoan, hprime]
    have hsettles : SettlesLoan w f rt₁ c ↔ SettlesLoan w f rt c := by
      rw [SettlesLoan, SettlesLoan, hprime]
    rw [hhas, hsettles] at hloan₂
    simp only
    rcases hsettle : settleLoan w f rt₁ c realizedAfterUsd with ⟨rt₂, outcome⟩
    rw [hsettle] at hreceipts₂ hfile₂ hprime₂ hsettled₂ hloans₂ hfailed₂ hloan₂
    simp only at hreceipts₂ hfile₂ hprime₂ hsettled₂ hloans₂ hfailed₂ hloan₂
    have hbase : ∀ out : ReceiptRuntime S M × SyncResult,
        out.1.rows.receipts = rt₂.rows.receipts → out.1.ledgerFile = rt₂.ledgerFile →
        out.1.prime.isSome = rt₂.prime.isSome → out.1.settledLoans = rt₂.settledLoans →
        (∀ id ∈ out.1.settledReceipts, id ∈ rt₂.settledReceipts ∨ id = c.txHash) →
        (out.2.ok = true → c.txHash ∈ out.1.settledReceipts) →
        Wrote w f rt c realizedAfterUsd out := by
      intro out h₁ h₂ h₃ h₄ h₅ h₆
      refine ⟨?_, ?_, ?_, ?_, ?_, ?_, h₆⟩
      · rw [h₁, hreceipts₂, hreceipts]
      · rw [h₂, hfile₂]
        exact hfile'
      · rw [h₃, hprime₂, hprime]
      · rw [h₄, ← hloans]
        exact hloans₂
      · rw [h₄]
        exact fun _ => hloan₂
      · intro id hid
        rcases h₅ id hid with hold | hnew
        · exact .inl (by rwa [hsettled₂, hsettled] at hold)
        · exact .inr ⟨hnew, htraced⟩
    cases outcome with
    | error result =>
      exact hbase _ rfl rfl rfl rfl (fun _ h => .inl h) (by simp [hfailed₂ result rfl])
    | ok loan =>
      simp only
      obtain ⟨hkeeps, -⟩ := recordTreasury_cases numbers f c.clock.now rt₂
        (c.settlement realizedAfterUsd loan.transition)
      rcases htreasury : recordTreasury numbers f c.clock.now rt₂
        (c.settlement realizedAfterUsd loan.transition) with ⟨rt₃, proceeds⟩
      rw [htreasury] at hkeeps
      cases proceeds with
      | false =>
        exact hbase _ hkeeps.receipts hkeeps.ledgerFile hkeeps.prime hkeeps.settledLoans
          (fun id hid => .inl (hkeeps.settledReceipts ▸ hid)) (by intro h; cases h)
      | true =>
        simp only [hwriter, Bool.false_eq_true, if_false]
        obtain ⟨h₁, h₂, h₃, h₄, h₅, h₆⟩ := publishReceipt_cases f rt₃ c
          (c.settlement realizedAfterUsd loan.transition)
        refine hbase _ (h₁.trans hkeeps.receipts) (h₂.trans hkeeps.ledgerFile)
          (by rw [h₃]; exact hkeeps.prime) (h₄.trans hkeeps.settledLoans) ?_ h₆
        intro id hid
        rcases h₅ id hid with hold | hnew
        · exact .inl (hkeeps.settledReceipts ▸ hold)
        · exact .inr hnew

/-! ## Runs -/

/-- The duplicate check finds only receipts that left a trace. -/
theorem known_of_duplicate {rt : ReceiptRuntime S M} {receiptId : String}
    (h : duplicateReceipt w f rt receiptId = some true) : Known rt receiptId := by
  unfold duplicateReceipt at h
  split at h
  · rename_i hsettled
    exact .inl hsettled
  · have hledger : ledgerHasReceipt w f.fileCheck rt receiptId = some true → Known rt receiptId := by
      intro hfound
      unfold ledgerHasReceipt at hfound
      split at hfound
      · cases hfound
      · cases hcheck : f.fileCheck <;> rw [hcheck] at hfound <;>
          simp only [Option.some.injEq, reduceCtorEq, Bool.false_eq_true, List.any_eq_true,
            beq_iff_eq] at hfound
        obtain ⟨tx, htx, hid⟩ := hfound
        exact .inr (.inr (List.mem_map.2 ⟨tx, htx, hid⟩))
    split at h
    · exact hledger h
    · unfold repoHasReceipt at h
      split at h
      · cases h
      · cases hcheck : f.repoCheck <;> rw [hcheck] at h <;>
          simp only [Option.some.injEq, reduceCtorEq, Bool.false_eq_true, Bool.and_eq_true,
            List.any_eq_true, beq_iff_eq] at h
        obtain ⟨-, tx, htx, hid⟩ := h
        exact .inr (.inl (List.mem_map.2 ⟨tx, htx, hid⟩))

/-- **A safe call** keeps every settlement complete, and its receipt left a trace if it is
`ok`. -/
theorem synchronize_consistent (numbers : Numbers S M) {loanOf : String → String}
    {rt : ReceiptRuntime S M} {call : SyncFaults × SyncCall} (hstart : Consistent w loanOf rt)
    (hsafe : SafeCall w loanOf rt call) : let out := synchronize numbers w call.1 rt call.2
    Consistent w loanOf out.1 ∧ (out.2.ok = true → Known out.1 call.2.txHash) := by
  intro out
  rcases call with ⟨f, c⟩
  obtain ⟨hloan, hcompletes⟩ := hsafe
  simp only at hloan hcompletes
  cases hentered : entered w f rt c with
  | none =>
    rcases synchronize_of_not_entered numbers w f rt c hentered with
      ⟨hmarked, hduplicate⟩ | ⟨hsame, hfailed⟩
    · have hknown := known_of_duplicate hduplicate
      have hout : out = (rt.markSettled c.txHash, .duplicate) := hmarked
      rw [hout]
      refine ⟨fun receiptId hid => ?_, fun _ => .inl List.mem_insert_self⟩
      have hbefore : Known rt receiptId := by
        rcases hid with hsettled | hrest
        · rcases List.mem_insert_iff.1 hsettled with rfl | hold
          · exact hknown
          · exact .inl hold
        · exact .inr hrest
      exact ⟨(hstart receiptId hbefore).row, (hstart receiptId hbefore).loan⟩
    · have hout : out.1 = rt := hsame
      have hnot : out.2.ok = false := hfailed
      rw [hout]
      exact ⟨hstart, by simp [hnot]⟩
  | some realizedAfterUsd =>
    have hout : out = settleReceipt numbers w f rt c realizedAfterUsd :=
      (synchronize_of_entered numbers w f rt c hentered).2.2
    have hwrote : Wrote w f rt c realizedAfterUsd out := by
      rw [hout]
      cases hwriter : w.hasWriter with
      | true => exact settleReceipt_wrote numbers hwriter f rt c realizedAfterUsd
      | false => exact settleReceipt_direct_wrote numbers hwriter f rt c realizedAfterUsd
    exact ⟨hwrote.consistent hstart hloan (hcompletes realizedAfterUsd hentered),
      fun hok => .inl (hwrote.ok hok)⟩

/-- **In a run of safe calls every `ok` is a complete settlement.** -/
theorem ok_complete (numbers : Numbers S M) (w : Wiring) (loanOf : String → String)
    (rt : ReceiptRuntime S M) (hstart : Consistent w loanOf rt)
    (before after : List (SyncFaults × SyncCall)) (call : SyncFaults × SyncCall)
    (hsafe : AllSteps (syncStep numbers w) (SafeCall w loanOf) rt (before ++ call :: after))
    (hok : (synchronize numbers w call.1 (run (syncStep numbers w) rt before) call.2).2.ok = true) :
    CompleteFor w (synchronize numbers w call.1 (run (syncStep numbers w) rt before) call.2).1
      call.2.txHash call.2.pending.loanId := by
  have hreached : Consistent w loanOf (run (syncStep numbers w) rt before) :=
    @run_invariant _ _ _ _ (Consistent w loanOf)
      (fun _ _ h hsafe => (synchronize_consistent numbers h hsafe).1) _ hstart _ hsafe.of_append.1
  have hcall := hsafe.call
  obtain ⟨hafter, htrace⟩ := synchronize_consistent numbers hreached hcall
  rw [hcall.1]
  exact hafter _ (htrace hok)

def directWiring : Wiring := ⟨true, true, false⟩

/-- The receipt of a trade with a loan the prime does not know. -/
def loanCall : SyncCall :=
  { plainCall with pending := { plainCall.pending with loanIds := ["", "loan-9"] } }

/-- The insertion into the repository raises an exception the service handles. -/
def insertRaises : SyncFaults := { SyncFaults.none with persistInsert := .caught }

/-- The first call of each pair fails, and the second is `ok`: with a capital write service the
receipt is committed although its loan was rejected, and without one the ledger file has a
receipt the repository never got. -/
theorem retry_ok_incomplete :
    (let rt := run (syncStep unitNumbers fullWiring) freshRuntime [(SyncFaults.none, loanCall)]
      let out := synchronize unitNumbers fullWiring SyncFaults.none rt loanCall
      out.2.ok = true ∧ ¬ CompleteFor fullWiring out.1 loanCall.txHash loanCall.pending.loanId)
    ∧ (let rt := run (syncStep unitNumbers directWiring) freshRuntime [(insertRaises, plainCall)]
      let out := synchronize unitNumbers directWiring SyncFaults.none rt plainCall
      out.2.ok = true
        ∧ ¬ CompleteFor directWiring out.1 plainCall.txHash plainCall.pending.loanId) := by
  constructor
  · refine ⟨by decide +kernel, fun h => ?_⟩
    exact absurd (h.loan (by decide +kernel) (by decide +kernel)) (by decide +kernel)
  · refine ⟨by decide +kernel, fun h => ?_⟩
    exact absurd (h.row rfl) (by decide +kernel)

def commitRaises : SyncFaults :=
  { SyncFaults.none with commit := { CommitFaults.none with ledgerInsert := true } }

/-- The commit of the first call fails, and the second call settles the receipt. -/
theorem ok_complete_retried :
    CompleteFor fullWiring
      (synchronize unitNumbers fullWiring SyncFaults.none
        (run (syncStep unitNumbers fullWiring) freshRuntime [(commitRaises, plainCall)])
        plainCall).1
      plainCall.txHash plainCall.pending.loanId := by
  refine ok_complete unitNumbers fullWiring (fun _ => "") freshRuntime ?_
    [(commitRaises, plainCall)] [] (SyncFaults.none, plainCall)
    ⟨⟨by decide +kernel, ?_⟩, ⟨by decide +kernel, ?_⟩, trivial⟩ (by decide +kernel)
  · intro receiptId hknown
    simp [Known, freshRuntime, smallRuntime, receiptIds] at hknown
  · intro realizedAfterUsd hentered
    have hvalue : entered fullWiring commitRaises freshRuntime plainCall = some 2 := by
      decide +kernel
    cases hvalue.symm.trans hentered
    -- Nothing is written, so nothing has to be completed.
    have hinserts : insertsRow fullWiring commitRaises freshRuntime plainCall 2 = false := by
      decide +kernel
    have htrace : leavesTrace fullWiring commitRaises freshRuntime plainCall 2 = false := by
      decide +kernel
    constructor
    · exact fun h => absurd (hinserts.symm.trans h) Bool.false_ne_true
    · exact fun h => absurd (htrace.symm.trans h) Bool.false_ne_true
    · exact fun h => absurd (htrace.symm.trans h) Bool.false_ne_true
  · intro realizedAfterUsd _
    exact ⟨fun _ => by decide +kernel, fun htrace _ => .inl htrace,
      fun _ hhas => absurd hhas (by decide +kernel)⟩

end SovereignCapital.Receipt
