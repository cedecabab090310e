import SovereignCapital.Capital.Atomicity
import SovereignCapital.Receipt.Sync

/-! # The stages of a settlement

What each stage of `synchronize` changes. Only the ledger stage and the commit write the
receipt, only the loan stage and the commit settle a loan, and only the treasury section and
the commit assign the metadata of the treasury.
-/

namespace SovereignCapital.Receipt

open Decimal Prime Capital

variable {S M : Type}

/-! ## The lines of a receipt transaction -/

theorem validLines_receiptTx (c : SyncCall) (realizedAfterUsd : Usd) :
    validLines (c.receiptTx realizedAfterUsd).lines = true := by
  have hsum : ((c.receiptTx realizedAfterUsd).lines.map LedgerLine.amount).sum = 0 := by
    simp [SyncCall.receiptTx, pyRound_neg]
  unfold validLines
  rw [hsum]
  simp [SyncCall.receiptTx]

theorem validLines_prepareSettlement (s : PrimeState) (loanId : String) (realizedPnlUsd : Usd)
    (receiptId : String) (clock : Clock) :
    validLines (prepareSettlementTransition s loanId realizedPnlUsd receiptId clock).journalTx.lines
      = true := by
  unfold prepareSettlementTransition
  dsimp only
  split
  · exact validLines_auditLines _ _ _
  · split
    · exact validLines_auditLines _ _ _
    · split
      · exact validLines_auditLines _ _ _
      · split
        · exact validLines_auditLines _ _ _
        · split
          · exact validLines_auditLines _ _ _
          · exact validLines_primeJournalLines _ _

/-! ## What the stages keep -/

/-- The receipts, the ledger file and the histories are as they were, and so is which live
objects there are. -/
structure Keeps (rt rt' : ReceiptRuntime S M) : Prop where
  receipts : rt'.rows.receipts = rt.rows.receipts
  ledgerFile : rt'.ledgerFile = rt.ledgerFile
  prime : rt'.prime.isSome = rt.prime.isSome
  bankroll : rt'.bankroll.isSome = rt.bankroll.isSome
  enabled : rt'.treasury.map Treasury.enabled = rt.treasury.map Treasury.enabled
  settledReceipts : rt'.settledReceipts = rt.settledReceipts
  settledLoans : rt'.settledLoans = rt.settledLoans

theorem Keeps.refl (rt : ReceiptRuntime S M) : Keeps rt rt := ⟨rfl, rfl, rfl, rfl, rfl, rfl, rfl⟩

theorem Keeps.trans {rt rt₁ rt₂ : ReceiptRuntime S M} (h : Keeps rt rt₁) (h' : Keeps rt₁ rt₂) :
    Keeps rt rt₂ :=
  ⟨h'.receipts.trans h.receipts, h'.ledgerFile.trans h.ledgerFile, h'.prime.trans h.prime,
    h'.bankroll.trans h.bankroll, h'.enabled.trans h.enabled,
    h'.settledReceipts.trans h.settledReceipts, h'.settledLoans.trans h.settledLoans⟩

theorem preSelectStrategy_receipts (strategy : Strategy S M) (f : SelectFaults) (t : Treasury S)
    (post : PostBankroll) (rows : Rows S M) :
    (preSelectStrategy strategy f t post rows).1.receipts = rows.receipts := by
  unfold preSelectStrategy
  split
  · rfl
  · split
    · rfl
    · cases f.metrics <;> rfl

/-- An exception of `next_amount_in` leaves the service. -/
def SizingFaults.leaves (f : SizingFaults) (b : Bankroll) : Bool :=
  decide (0 < b.cfg.baseBorrowAmountWei)
    && (f.compute == .escapes
      || (f.compute == .ok && (f.history == .escapes || f.event == .escapes) && !f.handled))

theorem nextAmountIn_result (numbers : Numbers S M) (f : SizingFaults) (now : Int)
    (rt : ReceiptRuntime S M) (b : Bankroll) :
    (nextAmountIn numbers f now rt b).2.isNone = f.leaves b := by
  unfold nextAmountIn SizingFaults.leaves
  dsimp only
  by_cases hbase : b.cfg.baseBorrowAmountWei ≤ 0
  · rw [if_pos hbase]
    simp [not_lt.2 hbase]
  · rw [if_neg hbase]
    have hpos : 0 < b.cfg.baseBorrowAmountWei := not_le.1 hbase
    cases f.compute with
    | caught => simp
    | escapes => simp [hpos]
    | ok => cases f.history <;> cases f.event <;> cases f.handled <;> simp [hpos]

/-- Recommending an amount writes rows of the bankroll and the live state. -/
theorem nextAmountIn_keeps (numbers : Numbers S M) (f : SizingFaults) (now : Int)
    (rt : ReceiptRuntime S M) {b : Bankroll} (hbankroll : rt.bankroll = some b) :
    Keeps rt (nextAmountIn numbers f now rt b).1
      ∧ (nextAmountIn numbers f now rt b).1.treasury = rt.treasury := by
  unfold nextAmountIn
  dsimp only
  split
  · exact ⟨.refl rt, rfl⟩
  · cases f.compute with
    | caught => exact ⟨.refl rt, rfl⟩
    | escapes => exact ⟨.refl rt, rfl⟩
    | ok =>
      have hsome : (some (recommend b now (numbers.sizing b))).isSome = rt.bankroll.isSome := by
        rw [hbankroll]
        rfl
      cases f.history <;> cases f.event <;> exact ⟨⟨rfl, rfl, rfl, hsome, rfl, rfl, rfl⟩, rfl⟩

theorem persistSnapshot_keeps (f : SyncFaults) (rt : ReceiptRuntime S M) {t : Treasury S}
    (htreasury : rt.treasury = some t) (snapshot : TreasurySnapshot S) :
    Keeps rt (persistSnapshot f rt t snapshot).1
      ∧ (persistSnapshot f rt t snapshot).1.treasury = some { t with last := some snapshot } := by
  unfold persistSnapshot
  dsimp only
  have henabled : (some { t with last := some snapshot }).map Treasury.enabled
      = rt.treasury.map Treasury.enabled := by
    rw [htreasury]
    rfl
  cases f.treasuryState <;> cases f.treasuryEvent <;>
    exact ⟨⟨rfl, rfl, rfl, rfl, henabled, rfl, rfl⟩, rfl⟩

/-! ## The treasury section -/

/-- An exception of the recommendation leaves the service. -/
def sizingLeaves (f : SyncFaults) (rt : ReceiptRuntime S M) : Bool :=
  match rt.bankroll with
  | none => false
  | some b => f.sizing.leaves b

theorem nextAmount_keeps (numbers : Numbers S M) (f : SizingFaults) (now : Int)
    (rt : ReceiptRuntime S M) :
    Keeps rt (nextAmount numbers f now rt).1
      ∧ (nextAmount numbers f now rt).1.treasury = rt.treasury := by
  unfold nextAmount
  cases hbankroll : rt.bankroll with
  | none => exact ⟨.refl rt, rfl⟩
  | some b => exact nextAmountIn_keeps numbers f now rt hbankroll

theorem nextAmount_result (numbers : Numbers S M) (f : SyncFaults) (now : Int)
    (rt : ReceiptRuntime S M) :
    (nextAmount numbers f.sizing now rt).2.isNone = sizingLeaves f rt := by
  unfold nextAmount sizingLeaves
  cases rt.bankroll with
  | none => rfl
  | some b => exact nextAmountIn_result numbers f.sizing now rt b

/-- **The treasury section**: there is no treasury, or it raises before the assignment, or the
metadata is assigned. -/
theorem recordTreasury_cases (numbers : Numbers S M) (f : SyncFaults) (now : Int)
    (rt : ReceiptRuntime S M) (a : ReceiptSettlement) :
    let out := recordTreasury numbers f now rt a
    Keeps rt out.1
      ∧ match rt.treasury with
        | none => out = (rt, true)
        | some t =>
          if f.readMeta then out = (rt, f.treasuryHandled)
          else if sizingLeaves f rt then out.2 = false ∧ out.1.treasury = some t
          else ∃ next t', out.1.treasury = some t'
            ∧ t'.settings = serviceMeta t.settings rt.bankroll next a := by
  intro out
  simp only [out, recordTreasury]
  cases htreasury : rt.treasury with
  | none => exact ⟨.refl rt, rfl⟩
  | some t =>
    cases f.readMeta with
    | true => exact ⟨.refl rt, rfl⟩
    | false =>
      obtain ⟨hkeeps, hsame⟩ := nextAmount_keeps numbers f.sizing now rt
      have hnext := nextAmount_result numbers f now rt
      rcases hsized : nextAmount numbers f.sizing now rt with ⟨rt', next⟩
      rw [hsized] at hkeeps hsame hnext
      simp only [Bool.false_eq_true, if_false, ← hnext]
      cases next with
      | none => exact ⟨hkeeps, rfl, hsame.trans htreasury⟩
      | some next =>
        simp only [Option.isNone_some, Bool.false_eq_true, if_false]
        have hassigned : ∀ rows : Rows S M, rows.receipts = rt'.rows.receipts → Keeps rt'
            { rt' with
              treasury := some
                { t with settings := serviceMeta t.settings rt.bankroll next a }
              rows := rows } :=
          fun rows hrows => ⟨hrows, rfl, rfl, rfl, by rw [hsame, htreasury]; rfl, rfl, rfl⟩
        split
        · rename_i rows hselect
          have hreceipts := congrArg (fun p => p.1.receipts) hselect
          rw [preSelectStrategy_receipts] at hreceipts
          exact ⟨hkeeps.trans (hassigned rows hreceipts.symm), next, _, rfl, rfl⟩
        · rename_i rows s hselect
          have hreceipts := congrArg (fun p => p.1.receipts) hselect
          rw [preSelectStrategy_receipts] at hreceipts
          obtain ⟨hpersist, hlast⟩ := persistSnapshot_keeps f
            (t := { t with settings := serviceMeta t.settings rt.bankroll next a })
            { rt' with
              treasury := some
                { t with settings := serviceMeta t.settings rt.bankroll next a }
              rows := rows } rfl ⟨s, none⟩
          exact ⟨(hkeeps.trans (hassigned rows hreceipts.symm)).trans hpersist, next, _,
            hlast, rfl⟩

/-- The treasury section raises past the handler of the service. -/
def treasuryRaises (f : SyncFaults) (rt : ReceiptRuntime S M) : Bool :=
  match rt.treasury with
  | none => false
  | some t =>
    if f.readMeta then !f.treasuryHandled
    else
      sizingLeaves f rt
        || ((t.enabled && f.select.fails) || f.treasuryState == .escapes
            || f.treasuryEvent == .escapes) && !f.treasuryHandled

theorem recordTreasury_proceeds (numbers : Numbers S M) (f : SyncFaults) (now : Int)
    (rt : ReceiptRuntime S M) (a : ReceiptSettlement) :
    (recordTreasury numbers f now rt a).2 = !treasuryRaises f rt := by
  unfold recordTreasury treasuryRaises
  cases rt.treasury with
  | none => rfl
  | some t =>
    cases f.readMeta with
    | true => simp
    | false =>
      have hnext := nextAmount_result numbers f now rt
      rcases hsized : nextAmount numbers f.sizing now rt with ⟨rt', next⟩
      rw [hsized] at hnext
      simp only [Bool.false_eq_true, if_false, ← hnext]
      cases next with
      | none => rfl
      | some next =>
        have hselect := preSelectStrategy_result numbers.toStrategy f.select
          { t with settings := serviceMeta t.settings rt.bankroll next a }
          (postBankroll rt'.bankroll none a) rt'.rows
        simp only [Option.isNone_some, Bool.false_or]
        rcases hresult : preSelectStrategy numbers.toStrategy f.select
          { t with settings := serviceMeta t.settings rt.bankroll next a }
          (postBankroll rt'.bankroll none a) rt'.rows with ⟨rows, result⟩
        rw [hresult] at hselect
        cases hfails : t.enabled && f.select.fails with
        | true =>
          rw [hfails, if_pos rfl] at hselect
          cases hselect
          simp
        | false =>
          rw [hfails, if_neg Bool.false_ne_true] at hselect
          cases hselect
          simp only [persistSnapshot]
          cases f.treasuryState <;> cases f.treasuryEvent <;> simp

/-! ## The way of a call -/

/-- The value the call settles with, once it is past the duplicate check and the guards. -/
def entered (w : Wiring) (f : SyncFaults) (rt : ReceiptRuntime S M) (c : SyncCall) : Option Usd :=
  if duplicateReceipt w f rt c.txHash = some false ∧ w.hasLedger = true
      ∧ c.outcomeTruthVerified = true then
    c.decoded.realizedAfterUsd c.status
  else none

def hasLoan (rt : ReceiptRuntime S M) (c : SyncCall) : Bool :=
  rt.prime.isSome && c.pending.loanId != ""

def preparedLoan (f : SyncFaults) (rt : ReceiptRuntime S M) (c : SyncCall)
    (realizedAfterUsd : Usd) : LoanResult :=
  match rt.prime with
  | none => .none
  | some s =>
    if c.pending.loanId = "" then .none
    else if f.prepare = .ok then
      .prepared (prepareSettlementTransition s c.pending.loanId
        (pyRound 6 (c.netRealizedUsd realizedAfterUsd)) c.txHash c.clock)
    else .unprepared

/-- A call that does not enter writes nothing; at most the receipt is marked settled. -/
theorem synchronize_of_not_entered (numbers : Numbers S M) (w : Wiring) (f : SyncFaults)
    (rt : ReceiptRuntime S M) (c : SyncCall) (h : entered w f rt c = none) :
    synchronize numbers w f rt c = (rt.markSettled c.txHash, .duplicate)
        ∧ duplicateReceipt w f rt c.txHash = some true
      ∨ (synchronize numbers w f rt c).1 = rt ∧ (synchronize numbers w f rt c).2.ok = false := by
  unfold entered at h
  unfold synchronize
  cases hduplicate : duplicateReceipt w f rt c.txHash with
  | none => exact .inr ⟨rfl, rfl⟩
  | some found =>
    cases found with
    | true => exact .inl ⟨rfl, rfl⟩
    | false =>
      cases hledger : w.hasLedger with
      | false => exact .inr ⟨rfl, rfl⟩
      | true =>
        cases hverified : c.outcomeTruthVerified with
        | false => exact .inr ⟨rfl, rfl⟩
        | true =>
          rw [if_pos ⟨hduplicate, hledger, hverified⟩] at h
          simp only [h]
          exact .inr ⟨rfl, rfl⟩

theorem synchronize_of_entered (numbers : Numbers S M) (w : Wiring) (f : SyncFaults)
    (rt : ReceiptRuntime S M) (c : SyncCall) {realizedAfterUsd : Usd}
    (h : entered w f rt c = some realizedAfterUsd) :
    duplicateReceipt w f rt c.txHash = some false ∧ c.outcomeTruthVerified = true
      ∧ synchronize numbers w f rt c = settleReceipt numbers w f rt c realizedAfterUsd := by
  unfold entered at h
  split at h
  · rename_i hentered
    obtain ⟨hduplicate, hledger, hverified⟩ := hentered
    refine ⟨hduplicate, hverified, ?_⟩
    unfold synchronize
    simp only [hduplicate, hledger, hverified, h, not_true, if_false]
  · cases h

theorem settleReceipt_writer (numbers : Numbers S M) {w : Wiring} (hwriter : w.hasWriter = true)
    (f : SyncFaults) (rt : ReceiptRuntime S M) (c : SyncCall) (realizedAfterUsd : Usd) :
    settleReceipt numbers w f rt c realizedAfterUsd
      = if hasLoan rt c && f.prepare == .escapes then (rt, .raised)
        else
          match recordTreasury numbers f c.clock.now rt
              (c.settlement realizedAfterUsd
                (preparedLoan f rt c realizedAfterUsd).transition) with
          | (rt', false) => (rt', .raised)
          | (rt', true) =>
            commitSettlement numbers f w rt' c realizedAfterUsd
              (preparedLoan f rt c realizedAfterUsd) := by
  unfold settleReceipt recordReceipt settleLoan preparedLoan hasLoan
  simp only [validLines_receiptTx, hwriter, not_true, if_false, if_true]
  cases rt.prime with
  | none => rfl
  | some s =>
    by_cases hloan : c.pending.loanId = ""
    · simp only [hloan]
      rfl
    · simp only [if_neg hloan, Option.isSome_some, Bool.true_and, bne_iff_ne.2 hloan]
      cases f.prepare <;> rfl

theorem balanced_settlement (rt' : Runtime S M) (f : SyncFaults) (rt : ReceiptRuntime S M)
    (c : SyncCall) (realizedAfterUsd : Usd) :
    unbalanced rt' (c.settlement realizedAfterUsd
      (preparedLoan f rt c realizedAfterUsd).transition) = false := by
  have htx : validLines (c.settlement realizedAfterUsd
      (preparedLoan f rt c realizedAfterUsd).transition).tx.lines = true :=
    validLines_receiptTx c realizedAfterUsd
  unfold unbalanced
  rw [htx]
  unfold preparedLoan
  cases rt.prime with
  | none => simp [ReceiptSettlement.primeJournalTx, SyncCall.settlement, LoanResult.transition]
  | some s =>
    dsimp only
    split
    · simp [ReceiptSettlement.primeJournalTx, SyncCall.settlement, LoanResult.transition]
    · split
      · simp [ReceiptSettlement.primeJournalTx, SyncCall.settlement, LoanResult.transition,
          validLines_prepareSettlement]
      · simp [ReceiptSettlement.primeJournalTx, SyncCall.settlement, LoanResult.transition]

/-! ## Whether the commit writes -/

/-- The commit writes its rows: the treasury section lets it, and nothing raises before the
transaction is committed. -/
def commitWrites (w : Wiring) (f : SyncFaults) (rt : ReceiptRuntime S M) (a : ReceiptSettlement) :
    Bool :=
  !treasuryRaises f rt && !raisesEarly (f.commitFaults w) rt.toRuntime a
    && !(selectFails (f.commitFaults w) rt.toRuntime
      || transactionFails (f.commitFaults w) rt.toRuntime a)

theorem Keeps.commit {rt rt' : ReceiptRuntime S M} (h : Keeps rt rt') (f : CommitFaults)
    (a : ReceiptSettlement) :
    raisesEarly f rt'.toRuntime a = raisesEarly f rt.toRuntime a
      ∧ selectFails f rt'.toRuntime = selectFails f rt.toRuntime
      ∧ transactionFails f rt'.toRuntime a = transactionFails f rt.toRuntime a := by
  have htreasury : rt'.treasury.isSome = rt.treasury.isSome := by
    simpa using congrArg Option.isSome h.enabled
  refine ⟨by simp only [raisesEarly, h.bankroll, htreasury], ?_,
    by simp only [transactionFails, h.bankroll, h.prime, htreasury]⟩
  unfold selectFails
  have henabled := h.enabled
  cases ht : rt.treasury with
  | none =>
    rw [ht, Option.isSome_none] at htreasury
    rw [Option.isSome_eq_false_iff.1 htreasury |> Option.isNone_iff_eq_none.1]
  | some t =>
    rw [ht, Option.isSome_some] at htreasury
    obtain ⟨t', ht'⟩ := Option.isSome_iff_exists.1 htreasury
    rw [ht, ht', Option.map_some, Option.map_some, Option.some.injEq] at henabled
    simp only [ht', henabled]

end SovereignCapital.Receipt
