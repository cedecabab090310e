import SovereignCapital.Prime.State

/-! # The prime journal

The transactions the allocator writes, the stores they go to and how a write can fail. A
transaction goes to a database row and to a ledger file; when the file cannot be written the
row is deleted again. A snapshot goes to a database row and then to an event.
-/

namespace SovereignCapital.Prime

open Decimal

/-! ## Transactions -/

structure LedgerLine where
  account : String
  asset : String
  amount : Usd
  family : String
  note : String
deriving DecidableEq

/-- `tx_type` of a prime transaction. -/
inductive PrimeTxType where
  | loanOpen
  | loanSettlement
  | loanSettlementRejected
  | loanDisputed
  | loanRejected
deriving DecidableEq

structure LoanMetadata where
  loanId : String
  family : String
  asset : String
  notionalUsd : Usd
  borrowCostUsd : Usd
  collateralReservedUsd : Usd
  collateralRatio : ℚ
  collateralHaircutPct : ℚ
  collateralEfficiency : ℚ
  status : Option LoanStatus
  openedTsMs : Int
  settledTsMs : Int
  disputedTsMs : Int
  disputeReasonCode : Option PrimeReason
  realizedPnlUsd : Usd
  reasonCode : Option PrimeReason
deriving DecidableEq

structure DecisionMetadata where
  requestId : String
  family : String
  asset : String
  capitalSource : String
  notionalUsd : Usd
  horizonMinutes : ℚ
  confidence : ℚ
  approved : Bool
  reasonCode : PrimeReason
  borrowCostBps : ℚ
  requiresOperatorReview : Bool
  inventoryTracked : Bool
  inventoryAvailableUsd : Usd
  requiredCollateralUsd : Usd
  primeCapacityUsd : Usd
  capacityRemainingUsd : Usd
  familyCapUsd : Usd
  projectedFamilyExposureUsd : Usd
deriving DecidableEq

inductive JournalMetadata where
  | loan (m : LoanMetadata)
  | decision (m : DecisionMetadata)
deriving DecidableEq

structure JournalTx where
  transactionId : String
  tsMs : Int
  txType : PrimeTxType
  receiptId : String
  lines : List LedgerLine
  metadata : JournalMetadata
deriving DecidableEq

/-- The id and the time `build_transaction` draws. -/
structure Stamp where
  txId : String
  tsMs : Int

/-! ## Builders -/

def primeJournalLines (loan : Loan) (opened : Bool) : List LedgerLine :=
  let notional := loan.notionalUsd
  let collateralReserved := loan.reserved
  let asset := if loan.asset = "" then "USD" else loan.asset
  let note := if opened then "prime_loan_open" else "prime_loan_settlement"
  let delta := pyRound 8 (collateralReserved - notional)
  [⟨"internal_prime:borrowed_usd", "USD", if opened then notional else -notional, loan.family, note⟩,
   ⟨"internal_prime:inventory_reserved:" ++ asset, asset,
      if opened then -collateralReserved else collateralReserved, loan.family, note⟩]
    ++ if 1 / 10 ^ 9 < |delta| then
        [⟨"internal_prime:collateral_buffer", "", if opened then delta else -delta, loan.family,
          note⟩]
      else []

/-- The two lines without an amount of a transaction that only leaves a trace. -/
def auditLines (account family note : String) : List LedgerLine :=
  [⟨account, "", 0, family, note⟩, ⟨"equity:offset", "", 0, family, note⟩]

/-- `LedgerTransaction.validate`. -/
def validLines (lines : List LedgerLine) : Bool :=
  decide (|pyRound 8 (lines.map LedgerLine.amount).sum| ≤ 1 / 10 ^ 6) && !lines.isEmpty

/-- The metadata the lifecycle transactions share. -/
def loanMetadata (loan : Loan) (realizedPnlUsd : Usd) (reasonCode : Option PrimeReason) :
    LoanMetadata where
  loanId := loan.loanId
  family := loan.family
  asset := loan.asset
  notionalUsd := loan.notionalUsd
  borrowCostUsd := loan.borrowCostUsd
  collateralReservedUsd := loan.reserved
  collateralRatio := pyOr loan.collateralRatio 1
  collateralHaircutPct := loan.collateralHaircutPct
  collateralEfficiency := pyOr loan.collateralEfficiency 1
  status := some loan.status
  openedTsMs := loan.openedTsMs
  settledTsMs := loan.settledTsMs
  disputedTsMs := loan.disputedTsMs
  disputeReasonCode := loan.disputeReasonCode
  realizedPnlUsd := realizedPnlUsd
  reasonCode := reasonCode

def missingLoanMetadata (loanId : String) (realizedPnlUsd : Usd) (reasonCode : PrimeReason) :
    LoanMetadata where
  loanId := loanId
  family := ""
  asset := ""
  notionalUsd := 0
  borrowCostUsd := 0
  collateralReservedUsd := 0
  collateralRatio := 1
  collateralHaircutPct := 0
  collateralEfficiency := 1
  status := none
  openedTsMs := 0
  settledTsMs := 0
  disputedTsMs := 0
  disputeReasonCode := none
  realizedPnlUsd := realizedPnlUsd
  reasonCode := some reasonCode

/-- `_build_prime_lifecycle_transaction` for an opened loan. -/
def openTransaction (stamp : Stamp) (loan : Loan) : JournalTx :=
  ⟨stamp.txId, stamp.tsMs, .loanOpen, "", primeJournalLines loan true,
    .loan (loanMetadata loan 0 none)⟩

/-- `_build_prime_lifecycle_transaction` for a settled loan. -/
def settlementTransaction (stamp : Stamp) (loan : Loan) (realizedPnlUsd : Usd)
    (receiptId : String) : JournalTx :=
  ⟨stamp.txId, stamp.tsMs, .loanSettlement, receiptId, primeJournalLines loan false,
    .loan (loanMetadata loan realizedPnlUsd none)⟩

/-- `_build_prime_settlement_rejection_transaction`. -/
def settlementRejectionTransaction (stamp : Stamp) (loanId : String) (loan : Option Loan)
    (reason : PrimeReason) (realizedPnlUsd : Usd) (receiptId : String) : JournalTx :=
  ⟨stamp.txId, stamp.tsMs, .loanSettlementRejected, receiptId,
    auditLines "internal_prime:settlement_audit" ((loan.map Loan.family).getD "")
      ("prime_loan_settlement_rejected:" ++ reason.code),
    .loan (match loan with
      | none => missingLoanMetadata loanId realizedPnlUsd reason
      | some loan =>
        { loanMetadata loan realizedPnlUsd (some reason) with
          loanId := if loanId = "" then loan.loanId else loanId })⟩

/-- `_build_prime_dispute_transaction`. -/
def disputeTransaction (stamp : Stamp) (loan : Loan) (reason : PrimeReason) (receiptId : String) :
    JournalTx :=
  ⟨stamp.txId, stamp.tsMs, .loanDisputed, receiptId,
    auditLines "internal_prime:lifecycle_audit" loan.family ("prime_loan_disputed:" ++ reason.code),
    .loan { loanMetadata loan 0 (some reason) with
      disputeReasonCode := some (loan.disputeReasonCode.getD reason) }⟩

/-! ## Stores -/

/-- The durable stores: the rows of the journal, the ledger file, the rows of the state
history. -/
structure Store where
  journal : List JournalTx
  ledgerFile : List JournalTx
  snapshots : List StatePayload

/-- How a database write ends. `caught` is an exception of the tuple the allocator handles,
`escapes` any other, such as an error of the database driver. -/
inductive Fault where
  | ok
  | caught
  | escapes
deriving DecidableEq

/-- How the steps of one ledger write end; the ledger file is written or not. -/
structure LedgerFaults where
  insert : Fault
  publish : Fault
  append : Bool
  delete : Fault

/-- `append_transaction` of the repository. -/
def Store.insertJournal (store : Store) (tx : JournalTx) : Store :=
  { store with journal := store.journal ++ [tx] }

/-- `delete_transaction` of the repository. -/
def Store.deleteJournal (store : Store) (txId : String) : Store :=
  { store with journal := store.journal.filter fun tx => tx.transactionId != txId }

/-- `_write_ledger_transaction`. A failing event is swallowed when its exception is one of
the handled ones. -/
def writeLedgerTransaction (f : LedgerFaults) (store : Store) (tx : JournalTx) : Store × Fault :=
  match f.insert with
  | .caught => (store, .caught)
  | .escapes => (store, .escapes)
  | .ok =>
    let inserted := store.insertJournal tx
    if f.publish = .escapes then (inserted, .escapes)
    else if f.append then
      ({ inserted with ledgerFile := inserted.ledgerFile ++ [tx] }, .ok)
    else
      match f.delete with
      | .ok => (inserted.deleteJournal tx.transactionId, .caught)
      | .caught => (inserted, .caught)
      | .escapes => (inserted, .escapes)

def recordStateSnapshot (snapshot event : Fault) (store : Store) (payload : StatePayload) :
    Store × Fault :=
  match snapshot with
  | .ok => ({ store with snapshots := store.snapshots ++ [payload] }, event)
  | fault => (store, fault)

/-! ## What a ledger write leaves -/

/-- After a ledger write the journal has the transaction or not; nothing else changes but
the ledger file. -/
theorem writeLedgerTransaction_cases (f : LedgerFaults) (store : Store) (tx : JournalTx) :
    (writeLedgerTransaction f store tx).1.snapshots = store.snapshots
      ∧ ((writeLedgerTransaction f store tx).1.journal = store.journal
        ∨ (writeLedgerTransaction f store tx).1.journal = store.journal ++ [tx]
        ∨ ((writeLedgerTransaction f store tx).2 = .caught
          ∧ (writeLedgerTransaction f store tx).1.journal
            = (store.journal ++ [tx]).filter fun t => t.transactionId != tx.transactionId)) := by
  unfold writeLedgerTransaction
  cases f.insert with
  | caught => exact ⟨rfl, Or.inl rfl⟩
  | escapes => exact ⟨rfl, Or.inl rfl⟩
  | ok =>
    simp only
    by_cases hpublish : f.publish = .escapes
    · rw [if_pos hpublish]
      exact ⟨rfl, Or.inr (Or.inl rfl)⟩
    · rw [if_neg hpublish]
      by_cases happend : f.append
      · rw [if_pos happend]
        exact ⟨rfl, Or.inr (Or.inl rfl)⟩
      · rw [if_neg happend]
        cases f.delete with
        | ok => exact ⟨rfl, Or.inr (Or.inr ⟨rfl, rfl⟩)⟩
        | caught => exact ⟨rfl, Or.inr (Or.inl rfl)⟩
        | escapes => exact ⟨rfl, Or.inr (Or.inl rfl)⟩

/-- Deleting a transaction whose id is fresh takes its row back. -/
theorem filter_append_fresh {rows : List JournalTx} {tx : JournalTx}
    (hfresh : ∀ row ∈ rows, row.transactionId ≠ tx.transactionId) :
    ((rows ++ [tx]).filter fun t => t.transactionId != tx.transactionId) = rows := by
  have hrows : (rows.filter fun t => t.transactionId != tx.transactionId) = rows := by
    rw [List.filter_eq_self]
    intro row hrow
    simpa using hfresh row hrow
  rw [List.filter_append, hrows]
  simp

theorem abs_sum_primeJournalLines (loan : Loan) (opened : Bool) :
    |((primeJournalLines loan opened).map LedgerLine.amount).sum| ≤ 1 / 10 ^ 8 := by
  have hround := abs_le.1 (abs_pyRound_sub 8 (loan.reserved - loan.notionalUsd))
  have hsmall : (1 : ℚ) / 2 / 10 ^ 8 ≤ 1 / 10 ^ 8 := by norm_num
  rw [abs_le]
  by_cases hdelta : 1 / 10 ^ 9 < |pyRound 8 (loan.reserved - loan.notionalUsd)|
  · simp only [primeJournalLines, if_pos hdelta, List.map_append, List.map_cons, List.map_nil,
      List.sum_append, List.sum_cons, List.sum_nil]
    cases opened with
    | true =>
      rw [if_pos rfl, if_pos rfl, if_pos rfl]
      constructor <;> linarith [hround.1, hround.2]
    | false =>
      rw [if_neg Bool.false_ne_true, if_neg Bool.false_ne_true, if_neg Bool.false_ne_true]
      constructor <;> linarith [hround.1, hround.2]
  · have hnone := abs_le.1 (not_lt.1 hdelta)
    have hsum : (1 : ℚ) / 10 ^ 9 + 1 / 2 / 10 ^ 8 ≤ 1 / 10 ^ 8 := by norm_num
    simp only [primeJournalLines, if_neg hdelta, List.append_nil, List.map_cons, List.map_nil,
      List.sum_cons, List.sum_nil]
    cases opened with
    | true =>
      rw [if_pos rfl, if_pos rfl]
      constructor <;> linarith [hround.1, hround.2, hnone.1, hnone.2]
    | false =>
      rw [if_neg Bool.false_ne_true, if_neg Bool.false_ne_true]
      constructor <;> linarith [hround.1, hround.2, hnone.1, hnone.2]

/-- The lines of a loan balance, so that validation accepts them. -/
theorem validLines_primeJournalLines (loan : Loan) (opened : Bool) :
    validLines (primeJournalLines loan opened) = true := by
  have hsum := abs_le.1 (abs_sum_primeJournalLines loan opened)
  have herr := abs_le.1 (abs_pyRound_sub 8
    ((primeJournalLines loan opened).map LedgerLine.amount).sum)
  have hsmall : (1 : ℚ) / 2 / 10 ^ 8 + 1 / 10 ^ 8 ≤ 1 / 10 ^ 6 := by norm_num
  have hbound : |pyRound 8 ((primeJournalLines loan opened).map LedgerLine.amount).sum|
      ≤ 1 / 10 ^ 6 := by
    rw [abs_le]
    constructor <;> linarith [herr.1, herr.2, hsum.1, hsum.2]
  unfold validLines
  rw [Bool.and_eq_true, decide_eq_true_eq]
  exact ⟨hbound, by simp [primeJournalLines]⟩

theorem validLines_auditLines (account family note : String) :
    validLines (auditLines account family note) = true := by
  simp [validLines, auditLines]

end SovereignCapital.Prime
