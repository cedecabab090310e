import SovereignCapital.Lib.PyText
import SovereignCapital.Prime.Journal

/-! # Reconciliation of the prime journal

`reconcile_internal_prime_journal` of `treasury/reconciliation.py`: the journal is replayed in
the order of time stamps, ties by transaction id, and what comes out is compared with a
snapshot of the allocator.
-/

namespace SovereignCapital.Prime

open Decimal

/-! ## Normalized loans -/

/-- The result of `_normalized_prime_loan_metadata`. -/
structure ReconLoan where
  loanId : String
  status : LoanStatus
  family : String
  asset : String
  notionalUsd : Usd
  collateralReservedUsd : Usd
  collateralRatio : ℚ
  collateralHaircutPct : ℚ
  collateralEfficiency : ℚ
deriving DecidableEq

/-- `_normalized_prime_loan_metadata` of a row of a snapshot, under a given status. -/
def normalizedLoan (loan : Loan) (status : LoanStatus) : ReconLoan where
  loanId := loan.loanId
  status := status
  family := loan.family
  asset := loan.asset
  notionalUsd := pyRound 8 loan.notionalUsd
  collateralReservedUsd := pyRound 8 loan.collateralReservedUsd
  collateralRatio := pyRound 8 loan.collateralRatio
  collateralHaircutPct := pyRound 8 loan.collateralHaircutPct
  collateralEfficiency := pyRound 8 loan.collateralEfficiency

/-- `_normalized_prime_loan_metadata` of the metadata of a transaction. A missing status
counts as open; the metadata of a decision has no loan id. -/
def normalizedMetadata : JournalMetadata → ReconLoan
  | .loan m =>
    { loanId := m.loanId
      status := m.status.getD .opened
      family := m.family
      asset := m.asset
      notionalUsd := pyRound 8 m.notionalUsd
      collateralReservedUsd := pyRound 8 m.collateralReservedUsd
      collateralRatio := pyRound 8 m.collateralRatio
      collateralHaircutPct := pyRound 8 m.collateralHaircutPct
      collateralEfficiency := pyRound 8 m.collateralEfficiency }
  | .decision m =>
    { loanId := ""
      status := .opened
      family := m.family
      asset := m.asset
      notionalUsd := pyRound 8 m.notionalUsd
      collateralReservedUsd := 0
      collateralRatio := 0
      collateralHaircutPct := 0
      collateralEfficiency := 0 }

/-! ## The replay -/

structure JournalCounts where
  missingLoanId : Nat
  duplicateOpen : Nat
  unmatchedSettlement : Nat
  unmatchedDispute : Nat
deriving DecidableEq

/-- The state of `_journal_active_prime_loans`. -/
structure Replay where
  active : Dict String ReconLoan
  counts : JournalCounts

def Replay.empty : Replay := ⟨Dict.empty, ⟨0, 0, 0, 0⟩⟩

def replayTx (r : Replay) (tx : JournalTx) : Replay :=
  if tx.txType = .loanRejected then r
  else
    let normalized := normalizedMetadata tx.metadata
    if normalized.loanId = "" then
      { r with counts := { r.counts with missingLoanId := r.counts.missingLoanId + 1 } }
    else
      match tx.txType, r.active.get? normalized.loanId with
      | .loanOpen, none =>
        { r with active := r.active.set normalized.loanId { normalized with status := .opened } }
      | .loanOpen, some _ =>
        { r with counts := { r.counts with duplicateOpen := r.counts.duplicateOpen + 1 } }
      | .loanDisputed, none =>
        { r with counts := { r.counts with unmatchedDispute := r.counts.unmatchedDispute + 1 } }
      | .loanDisputed, some current =>
        let disputed := { normalized with loanId := current.loanId, status := .disputed }
        { r with active := r.active.set normalized.loanId disputed }
      | .loanSettlement, none =>
        { r with counts :=
            { r.counts with unmatchedSettlement := r.counts.unmatchedSettlement + 1 } }
      | .loanSettlement, some _ => { r with active := r.active.erase normalized.loanId }
      | .loanSettlementRejected, some current =>
        let updated := { normalized with loanId := current.loanId }
        { r with active := r.active.set normalized.loanId updated }
      | _, _ => r

/-- `a <= b` on texts. -/
def pyLe (a b : String) : Bool := Bytes.textLe a.toList b.toList

/-- The order of the replay: time stamp, transaction id, position. -/
def journalLe (a b : JournalTx × Nat) : Bool :=
  decide (a.1.tsMs < b.1.tsMs)
    || (decide (a.1.tsMs = b.1.tsMs)
      && (if a.1.transactionId = b.1.transactionId then decide (a.2 ≤ b.2)
        else pyLe a.1.transactionId b.1.transactionId))

/-- The transactions in the order of the replay. -/
def journalSorted (txs : List JournalTx) : List JournalTx :=
  (txs.zipIdx.mergeSort journalLe).map Prod.fst

def journalActivePrimeLoans (txs : List JournalTx) : Replay :=
  (journalSorted txs).foldl replayTx .empty

def stateActivePrimeLoans (state : Option StatePayload) : Dict String ReconLoan :=
  let add := fun (status : LoanStatus) (active : Dict String ReconLoan) (loan : Loan) =>
    if loan.loanId = "" then active else active.set loan.loanId (normalizedLoan loan status)
  match state with
  | none => Dict.empty
  | some p => p.disputedLoans.foldl (add .disputed) (p.openLoans.foldl (add .opened) Dict.empty)

/-! ## The comparison -/

inductive ReconReason where
  | missingLoanId
  | duplicateOpen
  | unmatchedSettlement
  | unmatchedDispute
  | borrowedMismatch
  | openLoanCountMismatch
  | disputedLoanCountMismatch
  | familyExposureMismatch
  | reservedCollateralMismatch
  | activeLoanMissing
  | activeLoanUnexpected
  | activeLoanStatusMismatch
  | activeLoanMetadataMismatch
deriving DecidableEq

/-- One side of the comparison: `derived` from the journal or `observed` in the snapshot. -/
structure ReconSide where
  borrowedUsd : Usd
  openLoanCount : Nat
  disputedLoanCount : Nat
  reservedCollateralUsd : Usd
  familyExposure : Dict String Usd
  activeLoans : Dict String ReconLoan

def derivedFamilyExposure (active : List ReconLoan) : Dict String Usd :=
  active.foldl (fun exposure loan =>
    exposure.set loan.family (pyRound 8 (exposure.getD loan.family 0 + loan.notionalUsd))) Dict.empty

def derivedSide (active : Dict String ReconLoan) : ReconSide where
  borrowedUsd := pyRound 8 (active.values.map ReconLoan.notionalUsd).sum
  openLoanCount := active.entries.length
  disputedLoanCount := (active.values.filter fun loan => loan.status == .disputed).length
  reservedCollateralUsd := pyRound 8 (active.values.map ReconLoan.collateralReservedUsd).sum
  familyExposure := derivedFamilyExposure active.values
  activeLoans := active

/-- `state.get(count) or fallback`. -/
def countOr (count fallback : Nat) : Nat := if count = 0 then fallback else count

def observedSide (state : Option StatePayload) : ReconSide :=
  match state with
  | none => ⟨0, 0, 0, 0, Dict.empty, stateActivePrimeLoans none⟩
  | some p =>
    { borrowedUsd := p.borrowedUsd
      openLoanCount := countOr p.loanCount (p.openLoans.length + p.disputedLoans.length)
      disputedLoanCount := countOr p.disputedLoanCount p.disputedLoans.length
      reservedCollateralUsd := pyRound 8 p.reservedCollateralUsd
      familyExposure := (p.familyExposure.filterVal fun v => decide (1 / 10 ^ 6 < |v|)).mapVal
        (pyRound 8)
      activeLoans := stateActivePrimeLoans (some p) }

/-- A text of the two rows differs in a field the comparison looks at, or a number by more
than the tolerance. -/
def metadataMismatch (observed derived : ReconLoan) : Bool :=
  decide (observed.family ≠ derived.family) || decide (observed.asset ≠ derived.asset)
    || decide (1 / 10 ^ 6 < |observed.notionalUsd - derived.notionalUsd|)
    || decide (1 / 10 ^ 6 < |observed.collateralReservedUsd - derived.collateralReservedUsd|)
    || decide (1 / 10 ^ 6 < |observed.collateralRatio - derived.collateralRatio|)
    || decide (1 / 10 ^ 6 < |observed.collateralHaircutPct - derived.collateralHaircutPct|)
    || decide (1 / 10 ^ 6 < |observed.collateralEfficiency - derived.collateralEfficiency|)

structure LoanDeltas where
  missingActiveLoanIds : List String
  unexpectedActiveLoanIds : List String
  statusMismatchIds : List String
  metadataMismatchIds : List String

def sortedIds (ids : List String) : List String := ids.mergeSort pyLe

/-- The ids of the first dictionary for which the second one fails a test. -/
def idsWhere (observed : Dict String ReconLoan) (test : String → ReconLoan → Bool) : List String :=
  sortedIds ((observed.entries.filter fun e => test e.1 e.2).map Prod.fst)

def loanDeltas (observed derived : Dict String ReconLoan) : LoanDeltas where
  missingActiveLoanIds := idsWhere observed fun loanId _ => !derived.contains loanId
  unexpectedActiveLoanIds := idsWhere derived fun loanId _ => !observed.contains loanId
  statusMismatchIds := idsWhere observed fun loanId row =>
    match derived.get? loanId with
    | none => false
    | some row' => decide (row.status ≠ row'.status)
  metadataMismatchIds := idsWhere observed fun loanId row =>
    match derived.get? loanId with
    | none => false
    | some row' => metadataMismatch row row'

/-- The result of `reconcile_internal_prime_journal`. -/
structure Reconciliation where
  reasons : List ReconReason
  derived : ReconSide
  observed : ReconSide
  journalCounts : JournalCounts
  loanDeltas : LoanDeltas

def Reconciliation.ok (r : Reconciliation) : Bool := r.reasons.isEmpty

/-- `reconcile_internal_prime_journal` of a snapshot, or of none. -/
def reconcileInternalPrimeJournal (state : Option StatePayload) (txs : List JournalTx) :
    Reconciliation :=
  let replay := journalActivePrimeLoans txs
  let derived := derivedSide replay.active
  let observed := observedSide state
  -- A snapshot always has the two optional keys, an absent one has neither.
  let hasKeys := state.isSome
  let hasDetails :=
    match state with
    | none => false
    | some p => !p.openLoans.isEmpty || !p.disputedLoans.isEmpty
  let deltas :=
    if hasDetails then loanDeltas observed.activeLoans derived.activeLoans else ⟨[], [], [], []⟩
  let flag := fun (condition : Bool) (reason : ReconReason) => if condition then [reason] else []
  { reasons :=
      flag (decide (0 < replay.counts.missingLoanId)) .missingLoanId
        ++ flag (decide (0 < replay.counts.duplicateOpen)) .duplicateOpen
        ++ flag (decide (0 < replay.counts.unmatchedSettlement)) .unmatchedSettlement
        ++ flag (decide (0 < replay.counts.unmatchedDispute)) .unmatchedDispute
        ++ flag (decide (1 / 10 ^ 6 < |derived.borrowedUsd - observed.borrowedUsd|))
          .borrowedMismatch
        ++ flag (decide (derived.openLoanCount ≠ observed.openLoanCount)) .openLoanCountMismatch
        ++ flag (hasKeys && decide (derived.disputedLoanCount ≠ observed.disputedLoanCount))
          .disputedLoanCountMismatch
        ++ flag (!derived.familyExposure.same observed.familyExposure) .familyExposureMismatch
        ++ flag (hasKeys && decide
            (1 / 10 ^ 6 < |derived.reservedCollateralUsd - observed.reservedCollateralUsd|))
          .reservedCollateralMismatch
        ++ flag (!deltas.missingActiveLoanIds.isEmpty) .activeLoanMissing
        ++ flag (!deltas.unexpectedActiveLoanIds.isEmpty) .activeLoanUnexpected
        ++ flag (!deltas.statusMismatchIds.isEmpty) .activeLoanStatusMismatch
        ++ flag (!deltas.metadataMismatchIds.isEmpty) .activeLoanMetadataMismatch
    derived := derived
    observed := observed
    journalCounts := replay.counts
    loanDeltas := deltas }

end SovereignCapital.Prime
