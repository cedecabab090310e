import SovereignCapital.Prime.Effects

/-! # Calls whose writes all succeed

The results of `allocate` and `settle` when no persistence call fails, in closed form: what
the memory is afterwards and what each store gains.
-/

namespace SovereignCapital.Prime

open Decimal

def PrimeState.savedPayload (s : PrimeState) : StatePayload :=
  stateSnapshotPayloadFromRaw s.clearUnavailable.rawStatePayload

/-- A transaction and the snapshot after it are recorded. -/
def Store.recorded (store : Store) (tx : JournalTx) (payload : StatePayload) : Store where
  journal := store.journal ++ [tx]
  ledgerFile := store.ledgerFile ++ [tx]
  snapshots := store.snapshots ++ [payload]

/-- Only a transaction is recorded. -/
def Store.audited (store : Store) (tx : JournalTx) : Store where
  journal := store.journal ++ [tx]
  ledgerFile := store.ledgerFile ++ [tx]
  snapshots := store.snapshots

/-! ## Allocate -/

/-- The memory after a loan was opened the direct way. -/
def PrimeState.openLoan (s : PrimeState) (policy : StagePolicy) (loan : Loan)
    (inventory : Inventory) : PrimeState :=
  { s with
    toBook := s.toBook.opened loan (s.capacityLimit (some policy)) inventory
    updatedTsMs := loan.openedTsMs }

theorem allocateDirect_none_some {clock : Clock} {w : World} {policy : StagePolicy} {loan : Loan}
    {inventory : Inventory} (htracked : w.prime.inventory.contains loan.asset = true)
    (hreserve : w.prime.inventory.reserve loan.asset loan.reserved = some inventory) :
    allocateDirect .none clock w policy loan
      = (⟨(w.prime.openLoan policy loan inventory).clearUnavailable,
          w.store.recorded (openTransaction clock.tx loan)
            (w.prime.openLoan policy loan inventory).savedPayload⟩,
        .granted loan (pyRound 6 (w.prime.openLoan policy loan inventory).utilization)
          (openTransaction clock.tx loan)) := by
  simp only [allocateDirect, commitOpen, htracked, hreserve, if_true]
  rfl

theorem allocateDirect_none_none {clock : Clock} {w : World} {policy : StagePolicy} {loan : Loan}
    (htracked : w.prime.inventory.contains loan.asset = true)
    (hreserve : w.prime.inventory.reserve loan.asset loan.reserved = none) :
    (allocateDirect .none clock w policy loan).1.prime.toBook = w.prime.toBook
      ∧ (allocateDirect .none clock w policy loan).1.prime.stateReady = true
      ∧ (allocateDirect .none clock w policy loan).1.store = w.store
      ∧ (allocateDirect .none clock w policy loan).2 = .denied .inventoryInsufficient none := by
  simp only [allocateDirect, commitOpen, htracked, hreserve, if_true]
  exact ⟨rfl, rfl, rfl, rfl⟩

variable {w : World} {req : PrimeBorrowRequest} {policy : StagePolicy}

theorem allocate_of_approved {coordinated : Bool} {f : Faults} {clock : Clock} {notional : Usd}
    {ctx : DecisionContext} {cost : Usd} (hready : w.prime.stateReady = true)
    (happrove : approve w.prime.toBook req policy = .approved notional ctx cost) :
    allocate coordinated f clock w req policy
      = match prepareOpenTransition w.prime policy (openedLoan req notional ctx cost clock) clock with
        | .error reason => (w, .denied reason none)
        | .ok transition =>
          if coordinated then
            match commitInternalPrimeOpen f w transition with
            | (w', .ok) => (w', .granted (openedLoan req notional ctx cost clock)
                transition.utilization transition.journalTx)
            | (w', .caught) => (w', .denied .primeOpenCommitFailed none)
            | (w', .escapes) => (w', .raised)
          else allocateDirect f clock w policy (openedLoan req notional ctx cost clock) := by
  unfold allocate
  rw [if_neg (by simp [hready])]
  generalize approve w.prime.toBook req policy = decision at happrove
  subst happrove
  rfl

theorem allocate_prepared {clock : Clock} {loan : Loan} {transition : OpenTransition}
    (hready : w.prime.stateReady = true)
    (hgrant : grantedLoan w.prime.toBook req policy clock = some loan)
    (hprepared : prepareOpenTransition w.prime policy loan clock = .ok transition) :
    allocate false .none clock w req policy = allocateDirect .none clock w policy loan
      ∧ allocate true .none clock w req policy
        = ((commitInternalPrimeOpen .none w transition).1,
          .granted loan transition.utilization transition.journalTx) := by
  obtain ⟨notional, ctx, cost, happrove, -, rfl⟩ := grantedLoan_eq_some hgrant
  constructor
  · rw [allocate_of_approved hready happrove, hprepared]
    rfl
  · rw [allocate_of_approved hready happrove, hprepared]
    rfl

/-- A request that is not granted and prepared meets no difference between the paths. -/
theorem allocate_unprepared (f : Faults) (clock : Clock)
    (h : ∀ loan transition, grantedLoan w.prime.toBook req policy clock = some loan →
      prepareOpenTransition w.prime policy loan clock ≠ .ok transition) :
    allocate false f clock w req policy = allocate true f clock w req policy := by
  cases hready : w.prime.stateReady with
  | false =>
    unfold allocate
    rw [if_pos (by simp [hready]), if_pos (by simp [hready])]
  | true =>
    cases happrove : approve w.prime.toBook req policy with
    | raised =>
      unfold allocate
      rw [happrove]
    | denied reason =>
      unfold allocate
      rw [happrove]
    | approved notional ctx cost =>
      have hgrant : grantedLoan w.prime.toBook req policy clock
          = some (openedLoan req notional ctx cost clock) := by
        rw [grantedLoan, happrove]
      rw [allocate_of_approved hready happrove, allocate_of_approved hready happrove]
      cases hprepare : prepareOpenTransition w.prime policy
          (openedLoan req notional ctx cost clock) clock with
      | error reason => rfl
      | ok transition => exact absurd hprepare (h _ transition hgrant)

/-! ## Settle -/

/-- The memory after a loan was settled the direct way. -/
def PrimeState.settleLoan (s : PrimeState) (loanId : String) (loan : Loan) (now : Int) :
    PrimeState :=
  { s with
    toBook := s.toBook.settled loanId loan now (s.toBook.releaseFor loan)
    updatedTsMs := now }

def PrimeState.disputeLoan (s : PrimeState) (loanId : String) (loan : Loan) (now : Int) :
    PrimeState :=
  { s with loans := s.loans.set loanId (loan.dispute now), updatedTsMs := now }

theorem settleDirect_none (clock : Clock) (w : World) (loanId : String) (loan : Loan)
    (realizedPnlUsd : Usd) :
    settleDirect .none clock w loanId loan realizedPnlUsd
      = (⟨(w.prime.settleLoan loanId loan clock.now).clearUnavailable,
          w.store.recorded (settlementTransaction clock.tx (loan.settle clock.now) realizedPnlUsd "")
            (w.prime.settleLoan loanId loan clock.now).savedPayload⟩,
        .settled (loan.settle clock.now)
          (pyRound 6 (w.prime.settleLoan loanId loan clock.now).utilization)
          (settlementTransaction clock.tx (loan.settle clock.now) realizedPnlUsd "")) := by
  by_cases hasset : loan.asset = ""
  · simp only [settleDirect, commitSettle, PrimeState.settleLoan, Book.releaseFor,
      if_neg (not_not.2 hasset)]
    rfl
  · simp only [settleDirect, commitSettle, PrimeState.settleLoan, Book.releaseFor, if_pos hasset]
    rfl

theorem disputeLoan_none (clock : Clock) (w : World) (loanId : String) (loan : Loan)
    (realizedPnlUsd : Usd) :
    disputeLoan .none clock w loanId loan realizedPnlUsd
      = (⟨(w.prime.disputeLoan loanId loan clock.now).clearUnavailable,
          w.store.recorded (disputeTransaction clock.tx (loan.dispute clock.now)
              .inventoryUntrackedOnSettlement "")
            (w.prime.disputeLoan loanId loan clock.now).savedPayload⟩,
        .disputed (loan.dispute clock.now) (disputeTransaction clock.tx (loan.dispute clock.now)
          .inventoryUntrackedOnSettlement "")) := rfl

theorem rejectedPayload_none (clock : Clock) (w : World) (loanId : String) (loan : Option Loan)
    (reason : PrimeReason) (realizedPnlUsd : Usd) :
    rejectedPayload .none clock w loanId loan reason realizedPnlUsd
      = (⟨w.prime, w.store.audited
          (settlementRejectionTransaction clock.audit loanId loan reason realizedPnlUsd "")⟩,
        .rejected reason true) := rfl

end SovereignCapital.Prime
