import SovereignCapital.Prime.Journal

/-! # The allocator

`allocator.py`: the decision on a request (`approve`), the prepared transitions, and the two
ways a transition is committed. The direct way changes the memory, writes the stores one
after the other and takes the memory back by hand when a write raises; the coordinator
writes one database transaction and adopts the prepared payload.

A call gets what it reads from outside as arguments: the clock and the ids (`Clock`), and how
each of its writes ends (`Faults`). The writes to files are handled exceptions when they
fail; database writes may also raise one that escapes.
-/

namespace SovereignCapital.Prime

open Decimal

/-! ## Arguments of a call -/

/-- The time and the fresh ids of a call; `freshId` are the hexadecimal digits of a loan id. -/
structure Clock where
  now : Int
  tx : Stamp
  audit : Stamp
  freshId : String

/-- How the writes of a call end. -/
structure Faults where
  inventorySave : Bool
  stateSave : Bool
  ledger : LedgerFaults
  snapshot : Fault
  event : Fault
  rollbackInventorySave : Bool
  rollbackStateSave : Bool
  audit : LedgerFaults
  commit : Fault

/-- No write fails. -/
def Faults.none : Faults where
  inventorySave := true
  stateSave := true
  ledger := ⟨.ok, .ok, true, .ok⟩
  snapshot := .ok
  event := .ok
  rollbackInventorySave := true
  rollbackStateSave := true
  audit := ⟨.ok, .ok, true, .ok⟩
  commit := .ok

structure World where
  prime : PrimeState
  store : Store

/-! ## Decisions -/

def familyCap (b : Book) (policy : StagePolicy) : Usd :=
  let capacity := b.capacityLimit (some policy)
  let deployable := policyValue policy.maxDeployablePct (35 / 100) * capacity
  let familyCap :=
    policyValue (some (policy.familyCapPct.getD (policy.maxFamilyPct.getD (25 / 100)))) (25 / 100)
      * capacity
  max 0 (min (min capacity deployable) familyCap)

structure DecisionContext where
  collateral : CollateralPolicy
  inventoryTracked : Bool
  inventoryAvailableUsd : Usd
  requiredCollateralUsd : Usd
  currentBorrowedUsd : Usd
  primeCapacityUsd : Usd
  capacityRemainingUsd : Usd
  currentFamilyExposureUsd : Usd
  projectedFamilyExposureUsd : Usd
  familyCapUsd : Usd

/-- `_decision_context`; nothing where reading the notional raises. -/
def decisionContext (b : Book) (req : PrimeBorrowRequest) (policy : StagePolicy) :
    Option DecisionContext :=
  match req.notionalUsd.floatOrZero with
  | none => none
  | some notional =>
    let snapshot := b.inventory.snapshot
    let collateral := collateralPolicy notional policy
    let capacity := b.capacityLimit (some policy)
    let tracked := decide (req.asset ≠ "") && snapshot.contains req.asset
    let current := b.familyExposure.getD req.family 0
    some
      { collateral := collateral
        inventoryTracked := tracked
        inventoryAvailableUsd := pyRound 8 (if tracked then snapshot.getD req.asset 0 else 0)
        requiredCollateralUsd := pyRound 8 collateral.requiredCollateralUsd
        currentBorrowedUsd := pyRound 8 b.borrowedUsd
        primeCapacityUsd := pyRound 8 capacity
        capacityRemainingUsd := pyRound 8 (max 0 (capacity - b.borrowedUsd))
        currentFamilyExposureUsd := pyRound 8 current
        projectedFamilyExposureUsd := pyRound 8 (current + notional)
        familyCapUsd := pyRound 8 (familyCap b policy) }

/-- The outcome of `_approve`. -/
inductive Approval where
  | raised
  | denied (reason : PrimeReason)
  | approved (notional : Usd) (ctx : DecisionContext) (borrowCostUsd : Usd)

def approve (b : Book) (req : PrimeBorrowRequest) (policy : StagePolicy) : Approval :=
  match decisionContext b req policy with
  | none => .raised
  | some ctx =>
    if req.confidence < policyValue policy.minConfidence (75 / 100) then
      .denied .confidenceTooLow
    else if ctx.primeCapacityUsd ≤ 0 then .denied .primeCapacityUnavailable
    else if ctx.familyCapUsd < ctx.projectedFamilyExposureUsd then .denied .familyCapExceeded
    else
      match req.notionalUsd.float with
      | none => .raised
      | some notional =>
        if ctx.primeCapacityUsd < b.borrowedUsd + notional then
          .denied .primeCapacityExceeded
        else if ¬ ctx.inventoryTracked then .denied .inventoryUntracked
        else if ctx.inventoryAvailableUsd < notional then .denied .inventoryInsufficient
        else if ctx.inventoryAvailableUsd + 1 / 10 ^ 9 < ctx.requiredCollateralUsd then
          .denied .collateralInsufficiency
        else
          .approved notional ctx (internalBorrowCost notional req.horizonMinutes b.utilization)

/-! ## Prepared transitions -/

def openedLoan (req : PrimeBorrowRequest) (notional : Usd) (ctx : DecisionContext)
    (borrowCostUsd : Usd) (clock : Clock) : Loan where
  loanId := if req.requestId = "" then "loan_" ++ clock.freshId else req.requestId
  family := req.family
  asset := req.asset
  notionalUsd := notional
  borrowCostUsd := borrowCostUsd
  openedTsMs := clock.now
  collateralReservedUsd := pyOr ctx.collateral.requiredCollateralUsd notional
  collateralRatio := pyOr ctx.collateral.collateralRatio 1
  collateralHaircutPct := ctx.collateral.collateralHaircutPct
  collateralEfficiency := pyOr ctx.collateral.collateralEfficiency 1
  status := .opened
  settledTsMs := 0
  disputedTsMs := 0
  disputeReasonCode := none
  strategyId := req.strategyId

/-- The result of `prepare_open_transition` when it is ok. -/
structure OpenTransition where
  loan : Loan
  utilization : ℚ
  journalTx : JournalTx
  stateSnapshot : StatePayload

def prepareOpenTransition (s : PrimeState) (policy : StagePolicy) (loan : Loan) (clock : Clock) :
    Except PrimeReason OpenTransition :=
  if ¬ s.stateReady then .error s.unavailableReason
  else
    let capacity := s.capacityLimit (some policy)
    if capacity ≤ 0 then .error .primeCapacityUnavailable
    else
      let snapshot := s.inventory.snapshot
      let seeded := snapshot.contains loan.asset
      let amount := loan.collateralReservedUsd
      if seeded && decide (snapshot.getD loan.asset 0 < amount) then .error .inventoryInsufficient
      else
        let inventory :=
          if seeded then
            snapshot.set loan.asset (pyRound 8 (snapshot.getD loan.asset 0 - amount))
          else snapshot
        let borrowed := s.borrowedUsd + loan.notionalUsd
        let exposure := s.familyExposure.set loan.family
          (s.familyExposure.getD loan.family 0 + loan.notionalUsd)
        let utilization := min 1 (max 0 (borrowed / max 1 capacity))
        .ok
          { loan := loan
            utilization := pyRound 6 utilization
            journalTx := openTransaction clock.tx loan
            stateSnapshot := stateSnapshotPayloadFromRaw
              { utilization := pyRound 8 utilization
                borrowedUsd := pyRound 8 borrowed
                capacityUsd := some (pyRound 8 capacity)
                familyExposure := exposure.mapVal (pyRound 8)
                loans := s.loans.set loan.loanId loan
                inventory := inventory
                updatedTsMs := loan.openedTsMs
                stateReady := s.stateReady
                stateReasonCode := s.stateReasonCode } }

/-- The result of `prepare_settlement_transition`. -/
structure SettlementTransition where
  ok : Bool
  reason : Option PrimeReason
  loan : Option Loan
  journalTx : JournalTx
  stateSnapshot : Option StatePayload

def Loan.dispute (loan : Loan) (now : Int) : Loan :=
  { loan with
    status := .disputed
    disputedTsMs := now
    disputeReasonCode := some .inventoryUntrackedOnSettlement }

def Loan.settle (loan : Loan) (now : Int) : Loan :=
  { loan with status := .settled, settledTsMs := now }

def prepareSettlementTransition (s : PrimeState) (loanId : String) (realizedPnlUsd : Usd)
    (receiptId : String) (clock : Clock) : SettlementTransition :=
  let rejected := fun loan reason =>
    { ok := false, reason := some reason, loan := none
      journalTx :=
        settlementRejectionTransaction clock.tx loanId loan reason realizedPnlUsd receiptId
      stateSnapshot := none : SettlementTransition }
  if ¬ s.stateReady then rejected none s.unavailableReason
  else
    match s.loans.get? loanId with
    | none => rejected none .unknownLoan
    | some loan =>
      if ¬ loan.active then rejected (some loan) .loanAlreadySettled
      else
        let capacity := s.capacityLimit none
        if capacity ≤ 0 then rejected (some loan) .primeCapacityUnavailable
        else
          let snapshot := s.inventory.snapshot
          if decide (loan.asset ≠ "") && !snapshot.contains loan.asset then
            let disputed := loan.dispute clock.now
            { ok := false
              reason := some .inventoryUntrackedOnSettlement
              loan := some disputed
              journalTx := disputeTransaction clock.tx disputed .inventoryUntrackedOnSettlement
                receiptId
              stateSnapshot := some (stateSnapshotPayloadFromRaw
                { utilization := pyRound 8 s.utilization
                  borrowedUsd := pyRound 8 s.borrowedUsd
                  capacityUsd := s.capacityUsd.map (pyRound 8)
                  familyExposure := s.familyExposure.mapVal (pyRound 8)
                  loans := s.loans.set loanId disputed
                  inventory := snapshot
                  updatedTsMs := clock.now
                  stateReady := s.stateReady
                  stateReasonCode := s.stateReasonCode }) }
          else
            let settled := loan.settle clock.now
            let borrowed := max 0 (s.borrowedUsd - loan.notionalUsd)
            let familyExposure := max 0 (s.familyExposure.getD loan.family 0 - loan.notionalUsd)
            let exposure :=
              if familyExposure ≤ 1 / 10 ^ 9 then s.familyExposure.erase loan.family
              else s.familyExposure.set loan.family familyExposure
            let inventory :=
              if loan.asset ≠ "" then
                snapshot.set loan.asset
                  (pyRound 8 (snapshot.getD loan.asset 0 + settled.reserved))
              else snapshot
            let utilization := min 1 (max 0 (borrowed / max 1 capacity))
            { ok := true
              reason := none
              loan := some settled
              journalTx := settlementTransaction clock.tx settled realizedPnlUsd receiptId
              stateSnapshot := some (stateSnapshotPayloadFromRaw
                { utilization := pyRound 8 utilization
                  borrowedUsd := pyRound 8 borrowed
                  capacityUsd := some (pyRound 8 capacity)
                  familyExposure := exposure.mapVal (pyRound 8)
                  loans := s.loans.set loanId settled
                  inventory := inventory
                  updatedTsMs := clock.now
                  stateReady := s.stateReady
                  stateReasonCode := s.stateReasonCode }) }

/-! ## Commits of the coordinator -/

/-- `adopt_state_payload` with its mirror files: `saved` tells whether the state file could
be written. -/
def adoptMirrored (payload : StatePayload) (saved : Bool) : PrimeState :=
  if saved then (adoptStatePayload payload).clearUnavailable else adoptStatePayload payload

/-- `commit_internal_prime_open`: one database transaction, then the ledger file and the
memory, whose failures are swallowed. -/
def commitInternalPrimeOpen (f : Faults) (w : World) (t : OpenTransition) : World × Fault :=
  match f.commit with
  | .ok =>
    ({ prime := adoptMirrored t.stateSnapshot f.stateSave
       store :=
        { journal := w.store.journal ++ [t.journalTx]
          ledgerFile := w.store.ledgerFile ++ if f.ledger.append then [t.journalTx] else []
          snapshots := w.store.snapshots ++ [t.stateSnapshot] } }, .ok)
  | fault => (w, fault)

/-- The prime part of `commit_receipt_settlement`. A transition without a snapshot commits
the bare payload of the commit id. -/
def commitPrimeSettlement (f : Faults) (w : World) (t : SettlementTransition) (now : Int) :
    World × Fault :=
  match f.commit with
  | .ok =>
    let payload := t.stateSnapshot.getD (StatePayload.bare now)
    ({ prime := adoptMirrored payload f.stateSave
       store :=
        { journal := w.store.journal ++ [t.journalTx]
          ledgerFile := w.store.ledgerFile ++ if f.ledger.append then [t.journalTx] else []
          snapshots := w.store.snapshots ++ [payload] } }, .ok)
  | fault => (w, fault)

/-! ## Allocate -/

/-- The outcome of `allocate`. A denial tells whether its audit was recorded, when the code
tries to record one. -/
inductive AllocateResult where
  | granted (loan : Loan) (utilization : ℚ) (tx : JournalTx)
  | denied (reason : PrimeReason) (audit : Option Bool)
  | raised
deriving DecidableEq

/-- The transaction `_record_prime_decision_event` writes for a denial. -/
def decisionTransaction (stamp : Stamp) (req : PrimeBorrowRequest) (ctx : DecisionContext)
    (notional : Usd) (reason : PrimeReason) : JournalTx :=
  ⟨stamp.txId, stamp.tsMs, .loanRejected, "",
    auditLines "internal_prime:decision_audit" req.family ("prime_loan_rejected:" ++ reason.code),
    .decision
      { requestId := req.requestId
        family := req.family
        asset := req.asset
        capitalSource := req.capitalSource
        notionalUsd := notional
        horizonMinutes := req.horizonMinutes
        confidence := req.confidence
        approved := false
        reasonCode := reason
        borrowCostBps := 0
        requiresOperatorReview := false
        inventoryTracked := ctx.inventoryTracked
        inventoryAvailableUsd := ctx.inventoryAvailableUsd
        requiredCollateralUsd := ctx.requiredCollateralUsd
        primeCapacityUsd := ctx.primeCapacityUsd
        capacityRemainingUsd := ctx.capacityRemainingUsd
        familyCapUsd := ctx.familyCapUsd
        projectedFamilyExposureUsd := ctx.projectedFamilyExposureUsd }⟩

/-- `_denied_payload`: the denial is recorded in the journal. -/
def deniedPayload (f : Faults) (clock : Clock) (w : World) (req : PrimeBorrowRequest)
    (policy : StagePolicy) (reason : PrimeReason) : World × AllocateResult :=
  match decisionContext w.prime.toBook req policy, req.notionalUsd.floatOrZero with
  | some ctx, some notional =>
    let tx := decisionTransaction clock.audit req ctx notional reason
    match writeLedgerTransaction f.audit w.store tx with
    | (store, .ok) => ({ w with store := store }, .denied reason (some true))
    | (store, .caught) => ({ w with store := store }, .denied reason (some false))
    | (store, .escapes) => ({ w with store := store }, .raised)
  | _, _ => (w, .raised)

def Book.opened (b : Book) (loan : Loan) (capacity : Usd) (inventory : Inventory) : Book where
  borrowedUsd := b.borrowedUsd + loan.notionalUsd
  familyExposure :=
    b.familyExposure.set loan.family (b.familyExposure.getD loan.family 0 + loan.notionalUsd)
  capacityUsd := some capacity
  utilization := utilizationAt (b.borrowedUsd + loan.notionalUsd) capacity
  loans := b.loans.set loan.loanId loan
  inventory := inventory

/-- How the writes of a direct commit ended. -/
inductive Attempt where
  | done (tx : JournalTx)
  | failed (holdsInventory : Bool) (reason : PrimeReason)
  | escaped

/-- The writes of a direct commit after the memory was changed: state file, journal,
snapshot. -/
def persistCommit (f : Faults) (w : World) (tx : JournalTx) (holdsInventory : Bool)
    (persistFailed journalFailed : PrimeReason) : World × Attempt :=
  if ¬ f.stateSave then (w, .failed holdsInventory persistFailed)
  else
    let prime := w.prime.clearUnavailable
    match writeLedgerTransaction f.ledger w.store tx with
    | (store, .caught) => (⟨prime, store⟩, .failed holdsInventory journalFailed)
    | (store, .escapes) => (⟨prime, store⟩, .escaped)
    | (store, .ok) =>
      match recordStateSnapshot f.snapshot f.event store
          (stateSnapshotPayloadFromRaw prime.rawStatePayload) with
      | (store, .ok) => (⟨prime, store⟩, .done tx)
      | (store, .caught) => (⟨prime, store⟩, .failed holdsInventory journalFailed)
      | (store, .escapes) => (⟨prime, store⟩, .escaped)

/-- The `try` block of a direct `allocate`. -/
def commitOpen (f : Faults) (clock : Clock) (w : World) (loan : Loan) (capacity : Usd) :
    World × Attempt :=
  let s := w.prime
  let proceed := fun inventory holds =>
    persistCommit f
      ⟨{ s with
          toBook := s.toBook.opened loan capacity inventory
          updatedTsMs := loan.openedTsMs }, w.store⟩
      (openTransaction clock.tx loan) holds .primeStatePersistFailed .primeJournalWriteFailed
  if s.inventory.contains loan.asset then
    match s.inventory.reserve loan.asset loan.reserved with
    | none => (w, .failed false .inventoryInsufficient)
    | some inventory =>
      if f.inventorySave then proceed inventory true
      else
        (⟨{ s with inventory := inventory }, w.store⟩, .failed false .primeStatePersistFailed)
  else proceed s.inventory false

/-- The state file written during a rollback, and the mark a failed rollback leaves. -/
def finishRollback (f : Faults) (s : PrimeState) (failure : Option PrimeReason) : PrimeState :=
  let s := if f.rollbackStateSave then s.clearUnavailable else s
  match failure with
  | none => s
  | some reason => s.markUnavailable reason

/-- The `except` block of a direct `allocate`: `before` is the memory before the call. -/
def rollbackOpen (f : Faults) (before : PrimeState) (w : World) (loan : Loan)
    (holdsInventory : Bool) (reason : PrimeReason) : World × AllocateResult :=
  let restored : PrimeState :=
    { w.prime with toBook := { before.toBook with inventory := w.prime.inventory } }
  if holdsInventory then
    let released : PrimeState :=
      { restored with inventory := restored.inventory.release loan.asset loan.reserved }
    if f.rollbackInventorySave then
      ({ w with prime := finishRollback f released none }, .denied reason none)
    else
      ({ w with prime := finishRollback f released (some .primeInventoryRollbackFailed) },
        .denied .primeInventoryRollbackFailed none)
  else ({ w with prime := finishRollback f restored none }, .denied reason none)

def allocateDirect (f : Faults) (clock : Clock) (w : World) (policy : StagePolicy) (loan : Loan) :
    World × AllocateResult :=
  let capacity := w.prime.capacityLimit (some policy)
  match commitOpen f clock w loan capacity with
  | (w', .done tx) => (w', .granted loan (pyRound 6 w'.prime.utilization) tx)
  | (w', .failed holds reason) => rollbackOpen f w.prime w' loan holds reason
  | (w', .escaped) => (w', .raised)

/-- `allocate`; `coordinated` tells whether a capital write service is wired in. -/
def allocate (coordinated : Bool) (f : Faults) (clock : Clock) (w : World)
    (req : PrimeBorrowRequest) (policy : StagePolicy) : World × AllocateResult :=
  if ¬ w.prime.stateReady then deniedPayload f clock w req policy w.prime.unavailableReason
  else
    match approve w.prime.toBook req policy with
    | .raised => (w, .raised)
    | .denied reason => deniedPayload f clock w req policy reason
    | .approved notional ctx cost =>
      let loan := openedLoan req notional ctx cost clock
      match prepareOpenTransition w.prime policy loan clock with
      | .error reason => (w, .denied reason none)
      | .ok transition =>
        if coordinated then
          match commitInternalPrimeOpen f w transition with
          | (w', .ok) => (w', .granted loan transition.utilization transition.journalTx)
          | (w', .caught) => (w', .denied .primeOpenCommitFailed none)
          | (w', .escapes) => (w', .raised)
        else allocateDirect f clock w policy loan

/-! ## Settle -/

/-- The outcome of `settle`. -/
inductive SettleResult where
  | settled (loan : Loan) (utilization : ℚ) (tx : JournalTx)
  | disputed (loan : Loan) (tx : JournalTx)
  | rejected (reason : PrimeReason) (audit : Bool)
  | failed (reason : PrimeReason)
  | raised
deriving DecidableEq

/-- `_rejected_payload`: the rejection is recorded in the journal. -/
def rejectedPayload (f : Faults) (clock : Clock) (w : World) (loanId : String)
    (loan : Option Loan) (reason : PrimeReason) (realizedPnlUsd : Usd) : World × SettleResult :=
  let tx := settlementRejectionTransaction clock.audit loanId loan reason realizedPnlUsd ""
  match writeLedgerTransaction f.audit w.store tx with
  | (store, .ok) => ({ w with store := store }, .rejected reason true)
  | (store, .caught) => ({ w with store := store }, .rejected reason false)
  | (store, .escapes) => ({ w with store := store }, .raised)

/-- The dispute of a loan whose asset is no longer tracked. When a write raises, the loans
are taken back and the settlement is rejected. -/
def disputeLoan (f : Faults) (clock : Clock) (w : World) (loanId : String) (loan : Loan)
    (realizedPnlUsd : Usd) : World × SettleResult :=
  let disputed := loan.dispute clock.now
  let s : PrimeState :=
    { w.prime with loans := w.prime.loans.set loanId disputed, updatedTsMs := clock.now }
  let tx := disputeTransaction clock.tx disputed .inventoryUntrackedOnSettlement ""
  match persistCommit f ⟨s, w.store⟩ tx false .inventoryUntrackedOnSettlement
      .inventoryUntrackedOnSettlement with
  | (w', .done tx) => (w', .disputed disputed tx)
  | (w', .escaped) => (w', .raised)
  | (w', .failed _ _) =>
    let restored : PrimeState := { w'.prime with loans := w.prime.loans }
    rejectedPayload f clock { w' with prime := finishRollback f restored none } loanId
      (some loan) .inventoryUntrackedOnSettlement realizedPnlUsd

def Book.settled (b : Book) (loanId : String) (loan : Loan) (now : Int) (inventory : Inventory) :
    Book where
  borrowedUsd := max 0 (b.borrowedUsd - loan.notionalUsd)
  familyExposure := b.familyExposure.set loan.family
    (max 0 (b.familyExposure.getD loan.family 0 - loan.notionalUsd))
  capacityUsd := b.capacityUsd
  utilization :=
    utilizationAt (max 0 (b.borrowedUsd - loan.notionalUsd)) (b.capacityLimit none)
  loans := b.loans.set loanId (loan.settle now)
  inventory := inventory

/-- The `try` block of a direct `settle`. -/
def commitSettle (f : Faults) (clock : Clock) (w : World) (loanId : String) (loan : Loan)
    (realizedPnlUsd : Usd) : World × Attempt :=
  let s := w.prime
  let settled := loan.settle clock.now
  let proceed := fun inventory holds =>
    persistCommit f
      ⟨{ s with
          toBook := s.toBook.settled loanId loan clock.now inventory
          updatedTsMs := clock.now }, w.store⟩
      (settlementTransaction clock.tx settled realizedPnlUsd "") holds
      .primeSettlementPersistFailed .primeSettlementJournalWriteFailed
  if loan.asset ≠ "" then
    let inventory := s.inventory.release loan.asset settled.reserved
    if f.inventorySave then proceed inventory true
    else
      (⟨{ s with
          toBook := s.toBook.settled loanId loan clock.now inventory
          updatedTsMs := clock.now }, w.store⟩, .failed false .primeSettlementPersistFailed)
  else proceed s.inventory false

/-- The `except` block of a direct `settle`. -/
def rollbackSettle (f : Faults) (before : PrimeState) (w : World) (loan : Loan)
    (holdsInventory : Bool) (reason : PrimeReason) : World × SettleResult :=
  let restored : PrimeState :=
    { w.prime with toBook := { before.toBook with inventory := w.prime.inventory } }
  let broken := PrimeReason.primeSettlementInventoryRollbackFailed
  if holdsInventory then
    match restored.inventory.reserve loan.asset loan.reserved with
    | none => ({ w with prime := finishRollback f restored (some broken) }, .failed broken)
    | some inventory =>
      let reserved : PrimeState := { restored with inventory := inventory }
      if f.rollbackInventorySave then
        ({ w with prime := finishRollback f reserved none }, .failed reason)
      else ({ w with prime := finishRollback f reserved (some broken) }, .failed broken)
  else ({ w with prime := finishRollback f restored none }, .failed reason)

/-- A direct commit of a settlement whose checks passed. -/
def settleDirect (f : Faults) (clock : Clock) (w : World) (loanId : String) (loan : Loan)
    (realizedPnlUsd : Usd) : World × SettleResult :=
  match commitSettle f clock w loanId loan realizedPnlUsd with
  | (w', .done tx) => (w', .settled (loan.settle clock.now) (pyRound 6 w'.prime.utilization) tx)
  | (w', .failed holds reason) => rollbackSettle f w.prime w' loan holds reason
  | (w', .escaped) => (w', .raised)

def settle (f : Faults) (clock : Clock) (w : World) (loanId : String) (realizedPnlUsd : Usd) :
    World × SettleResult :=
  if ¬ w.prime.stateReady then
    rejectedPayload f clock w loanId none w.prime.unavailableReason realizedPnlUsd
  else
    match w.prime.loans.get? loanId with
    | none => rejectedPayload f clock w loanId none .unknownLoan realizedPnlUsd
    | some loan =>
      if ¬ loan.active then
        rejectedPayload f clock w loanId (some loan) .loanAlreadySettled realizedPnlUsd
      else if decide (loan.asset ≠ "") && !w.prime.inventory.contains loan.asset then
        disputeLoan f clock w loanId loan realizedPnlUsd
      else if w.prime.capacityLimit none ≤ 0 then
        rejectedPayload f clock w loanId (some loan) .primeCapacityUnavailable realizedPnlUsd
      else settleDirect f clock w loanId loan realizedPnlUsd

end SovereignCapital.Prime
