import SovereignCapital.Prime.Allocator

/-! # What a call of the allocator can do

Inversion lemmas, one for each operation: everything an `approve`, an `allocate`, a `settle`
or a commit of the coordinator can leave in the book and in the state history. The proofs
about runs argue from these effects and do not unfold the operations again.
-/

namespace SovereignCapital.Prime

open Decimal

/-! ## Approvals -/

/-- Everything an approval checked. -/
structure Approved (b : Book) (req : PrimeBorrowRequest) (policy : StagePolicy) (notional : Usd)
    (ctx : DecisionContext) (cost : Usd) : Prop where
  notional_eq : req.notionalUsd = .num notional
  context : decisionContext b req policy = some ctx
  confident : policyValue policy.minConfidence (75 / 100) ≤ req.confidence
  capacity_pos : 0 < ctx.primeCapacityUsd
  family_le : ctx.projectedFamilyExposureUsd ≤ ctx.familyCapUsd
  total_le : b.borrowedUsd + notional ≤ ctx.primeCapacityUsd
  tracked : ctx.inventoryTracked = true
  available : notional ≤ ctx.inventoryAvailableUsd
  collateral : ctx.requiredCollateralUsd ≤ ctx.inventoryAvailableUsd + 1 / 10 ^ 9
  cost_eq : cost = internalBorrowCost notional req.horizonMinutes b.utilization

theorem float_eq_some {x : Notional} {q : ℚ} (h : x.float = some q) : x = .num q := by
  cases x with
  | num q' =>
    cases h
    rfl
  | null => cases h
  | unreadable => cases h

variable {b : Book} {req : PrimeBorrowRequest} {policy : StagePolicy} {s : PrimeState}

theorem approve_approved {notional : Usd} {ctx : DecisionContext} {cost : Usd}
    (h : approve b req policy = .approved notional ctx cost) :
    Approved b req policy notional ctx cost := by
  unfold approve at h
  split at h
  · cases h
  · rename_i ctx' hctx
    split at h
    · cases h
    rename_i hconfident
    split at h
    · cases h
    rename_i hcapacity
    split at h
    · cases h
    rename_i hfamily
    split at h
    · cases h
    rename_i q hfloat
    split at h
    · cases h
    rename_i htotal
    split at h
    · cases h
    rename_i htracked
    split at h
    · cases h
    rename_i havailable
    split at h
    · cases h
    rename_i hcollateral
    cases h
    exact
      { notional_eq := float_eq_some hfloat
        context := hctx
        confident := not_lt.1 hconfident
        capacity_pos := not_le.1 hcapacity
        family_le := not_lt.1 hfamily
        total_le := not_lt.1 htotal
        tracked := not_not.1 htracked
        available := not_lt.1 havailable
        collateral := not_lt.1 hcollateral
        cost_eq := rfl }

def grantedLoan (b : Book) (req : PrimeBorrowRequest) (policy : StagePolicy) (clock : Clock) :
    Option Loan :=
  match approve b req policy with
  | .approved notional ctx cost => some (openedLoan req notional ctx cost clock)
  | _ => none

theorem grantedLoan_eq_some {clock : Clock} {loan : Loan}
    (h : grantedLoan b req policy clock = some loan) :
    ∃ notional ctx cost, approve b req policy = .approved notional ctx cost
      ∧ Approved b req policy notional ctx cost ∧ loan = openedLoan req notional ctx cost clock := by
  unfold grantedLoan at h
  split at h
  · rename_i notional ctx cost happrove
    exact ⟨notional, ctx, cost, happrove, approve_approved happrove, (Option.some.inj h).symm⟩
  · cases h

theorem Approved.context_eq {notional : Usd} {ctx : DecisionContext} {cost : Usd}
    (h : Approved b req policy notional ctx cost) :
    ctx.collateral = collateralPolicy notional policy
      ∧ ctx.primeCapacityUsd = pyRound 8 (b.capacityLimit (some policy))
      ∧ (req.asset ≠ "" ∧ b.inventory.contains req.asset = true)
      ∧ ctx.inventoryAvailableUsd = pyRound 8 (b.inventory.snapshot.getD req.asset 0)
      ∧ ctx.requiredCollateralUsd
        = pyRound 8 (collateralPolicy notional policy).requiredCollateralUsd := by
  have hctx := h.context
  have htracked := h.tracked
  unfold decisionContext at hctx
  rw [h.notional_eq] at hctx
  simp only [Notional.floatOrZero, Option.some.injEq] at hctx
  subst hctx
  simp only [Bool.and_eq_true, decide_eq_true_eq, Inventory.snapshot, Dict.contains,
    Dict.get?_mapVal, Option.isSome_map] at htracked
  refine ⟨rfl, rfl, htracked, ?_, rfl⟩
  have hsome : (decide (req.asset ≠ "") && b.inventory.snapshot.contains req.asset) = true := by
    simpa [Inventory.snapshot, Dict.contains] using htracked
  simp only [hsome, if_true]

theorem parseCapacityUsd_getD_nonneg (value : Option ℚ) : 0 ≤ (parseCapacityUsd value).getD 0 := by
  cases hparse : parseCapacityUsd value with
  | none => simp
  | some c => exact (parseCapacityUsd_pos hparse).le

theorem capacityLimit_nonneg (b : Book) (policy : Option StagePolicy) :
    0 ≤ b.capacityLimit policy := by
  simp only [Book.capacityLimit]
  exact parseCapacityUsd_getD_nonneg _

/-- An opened loan holds collateral unless its notional is zero, so the collateral it was
given and the collateral it reserves are the same. -/
theorem openedLoan_reserved (req : PrimeBorrowRequest) (notional : Usd) (ctx : DecisionContext)
    (cost : Usd) (clock : Clock) :
    (openedLoan req notional ctx cost clock).reserved
      = (openedLoan req notional ctx cost clock).collateralReservedUsd := by
  by_cases hzero : pyOr ctx.collateral.requiredCollateralUsd notional = 0
  · have hnotional := (pyOr_eq_zero_iff.1 hzero).2
    show pyOr (pyOr ctx.collateral.requiredCollateralUsd notional) notional = pyOr _ notional
    rw [hzero, hnotional, pyOr_zero_left]
  · exact pyOr_of_ne _ hzero

/-! ## Writes of a direct commit -/

/-- The state history afterwards: as it was, or with one more row, the payload of a memory
with the given book. -/
def HistoryStep (before after : List StatePayload) (b : Book) : Prop :=
  after = before
    ∨ ∃ s : PrimeState, s.toBook = b
        ∧ after = before ++ [stateSnapshotPayloadFromRaw s.rawStatePayload]

theorem recordStateSnapshot_history (snapshot event : Fault) (store : Store) (s : PrimeState) :
    HistoryStep store.snapshots
      (recordStateSnapshot snapshot event store
        (stateSnapshotPayloadFromRaw s.rawStatePayload)).1.snapshots s.toBook := by
  unfold recordStateSnapshot
  cases snapshot with
  | ok => exact Or.inr ⟨s, rfl, rfl⟩
  | caught => exact Or.inl rfl
  | escapes => exact Or.inl rfl

/-- The writes of a direct commit leave the book alone. -/
theorem persistCommit_cases (f : Faults) (w : World) (tx : JournalTx) (holds : Bool)
    (persistFailed journalFailed : PrimeReason) :
    let r := persistCommit f w tx holds persistFailed journalFailed
    r.1.prime.toBook = w.prime.toBook
      ∧ HistoryStep w.store.snapshots r.1.store.snapshots w.prime.toBook
      ∧ (r.2 = .done tx ∨ r.2 = .escaped ∨ r.2 = .failed holds persistFailed
        ∨ r.2 = .failed holds journalFailed) := by
  intro r
  simp only [r, persistCommit]
  by_cases hsave : f.stateSave
  · rw [if_neg (not_not.2 hsave)]
    have hwrite := (writeLedgerTransaction_cases f.ledger w.store tx).1
    rcases hledger : writeLedgerTransaction f.ledger w.store tx with ⟨store, fault⟩
    rw [hledger] at hwrite
    cases fault with
    | caught => exact ⟨rfl, Or.inl hwrite, by simp⟩
    | escapes => exact ⟨rfl, Or.inl hwrite, by simp⟩
    | ok =>
      have hrecord := recordStateSnapshot_history f.snapshot f.event store w.prime.clearUnavailable
      rw [show store.snapshots = w.store.snapshots from hwrite] at hrecord
      rcases hsnapshot : recordStateSnapshot f.snapshot f.event store
          (stateSnapshotPayloadFromRaw w.prime.clearUnavailable.rawStatePayload)
        with ⟨store', fault'⟩
      rw [hsnapshot] at hrecord
      simp only [hsnapshot]
      cases fault' with
      | ok => exact ⟨rfl, hrecord, by simp⟩
      | caught => exact ⟨rfl, hrecord, by simp⟩
      | escapes => exact ⟨rfl, hrecord, by simp⟩
  · rw [if_pos hsave]
    exact ⟨rfl, Or.inl rfl, by simp⟩

theorem persistCommit_failed {f : Faults} {w : World} {tx : JournalTx} {holds holds' : Bool}
    {persistFailed journalFailed reason : PrimeReason}
    (h : (persistCommit f w tx holds persistFailed journalFailed).2 = .failed holds' reason) :
    holds' = holds := by
  obtain ⟨-, -, hresult⟩ := persistCommit_cases f w tx holds persistFailed journalFailed
  rw [h] at hresult
  rcases hresult with h | h | h | h
  · cases h
  · cases h
  · cases h
    rfl
  · cases h
    rfl

@[simp] theorem finishRollback_toBook (f : Faults) (s : PrimeState) (failure : Option PrimeReason) :
    (finishRollback f s failure).toBook = s.toBook := by
  unfold finishRollback
  by_cases hsave : f.rollbackStateSave
  · cases failure <;> simp [hsave]
  · cases failure <;> simp [hsave]

/-! ## Allocate -/

def AllocateResult.isGranted : AllocateResult → Bool
  | .granted .. => true
  | _ => false

/-- The ways through `allocate`. -/
inductive AllocatePath (coordinated : Bool) (f : Faults) (clock : Clock) (w : World)
    (req : PrimeBorrowRequest) (policy : StagePolicy) : World × AllocateResult → Prop
  | denied (reason : PrimeReason)
      (refused : w.prime.stateReady = false
        ∨ grantedLoan w.prime.toBook req policy clock = none) :
      AllocatePath coordinated f clock w req policy (deniedPayload f clock w req policy reason)
  /-- the notional could not be read -/
  | unreadable (refused : grantedLoan w.prime.toBook req policy clock = none) :
      AllocatePath coordinated f clock w req policy (w, .raised)
  | unprepared (loan : Loan) (reason : PrimeReason) (ready : w.prime.stateReady = true)
      (grant : grantedLoan w.prime.toBook req policy clock = some loan)
      (unprepared : prepareOpenTransition w.prime policy loan clock = .error reason) :
      AllocatePath coordinated f clock w req policy (w, .denied reason none)
  | uncommitted (loan : Loan) (transition : OpenTransition) (r : AllocateResult)
      (isCoordinated : coordinated = true) (ready : w.prime.stateReady = true)
      (grant : grantedLoan w.prime.toBook req policy clock = some loan)
      (prepared : prepareOpenTransition w.prime policy loan clock = .ok transition)
      (fault : f.commit ≠ .ok) (result : r.isGranted = false) :
      AllocatePath coordinated f clock w req policy (w, r)
  | committed (loan : Loan) (transition : OpenTransition)
      (isCoordinated : coordinated = true) (ready : w.prime.stateReady = true)
      (grant : grantedLoan w.prime.toBook req policy clock = some loan)
      (prepared : prepareOpenTransition w.prime policy loan clock = .ok transition)
      (committed : f.commit = .ok) :
      AllocatePath coordinated f clock w req policy ((commitInternalPrimeOpen f w transition).1,
        .granted loan transition.utilization transition.journalTx)
  | direct (loan : Loan) (transition : OpenTransition)
      (isDirect : coordinated = false) (ready : w.prime.stateReady = true)
      (grant : grantedLoan w.prime.toBook req policy clock = some loan)
      (prepared : prepareOpenTransition w.prime policy loan clock = .ok transition) :
      AllocatePath coordinated f clock w req policy (allocateDirect f clock w policy loan)

theorem allocate_path (coordinated : Bool) (f : Faults) (clock : Clock) (w : World)
    (req : PrimeBorrowRequest) (policy : StagePolicy) :
    AllocatePath coordinated f clock w req policy (allocate coordinated f clock w req policy) := by
  unfold allocate
  split
  · rename_i hready
    exact .denied _ (Or.inl (by simpa using hready))
  rename_i hready
  have hready : w.prime.stateReady = true := not_not.1 hready
  cases happrove : approve w.prime.toBook req policy with
  | raised => exact .unreadable (by rw [grantedLoan, happrove])
  | denied reason => exact .denied reason (Or.inr (by rw [grantedLoan, happrove]))
  | approved notional ctx cost =>
    have hgrant : grantedLoan w.prime.toBook req policy clock
        = some (openedLoan req notional ctx cost clock) := by
      rw [grantedLoan, happrove]
    simp only
    cases hprepare : prepareOpenTransition w.prime policy (openedLoan req notional ctx cost clock)
        clock with
    | error reason => exact .unprepared _ reason hready hgrant hprepare
    | ok transition =>
      cases coordinated with
      | false => exact .direct _ transition rfl hready hgrant hprepare
      | true =>
        have hcommitted := @AllocatePath.committed true f clock w req policy _ transition
          rfl hready hgrant hprepare
        simp only [if_true]
        cases hcommit : f.commit with
        | caught =>
          simp only [commitInternalPrimeOpen, hcommit]
          exact .uncommitted _ transition _ rfl hready hgrant hprepare (by simp [hcommit]) rfl
        | escapes =>
          simp only [commitInternalPrimeOpen, hcommit]
          exact .uncommitted _ transition _ rfl hready hgrant hprepare (by simp [hcommit]) rfl
        | ok =>
          have hresult := hcommitted hcommit
          simp only [commitInternalPrimeOpen, hcommit] at hresult ⊢
          exact hresult

inductive AllocateEffect (coordinated : Bool) (f : Faults) (clock : Clock) (w : World)
    (req : PrimeBorrowRequest) (policy : StagePolicy) (w' : World) (r : AllocateResult) : Prop
  /-- nothing -/
  | kept (result : r.isGranted = false) (book : w'.prime.toBook = w.prime.toBook)
      (history : w'.store.snapshots = w.store.snapshots)
  /-- the collateral was taken, its file could not be written and it was not given back -/
  | leaked (loan : Loan) (inventory : Inventory) (result : r.isGranted = false)
      (direct : coordinated = false) (unsaved : f.inventorySave = false)
      (grant : grantedLoan w.prime.toBook req policy clock = some loan)
      (reserve : w.prime.inventory.reserve loan.asset loan.reserved = some inventory)
      (book : w'.prime.toBook = { w.prime.toBook with inventory := inventory })
      (history : w'.store.snapshots = w.store.snapshots)
  /-- the collateral was taken and given back, everything else was restored -/
  | restored (loan : Loan) (inventory : Inventory) (result : r.isGranted = false)
      (direct : coordinated = false)
      (grant : grantedLoan w.prime.toBook req policy clock = some loan)
      (reserve : w.prime.inventory.reserve loan.asset loan.reserved = some inventory)
      (book : w'.prime.toBook = { w.prime.toBook with
        inventory := inventory.release loan.asset loan.reserved })
      (history : HistoryStep w.store.snapshots w'.store.snapshots
        (w.prime.toBook.opened loan (w.prime.capacityLimit (some policy)) inventory))
  /-- the loan was opened; an exception may have escaped afterwards -/
  | opened (loan : Loan) (inventory : Inventory) (direct : coordinated = false)
      (grant : grantedLoan w.prime.toBook req policy clock = some loan)
      (reserve : w.prime.inventory.reserve loan.asset loan.reserved = some inventory)
      (book : w'.prime.toBook
        = w.prime.toBook.opened loan (w.prime.capacityLimit (some policy)) inventory)
      (history : HistoryStep w.store.snapshots w'.store.snapshots w'.prime.toBook)
  /-- the coordinator committed the prepared transition -/
  | adopted (loan : Loan) (transition : OpenTransition) (isCoordinated : coordinated = true)
      (committed : f.commit = .ok)
      (grant : grantedLoan w.prime.toBook req policy clock = some loan)
      (prepared : prepareOpenTransition w.prime policy loan clock = .ok transition)
      (book : w'.prime.toBook = (adoptStatePayload transition.stateSnapshot).toBook)
      (history : w'.store.snapshots = w.store.snapshots ++ [transition.stateSnapshot])

theorem adoptMirrored_toBook (payload : StatePayload) (saved : Bool) :
    (adoptMirrored payload saved).toBook = (adoptStatePayload payload).toBook := by
  unfold adoptMirrored
  cases saved <;> simp

theorem deniedPayload_kept (f : Faults) (clock : Clock) (w : World) (req : PrimeBorrowRequest)
    (policy : StagePolicy) (reason : PrimeReason) :
    let r := deniedPayload f clock w req policy reason
    r.2.isGranted = false ∧ r.1.prime = w.prime ∧ r.1.store.snapshots = w.store.snapshots := by
  intro r
  simp only [r, deniedPayload]
  split
  · rename_i ctx notional _ _
    have hwrite := (writeLedgerTransaction_cases f.audit w.store
      (decisionTransaction clock.audit req ctx notional reason)).1
    split
    · rename_i heq
      rw [heq] at hwrite
      exact ⟨rfl, rfl, hwrite⟩
    · rename_i heq
      rw [heq] at hwrite
      exact ⟨rfl, rfl, hwrite⟩
    · rename_i heq
      rw [heq] at hwrite
      exact ⟨rfl, rfl, hwrite⟩
  · exact ⟨rfl, rfl, rfl⟩

/-- A direct commit of a granted loan: its reservation failed, its inventory file did, or the
writes began with the loan in the book. -/
theorem commitOpen_cases (f : Faults) (clock : Clock) (w : World) (loan : Loan) (capacity : Usd)
    (htracked : w.prime.inventory.contains loan.asset = true) :
    let r := commitOpen f clock w loan capacity
    (r.1 = w ∧ r.2 = .failed false .inventoryInsufficient)
      ∨ ∃ inventory, w.prime.inventory.reserve loan.asset loan.reserved = some inventory
        ∧ ((f.inventorySave = false
            ∧ r.1.prime.toBook = { w.prime.toBook with inventory := inventory }
            ∧ r.1.store = w.store ∧ r.2 = .failed false .primeStatePersistFailed)
          ∨ (f.inventorySave = true
            ∧ r.1.prime.toBook = w.prime.toBook.opened loan capacity inventory
            ∧ HistoryStep w.store.snapshots r.1.store.snapshots r.1.prime.toBook
            ∧ (r.2 = .done (openTransaction clock.tx loan) ∨ r.2 = .escaped
              ∨ r.2 = .failed true .primeStatePersistFailed
              ∨ r.2 = .failed true .primeJournalWriteFailed))) := by
  intro r
  simp only [r, commitOpen, htracked, if_true]
  cases hreserve : w.prime.inventory.reserve loan.asset loan.reserved with
  | none => exact Or.inl ⟨rfl, rfl⟩
  | some inventory =>
    refine Or.inr ⟨inventory, rfl, ?_⟩
    by_cases hsave : f.inventorySave
    · right
      simp only [hsave, if_true]
      obtain ⟨hbook, hhistory, hresult⟩ := persistCommit_cases f
        ⟨{ w.prime with
            toBook := w.prime.toBook.opened loan capacity inventory
            updatedTsMs := loan.openedTsMs }, w.store⟩
        (openTransaction clock.tx loan) true .primeStatePersistFailed .primeJournalWriteFailed
      exact ⟨trivial, hbook, hbook ▸ hhistory, hresult⟩
    · left
      simp [hsave]

/-- The rollback of a direct `allocate` restores the book but for the inventory. -/
theorem rollbackOpen_cases (f : Faults) (before : PrimeState) (w : World) (loan : Loan)
    (holds : Bool) (reason : PrimeReason) :
    let r := rollbackOpen f before w loan holds reason
    r.2.isGranted = false ∧ r.1.store = w.store
      ∧ r.1.prime.toBook = { before.toBook with
          inventory := if holds then w.prime.inventory.release loan.asset loan.reserved
            else w.prime.inventory } := by
  intro r
  simp only [r, rollbackOpen]
  cases holds with
  | false => exact ⟨rfl, rfl, by simp⟩
  | true =>
    simp only [if_true]
    split
    · exact ⟨rfl, rfl, by simp⟩
    · exact ⟨rfl, rfl, by simp⟩

theorem allocateDirect_effect {f : Faults} {clock : Clock} {w : World} {loan : Loan}
    (hgrant : grantedLoan w.prime.toBook req policy clock = some loan) :
    AllocateEffect false f clock w req policy (allocateDirect f clock w policy loan).1
      (allocateDirect f clock w policy loan).2 := by
  have htracked : w.prime.inventory.contains loan.asset = true := by
    obtain ⟨notional, ctx, cost, -, happroved, rfl⟩ := grantedLoan_eq_some hgrant
    exact happroved.context_eq.2.2.1.2
  have hcases := commitOpen_cases f clock w loan (w.prime.capacityLimit (some policy)) htracked
  simp only [allocateDirect]
  rcases hcommit : commitOpen f clock w loan (w.prime.capacityLimit (some policy)) with ⟨w', attempt⟩
  rw [hcommit] at hcases
  rcases hcases with ⟨hw, hattempt⟩ | ⟨inventory, hreserve, ⟨hsave, hbook, hstore, hattempt⟩ |
    ⟨hsave, hbook, hhistory, hattempt⟩⟩
  · rw [show w' = w from hw, show attempt = _ from hattempt]
    obtain ⟨hresult, hstore, hrestored⟩ :=
      rollbackOpen_cases f w.prime w loan false .inventoryInsufficient
    exact .kept hresult hrestored (by rw [hstore])
  · simp only at hattempt
    subst hattempt
    obtain ⟨hresult, hstore', hrestored⟩ :=
      rollbackOpen_cases f w.prime w' loan false .primeStatePersistFailed
    refine .leaked loan inventory hresult rfl hsave hgrant hreserve ?_ (by rw [hstore', hstore])
    have hinventory : w'.prime.inventory = inventory := by
      rw [show w'.prime.toBook = _ from hbook]
    rw [hrestored]
    simp only [Bool.false_eq_true, if_false, hinventory]
  · have hinventory : w'.prime.inventory = inventory := by
      rw [show w'.prime.toBook = _ from hbook]
      rfl
    -- Once the writes began, a handled exception gives the collateral back.
    have hrolled : ∀ reason, attempt = .failed true reason →
        AllocateEffect false f clock w req policy (rollbackOpen f w.prime w' loan true reason).1
          (rollbackOpen f w.prime w' loan true reason).2 := by
      intro reason _
      obtain ⟨hresult, hstore', hrestored⟩ := rollbackOpen_cases f w.prime w' loan true reason
      refine .restored loan inventory hresult rfl hgrant hreserve ?_ ?_
      · rw [hrestored]
        simp only [if_true, hinventory]
      · rw [hstore', ← hbook]
        exact hhistory
    simp only at hattempt
    rcases hattempt with h | h | h | h
    · subst h
      exact .opened loan inventory rfl hgrant hreserve hbook hhistory
    · subst h
      exact .opened loan inventory rfl hgrant hreserve hbook hhistory
    · have heffect := hrolled _ h
      subst h
      exact heffect
    · have heffect := hrolled _ h
      subst h
      exact heffect

/-- **Everything an `allocate` can do.** -/
theorem allocate_effect (coordinated : Bool) (f : Faults) (clock : Clock) (w : World)
    (req : PrimeBorrowRequest) (policy : StagePolicy) :
    AllocateEffect coordinated f clock w req policy (allocate coordinated f clock w req policy).1
      (allocate coordinated f clock w req policy).2 := by
  have hpath := allocate_path coordinated f clock w req policy
  generalize allocate coordinated f clock w req policy = result at hpath
  cases hpath with
  | denied reason _ =>
    obtain ⟨hresult, hprime, hhistory⟩ := deniedPayload_kept f clock w req policy reason
    exact .kept hresult (by rw [hprime]) hhistory
  | unreadable _ => exact .kept rfl rfl rfl
  | unprepared loan reason _ grant _ => exact .kept rfl rfl rfl
  | uncommitted loan transition r _ _ _ _ _ result => exact .kept result rfl rfl
  | committed loan transition isCoordinated _ grant prepared committed =>
    refine .adopted loan transition isCoordinated committed grant prepared ?_ ?_
    · simp only [commitInternalPrimeOpen, committed]
      exact adoptMirrored_toBook _ _
    · simp only [commitInternalPrimeOpen, committed]
  | direct loan transition isDirect _ grant _ =>
    subst isDirect
    exact allocateDirect_effect grant

/-! ## Settle -/

/-- The settlement went through. -/
def SettleResult.isSettled : SettleResult → Bool
  | .settled .. => true
  | _ => false

/-- The inventory once the collateral of a settled loan was given back. -/
def Book.releaseFor (b : Book) (loan : Loan) : Inventory :=
  if loan.asset ≠ "" then b.inventory.release loan.asset loan.reserved else b.inventory

/-- The loan a settlement takes out of the book: an active one, its asset still tracked, under
a capacity. -/
def PrimeState.settlingLoan (s : PrimeState) (loanId : String) : Option Loan :=
  match s.loans.get? loanId with
  | none => none
  | some loan =>
    if s.stateReady && loan.active && (decide (loan.asset = "") || s.inventory.contains loan.asset)
        && decide (0 < s.capacityLimit none) then
      some loan
    else none

theorem settlingLoan_eq_some_iff {loanId : String} {loan : Loan} :
    s.settlingLoan loanId = some loan
      ↔ s.loans.get? loanId = some loan ∧ s.stateReady = true ∧ loan.active = true
        ∧ (loan.asset = "" ∨ s.inventory.contains loan.asset = true)
        ∧ 0 < s.capacityLimit none := by
  unfold PrimeState.settlingLoan
  cases s.loans.get? loanId with
  | none => simp
  | some found =>
    simp only [Bool.and_eq_true, Bool.or_eq_true, decide_eq_true_eq, Option.some.injEq]
    constructor
    · intro h
      split at h
      · rename_i hsettling
        cases h
        obtain ⟨⟨⟨hready, hactive⟩, hasset⟩, hcapacity⟩ := hsettling
        exact ⟨rfl, hready, hactive, hasset, hcapacity⟩
      · cases h
    · rintro ⟨rfl, hready, hactive, hasset, hcapacity⟩
      rw [if_pos ⟨⟨⟨hready, hactive⟩, hasset⟩, hcapacity⟩]

theorem settlingLoan_eq_none {loanId : String}
    (h : ∀ loan, s.loans.get? loanId = some loan → s.stateReady = true → loan.active = true →
      0 < s.capacityLimit none → False) :
    s.settlingLoan loanId = none := by
  rw [Option.eq_none_iff_forall_ne_some]
  intro loan hloan
  obtain ⟨hfound, hready, hactive, -, hcapacity⟩ := settlingLoan_eq_some_iff.1 hloan
  exact h loan hfound hready hactive hcapacity

structure FindsUntracked (s : PrimeState) (loanId : String) (loan : Loan) : Prop where
  found : s.loans.get? loanId = some loan
  active : loan.active = true
  asset_ne : loan.asset ≠ ""
  untracked : s.inventory.contains loan.asset = false

theorem FindsUntracked.not_settling {loanId : String} {loan : Loan}
    (h : FindsUntracked s loanId loan) (loan' : Loan) : s.settlingLoan loanId ≠ some loan' := by
  intro hsettling
  obtain ⟨hfound, -, -, hasset, -⟩ := settlingLoan_eq_some_iff.1 hsettling
  rw [h.found] at hfound
  cases hfound
  rcases hasset with hasset | htracked
  · exact h.asset_ne hasset
  · rw [h.untracked] at htracked
    cases htracked

/-- The ways through `settle`. -/
inductive SettlePath (f : Faults) (clock : Clock) (w : World) (loanId : String)
    (realizedPnlUsd : Usd) : World × SettleResult → Prop
  | rejected (loan : Option Loan) (reason : PrimeReason)
      (about : w.prime.stateReady = true → w.prime.loans.get? loanId = loan)
      (settling : w.prime.settlingLoan loanId = none)
      (cause : w.prime.stateReady = false ∨ ∀ loan, ¬ FindsUntracked w.prime loanId loan) :
      SettlePath f clock w loanId realizedPnlUsd
        (rejectedPayload f clock w loanId loan reason realizedPnlUsd)
  | disputed (loan : Loan) (ready : w.prime.stateReady = true)
      (finds : FindsUntracked w.prime loanId loan) :
      SettlePath f clock w loanId realizedPnlUsd
        (disputeLoan f clock w loanId loan realizedPnlUsd)
  | direct (loan : Loan) (settling : w.prime.settlingLoan loanId = some loan) :
      SettlePath f clock w loanId realizedPnlUsd
        (settleDirect f clock w loanId loan realizedPnlUsd)

theorem settle_path (f : Faults) (clock : Clock) (w : World) (loanId : String)
    (realizedPnlUsd : Usd) :
    SettlePath f clock w loanId realizedPnlUsd (settle f clock w loanId realizedPnlUsd) := by
  unfold settle
  split
  · rename_i hready
    have hready : w.prime.stateReady = false := by simpa using hready
    exact .rejected _ _ (fun h => by simp [hready] at h)
      (settlingLoan_eq_none fun _ _ h _ _ => by simp [hready] at h) (Or.inl hready)
  rename_i hready
  have hready : w.prime.stateReady = true := not_not.1 hready
  cases hfound : w.prime.loans.get? loanId with
  | none =>
    refine .rejected _ _ (fun _ => hfound) (settlingLoan_eq_none fun _ h _ _ _ => ?_)
      (Or.inr fun loan h => ?_)
    · rw [hfound] at h
      cases h
    · rw [h.found] at hfound
      cases hfound
  | some loan =>
    have hsame : ∀ loan', w.prime.loans.get? loanId = some loan' → loan' = loan := by
      intro loan' h
      rw [hfound] at h
      exact (Option.some.inj h).symm
    simp only
    split
    · rename_i hactive
      refine .rejected _ _ (fun _ => hfound) (settlingLoan_eq_none fun loan' h _ h' _ => ?_)
        (Or.inr fun loan' h => ?_)
      · rw [hsame loan' h] at h'
        exact hactive h'
      · have h' := h.active
        rw [hsame loan' h.found] at h'
        exact hactive h'
    rename_i hactive
    have hactive : loan.active = true := not_not.1 hactive
    by_cases huntracked : loan.asset ≠ "" ∧ w.prime.inventory.contains loan.asset = false
    · rw [if_pos (by simp [huntracked])]
      exact .disputed loan hready ⟨hfound, hactive, huntracked.1, huntracked.2⟩
    · have htracked : loan.asset = "" ∨ w.prime.inventory.contains loan.asset = true := by
        by_cases hasset : loan.asset = ""
        · exact Or.inl hasset
        · right
          cases hcontains : w.prime.inventory.contains loan.asset with
          | false => exact absurd ⟨hasset, hcontains⟩ huntracked
          | true => rfl
      have hnot : ¬ (decide (loan.asset ≠ "") && !w.prime.inventory.contains loan.asset) = true := by
        rcases htracked with hasset | hcontains
        · simp [hasset]
        · simp [hcontains]
      rw [if_neg hnot]
      split
      · rename_i hcapacity
        refine .rejected _ _ (fun _ => hfound)
          (settlingLoan_eq_none fun _ _ _ _ h => absurd h (not_lt.2 hcapacity))
          (Or.inr fun loan' h => ?_)
        have hasset := h.asset_ne
        have hcontains := h.untracked
        rw [hsame loan' h.found] at hasset hcontains
        exact huntracked ⟨hasset, hcontains⟩
      · rename_i hcapacity
        exact .direct loan (settlingLoan_eq_some_iff.2
          ⟨hfound, hready, hactive, htracked, not_le.1 hcapacity⟩)

section SettleWays

variable {f : Faults} {clock : Clock} {w : World} {loanId : String} {realizedPnlUsd : Usd}
  {loan : Loan}

theorem settle_of_settling (hsettling : w.prime.settlingLoan loanId = some loan) :
    settle f clock w loanId realizedPnlUsd = settleDirect f clock w loanId loan realizedPnlUsd := by
  have hpath := settle_path f clock w loanId realizedPnlUsd
  generalize settle f clock w loanId realizedPnlUsd = r at hpath
  cases hpath with
  | rejected _ _ _ settling _ =>
    rw [hsettling] at settling
    cases settling
  | disputed _ _ finds => exact absurd hsettling (finds.not_settling loan)
  | direct _ settling =>
    rw [hsettling] at settling
    cases settling
    rfl

theorem settle_of_untracked (hready : w.prime.stateReady = true)
    (hfinds : FindsUntracked w.prime loanId loan) :
    settle f clock w loanId realizedPnlUsd = disputeLoan f clock w loanId loan realizedPnlUsd := by
  have hpath := settle_path f clock w loanId realizedPnlUsd
  generalize settle f clock w loanId realizedPnlUsd = r at hpath
  cases hpath with
  | rejected _ _ _ _ cause =>
    rcases cause with hnot | hnone
    · rw [hready] at hnot
      cases hnot
    · exact absurd hfinds (hnone loan)
  | disputed _ _ finds =>
    have hfound := hfinds.found
    rw [finds.found] at hfound
    cases hfound
    rfl
  | direct loan' settling => exact absurd settling (hfinds.not_settling loan')

theorem settle_of_rejected (hsettling : w.prime.settlingLoan loanId = none)
    (hcause : w.prime.stateReady = false ∨ ∀ loan, ¬ FindsUntracked w.prime loanId loan) :
    ∃ loan reason, settle f clock w loanId realizedPnlUsd
      = rejectedPayload f clock w loanId loan reason realizedPnlUsd := by
  have hpath := settle_path f clock w loanId realizedPnlUsd
  generalize settle f clock w loanId realizedPnlUsd = r at hpath
  cases hpath with
  | rejected loan reason _ _ _ => exact ⟨loan, reason, rfl⟩
  | disputed loan ready finds =>
    rcases hcause with hnot | hnone
    · rw [ready] at hnot
      cases hnot
    · exact absurd finds (hnone loan)
  | direct _ settling =>
    rw [hsettling] at settling
    cases settling

end SettleWays

/-- Everything a `settle` can do to the book and the state history. -/
inductive SettleEffect (f : Faults) (clock : Clock) (w : World) (loanId : String) (w' : World) :
    Prop
  /-- nothing -/
  | kept (book : w'.prime.toBook = w.prime.toBook)
      (history : w'.store.snapshots = w.store.snapshots)
  /-- the loan was marked disputed and the mark was taken back -/
  | undisputed (loan : Loan) (found : w.prime.loans.get? loanId = some loan)
      (active : loan.active = true) (book : w'.prime.toBook = w.prime.toBook)
      (history : HistoryStep w.store.snapshots w'.store.snapshots
        { w.prime.toBook with loans := w.prime.loans.set loanId (loan.dispute clock.now) })
  /-- the loan was marked disputed -/
  | disputed (loan : Loan) (found : w.prime.loans.get? loanId = some loan)
      (active : loan.active = true)
      (book : w'.prime.toBook
        = { w.prime.toBook with loans := w.prime.loans.set loanId (loan.dispute clock.now) })
      (history : HistoryStep w.store.snapshots w'.store.snapshots w'.prime.toBook)
  /-- everything was restored but the inventory: its file was not written, or the collateral
  could not be taken again -/
  | leaked (loan : Loan) (settling : w.prime.settlingLoan loanId = some loan)
      (cause : f.inventorySave = false
        ∨ (w.prime.toBook.releaseFor loan).reserve loan.asset loan.reserved = none)
      (book : w'.prime.toBook
        = { w.prime.toBook with inventory := w.prime.toBook.releaseFor loan })
      (history : HistoryStep w.store.snapshots w'.store.snapshots
        (w.prime.toBook.settled loanId loan clock.now (w.prime.toBook.releaseFor loan)))
  /-- the collateral was given back and taken again, everything else was restored -/
  | restored (loan : Loan) (inventory : Inventory)
      (settling : w.prime.settlingLoan loanId = some loan)
      (reserve : (w.prime.toBook.releaseFor loan).reserve loan.asset loan.reserved = some inventory)
      (book : w'.prime.toBook = { w.prime.toBook with inventory := inventory })
      (history : HistoryStep w.store.snapshots w'.store.snapshots
        (w.prime.toBook.settled loanId loan clock.now (w.prime.toBook.releaseFor loan)))
  /-- a loan without an asset was settled and everything was restored -/
  | reverted (loan : Loan) (settling : w.prime.settlingLoan loanId = some loan)
      (book : w'.prime.toBook = w.prime.toBook)
      (history : HistoryStep w.store.snapshots w'.store.snapshots
        (w.prime.toBook.settled loanId loan clock.now (w.prime.toBook.releaseFor loan)))
  /-- the loan was settled; an exception may have escaped afterwards -/
  | settled (loan : Loan) (settling : w.prime.settlingLoan loanId = some loan)
      (book : w'.prime.toBook
        = w.prime.toBook.settled loanId loan clock.now (w.prime.toBook.releaseFor loan))
      (history : HistoryStep w.store.snapshots w'.store.snapshots w'.prime.toBook)

theorem rejectedPayload_kept (f : Faults) (clock : Clock) (w : World) (loanId : String)
    (loan : Option Loan) (reason : PrimeReason) (realizedPnlUsd : Usd) :
    let r := rejectedPayload f clock w loanId loan reason realizedPnlUsd
    r.1.prime = w.prime ∧ r.1.store.snapshots = w.store.snapshots := by
  intro r
  have hwrite := (writeLedgerTransaction_cases f.audit w.store
    (settlementRejectionTransaction clock.audit loanId loan reason realizedPnlUsd "")).1
  simp only [r, rejectedPayload]
  rcases hledger : writeLedgerTransaction f.audit w.store _ with ⟨store, fault⟩
  rw [hledger] at hwrite
  cases fault with
  | ok => exact ⟨rfl, hwrite⟩
  | caught => exact ⟨rfl, hwrite⟩
  | escapes => exact ⟨rfl, hwrite⟩

theorem disputeLoan_effect (f : Faults) (clock : Clock) {w : World} {loanId : String} {loan : Loan}
    (hfound : w.prime.loans.get? loanId = some loan) (hactive : loan.active = true)
    (realizedPnlUsd : Usd) :
    SettleEffect f clock w loanId (disputeLoan f clock w loanId loan realizedPnlUsd).1 := by
  obtain ⟨hbook, hhistory, -⟩ := persistCommit_cases f
    ⟨{ w.prime with
        loans := w.prime.loans.set loanId (loan.dispute clock.now), updatedTsMs := clock.now },
      w.store⟩
    (disputeTransaction clock.tx (loan.dispute clock.now) .inventoryUntrackedOnSettlement "")
    false .inventoryUntrackedOnSettlement .inventoryUntrackedOnSettlement
  simp only [disputeLoan]
  rcases hcommit : persistCommit f _ _ false .inventoryUntrackedOnSettlement
    .inventoryUntrackedOnSettlement with ⟨w', attempt⟩
  rw [hcommit] at hbook hhistory
  cases attempt with
  | done tx => exact .disputed loan hfound hactive hbook (by rw [hbook]; exact hhistory)
  | escaped => exact .disputed loan hfound hactive hbook (by rw [hbook]; exact hhistory)
  | failed holds reason =>
    obtain ⟨hprime, hstore⟩ := rejectedPayload_kept f clock
      { w' with prime := finishRollback f { w'.prime with loans := w.prime.loans } none } loanId
      (some loan) .inventoryUntrackedOnSettlement realizedPnlUsd
    refine .undisputed loan hfound hactive ?_ ?_
    · rw [hprime, finishRollback_toBook]
      show ({ w'.prime.toBook with loans := w.prime.loans } : Book) = w.prime.toBook
      rw [show w'.prime.toBook = _ from hbook]
    · rw [hstore]
      exact hhistory

/-- A direct commit of a settlement: its inventory file was not written, or the writes began
with the loan settled in the book. -/
theorem commitSettle_cases (f : Faults) (clock : Clock) (w : World) (loanId : String) (loan : Loan)
    (realizedPnlUsd : Usd) :
    let r := commitSettle f clock w loanId loan realizedPnlUsd
    r.1.prime.toBook = w.prime.toBook.settled loanId loan clock.now (w.prime.toBook.releaseFor loan)
      ∧ HistoryStep w.store.snapshots r.1.store.snapshots r.1.prime.toBook
      ∧ ∀ holds reason, r.2 = .failed holds reason →
          (holds = true ∧ loan.asset ≠ "")
          ∨ (holds = false ∧ (loan.asset = "" ∨ f.inventorySave = false)) := by
  intro r
  simp only [r, commitSettle, Book.releaseFor]
  have hpersist := fun inventory holds => persistCommit_cases f
    ⟨{ w.prime with
        toBook := w.prime.toBook.settled loanId loan clock.now inventory
        updatedTsMs := clock.now }, w.store⟩
    (settlementTransaction clock.tx (loan.settle clock.now) realizedPnlUsd "") holds
    .primeSettlementPersistFailed .primeSettlementJournalWriteFailed
  by_cases hasset : loan.asset = ""
  · obtain ⟨hbook, hhistory, -⟩ := hpersist w.prime.inventory false
    rw [if_neg (not_not.2 hasset), if_neg (not_not.2 hasset)]
    exact ⟨hbook, hbook ▸ hhistory, fun holds reason hfailed =>
      Or.inr ⟨persistCommit_failed hfailed, Or.inl hasset⟩⟩
  · rw [if_pos hasset, if_pos hasset]
    by_cases hsave : f.inventorySave
    · obtain ⟨hbook, hhistory, -⟩ :=
        hpersist (w.prime.inventory.release loan.asset loan.reserved) true
      rw [if_pos hsave]
      exact ⟨hbook, hbook ▸ hhistory, fun holds reason hfailed =>
        Or.inl ⟨persistCommit_failed hfailed, hasset⟩⟩
    · rw [if_neg hsave]
      refine ⟨rfl, Or.inl rfl, ?_⟩
      intro holds reason hfailed
      cases hfailed
      exact Or.inr ⟨rfl, Or.inr (by simpa using hsave)⟩

/-- The rollback of a direct `settle` restores the book but for the inventory. -/
theorem rollbackSettle_cases (f : Faults) (before : PrimeState) (w : World) (loan : Loan)
    (holds : Bool) (reason : PrimeReason) :
    let r := rollbackSettle f before w loan holds reason
    r.1.store = w.store
      ∧ ((holds = false
          ∧ r.1.prime.toBook = { before.toBook with inventory := w.prime.inventory })
        ∨ (holds = true ∧ w.prime.inventory.reserve loan.asset loan.reserved = none
          ∧ r.1.prime.toBook = { before.toBook with inventory := w.prime.inventory })
        ∨ ∃ inventory, holds = true
          ∧ w.prime.inventory.reserve loan.asset loan.reserved = some inventory
          ∧ r.1.prime.toBook = { before.toBook with inventory := inventory }) := by
  intro r
  simp only [r, rollbackSettle]
  cases holds with
  | false => exact ⟨rfl, Or.inl ⟨rfl, by simp⟩⟩
  | true =>
    simp only [if_true]
    cases hreserve : w.prime.inventory.reserve loan.asset loan.reserved with
    | none => exact ⟨rfl, Or.inr (Or.inl ⟨trivial, rfl, by simp⟩)⟩
    | some inventory =>
      simp only
      split
      · exact ⟨rfl, Or.inr (Or.inr ⟨inventory, trivial, rfl, by simp⟩)⟩
      · exact ⟨rfl, Or.inr (Or.inr ⟨inventory, trivial, rfl, by simp⟩)⟩

theorem settleDirect_effect {f : Faults} {clock : Clock} {w : World} {loanId : String}
    {loan : Loan} (hsettling : w.prime.settlingLoan loanId = some loan) (realizedPnlUsd : Usd) :
    SettleEffect f clock w loanId (settleDirect f clock w loanId loan realizedPnlUsd).1 := by
  obtain ⟨hbook, hhistory, hfailed⟩ := commitSettle_cases f clock w loanId loan realizedPnlUsd
  simp only [settleDirect]
  rcases hcommit : commitSettle f clock w loanId loan realizedPnlUsd with ⟨w', attempt⟩
  rw [hcommit] at hbook hhistory hfailed
  cases attempt with
  | done tx => exact .settled loan hsettling hbook hhistory
  | escaped => exact .settled loan hsettling hbook hhistory
  | failed holds reason =>
    have hinventory : w'.prime.inventory = w.prime.toBook.releaseFor loan := by
      rw [show w'.prime.toBook = _ from hbook]
      rfl
    have hhistory' : HistoryStep w.store.snapshots w'.store.snapshots
        (w.prime.toBook.settled loanId loan clock.now (w.prime.toBook.releaseFor loan)) :=
      hbook ▸ hhistory
    obtain ⟨hstore, hrolled⟩ := rollbackSettle_cases f w.prime w' loan holds reason
    rw [hinventory] at hrolled
    rw [← hstore] at hhistory'
    rcases hrolled with ⟨hholds, hrestored⟩ | ⟨hholds, hreserve, hrestored⟩ |
      ⟨inventory, hholds, hreserve, hrestored⟩
    · rcases hfailed holds reason rfl with ⟨hheld, -⟩ | ⟨-, hasset | hsave⟩
      · rw [hholds] at hheld
        cases hheld
      · refine .reverted loan hsettling ?_ hhistory'
        rw [hrestored]
        simp only [Book.releaseFor, hasset, ne_eq, not_true_eq_false, if_false]
      · exact .leaked loan hsettling (Or.inl hsave) hrestored hhistory'
    · exact .leaked loan hsettling (Or.inr hreserve) hrestored hhistory'
    · exact .restored loan inventory hsettling hreserve hrestored hhistory'

/-- **Everything a `settle` can do.** -/
theorem settle_effect (f : Faults) (clock : Clock) (w : World) (loanId : String)
    (realizedPnlUsd : Usd) :
    SettleEffect f clock w loanId (settle f clock w loanId realizedPnlUsd).1 := by
  have hpath := settle_path f clock w loanId realizedPnlUsd
  generalize settle f clock w loanId realizedPnlUsd = result at hpath
  cases hpath with
  | rejected loan reason _ _ _ =>
    obtain ⟨hprime, hhistory⟩ := rejectedPayload_kept f clock w loanId loan reason realizedPnlUsd
    exact .kept (by rw [hprime]) hhistory
  | disputed loan _ finds =>
    exact disputeLoan_effect f clock finds.found finds.active realizedPnlUsd
  | direct loan settling => exact settleDirect_effect settling realizedPnlUsd

/-! ## Prepared transitions -/

def PrimeState.openRaw (s : PrimeState) (policy : StagePolicy) (loan : Loan) : RawPayload where
  utilization := pyRound 8
    (min 1 (max 0 ((s.borrowedUsd + loan.notionalUsd) / max 1 (s.capacityLimit (some policy)))))
  borrowedUsd := pyRound 8 (s.borrowedUsd + loan.notionalUsd)
  capacityUsd := some (pyRound 8 (s.capacityLimit (some policy)))
  familyExposure := (s.familyExposure.set loan.family
    (s.familyExposure.getD loan.family 0 + loan.notionalUsd)).mapVal (pyRound 8)
  loans := s.loans.set loan.loanId loan
  inventory :=
    if s.inventory.snapshot.contains loan.asset then
      s.inventory.snapshot.set loan.asset
        (pyRound 8 (s.inventory.snapshot.getD loan.asset 0 - loan.collateralReservedUsd))
    else s.inventory.snapshot
  updatedTsMs := loan.openedTsMs
  stateReady := s.stateReady
  stateReasonCode := s.stateReasonCode

theorem prepareOpenTransition_ok {loan : Loan} {clock : Clock} {transition : OpenTransition}
    (h : prepareOpenTransition s policy loan clock = .ok transition) :
    s.stateReady = true ∧ 0 < s.capacityLimit (some policy)
      ∧ transition.stateSnapshot = stateSnapshotPayloadFromRaw (s.openRaw policy loan)
      ∧ transition.journalTx = openTransaction clock.tx loan := by
  unfold prepareOpenTransition at h
  split at h
  · cases h
  rename_i hready
  simp only at h
  split at h
  · cases h
  rename_i hcapacity
  split at h
  · cases h
  cases h
  exact ⟨not_not.1 hready, not_le.1 hcapacity, rfl, rfl⟩

def PrimeState.disputedRaw (s : PrimeState) (loanId : String) (loan : Loan) (now : Int) :
    RawPayload where
  utilization := pyRound 8 s.utilization
  borrowedUsd := pyRound 8 s.borrowedUsd
  capacityUsd := s.capacityUsd.map (pyRound 8)
  familyExposure := s.familyExposure.mapVal (pyRound 8)
  loans := s.loans.set loanId (loan.dispute now)
  inventory := s.inventory.snapshot
  updatedTsMs := now
  stateReady := s.stateReady
  stateReasonCode := s.stateReasonCode

/-- The family exposure a prepared settlement leaves: a family down to nothing is dropped. -/
def Book.exposureAfter (b : Book) (loan : Loan) : Dict String Usd :=
  let exposure := max 0 (b.familyExposure.getD loan.family 0 - loan.notionalUsd)
  if exposure ≤ 1 / 10 ^ 9 then b.familyExposure.erase loan.family
  else b.familyExposure.set loan.family exposure

def PrimeState.settledRaw (s : PrimeState) (loanId : String) (loan : Loan) (now : Int) :
    RawPayload where
  utilization := pyRound 8
    (min 1 (max 0 (max 0 (s.borrowedUsd - loan.notionalUsd) / max 1 (s.capacityLimit none))))
  borrowedUsd := pyRound 8 (max 0 (s.borrowedUsd - loan.notionalUsd))
  capacityUsd := some (pyRound 8 (s.capacityLimit none))
  familyExposure := (s.toBook.exposureAfter loan).mapVal (pyRound 8)
  loans := s.loans.set loanId (loan.settle now)
  inventory :=
    if loan.asset ≠ "" then
      s.inventory.snapshot.set loan.asset
        (pyRound 8 (s.inventory.snapshot.getD loan.asset 0 + (loan.settle now).reserved))
    else s.inventory.snapshot
  updatedTsMs := now
  stateReady := s.stateReady
  stateReasonCode := s.stateReasonCode

/-- Everything `prepare_settlement_transition` can return. -/
inductive PreparedSettlement (s : PrimeState) (loanId : String) (now : Int)
    (t : SettlementTransition) : Prop
  | rejected (result : t.ok = false) (snapshot : t.stateSnapshot = none)
      (settling : s.settlingLoan loanId = none)
      (cause : s.stateReady = false ∨ s.capacityLimit none ≤ 0
        ∨ ∀ loan, ¬ FindsUntracked s loanId loan)
  | disputed (loan : Loan) (ready : s.stateReady = true) (capacity : 0 < s.capacityLimit none)
      (finds : FindsUntracked s loanId loan) (result : t.ok = false)
      (snapshot : t.stateSnapshot
        = some (stateSnapshotPayloadFromRaw (s.disputedRaw loanId loan now)))
  | settled (loan : Loan) (settling : s.settlingLoan loanId = some loan) (result : t.ok = true)
      (snapshot : t.stateSnapshot
        = some (stateSnapshotPayloadFromRaw (s.settledRaw loanId loan now)))

theorem prepareSettlementTransition_cases (s : PrimeState) (loanId : String)
    (realizedPnlUsd : Usd) (receiptId : String) (clock : Clock) :
    PreparedSettlement s loanId clock.now
      (prepareSettlementTransition s loanId realizedPnlUsd receiptId clock) := by
  simp only [prepareSettlementTransition]
  split
  · rename_i hready
    have hready : s.stateReady = false := by simpa using hready
    exact .rejected rfl rfl (settlingLoan_eq_none fun _ _ h _ _ => by simp [hready] at h)
      (Or.inl hready)
  rename_i hready
  have hready : s.stateReady = true := not_not.1 hready
  cases hfound : s.loans.get? loanId with
  | none =>
    refine .rejected rfl rfl (settlingLoan_eq_none fun _ h _ _ _ => ?_) (Or.inr (Or.inr ?_))
    · rw [hfound] at h
      cases h
    · intro loan hfinds
      rw [hfinds.found] at hfound
      cases hfound
  | some loan =>
    simp only
    split
    · rename_i hactive
      refine .rejected rfl rfl (settlingLoan_eq_none fun _ h _ h' _ => ?_) (Or.inr (Or.inr ?_))
      · rw [hfound] at h
        cases h
        exact hactive h'
      · intro loan' hfinds
        rw [hfinds.found] at hfound
        cases hfound
        exact hactive hfinds.active
    rename_i hactive
    have hactive : loan.active = true := not_not.1 hactive
    split
    · rename_i hcapacity
      exact .rejected rfl rfl
        (settlingLoan_eq_none fun _ _ _ _ h => absurd h (not_lt.2 hcapacity))
        (Or.inr (Or.inl hcapacity))
    rename_i hcapacity
    have hcapacity : 0 < s.capacityLimit none := not_le.1 hcapacity
    have hcontains : s.inventory.snapshot.contains loan.asset
        = s.inventory.contains loan.asset := by
      simp [Inventory.snapshot, Dict.contains]
    rw [hcontains]
    split
    · rename_i huntracked
      simp only [Bool.and_eq_true, decide_eq_true_eq, Bool.not_eq_true'] at huntracked
      exact .disputed loan hready hcapacity ⟨hfound, hactive, huntracked.1, huntracked.2⟩ rfl rfl
    · rename_i htracked
      have htracked : loan.asset = "" ∨ s.inventory.contains loan.asset = true := by
        by_cases hasset : loan.asset = ""
        · exact Or.inl hasset
        · exact Or.inr (by simpa [hasset] using htracked)
      exact .settled loan
        (settlingLoan_eq_some_iff.2 ⟨hfound, hready, hactive, htracked, hcapacity⟩) rfl rfl

/-! ## A small stage

A pool of 100 USDC, a policy without haircut and requests of one family, for the cases that
show a behaviour on fixed inputs. -/

def smallPool : Inventory := Dict.empty.set "USDC" 100

def smallPolicy : StagePolicy where
  minConfidence := some (1 / 2)
  primeCapacityUsd := some (some 1000)
  maxDeployablePct := some 1
  familyCapPct := some 1
  maxFamilyPct := none
  collateralEfficiency := some 1
  collateralHaircutPct := none
  minCollateralRatio := some 1

def smallRequest (requestId : String) (notional : ℚ) : PrimeBorrowRequest where
  family := "carry"
  capitalSource := "prime"
  notionalUsd := .num notional
  asset := "USDC"
  horizonMinutes := 0
  confidence := 1
  requestId := requestId
  strategyId := "s1"

def smallClock (now : Int) (txId : String) : Clock where
  now := now
  tx := ⟨txId, now⟩
  audit := ⟨txId ++ "_audit", now⟩
  freshId := "0"

/-- A fresh allocator over the pool, with empty stores. -/
def smallWorld : World := ⟨PrimeState.fresh smallPool 0, ⟨[], [], []⟩⟩

end SovereignCapital.Prime
