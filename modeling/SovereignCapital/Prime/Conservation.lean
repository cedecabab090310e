import SovereignCapital.Prime.Books

/-! # Conservation of collateral

What the pool has of an asset and what the active loans hold of it add up to the same amount
after every call, and no request lowers the total borrowed or raises the pool: as long as no
negative notional is granted, ids are not reused while active, the inventory file can be
written and nothing is lost to a rounding.
-/

namespace SovereignCapital.Prime

open Decimal Runs

/-! ## Reservations -/

def collateralOf (asset : String) (b : Book) : Usd :=
  b.inventory.getD asset 0 + reservedTotal asset b.loans

structure LoanSound (loan : Loan) : Prop where
  reserved_eq : loan.reserved = loan.collateralReservedUsd
  asset_ne : loan.asset ≠ ""

def LoansSound (loans : Dict String Loan) : Prop :=
  ∀ loanId loan, loans.get? loanId = some loan → LoanSound loan

variable {loan : Loan} {b : Book} {inventory : Inventory} {loanId : String} {initial : String → Usd}

theorem LoansSound.set {loans : Dict String Loan} (h : LoansSound loans) (loanId : String)
    (hloan : LoanSound loan) : LoansSound (loans.set loanId loan) := by
  intro id found hget
  rw [Dict.get?_set] at hget
  split at hget
  · cases hget
    exact hloan
  · exact h id found hget

theorem LoanSound.settle (h : LoanSound loan) (now : Int) : LoanSound (loan.settle now) :=
  ⟨h.reserved_eq, h.asset_ne⟩

theorem LoanSound.dispute (h : LoanSound loan) (now : Int) : LoanSound (loan.dispute now) :=
  ⟨h.reserved_eq, h.asset_ne⟩

theorem grantedLoan_sound {req : PrimeBorrowRequest} {policy : StagePolicy} {clock : Clock}
    (h : grantedLoan b req policy clock = some loan) : LoanSound loan := by
  obtain ⟨notional, ctx, cost, -, happroved, rfl⟩ := grantedLoan_eq_some h
  exact ⟨openedLoan_reserved req notional ctx cost clock, happroved.context_eq.2.2.1.1⟩

theorem grantedLoan_tracked {req : PrimeBorrowRequest} {policy : StagePolicy} {clock : Clock}
    (h : grantedLoan b req policy clock = some loan) : b.inventory.contains loan.asset = true := by
  obtain ⟨notional, ctx, cost, -, happroved, rfl⟩ := grantedLoan_eq_some h
  exact happroved.context_eq.2.2.1.2

/-- A loan with a notional of at least zero reserves at least zero. -/
theorem grantedLoan_reserved_nonneg {req : PrimeBorrowRequest} {policy : StagePolicy}
    {clock : Clock} (h : grantedLoan b req policy clock = some loan)
    (hnonneg : 0 ≤ loan.notionalUsd) : 0 ≤ loan.collateralReservedUsd := by
  obtain ⟨notional, ctx, cost, -, happroved, rfl⟩ := grantedLoan_eq_some h
  have hcollateral : ctx.collateral = collateralPolicy notional policy := happroved.context_eq.1
  show 0 ≤ pyOr ctx.collateral.requiredCollateralUsd notional
  rw [hcollateral]
  unfold pyOr
  split
  · exact hnonneg
  · exact requiredCollateralUsd_nonneg notional policy

theorem reserve_eq_some {inventory' : Inventory} {asset : String} {amount : Usd}
    (h : inventory.reserve asset amount = some inventory') :
    amount ≤ inventory.getD asset 0
      ∧ inventory' = inventory.set asset (inventory.getD asset 0 - amount) := by
  unfold Inventory.reserve at h
  split at h
  · cases h
  · rename_i hcovered
    cases h
    exact ⟨not_lt.1 hcovered, rfl⟩

theorem getD_release (inventory : Inventory) (asset asset' : String) (amount : Usd) :
    (inventory.release asset amount).getD asset' 0
      = inventory.getD asset' 0 + if asset' = asset then amount else 0 := by
  unfold Inventory.release
  rw [Dict.getD_set]
  split
  · rename_i heq
    rw [heq]
  · rw [add_zero]

theorem getD_reserve {inventory' : Inventory} {asset : String} {amount : Usd}
    (h : inventory.reserve asset amount = some inventory') (asset' : String) :
    inventory'.getD asset' 0 = inventory.getD asset' 0 - if asset' = asset then amount else 0 := by
  rw [(reserve_eq_some h).2, Dict.getD_set]
  split
  · rename_i heq
    rw [heq]
  · rw [sub_zero]

/-- Collateral that was just given back can be taken again. -/
theorem reserve_release {inventory : Inventory} {asset : String} {amount : Usd}
    (hpool : 0 ≤ inventory.getD asset 0) :
    ∃ inventory', (inventory.release asset amount).reserve asset amount = some inventory' := by
  have hcovered : ¬ (inventory.release asset amount).getD asset 0 < amount := by
    rw [getD_release, if_pos rfl]
    linarith
  exact ⟨_, if_neg hcovered⟩

/-! ## What the two operations do to the collateral -/

theorem collateralOf_opened (capacity : Usd)
    (hfree : ∀ old, b.loans.get? loan.loanId = some old → old.active = false)
    (hactive : loan.active = true) (hsound : LoanSound loan)
    (hreserve : b.inventory.reserve loan.asset loan.reserved = some inventory) (asset : String) :
    collateralOf asset (b.opened loan capacity inventory) = collateralOf asset b := by
  show inventory.getD asset 0 + reservedTotal asset (b.loans.set loan.loanId loan)
    = b.inventory.getD asset 0 + reservedTotal asset b.loans
  rw [reservedTotal, activeSum_open hfree hactive, getD_reserve hreserve, hsound.reserved_eq,
    reservedTotal]
  by_cases hasset : asset = loan.asset
  · simp only [hasset, if_true, beq_self_eq_true]
    ring
  · simp only [hasset, if_false, beq_eq_false_iff_ne.2 (Ne.symm hasset), Bool.false_eq_true]
    ring

theorem collateralOf_settled (now : Int) (hfound : b.loans.get? loanId = some loan)
    (hactive : loan.active = true) (hsound : LoanSound loan) (asset : String) :
    collateralOf asset (b.settled loanId loan now (b.releaseFor loan)) = collateralOf asset b := by
  show (b.releaseFor loan).getD asset 0 + reservedTotal asset (b.loans.set loanId (loan.settle now))
    = b.inventory.getD asset 0 + reservedTotal asset b.loans
  rw [reservedTotal, activeSum_settle hfound hactive, reservedTotal, Book.releaseFor,
    if_pos hsound.asset_ne, getD_release, hsound.reserved_eq]
  by_cases hasset : asset = loan.asset
  · simp only [hasset, if_true, beq_self_eq_true]
    ring
  · simp only [hasset, if_false, beq_eq_false_iff_ne.2 (Ne.symm hasset), Bool.false_eq_true]
    ring

theorem collateralOf_disputed (now : Int) (hfound : b.loans.get? loanId = some loan)
    (hactive : loan.active = true) (asset : String) :
    collateralOf asset { b with loans := b.loans.set loanId (loan.dispute now) }
      = collateralOf asset b := by
  show b.inventory.getD asset 0 + reservedTotal asset (b.loans.set loanId (loan.dispute now))
    = b.inventory.getD asset 0 + reservedTotal asset b.loans
  rw [reservedTotal, activeSum_dispute hfound hactive now rfl rfl]
  rfl

/-! ## The coordinator's payload -/

/-- The pool of an adopted open, when nothing in it is lost to the rounding. -/
theorem adoptOpen_inventory {s : PrimeState} {policy : StagePolicy} {clock : Clock}
    {transition : OpenTransition}
    (hprepared : prepareOpenTransition s policy loan clock = .ok transition)
    (htracked : s.inventory.contains loan.asset = true)
    (hpool : ∀ asset, Dec 8 (s.inventory.getD asset 0))
    (hreserved : Dec 8 loan.collateralReservedUsd) (asset : String) :
    transition.stateSnapshot.inventory.getD asset 0
      = s.inventory.getD asset 0 - if asset = loan.asset then loan.collateralReservedUsd else 0 := by
  obtain ⟨-, -, hsnapshot, -⟩ := prepareOpenTransition_ok hprepared
  have hpayload : transition.stateSnapshot.inventory
      = (s.openRaw policy loan).inventory.mapVal (pyRound 8) := by
    rw [hsnapshot]
    rfl
  have hcontains : s.inventory.snapshot.contains loan.asset = true := by
    simpa [Inventory.snapshot, Dict.contains] using htracked
  have hround : ∀ asset, s.inventory.snapshot.getD asset 0 = s.inventory.getD asset 0 := by
    intro asset
    rw [Inventory.snapshot, getD_round, (hpool asset).pyRound_eq]
  rw [hpayload, getD_round, PrimeState.openRaw, if_pos hcontains, Dict.getD_set, hround, hround]
  by_cases hasset : asset = loan.asset
  · have hleft := (hpool loan.asset).sub hreserved
    rw [if_pos hasset, if_pos hasset, hleft.pyRound_eq, hleft.pyRound_eq, hasset]
  · rw [if_neg hasset, if_neg hasset, (hpool asset).pyRound_eq, sub_zero]

theorem parseCapacityUsd_getD_of_nonneg {c : ℚ} (h : 0 ≤ c) :
    (parseCapacityUsd (some c)).getD 0 = c := by
  rcases h.eq_or_lt with hzero | hpos
  · rw [← hzero]
    rfl
  · rw [parseCapacityUsd_of_pos hpos]
    rfl

theorem adoptOpen_capacity {s : PrimeState} {policy : StagePolicy} {clock : Clock}
    {transition : OpenTransition}
    (hprepared : prepareOpenTransition s policy loan clock = .ok transition) :
    (adoptStatePayload transition.stateSnapshot).capacityLimit none
      = pyRound 2 (pyRound 8 (s.capacityLimit (some policy))) := by
  obtain ⟨-, hcapacity, hsnapshot, -⟩ := prepareOpenTransition_ok hprepared
  have hround : 0 ≤ pyRound 8 (s.capacityLimit (some policy)) := pyRound_nonneg 8 hcapacity.le
  have hlimit : (adoptStatePayload transition.stateSnapshot).capacityLimit none
      = (parseCapacityUsd (parseCapacityUsd ((parseCapacityUsd
          (some (pyRound 8 (s.capacityLimit (some policy))))).map (pyRound 2)))).getD 0 := by
    rw [hsnapshot]
    rfl
  rw [hlimit]
  rcases hround.eq_or_lt with hzero | hpos
  · rw [← hzero, pyRound_zero]
    rfl
  · rw [parseCapacityUsd_of_pos hpos, Option.map_some]
    rcases (pyRound_nonneg 2 hround).eq_or_lt with hzero | hpos'
    · rw [← hzero]
      rfl
    · rw [parseCapacityUsd_of_pos hpos', parseCapacityUsd_of_pos hpos']
      rfl

/-! ## Runs of allocate and settle -/

inductive PrimeCall where
  | allocate (coordinated : Bool) (f : Faults) (clock : Clock) (req : PrimeBorrowRequest)
      (policy : StagePolicy)
  | settle (f : Faults) (clock : Clock) (loanId : String) (realizedPnlUsd : Usd)

def primeStep (w : World) : PrimeCall → World
  | .allocate coordinated f clock req policy => (allocate coordinated f clock w req policy).1
  | .settle f clock loanId pnl => (settle f clock w loanId pnl).1

/-- A direct commit of a granted loan: its pool file can be written and the capacity is not
raised by the rounding it is compared with. -/
structure DirectGrantOk (f : Faults) (b : Book) (policy : StagePolicy) : Prop where
  saved : f.inventorySave = true
  capacity : pyRound 8 (b.capacityLimit (some policy)) ≤ b.capacityLimit (some policy)

/-- A coordinator commit of a granted loan: the numbers its payload rounds are exact. -/
structure CoordinatedGrantOk (b : Book) (loan : Loan) : Prop where
  borrowed : Dec 2 b.borrowedUsd
  pool : ∀ asset, Dec 8 (b.inventory.getD asset 0)
  reserved : Dec 8 loan.collateralReservedUsd

def CollateralOk (w : World) : PrimeCall → Prop
  | .allocate coordinated f clock req policy =>
    ∀ loan, grantedLoan w.prime.toBook req policy clock = some loan →
      0 ≤ loan.notionalUsd
        ∧ (∀ old, w.prime.loans.get? loan.loanId = some old → old.active = false)
        ∧ (coordinated = false → DirectGrantOk f w.prime.toBook policy)
        ∧ (coordinated = true → f.commit = .ok → CoordinatedGrantOk w.prime.toBook loan)
  | .settle f _ loanId _ =>
    ∀ loan, w.prime.settlingLoan loanId = some loan →
      f.inventorySave = true ∧ 0 ≤ w.prime.inventory.getD loan.asset 0

/-- What an allocation may not do: leave the total above the capacity after a grant, lower
the total, or raise the pool. -/
def AllocationBounded (w : World) : PrimeCall → Prop
  | .allocate coordinated f clock req policy =>
    let w' := (allocate coordinated f clock w req policy).1
    ((allocate coordinated f clock w req policy).2.isGranted = true →
        w'.prime.borrowedUsd ≤ w'.prime.capacityLimit none)
      ∧ w.prime.borrowedUsd ≤ w'.prime.borrowedUsd
      ∧ ∀ asset, w'.prime.inventory.getD asset 0 ≤ w.prime.inventory.getD asset 0
  | .settle .. => True

structure CollateralInv (initial : String → Usd) (w : World) : Prop where
  loans : LoansSound w.prime.loans
  collateral : ∀ asset, collateralOf asset w.prime.toBook = initial asset

theorem Approved.total_le_round {req : PrimeBorrowRequest} {policy : StagePolicy} {notional : Usd}
    {ctx : DecisionContext} {cost : Usd} (h : Approved b req policy notional ctx cost) :
    b.borrowedUsd + notional ≤ pyRound 8 (b.capacityLimit (some policy)) := by
  rw [← h.context_eq.2.1]
  exact h.total_le

theorem grantedLoan_total_le {req : PrimeBorrowRequest} {policy : StagePolicy} {clock : Clock}
    (h : grantedLoan b req policy clock = some loan) :
    b.borrowedUsd + loan.notionalUsd ≤ pyRound 8 (b.capacityLimit (some policy)) := by
  obtain ⟨notional, ctx, cost, -, happroved, rfl⟩ := grantedLoan_eq_some h
  exact happroved.total_le_round

theorem capacityLimit_opened (b : Book) (policy : StagePolicy) (loan : Loan)
    (inventory : Inventory) :
    (b.opened loan (b.capacityLimit (some policy)) inventory).capacityLimit none
      = b.capacityLimit (some policy) :=
  parseCapacityUsd_getD_of_nonneg (capacityLimit_nonneg b (some policy))

/-! ## One call -/

section Allocate

variable {w w' : World} {coordinated : Bool} {f : Faults} {clock : Clock}
  {req : PrimeBorrowRequest} {policy : StagePolicy} {r : AllocateResult}

theorem CollateralInv.allocate (h : CollateralInv initial w)
    (hok : CollateralOk w (.allocate coordinated f clock req policy))
    (heffect : AllocateEffect coordinated f clock w req policy w' r) :
    CollateralInv initial w' := by
  cases heffect with
  | kept _ book _ => exact ⟨book ▸ h.loans, book ▸ h.collateral⟩
  | leaked loan inventory _ direct unsaved grant _ _ _ =>
    have hsaved := ((hok loan grant).2.2.1 direct).saved
    rw [unsaved] at hsaved
    cases hsaved
  | restored loan inventory _ direct grant reserve book _ =>
    refine ⟨book ▸ h.loans, ?_⟩
    intro asset
    rw [book, ← h.collateral asset]
    show (inventory.release loan.asset loan.reserved).getD asset 0 + _
      = w.prime.inventory.getD asset 0 + _
    rw [getD_release, getD_reserve reserve, sub_add_cancel]
  | opened loan inventory direct grant reserve book _ =>
    obtain ⟨-, hfree, -, -⟩ := hok loan grant
    have hsound := grantedLoan_sound grant
    constructor
    · rw [book]
      exact h.loans.set loan.loanId hsound
    · intro asset
      rw [book, collateralOf_opened _ hfree (grantedLoan_active grant) hsound reserve]
      exact h.collateral asset
  | adopted loan transition isCoordinated committed grant prepared book _ =>
    obtain ⟨-, hfree, -, hexact⟩ := hok loan grant
    obtain ⟨-, hpool, hreserved⟩ := hexact isCoordinated committed
    obtain ⟨-, -, hsnapshot, -⟩ := prepareOpenTransition_ok prepared
    have hadopted : (adoptStatePayload transition.stateSnapshot).loans
        = w.prime.loans.set loan.loanId loan := by
      rw [hsnapshot]
      rfl
    constructor
    · rw [book, hadopted]
      exact h.loans.set loan.loanId (grantedLoan_sound grant)
    · intro asset
      have hinventory := adoptOpen_inventory prepared (grantedLoan_tracked grant) hpool hreserved
        asset
      rw [book, ← h.collateral asset]
      show transition.stateSnapshot.inventory.getD asset 0
          + reservedTotal asset (adoptStatePayload transition.stateSnapshot).loans
        = w.prime.inventory.getD asset 0 + reservedTotal asset w.prime.loans
      rw [hinventory, hadopted, reservedTotal, activeSum_open hfree (grantedLoan_active grant),
        reservedTotal]
      by_cases hasset : asset = loan.asset
      · simp only [hasset, if_true, beq_self_eq_true]
        ring
      · simp only [hasset, if_false, beq_eq_false_iff_ne.2 (Ne.symm hasset), Bool.false_eq_true]
        ring

theorem AllocateEffect.bounded
    (hok : CollateralOk w (.allocate coordinated f clock req policy))
    (heffect : AllocateEffect coordinated f clock w req policy w' r) :
    (r.isGranted = true → w'.prime.borrowedUsd ≤ w'.prime.capacityLimit none)
      ∧ w.prime.borrowedUsd ≤ w'.prime.borrowedUsd
      ∧ ∀ asset, w'.prime.inventory.getD asset 0 ≤ w.prime.inventory.getD asset 0 := by
  have hnot : r.isGranted = false →
      r.isGranted = true → w'.prime.borrowedUsd ≤ w'.prime.capacityLimit none := by
    intro hfalse htrue
    rw [hfalse] at htrue
    cases htrue
  cases heffect with
  | kept result book _ =>
    exact ⟨hnot result, by rw [book], fun asset => by rw [book]⟩
  | leaked loan inventory result direct unsaved grant _ _ _ =>
    have hsaved := ((hok loan grant).2.2.1 direct).saved
    rw [unsaved] at hsaved
    cases hsaved
  | restored loan inventory result direct grant reserve book _ =>
    refine ⟨hnot result, by rw [book], ?_⟩
    intro asset
    rw [book]
    show (inventory.release loan.asset loan.reserved).getD asset 0 ≤ _
    rw [getD_release, getD_reserve reserve, sub_add_cancel]
  | opened loan inventory direct grant reserve book _ =>
    obtain ⟨hnonneg, -, hdirect, -⟩ := hok loan grant
    have hreserved := grantedLoan_reserved_nonneg grant hnonneg
    rw [book]
    refine ⟨fun _ => ?_, ?_, ?_⟩
    · rw [capacityLimit_opened]
      exact (grantedLoan_total_le grant).trans (hdirect direct).capacity
    · show w.prime.borrowedUsd ≤ w.prime.borrowedUsd + loan.notionalUsd
      linarith
    · intro asset
      show inventory.getD asset 0 ≤ w.prime.inventory.getD asset 0
      rw [getD_reserve reserve, (grantedLoan_sound grant).reserved_eq]
      split <;> linarith
  | adopted loan transition isCoordinated committed grant prepared book _ =>
    obtain ⟨hnonneg, -, -, hexact⟩ := hok loan grant
    obtain ⟨hborrowed, hpool, hdec⟩ := hexact isCoordinated committed
    have hreserved := grantedLoan_reserved_nonneg grant hnonneg
    obtain ⟨-, -, hsnapshot, -⟩ := prepareOpenTransition_ok prepared
    have hadopted : (adoptStatePayload transition.stateSnapshot).borrowedUsd
        = pyRound 2 (pyRound 8 (w.prime.borrowedUsd + loan.notionalUsd)) := by
      rw [hsnapshot]
      rfl
    rw [book]
    refine ⟨fun _ => ?_, ?_, ?_⟩
    · rw [adoptOpen_capacity prepared, hadopted]
      have hround := pyRound_mono 8 (grantedLoan_total_le grant)
      rw [(dec_pyRound 8 _).pyRound_eq] at hround
      exact pyRound_mono 2 hround
    · rw [hadopted]
      have hsum : w.prime.borrowedUsd ≤ w.prime.borrowedUsd + loan.notionalUsd := by linarith
      exact hborrowed.le_pyRound ((hborrowed.of_le (by norm_num)).le_pyRound hsum)
    · intro asset
      show transition.stateSnapshot.inventory.getD asset 0 ≤ _
      rw [adoptOpen_inventory prepared (grantedLoan_tracked grant) hpool hdec]
      split <;> linarith

end Allocate

theorem CollateralInv.settle {w w' : World} (h : CollateralInv initial w) {f : Faults}
    {clock : Clock} {realizedPnlUsd : Usd}
    (hok : CollateralOk w (.settle f clock loanId realizedPnlUsd))
    (heffect : SettleEffect f clock w loanId w') : CollateralInv initial w' := by
  have hrelease : ∀ loan, w.prime.settlingLoan loanId = some loan →
      w.prime.toBook.releaseFor loan = w.prime.inventory.release loan.asset loan.reserved := by
    intro loan hsettling
    obtain ⟨hfound, -⟩ := settlingLoan_eq_some_iff.1 hsettling
    rw [Book.releaseFor, if_pos (h.loans loanId loan hfound).asset_ne]
  cases heffect with
  | kept book _ => exact ⟨book ▸ h.loans, book ▸ h.collateral⟩
  | undisputed loan _ _ book _ => exact ⟨book ▸ h.loans, book ▸ h.collateral⟩
  | disputed loan found active book _ =>
    constructor
    · rw [book]
      exact h.loans.set loanId ((h.loans loanId loan found).dispute clock.now)
    · intro asset
      rw [book, collateralOf_disputed clock.now found active]
      exact h.collateral asset
  | leaked loan settling cause _ _ =>
    -- Neither cause can be met: the pool file was written and what was given back is there.
    obtain ⟨hsaved, hpool⟩ := hok loan settling
    rcases cause with hunsaved | hnone
    · rw [hunsaved] at hsaved
      cases hsaved
    · obtain ⟨inventory', hsome⟩ := @reserve_release _ loan.asset loan.reserved hpool
      rw [hrelease loan settling, hsome] at hnone
      cases hnone
  | restored loan inventory settling reserve book _ =>
    refine ⟨book ▸ h.loans, ?_⟩
    intro asset
    rw [hrelease loan settling] at reserve
    rw [book, ← h.collateral asset]
    show inventory.getD asset 0 + _ = w.prime.inventory.getD asset 0 + _
    rw [getD_reserve reserve, getD_release, add_sub_cancel_right]
  | reverted loan _ book _ => exact ⟨book ▸ h.loans, book ▸ h.collateral⟩
  | settled loan settling book _ =>
    obtain ⟨hfound, -, hactive, -, -⟩ := settlingLoan_eq_some_iff.1 settling
    have hsound := h.loans loanId loan hfound
    constructor
    · rw [book]
      exact h.loans.set loanId (hsound.settle clock.now)
    · intro asset
      rw [book, collateralOf_settled clock.now hfound hactive hsound]
      exact h.collateral asset

/-- **One call keeps the collateral.** -/
theorem primeStep_collateral (w : World) (call : PrimeCall) (h : CollateralInv initial w)
    (hok : CollateralOk w call) : CollateralInv initial (primeStep w call) := by
  cases call with
  | allocate coordinated f clock req policy =>
    exact h.allocate hok (allocate_effect coordinated f clock w req policy)
  | settle f clock loanId pnl => exact h.settle hok (settle_effect f clock w loanId pnl)

theorem allocation_bounded (w : World) (call : PrimeCall) (hok : CollateralOk w call) :
    AllocationBounded w call := by
  cases call with
  | allocate coordinated f clock req policy =>
    exact (allocate_effect coordinated f clock w req policy).bounded hok
  | settle f clock loanId pnl => trivial

/-- **The collateral of every asset is the same in every state of a run, and no allocation of
the run lowers the total borrowed, raises the pool or ends above the capacity.** -/
theorem collateral_conserved {inventory : Inventory} {now : Int} {store : Store}
    {calls : List PrimeCall}
    (hok : AllSteps primeStep CollateralOk ⟨PrimeState.fresh inventory now, store⟩ calls) :
    (∀ reached, reached <+: calls → ∀ asset,
        collateralOf asset
            (run primeStep ⟨PrimeState.fresh inventory now, store⟩ reached).prime.toBook
          = collateralOf asset (PrimeState.fresh inventory now).toBook)
      ∧ ∀ before call after, calls = before ++ call :: after →
          AllocationBounded (run primeStep ⟨PrimeState.fresh inventory now, store⟩ before) call := by
  constructor
  · intro reached hreached
    have hstart : CollateralInv (fun asset => collateralOf asset (PrimeState.fresh inventory now).toBook)
        ⟨PrimeState.fresh inventory now, store⟩ := by
      refine ⟨?_, fun asset => rfl⟩
      intro loanId loan hget
      cases hget
    exact (reached_invariant primeStep_collateral hstart hok hreached).collateral
  · rintro before call after rfl
    exact allocation_bounded _ call hok.call

/-- A loan of ten dollars is opened and settled. -/
theorem collateral_conserved_lendTen :
    (∀ reached, reached <+: [PrimeCall.allocate false .none (smallClock 1 "t1")
          (smallRequest "l1" 10) smallPolicy, .settle .none (smallClock 2 "t2") "l1" 0] →
        ∀ asset, collateralOf asset (run primeStep smallWorld reached).prime.toBook
          = collateralOf asset (PrimeState.fresh smallPool 0).toBook)
      ∧ ∀ before call after, [PrimeCall.allocate false .none (smallClock 1 "t1")
          (smallRequest "l1" 10) smallPolicy, .settle .none (smallClock 2 "t2") "l1" 0]
            = before ++ call :: after →
          AllocationBounded (run primeStep smallWorld before) call := by
  have hgranted : ∀ loan ∈ grantedLoan smallWorld.prime.toBook (smallRequest "l1" 10) smallPolicy
      (smallClock 1 "t1"), 0 ≤ loan.notionalUsd := by
    decide +kernel
  have hcapacity : pyRound 8 (smallWorld.prime.capacityLimit (some smallPolicy))
      ≤ smallWorld.prime.capacityLimit (some smallPolicy) := by
    decide +kernel
  have hsettling : ∀ loan ∈ (primeStep smallWorld (.allocate false .none (smallClock 1 "t1")
        (smallRequest "l1" 10) smallPolicy)).prime.settlingLoan "l1",
      0 ≤ (primeStep smallWorld (.allocate false .none (smallClock 1 "t1")
        (smallRequest "l1" 10) smallPolicy)).prime.inventory.getD loan.asset 0 := by
    decide +kernel
  apply collateral_conserved
  refine ⟨?_, ?_, trivial⟩
  · intro loan hgrant
    refine ⟨hgranted loan hgrant, ?_, fun _ => ⟨rfl, hcapacity⟩, ?_⟩
    · intro old hold
      cases hold
    · intro hcoordinated
      cases hcoordinated
  · intro loan hloan
    exact ⟨rfl, hsettling loan hloan⟩

/-- A notional of minus ten dollars is granted: its required collateral is zero, the loan
reserves the notional itself, and the total borrowed falls. -/
theorem allocation_negative : ¬ AllocationBounded smallWorld
    (.allocate false .none (smallClock 1 "t1") (smallRequest "l1" (-10)) smallPolicy) := by
  rintro ⟨-, htotal, -⟩
  have hlowered : ¬ smallWorld.prime.borrowedUsd
      ≤ (allocate false .none (smallClock 1 "t1") smallWorld (smallRequest "l1" (-10))
        smallPolicy).1.prime.borrowedUsd := by
    decide +kernel
  exact hlowered htotal

end SovereignCapital.Prime
