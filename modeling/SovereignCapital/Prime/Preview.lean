import SovereignCapital.Prime.Conservation
import SovereignCapital.Prime.Faultless

/-! # Previews

`preview` approves a request without opening its loan. It does not ask whether the state is ready,
and it reports the collateral the policy requires; `allocate` refuses while the state is not ready,
and reserves the notional where no collateral is required.
-/

namespace SovereignCapital.Prime

open Decimal

/-- What `preview` reports. -/
inductive PreviewResult where
  | allowed (notionalUsd requiredCollateralUsd borrowCostUsd : Usd) (utilization : ℚ)
  | denied (reason : PrimeReason) (utilization : ℚ)
  | raised
deriving DecidableEq

def preview (s : PrimeState) (req : PrimeBorrowRequest) (policy : StagePolicy) : PreviewResult :=
  match approve s.toBook req policy with
  | .raised => .raised
  | .denied reason => .denied reason s.utilization
  | .approved notional ctx cost => .allowed notional ctx.requiredCollateralUsd cost s.utilization

def PreviewResult.isAllowed : PreviewResult → Bool
  | .allowed _ _ _ _ => true
  | _ => false

/-- The preview is allowed exactly when the loan is granted, with the same amounts. -/
structure PreviewAgrees (coordinated : Bool) (clock : Clock) (w : World) (req : PrimeBorrowRequest)
    (policy : StagePolicy) : Prop where
  allowed : (preview w.prime req policy).isAllowed
    = (allocate coordinated .none clock w req policy).2.isGranted
  amounts : ∀ notional required cost utilization loan utilization' tx,
    preview w.prime req policy = .allowed notional required cost utilization →
      (allocate coordinated .none clock w req policy).2 = .granted loan utilization' tx →
        loan.notionalUsd = notional ∧ loan.reserved = required

/-- A request that the policy approves meets a ready state, needs some collateral unless it is for
nothing, and on the direct path finds its collateral in the inventory as it is not rounded. -/
def Foreseen (coordinated : Bool) (w : World) (req : PrimeBorrowRequest) (policy : StagePolicy) :
    Prop :=
  ∀ notional ctx cost, approve w.prime.toBook req policy = .approved notional ctx cost →
    let required := (collateralPolicy notional policy).requiredCollateralUsd
    w.prime.stateReady = true ∧ (required ≠ 0 ∨ notional = 0)
      ∧ (coordinated = true ∨ pyOr required notional ≤ w.prime.inventory.getD req.asset 0)

/-! ## Approved requests -/

/-- Amounts of eight decimals differ by more than the tolerance or not at all. -/
theorem le_of_le_add_tolerance {x y : ℚ} (hx : Dec 8 x) (hy : Dec 8 y)
    (h : x ≤ y + 1 / 10 ^ 9) : x ≤ y := by
  by_contra hlt
  have hpos : 0 < x - y := sub_pos.2 (not_le.1 hlt)
  have hone := (hx.sub hy).one_le_of_pos hpos
  have hunit : (1 : ℚ) / 10 ^ 9 < 1 / 10 ^ 8 := by norm_num
  linarith

section

variable {b : Book} {req : PrimeBorrowRequest} {policy : StagePolicy} {notional : Usd}
  {ctx : DecisionContext} {cost : Usd}

theorem Approved.required_eq (h : Approved b req policy notional ctx cost) :
    ctx.requiredCollateralUsd = (collateralPolicy notional policy).requiredCollateralUsd := by
  rw [h.context_eq.2.2.2.2]
  exact (dec_requiredCollateralUsd notional policy).pyRound_eq

theorem Approved.reserved_le (h : Approved b req policy notional ctx cost) :
    pyOr (collateralPolicy notional policy).requiredCollateralUsd notional
      ≤ b.inventory.snapshot.getD req.asset 0 := by
  obtain ⟨-, -, -, havailable, -⟩ := h.context_eq
  have hdec : Dec 8 (b.inventory.snapshot.getD req.asset 0) := by
    rw [Inventory.snapshot, Dict.getD, Dict.get?_mapVal]
    cases b.inventory.get? req.asset with
    | none => exact dec_zero 8
    | some amount => exact dec_pyRound 8 amount
  rw [hdec.pyRound_eq] at havailable
  by_cases hzero : (collateralPolicy notional policy).requiredCollateralUsd = 0
  · rw [hzero, pyOr_zero_left, ← havailable]
    exact h.available
  · rw [pyOr_of_ne _ hzero]
    have hcollateral := h.collateral
    rw [h.required_eq, havailable] at hcollateral
    exact le_of_le_add_tolerance (dec_requiredCollateralUsd notional policy) hdec hcollateral

theorem Approved.prepares {s : PrimeState} (hready : s.stateReady = true)
    (h : Approved s.toBook req policy notional ctx cost) (clock : Clock) :
    ∃ transition, prepareOpenTransition s policy (openedLoan req notional ctx cost clock) clock
      = .ok transition := by
  obtain ⟨hcollateral, hcapacity, -, -, -⟩ := h.context_eq
  have hpos : 0 < s.capacityLimit (some policy) := by
    by_contra hle
    have hround := pyRound_mono 8 (not_lt.1 hle)
    rw [pyRound_zero, ← hcapacity] at hround
    exact absurd h.capacity_pos (not_lt.2 hround)
  have hcovered : ¬ s.inventory.snapshot.getD req.asset 0
      < pyOr ctx.collateral.requiredCollateralUsd notional := by
    rw [hcollateral]
    exact not_lt.2 h.reserved_le
  unfold prepareOpenTransition
  rw [if_neg (not_not.2 hready)]
  dsimp only
  rw [if_neg (not_le.2 hpos), if_neg]
  · exact ⟨_, rfl⟩
  · rw [Bool.and_eq_true, decide_eq_true_eq]
    exact fun hand => hcovered hand.2

end

/-! ## Previews and allocations -/

theorem deniedPayload_not_granted (f : Faults) (clock : Clock) (w : World)
    (req : PrimeBorrowRequest) (policy : StagePolicy) (reason : PrimeReason) :
    (deniedPayload f clock w req policy reason).2.isGranted = false := by
  unfold deniedPayload
  cases decisionContext w.prime.toBook req policy with
  | none => rfl
  | some ctx =>
    cases req.notionalUsd.floatOrZero with
    | none => rfl
    | some notional =>
      dsimp only
      split <;> rfl

/-- Before a state that is not ready nothing is granted. -/
theorem allocate_not_ready {w : World} (hready : w.prime.stateReady = false) (coordinated : Bool)
    (f : Faults) (clock : Clock) (req : PrimeBorrowRequest) (policy : StagePolicy) :
    (allocate coordinated f clock w req policy).2.isGranted = false := by
  unfold allocate
  rw [if_pos (by simp [hready])]
  exact deniedPayload_not_granted f clock w req policy _

/-- Without an approval nothing is granted. -/
theorem allocate_not_approved {w : World} {req : PrimeBorrowRequest} {policy : StagePolicy}
    (h : ∀ notional ctx cost, approve w.prime.toBook req policy ≠ .approved notional ctx cost)
    (coordinated : Bool) (f : Faults) (clock : Clock) :
    (allocate coordinated f clock w req policy).2.isGranted = false
      ∧ (preview w.prime req policy).isAllowed = false := by
  cases hready : w.prime.stateReady with
  | false =>
    refine ⟨allocate_not_ready hready coordinated f clock req policy, ?_⟩
    unfold preview
    cases happrove : approve w.prime.toBook req policy with
    | raised => rfl
    | denied reason => rfl
    | approved notional ctx cost => exact absurd happrove (h notional ctx cost)
  | true =>
    unfold allocate preview
    rw [if_neg (by simp [hready])]
    cases happrove : approve w.prime.toBook req policy with
    | raised => exact ⟨rfl, rfl⟩
    | denied reason => exact ⟨deniedPayload_not_granted f clock w req policy reason, rfl⟩
    | approved notional ctx cost => exact absurd happrove (h notional ctx cost)

/-- **A granted loan.** An approved request over a ready state opens its loan, on the direct path
where the inventory covers it. -/
theorem allocate_approved {w : World} {req : PrimeBorrowRequest} {policy : StagePolicy}
    {notional : Usd} {ctx : DecisionContext} {cost : Usd} (hready : w.prime.stateReady = true)
    (happrove : approve w.prime.toBook req policy = .approved notional ctx cost)
    (coordinated : Bool) (clock : Clock) :
    (coordinated = true
        ∨ (openedLoan req notional ctx cost clock).reserved ≤ w.prime.inventory.getD req.asset 0)
      ∧ (∃ utilization tx, (allocate coordinated .none clock w req policy).2
        = .granted (openedLoan req notional ctx cost clock) utilization tx)
    ∨ ¬ (coordinated = true
        ∨ (openedLoan req notional ctx cost clock).reserved ≤ w.prime.inventory.getD req.asset 0)
      ∧ (allocate coordinated .none clock w req policy).2.isGranted = false := by
  have happroved := approve_approved happrove
  obtain ⟨transition, hprepared⟩ := happroved.prepares hready clock
  have hgrant : grantedLoan w.prime.toBook req policy clock
      = some (openedLoan req notional ctx cost clock) := by
    rw [grantedLoan, happrove]
  obtain ⟨hdirect, hcoordinated⟩ := allocate_prepared hready hgrant hprepared
  cases coordinated with
  | true => exact .inl ⟨.inl rfl, _, _, by rw [hcoordinated]⟩
  | false =>
    have htracked := grantedLoan_tracked hgrant
    cases hreserve : w.prime.inventory.reserve req.asset
        (openedLoan req notional ctx cost clock).reserved with
    | some inventory =>
      have hgranted := congrArg Prod.snd
        (hdirect.trans (@allocateDirect_none_some clock w policy _ _ htracked hreserve))
      exact .inl ⟨.inr (reserve_eq_some hreserve).1, _, _, hgranted⟩
    | none =>
      refine .inr ⟨?_, ?_⟩
      · rintro (hfalse | hcovered)
        · cases hfalse
        · rw [Inventory.reserve, if_neg (not_lt.2 hcovered)] at hreserve
          cases hreserve
      · have hnone := @allocateDirect_none_none clock w policy _ htracked hreserve
        rw [hdirect, hnone.2.2.2]
        rfl

theorem pyOr_eq_left_iff (x y : ℚ) : pyOr x y = x ↔ x ≠ 0 ∨ y = 0 := by
  by_cases hzero : x = 0
  · simp [hzero]
  · simp [hzero, pyOr_of_ne]

section Approved

variable {coordinated : Bool} {w : World} {req : PrimeBorrowRequest} {policy : StagePolicy}
  {notional : Usd} {ctx : DecisionContext} {cost : Usd}

theorem preview_approved (happrove : approve w.prime.toBook req policy
      = .approved notional ctx cost) :
    preview w.prime req policy
      = .allowed notional ctx.requiredCollateralUsd cost w.prime.utilization := by
  rw [preview, happrove]

theorem openedLoan_reserved_approved (happrove : approve w.prime.toBook req policy
      = .approved notional ctx cost) (clock : Clock) :
    (openedLoan req notional ctx cost clock).reserved
      = pyOr (collateralPolicy notional policy).requiredCollateralUsd notional := by
  rw [openedLoan_reserved]
  show pyOr ctx.collateral.requiredCollateralUsd notional = _
  rw [(approve_approved happrove).context_eq.1]

theorem foreseen_approved_iff (happrove : approve w.prime.toBook req policy
      = .approved notional ctx cost) :
    Foreseen coordinated w req policy
      ↔ w.prime.stateReady = true
        ∧ ((collateralPolicy notional policy).requiredCollateralUsd ≠ 0 ∨ notional = 0)
        ∧ (coordinated = true
          ∨ pyOr (collateralPolicy notional policy).requiredCollateralUsd notional
            ≤ w.prime.inventory.getD req.asset 0) := by
  constructor
  · intro h
    exact h notional ctx cost happrove
  · intro h notional' ctx' cost' happrove'
    cases happrove.symm.trans happrove'
    exact h

theorem previewAgrees_granted {clock : Clock} {required : Usd} {utilization utilization' : ℚ}
    {loan : Loan} {tx : JournalTx}
    (hpreview : preview w.prime req policy = .allowed notional required cost utilization)
    (hgranted : (allocate coordinated .none clock w req policy).2
      = .granted loan utilization' tx) :
    PreviewAgrees coordinated clock w req policy
      ↔ loan.notionalUsd = notional ∧ loan.reserved = required := by
  constructor
  · intro h
    exact h.amounts _ _ _ _ _ _ _ hpreview hgranted
  · intro hsame
    refine ⟨by rw [hpreview, hgranted]; rfl, ?_⟩
    intro notional' required' cost' util loan' util' tx' hpreview' hgranted'
    cases hpreview.symm.trans hpreview'
    cases hgranted.symm.trans hgranted'
    exact hsame

theorem PreviewAgrees.not_of_decisions {clock : Clock}
    (hallowed : (preview w.prime req policy).isAllowed = true)
    (hdenied : (allocate coordinated .none clock w req policy).2.isGranted = false) :
    ¬ PreviewAgrees coordinated clock w req policy := by
  intro h
  have hsame := h.allowed
  rw [hallowed, hdenied] at hsame
  cases hsame

end Approved

/-- **The preview agrees with the allocation** exactly where an approved request meets a ready
state, needs collateral unless it is for nothing, and on the direct path finds it in the inventory
as it is not rounded. -/
theorem previewAgrees_iff (coordinated : Bool) (clock : Clock) (w : World)
    (req : PrimeBorrowRequest) (policy : StagePolicy) :
    PreviewAgrees coordinated clock w req policy ↔ Foreseen coordinated w req policy := by
  by_cases happroves : ∃ notional ctx cost,
      approve w.prime.toBook req policy = .approved notional ctx cost
  · obtain ⟨notional, ctx, cost, happrove⟩ := happroves
    have hpreview := preview_approved happrove
    have hallowed : (preview w.prime req policy).isAllowed = true := by
      rw [hpreview]
      rfl
    have hreserved := openedLoan_reserved_approved happrove clock
    rw [foreseen_approved_iff happrove]
    cases hready : w.prime.stateReady with
    | false =>
      constructor
      · intro h
        have hdenied := allocate_not_ready hready coordinated .none clock req policy
        exact absurd h (PreviewAgrees.not_of_decisions hallowed hdenied)
      · rintro ⟨hfalse, -⟩
        cases hfalse
    | true =>
      rcases allocate_approved hready happrove coordinated clock with
        ⟨hcovered, utilization, tx, hgranted⟩ | ⟨hshort, hdenied⟩
      · rw [hreserved] at hcovered
        rw [previewAgrees_granted hpreview hgranted, hreserved,
          (approve_approved happrove).required_eq, pyOr_eq_left_iff]
        constructor
        · rintro ⟨-, hneeds⟩
          exact ⟨rfl, hneeds, hcovered⟩
        · rintro ⟨-, hneeds, -⟩
          exact ⟨rfl, hneeds⟩
      · rw [hreserved] at hshort
        constructor
        · intro h
          exact absurd h (PreviewAgrees.not_of_decisions hallowed hdenied)
        · rintro ⟨-, -, hcovered⟩
          exact absurd hcovered hshort
  · have hnone : ∀ notional ctx cost,
        approve w.prime.toBook req policy ≠ .approved notional ctx cost := by
      intro notional ctx cost happrove
      exact happroves ⟨notional, ctx, cost, happrove⟩
    obtain ⟨hdenied, hrefused⟩ := allocate_not_approved hnone coordinated .none clock
    constructor
    · intro _ notional ctx cost happrove
      exact absurd happrove (hnone notional ctx cost)
    · intro _
      refine ⟨hrefused.trans hdenied.symm, ?_⟩
      intro notional required cost util loan util' tx hpreview
      rw [hpreview] at hrefused
      cases hrefused

def AllocateResult.reserved : AllocateResult → Option ℚ
  | .granted loan _ _ => some loan.reserved
  | _ => none

/-- The small allocator after a loan whose state file and whose rollback could not be written. -/
def unreadyWorld : World :=
  (allocate false { Faults.none with stateSave := false, rollbackInventorySave := false }
    (smallClock 1 "t1") smallWorld (smallRequest "l1" 10) smallPolicy).1

/-- The small allocator over a pool that is seeded with a little less than ten. -/
def thinWorld : World :=
  bookStep smallWorld (.seed (Dict.empty.set "USDC" (9999999996 / 10 ^ 9)))

/-- **A preview is allowed and the loan denied**: over a pool that rounds to what is asked for, and
while the state is not ready. A loan of minus one is previewed without collateral and reserves
minus one. -/
theorem not_previewAgrees :
    ¬ PreviewAgrees false (smallClock 2 "t2") thinWorld (smallRequest "l2" 10) smallPolicy
      ∧ ¬ PreviewAgrees true (smallClock 2 "t2") unreadyWorld (smallRequest "l2" 10) smallPolicy
      ∧ ¬ PreviewAgrees true (smallClock 2 "t2") smallWorld (smallRequest "l2" (-1))
        smallPolicy := by
  refine ⟨PreviewAgrees.not_of_decisions (by decide +kernel) (by decide +kernel),
    PreviewAgrees.not_of_decisions (by decide +kernel) (by decide +kernel), fun h => ?_⟩
  have hpreview : preview smallWorld.prime (smallRequest "l2" (-1)) smallPolicy
      = .allowed (-1) 0 0 0 := by decide +kernel
  have hreserved : (allocate true .none (smallClock 2 "t2") smallWorld
      (smallRequest "l2" (-1)) smallPolicy).2.reserved = some (-1) := by decide +kernel
  generalize hresult : (allocate true .none (smallClock 2 "t2") smallWorld
    (smallRequest "l2" (-1)) smallPolicy).2 = result at hreserved
  cases result with
  | granted loan utilization tx =>
    have hzero : loan.reserved = 0 := (h.amounts _ _ _ _ _ _ _ hpreview hresult).2
    rw [AllocateResult.reserved, hzero] at hreserved
    exact absurd hreserved (by decide)
  | denied reason audit => cases hreserved
  | raised => cases hreserved

end SovereignCapital.Prime
