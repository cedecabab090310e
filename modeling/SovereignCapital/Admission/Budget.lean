import SovereignCapital.Admission.Gates

/-! # The budget of a family

`apply_family_budget` refuses a family whose capital target is not known or too small, and makes
the opportunity smaller by the target, the multiplier of the capture decision and the cap of the
wealth goal. Its handler returns the opportunity without a rejection.
-/

namespace SovereignCapital.Admission

open Bytes PyRaise Guarded

/-- `CaptureDecision`, as far as the budget reads it. -/
structure CaptureDecision where
  sizeMult : PyTree

/-- `1.0`. -/
def one : PyTree := .leaf (.float 1 ⟨"1.0", by decide⟩)

/-- `max(lo, min(hi, x))`. -/
def between (lo hi : ℚ) : PyFloat → ℚ
  | .finite x => max lo (min hi x)
  | .inf negative => if negative then lo else hi
  | .nan => hi

def literal (x : ℚ) : ℚ := Double.nearest x

structure BudgetReading where
  limit : FamilyLimit
  sizeMult : PyFloat

def readBudget (rt : Runtime) (opp : Opportunity) (decision : CaptureDecision) :
    Except PyError BudgetReading := do
  let family ← get (orEmpty opp.metadata) "strategy_family"
  let limit ← rt.familyLimit
    (family.orElse (textValue "flashloan_atomic".toList)).str.toList
  let sizeMult ← PyRaise.float (decision.sizeMult.orElse one)
  return ⟨limit, sizeMult⟩

def readGoalCap (metadata : PyTree) : Except PyError PyFloat :=
  if metadata.isMapping then do
    let state ← get (orEmpty (PyMap.get metadata.mapping "wealth_goal")) "state"
    let wealth ← dict (orEmpty state)
    PyRaise.float ((PyMap.get wealth "aggressivenessCap").orElse one)
  else PyRaise.float one

/-- The target is above `0.02`. -/
def FamilyLimit.AboveFloor (limit : FamilyLimit) : Prop :=
  (PyFloat.finite (literal (2 / 100))).lt limit.familyTarget = true

instance (limit : FamilyLimit) : Decidable limit.AboveFloor := by
  unfold FamilyLimit.AboveFloor
  infer_instance

/-- The multiplier of the decision and of the target, which is at most one. -/
def baseMult (reading : BudgetReading) : PyFloat :=
  PyFloat.least (.finite 1)
    [reading.sizeMult.scale
      (between (literal (35 / 100)) 1 (reading.limit.familyTarget.scale (literal (18 / 10))))]

def multiplier (reading : BudgetReading) (goalCap : PyFloat) : PyFloat :=
  (baseMult reading).scale (between (literal (35 / 100)) (literal (125 / 100)) goalCap)

/-- `if size_mult != 1.0`. -/
def scaleUnlessOne (opp : Opportunity) (m : PyFloat) : Except PyError Opportunity :=
  if m = .finite 1 then .ok opp else scaleOpportunity opp m

def familyBudget (rt : Runtime) (opp : Opportunity) (decision : CaptureDecision) (force : Bool) :
    Except PyError (Opportunity × Option Rejection) := do
  let reading ← readBudget rt opp decision
  if reading.limit.targetKnown = false then
    return (opp, some ⟨rt.dryRun || force, "capital:family_target_unresolved".toList⟩)
  else if ¬ reading.limit.AboveFloor then
    return (opp, some ⟨rt.dryRun || force, "capital:family_target_zero".toList⟩)
  else do
    let goalCap ← readGoalCap opp.metadata
    let out ← scaleUnlessOne opp (multiplier reading goalCap)
    return (out, none)

def applyFamilyBudget (rt : Runtime) (opp : Opportunity) (decision : Option CaptureDecision)
    (force : Bool) : Except PyError (Opportunity × Option Rejection) :=
  match decision with
  | none => .ok (opp, none)
  | some decision => recover safeExceptions (opp, none) (familyBudget rt opp decision force)

/-! ## What the budget guarantees -/

def Funded (limit : FamilyLimit) : Prop := limit.targetKnown = true ∧ limit.AboveFloor

def Below (m : PyFloat) : Prop := m.lt (.finite 1) = true

/-- What a multiplier below one is to leave of an amount. -/
def shareOf (amount : Int) : PyFloat → Int
  | .finite x => share amount x
  | .inf _ => 1
  | .nan => amount

def ReducedBy (opp out : Opportunity) (m : PyFloat) : Prop :=
  ∀ a, opp.amountIn = some a → ∃ a', out.amountIn = some a' ∧ a' ≤ shareOf a m

/-- What is returned without a rejection has a target, and was reduced. -/
def BudgetClosed (rt : Runtime) (opp : Opportunity) (decision : CaptureDecision) (force : Bool) :
    Prop :=
  ∀ out, applyFamilyBudget rt opp (some decision) force = .ok (out, none) →
    ∃ reading goalCap, readBudget rt opp decision = .ok reading ∧ Funded reading.limit
      ∧ readGoalCap opp.metadata = .ok goalCap
      ∧ (Below (multiplier reading goalCap) → ReducedBy opp out (multiplier reading goalCap))

/-- The condition of the budget. -/
structure BudgetOk (rt : Runtime) (opp : Opportunity) (decision : CaptureDecision) : Prop where
  /-- Nothing that is read raises an exception that is caught. -/
  reads : ∀ e ∈ safeExceptions, readBudget rt opp decision ≠ .error e
  goal : ∀ reading, readBudget rt opp decision = .ok reading → Funded reading.limit →
    ∀ e ∈ safeExceptions, readGoalCap opp.metadata ≠ .error e
  /-- Where an amount above one is to be reduced, the multiplier is positive and
  `scale_opportunity` raises nothing that is caught. -/
  scales : ∀ reading goalCap, readBudget rt opp decision = .ok reading → Funded reading.limit →
    readGoalCap opp.metadata = .ok goalCap → Below (multiplier reading goalCap) →
    ∀ a, opp.amountIn = some a → 1 < a →
      ∃ x, multiplier reading goalCap = .finite x ∧ 0 < x
        ∧ ∀ e ∈ safeExceptions, scaled opp x ≠ .error e
  /-- The product is not rounded up above the exact one. -/
  rounds : ∀ reading goalCap x, readBudget rt opp decision = .ok reading → Funded reading.limit →
    readGoalCap opp.metadata = .ok goalCap → multiplier reading goalCap = .finite x → 0 < x →
    x < 1 → ∀ out, scaled opp x = .ok out →
    ∀ a, opp.amountIn = some a → shrunk a x ≤ share a x

/-! ## When the budget is closed -/

theorem le_share_iff {a : Int} {x : ℚ} (hx : x < 1) : a ≤ share a x ↔ a ≤ 1 := by
  unfold share
  constructor
  · intro h
    by_contra hlt
    have hone : 1 < a := not_le.1 hlt
    have hpos : (0 : ℚ) < a := by exact_mod_cast (by omega : 0 < a)
    have hless : (a : ℚ) * x < a := by
      calc (a : ℚ) * x < a * 1 := mul_lt_mul_of_pos_left hx hpos
        _ = a := mul_one _
    have hfloor : ⌊(a : ℚ) * x⌋ < a := Int.floor_lt.2 hless
    omega
  · intro h
    exact h.trans (le_max_left _ _)

theorem reducedBy_self_iff {opp : Opportunity} {m : PyFloat} (hm : Below m) :
    ReducedBy opp opp m ↔ ∀ a, opp.amountIn = some a → a ≤ 1 := by
  have hshare : ∀ a : Int, a ≤ shareOf a m ↔ a ≤ 1 := by
    intro a
    cases m with
    | finite x => exact le_share_iff (of_decide_eq_true hm)
    | inf negative => exact Iff.rfl
    | nan => cases hm
  constructor
  · intro h a ha
    obtain ⟨a', ha', hle⟩ := h a ha
    rw [ha] at ha'
    cases ha'
    exact (hshare a).1 hle
  · intro h a ha
    exact ⟨a, ha, (hshare a).2 (h a ha)⟩

theorem scaleOpportunity_of_not_pos {opp : Opportunity} {m : PyFloat} (hm : Below m)
    (hpos : ¬ ∃ x, m = .finite x ∧ 0 < x) : scaleOpportunity opp m = .ok opp := by
  cases m with
  | finite x =>
    unfold scaleOpportunity
    simp only
    rw [if_pos]
    right
    by_contra hx
    exact hpos ⟨x, rfl, not_le.1 hx⟩
  | inf negative => rfl
  | nan => cases hm

theorem familyBudget_of_funded {rt : Runtime} {opp : Opportunity} {decision : CaptureDecision}
    {reading : BudgetReading} (force : Bool) (hread : readBudget rt opp decision = .ok reading)
    (hfunded : Funded reading.limit) :
    familyBudget rt opp decision force = do
      let goalCap ← readGoalCap opp.metadata
      let out ← scaleUnlessOne opp (multiplier reading goalCap)
      return (out, none) := by
  have hknown : ¬ reading.limit.targetKnown = false := by
    rw [hfunded.1]
    exact Bool.noConfusion
  unfold familyBudget
  rw [hread]
  show (if reading.limit.targetKnown = false then _ else _) = _
  rw [if_neg hknown, if_neg (not_not.2 hfunded.2)]

/-- And for one without: nothing is returned without a rejection. -/
theorem familyBudget_of_not_funded {rt : Runtime} {opp : Opportunity} {decision : CaptureDecision}
    {reading : BudgetReading} (force : Bool) (hread : readBudget rt opp decision = .ok reading)
    (hfunded : ¬ Funded reading.limit) :
    ∃ rejection, familyBudget rt opp decision force = .ok (opp, some rejection) := by
  unfold familyBudget
  rw [hread]
  by_cases hknown : reading.limit.targetKnown = false
  · refine ⟨⟨rt.dryRun || force, "capital:family_target_unresolved".toList⟩, ?_⟩
    show (if reading.limit.targetKnown = false then _ else _) = _
    rw [if_pos hknown]
    rfl
  · have hfloor : ¬ reading.limit.AboveFloor := by
      intro habove
      exact hfunded ⟨Bool.eq_true_of_not_eq_false hknown, habove⟩
    refine ⟨⟨rt.dryRun || force, "capital:family_target_zero".toList⟩, ?_⟩
    show (if reading.limit.targetKnown = false then _ else _) = _
    rw [if_neg hknown, if_pos hfloor]
    rfl

theorem reduced_iff {opp : Opportunity} {m : PyFloat} (hm : Below m) :
    (∀ out, recover safeExceptions opp (scaleOpportunity opp m) = .ok out → ReducedBy opp out m)
      ↔ (∀ a, opp.amountIn = some a → 1 < a → ∃ x, m = .finite x ∧ 0 < x
          ∧ ∀ e ∈ safeExceptions, scaled opp x ≠ .error e)
        ∧ ∀ x, m = .finite x → 0 < x → ∀ out, scaled opp x = .ok out →
          ∀ a, opp.amountIn = some a → shrunk a x ≤ share a x := by
  by_cases hpos : ∃ x, m = .finite x ∧ 0 < x
  · obtain ⟨x, rfl, hx⟩ := hpos
    have hbelow : x < 1 := of_decide_eq_true hm
    rw [scaleOpportunity_between hx hbelow]
    cases hscaled : scaled opp x with
    | ok scaledOpp =>
      have hamount := (scaled_eq_ok hscaled).2
      constructor
      · intro h
        refine ⟨fun a _ _ => ⟨x, rfl, hx, ?_⟩, fun y hy _ out hout a ha => ?_⟩
        · rw [hscaled]
          intro e _ herror
          cases herror
        · cases hy
          obtain ⟨a', ha', hle⟩ := h scaledOpp rfl a ha
          rw [hamount, ha] at ha'
          cases ha'
          exact hle
      · rintro ⟨-, hround⟩ out hout a ha
        cases hout
        refine ⟨shrunk a x, ?_, hround x rfl hx _ hscaled a ha⟩
        rw [hamount, ha]
        rfl
    | error e =>
      by_cases hsafe : e ∈ safeExceptions
      · rw [recover_caught hsafe]
        constructor
        · intro h
          have hself := (reducedBy_self_iff hm).1 (h opp rfl)
          refine ⟨fun a ha hlt => absurd (hself a ha) (not_le.2 hlt), fun y hy _ out hout => ?_⟩
          cases hy
          rw [hscaled] at hout
          cases hout
        · rintro ⟨hraise, -⟩ out hout
          cases hout
          refine (reducedBy_self_iff hm).2 fun a ha => ?_
          by_contra hlt
          obtain ⟨y, hy, -, hno⟩ := hraise a ha (not_le.1 hlt)
          cases hy
          exact hno e hsafe hscaled
      · rw [recover_raised hsafe]
        constructor
        · intro _
          refine ⟨fun a _ _ => ⟨x, rfl, hx, ?_⟩, fun y hy _ out hout => ?_⟩
          · rw [hscaled]
            intro e' hsafe' herror
            cases herror
            exact hsafe hsafe'
          · cases hy
            rw [hscaled] at hout
            cases hout
        · rintro - out hout
          cases hout
  · rw [scaleOpportunity_of_not_pos hm hpos]
    constructor
    · intro h
      have hself := (reducedBy_self_iff hm).1 (h opp rfl)
      exact ⟨fun a ha hlt => absurd (hself a ha) (not_le.2 hlt),
        fun x hx hxpos => absurd ⟨x, hx, hxpos⟩ hpos⟩
    · rintro ⟨hraise, -⟩ out hout
      cases hout
      refine (reducedBy_self_iff hm).2 fun a ha => ?_
      by_contra hlt
      obtain ⟨x, hx, hxpos, -⟩ := hraise a ha (not_le.1 hlt)
      exact hpos ⟨x, hx, hxpos⟩

theorem recover_map {α β : Type} (f : α → β) (fallback : α) (x : Except PyError α) :
    recover safeExceptions (f fallback) (x.map f) = (recover safeExceptions fallback x).map f := by
  cases x with
  | ok a => rfl
  | error e =>
    by_cases hsafe : e ∈ safeExceptions
    · rw [recover_caught hsafe]
      exact recover_caught hsafe _
    · rw [recover_raised hsafe]
      exact recover_raised hsafe _

/-- Without a rejection a funded family gets back what the scaling leaves. -/
theorem applyFamilyBudget_of_goal {rt : Runtime} {opp out : Opportunity}
    {decision : CaptureDecision} {reading : BudgetReading} {goalCap : PyFloat} {force : Bool}
    (hread : readBudget rt opp decision = .ok reading) (hfunded : Funded reading.limit)
    (hgoal : readGoalCap opp.metadata = .ok goalCap)
    (hm : Below (multiplier reading goalCap)) :
    applyFamilyBudget rt opp (some decision) force = .ok (out, none)
      ↔ recover safeExceptions opp (scaleOpportunity opp (multiplier reading goalCap))
        = .ok out := by
  have hne : multiplier reading goalCap ≠ .finite 1 := by
    intro heq
    rw [heq] at hm
    have hlt : (1 : ℚ) < 1 := of_decide_eq_true (p := (1 : ℚ) < 1) hm
    exact lt_irrefl _ hlt
  have hbody : familyBudget rt opp decision force
      = (scaleOpportunity opp (multiplier reading goalCap)).map fun out => (out, none) := by
    rw [familyBudget_of_funded force hread hfunded, hgoal]
    show scaleUnlessOne opp (multiplier reading goalCap) >>= _ = _
    unfold scaleUnlessOne
    rw [if_neg hne]
    cases scaleOpportunity opp (multiplier reading goalCap) <;> rfl
  unfold applyFamilyBudget
  simp only
  rw [hbody, recover_map (fun out => (out, none)) opp, map_ok_iff]
  constructor
  · rintro ⟨out', hout, heq⟩
    cases heq
    exact hout
  · intro hout
    exact ⟨out, hout, rfl⟩

theorem reduced {rt : Runtime} {opp : Opportunity} {decision : CaptureDecision}
    {reading : BudgetReading} {goalCap : PyFloat} {force : Bool}
    (h : BudgetClosed rt opp decision force) (hread : readBudget rt opp decision = .ok reading)
    (hfunded : Funded reading.limit) (hgoal : readGoalCap opp.metadata = .ok goalCap)
    (hm : Below (multiplier reading goalCap)) (out : Opportunity)
    (hout : recover safeExceptions opp (scaleOpportunity opp (multiplier reading goalCap))
      = .ok out) :
    ReducedBy opp out (multiplier reading goalCap) := by
  obtain ⟨reading', goalCap', hread', -, hgoal', hreduced⟩ :=
    h out ((applyFamilyBudget_of_goal hread hfunded hgoal hm).2 hout)
  rw [hread] at hread'
  rw [hgoal] at hgoal'
  cases hread'
  cases hgoal'
  exact hreduced hm

section Returned

variable {rt : Runtime} {opp out : Opportunity} {decision : CaptureDecision} {force : Bool}
  {reading : BudgetReading}

/-- An exception that is not caught returns nothing. -/
theorem not_returned_of_raised {e : PyError} (hsafe : e ∉ safeExceptions)
    (hbody : familyBudget rt opp decision force = .error e) :
    applyFamilyBudget rt opp (some decision) force ≠ .ok (out, none) := by
  intro hout
  unfold applyFamilyBudget at hout
  simp only at hout
  rw [hbody, recover_raised hsafe] at hout
  cases hout

theorem readBudget_of_returned (h : BudgetOk rt opp decision)
    (hout : applyFamilyBudget rt opp (some decision) force = .ok (out, none)) :
    ∃ reading, readBudget rt opp decision = .ok reading := by
  cases hread : readBudget rt opp decision with
  | ok reading => exact ⟨reading, rfl⟩
  | error e =>
    have hsafe : e ∉ safeExceptions := fun hmem => h.reads e hmem hread
    have hbody : familyBudget rt opp decision force = .error e := by
      unfold familyBudget
      rw [hread]
      rfl
    exact absurd hout (not_returned_of_raised hsafe hbody)

theorem funded_of_returned (hread : readBudget rt opp decision = .ok reading)
    (hout : applyFamilyBudget rt opp (some decision) force = .ok (out, none)) :
    Funded reading.limit := by
  by_contra hfunded
  obtain ⟨rejection, hbody⟩ := familyBudget_of_not_funded force hread hfunded
  unfold applyFamilyBudget at hout
  simp only at hout
  rw [hbody] at hout
  cases hout

theorem readGoalCap_of_returned (h : BudgetOk rt opp decision)
    (hread : readBudget rt opp decision = .ok reading) (hfunded : Funded reading.limit)
    (hout : applyFamilyBudget rt opp (some decision) force = .ok (out, none)) :
    ∃ goalCap, readGoalCap opp.metadata = .ok goalCap := by
  cases hgoal : readGoalCap opp.metadata with
  | ok goalCap => exact ⟨goalCap, rfl⟩
  | error e =>
    have hsafe : e ∉ safeExceptions := fun hmem => h.goal reading hread hfunded e hmem hgoal
    have hbody : familyBudget rt opp decision force = .error e := by
      rw [familyBudget_of_funded force hread hfunded, hgoal]
      rfl
    exact absurd hout (not_returned_of_raised hsafe hbody)

end Returned

theorem budgetClosed_iff {rt : Runtime} {opp : Opportunity} {decision : CaptureDecision}
    {force : Bool} : BudgetClosed rt opp decision force ↔ BudgetOk rt opp decision := by
  constructor
  · intro h
    -- a caught exception while reading returns the opportunity without a rejection
    have hreturned : ∀ e ∈ safeExceptions, familyBudget rt opp decision force = .error e →
        applyFamilyBudget rt opp (some decision) force = .ok (opp, none) := by
      intro e hsafe herror
      unfold applyFamilyBudget
      simp only
      rw [herror]
      exact recover_caught hsafe _
    refine ⟨?_, ?_, ?_, ?_⟩
    · intro e hsafe herror
      have hbody : familyBudget rt opp decision force = .error e := by
        unfold familyBudget
        rw [herror]
        rfl
      obtain ⟨reading, goalCap, hread, -⟩ := h opp (hreturned e hsafe hbody)
      rw [herror] at hread
      cases hread
    · intro reading hread hfunded e hsafe herror
      have hbody : familyBudget rt opp decision force = .error e := by
        rw [familyBudget_of_funded force hread hfunded, herror]
        rfl
      obtain ⟨reading', goalCap, -, -, hgoal, -⟩ := h opp (hreturned e hsafe hbody)
      rw [herror] at hgoal
      cases hgoal
    · intro reading goalCap hread hfunded hgoal hm
      exact ((reduced_iff hm).1 (reduced h hread hfunded hgoal hm)).1
    · intro reading goalCap x hread hfunded hgoal hx hpos hlt
      have hm : Below (multiplier reading goalCap) := by
        rw [hx]
        exact decide_eq_true hlt
      exact ((reduced_iff hm).1 (reduced h hread hfunded hgoal hm)).2 x hx hpos
  · intro h out hout
    obtain ⟨reading, hread⟩ := readBudget_of_returned h hout
    have hfunded := funded_of_returned hread hout
    obtain ⟨goalCap, hgoal⟩ := readGoalCap_of_returned h hread hfunded hout
    refine ⟨reading, goalCap, hread, hfunded, hgoal, fun hm => ?_⟩
    refine (reduced_iff hm).2 ⟨?_, ?_⟩ out
      ((applyFamilyBudget_of_goal hread hfunded hgoal hm).1 hout)
    · exact h.scales reading goalCap hread hfunded hgoal hm
    · intro x hx hpos
      have hlt : x < 1 := by
        rw [hx] at hm
        exact of_decide_eq_true hm
      exact h.rounds reading goalCap x hread hfunded hgoal hx hpos hlt

/-! ## Admission -/

/-- **Admission.** The gates and the budget are closed exactly when what they read of an opportunity
can be read, and as what is meant, and what is to be scaled can be scaled. -/
theorem admission_closed_iff (rt : Runtime) (opp : Opportunity) (decision : CaptureDecision)
    (force : Bool) :
    FailClosed rt opp force ∧ BudgetClosed rt opp decision force
      ↔ GatesOk rt opp force ∧ BudgetOk rt opp decision :=
  and_congr failClosed_iff_gatesOk budgetClosed_iff

def stoppedRuntime : Runtime where
  controls := ⟨false, false, false, false⟩
  limits := ⟨100, 1 / 10⟩
  drawdown := { Risk.State.blank with hardStop := ⟨true, ["intraday_loss_stop".toList], 1⟩ }
  killSwitch := Governance.KillSwitchStore.blank
  chain := "arbitrum".toList
  dryRun := false
  now := 0
  familyLimit := fun _ => .ok ⟨true, .finite (1 / 2), by decide⟩

def oddOpportunity : Opportunity where
  legs := [⟨"univ3".toList, "1000".toList, "990".toList⟩]
  minOuts := ["990".toList]
  expectedProfitRaw := "10".toList
  metadata := .dict
    [("strategy_family", .leaf (.text "flashloan_atomic")),
      ("capture", .leaf (.text "unavailable"))]
    ⟨"\x7b'strategy_family': 'flashloan_atomic', 'capture': 'unavailable'\x7d", by decide⟩

/-- After a hard stop an opportunity is let through whose capture is no dictionary. -/
theorem stopped_let_through :
    (stoppedRuntime.drawdownGate (strategyFamilyOf oddOpportunity.metadata)).allowed = false
      ∧ applyControlAndRiskGates stoppedRuntime oddOpportunity false
        = .ok (letThrough oddOpportunity false ⟨false, none, none⟩)
      ∧ ¬ (FailClosed stoppedRuntime oddOpportunity false
        ∧ BudgetClosed stoppedRuntime oddOpportunity ⟨one⟩ false) := by
  have hrefused :
      (stoppedRuntime.drawdownGate (strategyFamilyOf oddOpportunity.metadata)).allowed = false := by
    decide
  have hgates : applyControlAndRiskGates stoppedRuntime oddOpportunity false
      = .ok (letThrough oddOpportunity false ⟨false, none, none⟩) := rfl
  refine ⟨hrefused, hgates, ?_⟩
  rintro ⟨⟨res, hres, hclosed⟩, -⟩
  rw [hgates] at hres
  cases hres
  exact hclosed.drawdown hrefused rfl

end SovereignCapital.Admission
