import SovereignCapital.Lib.PyTree

/-! # Patches of the wealth goal

`wealth_goals`: a payload names fields of the goal by one of two names, in days or in seconds,
as text or as a number. It is normalised into a whole goal, and what it does not name is taken
from the goal that stands.
-/

namespace SovereignCapital.WealthGoals

open Bytes

/-- `ProfitGoal`, the fields a patch can name. -/
structure ProfitGoal where
  targetReturnPercentage : PyFloat
  timeHorizonSeconds : Int
  riskTolerance : String
  maxDrawdownPct : PyFloat
  capitalCommitmentPct : PyFloat
deriving DecidableEq

def clampFloat (x : PyTree) (lo hi default : ℚ) : PyFloat :=
  let v := x.float.toOption.getD (.finite default)
  let v := if v.lt (.finite hi) then v else .finite hi
  if (PyFloat.finite lo).lt v then v else .finite lo

/-- `clamp_int` of what `int` reads, nothing where it raises. -/
def clampInt (x : Option Int) (lo hi default : Int) : Int := max lo (min hi (x.getD default))

/-- `int(x // 86400)`: a type that has no quotient raises, a quotient that is no integer reads as
nothing. -/
def secondsToDays : PyTree → Except ConversionError (Option Int)
  | .leaf (.bool _) => .ok (some 0)
  | .leaf (.int n) => .ok (some (n / 86400))
  | .leaf (.float x _) => .ok (some ⌊x / 86400⌋)
  | .inf _ => .ok none
  | .nan => .ok none
  | _ => .error .type

def riskTolerances : List String := ["conservative", "moderate", "aggressive"]

def knownRisk (risk : String) : String := if risk ∈ riskTolerances then risk else "moderate"

/-- The risk tolerance a value names. -/
def normalizeRisk (v : PyTree) : String :=
  knownRisk (String.ofList (pyLower (pyStrip (v.orElse (.leaf (.text "moderate"))).str.toList)))

def clampDays (v : PyTree) : Int := clampInt v.int.toOption 1 365 30

def clampSeconds (quotient : Option Int) : Int := clampInt quotient 1 365 30

/-- The target return a value stands for. -/
def clampTarget (v : PyTree) : PyFloat := clampFloat v (1 / 2) 100 8

/-- `timeframe_days` of `normalize_goal_payload`. -/
def timeframeDays (payload : PyMap) : Except ConversionError Int :=
  let days := payload.get "timeframe_days"
  if days.truthy then .ok (clampDays days)
  else
    (secondsToDays ((payload.get? "time_horizon_seconds").getD (.leaf (.int 0)))).map
      clampSeconds

def normalizeGoalPayload (payload : PyMap) : Except ConversionError ProfitGoal := do
  let days ← timeframeDays payload
  return {
    targetReturnPercentage := clampTarget
      ((payload.get "target_return_percentage").orElse (payload.get "target_return_pct"))
    timeHorizonSeconds := days * 86400
    riskTolerance := normalizeRisk (payload.get "risk_tolerance")
    maxDrawdownPct := clampFloat (payload.get "max_drawdown_pct") 1 50 10
    capitalCommitmentPct := clampFloat (payload.get "capital_commitment_pct") 1 100 25 }

/-- `k in payload`. -/
def names (payload : PyMap) (k : String) : Bool := (payload.get? k).isSome

/-- `_current_str`: a blank text counts as missing. -/
def currentStr (value default : String) : String :=
  let value := String.ofList (pyStrip value.toList)
  if value = "" then default else value

/-- The goal a payload leaves when it is normalised to `normalized`. -/
def patch (payload : PyMap) (normalized current : ProfitGoal) : ProfitGoal where
  targetReturnPercentage :=
    if names payload "target_return_percentage" || names payload "target_return_pct" then
      normalized.targetReturnPercentage
    else current.targetReturnPercentage
  timeHorizonSeconds :=
    if names payload "time_horizon_seconds" || names payload "timeframe_days" then
      normalized.timeHorizonSeconds
    else current.timeHorizonSeconds
  riskTolerance :=
    if names payload "risk_tolerance" then normalized.riskTolerance
    else currentStr current.riskTolerance normalized.riskTolerance
  maxDrawdownPct :=
    if names payload "max_drawdown_pct" then normalized.maxDrawdownPct else current.maxDrawdownPct
  capitalCommitmentPct :=
    if names payload "capital_commitment_pct" then normalized.capitalCommitmentPct
    else current.capitalCommitmentPct

theorem patch_riskTolerance (payload : PyMap) (normalized current : ProfitGoal) :
    (patch payload normalized current).riskTolerance
      = if names payload "risk_tolerance" then normalized.riskTolerance
        else currentStr current.riskTolerance normalized.riskTolerance := rfl

def resolveGoalPatchPayload (payload : PyMap) (current : ProfitGoal) :
    Except ConversionError ProfitGoal := do
  let normalized ← normalizeGoalPayload payload
  return patch payload normalized current

/-- `x != y` of two floats. -/
def floatDiffers (x y : PyFloat) : Bool := x = .nan || y = .nan || x ≠ y

def ProfitGoal.differs (g h : ProfitGoal) : Bool :=
  floatDiffers g.targetReturnPercentage h.targetReturnPercentage
    || g.timeHorizonSeconds ≠ h.timeHorizonSeconds
    || g.riskTolerance ≠ h.riskTolerance
    || floatDiffers g.maxDrawdownPct h.maxDrawdownPct
    || floatDiffers g.capitalCommitmentPct h.capitalCommitmentPct

/-- `goal_patch_changes_state`: the current goal is resolved with an empty payload first. -/
def goalPatchChangesState (resolved current : ProfitGoal) : Bool :=
  match resolveGoalPatchPayload [] current with
  | .ok current => current.differs resolved
  | .error _ => true

def ProfitGoal.hasNan (g : ProfitGoal) : Bool :=
  g.targetReturnPercentage = .nan || g.maxDrawdownPct = .nan || g.capitalCommitmentPct = .nan

/-! ## What a patch should do -/

/-- Each named field has the clamped value of one of its names, every other field stays. -/
structure Patched (payload : PyMap) (old new : ProfitGoal) : Prop where
  target : names payload "target_return_percentage" || names payload "target_return_pct" →
    ∃ k ∈ ["target_return_percentage", "target_return_pct"], ∃ v, payload.get? k = some v
      ∧ new.targetReturnPercentage = clampTarget v
  horizon : names payload "time_horizon_seconds" || names payload "timeframe_days" →
    (∃ v, payload.get? "timeframe_days" = some v
      ∧ new.timeHorizonSeconds = clampDays v * 86400)
    ∨ ∃ v quotient, payload.get? "time_horizon_seconds" = some v
      ∧ secondsToDays v = .ok quotient ∧ new.timeHorizonSeconds = clampSeconds quotient * 86400
  risk : ∀ v, payload.get? "risk_tolerance" = some v → new.riskTolerance = normalizeRisk v
  drawdown : ∀ v, payload.get? "max_drawdown_pct" = some v →
    new.maxDrawdownPct = clampFloat v 1 50 10
  commitment : ∀ v, payload.get? "capital_commitment_pct" = some v →
    new.capitalCommitmentPct = clampFloat v 1 100 25
  targetKept : names payload "target_return_percentage" = false →
    names payload "target_return_pct" = false →
    new.targetReturnPercentage = old.targetReturnPercentage
  horizonKept : names payload "time_horizon_seconds" = false →
    names payload "timeframe_days" = false → new.timeHorizonSeconds = old.timeHorizonSeconds
  riskKept : names payload "risk_tolerance" = false → new.riskTolerance = old.riskTolerance
  drawdownKept : names payload "max_drawdown_pct" = false → new.maxDrawdownPct = old.maxDrawdownPct
  commitmentKept : names payload "capital_commitment_pct" = false →
    new.capitalCommitmentPct = old.capitalCommitmentPct

/-- A field that is named by a falsy value alone is read as if it were missing; then its clamped
value is the one a missing value has. -/
structure NamesRead (payload : PyMap) : Prop where
  target : ∀ v, payload.get? "target_return_percentage" = some v → v.truthy = false →
    names payload "target_return_pct" = false → clampTarget v = clampTarget (.leaf .none)
  horizon : ∀ v, payload.get? "timeframe_days" = some v → v.truthy = false →
    names payload "time_horizon_seconds" = false → clampDays v = 1

/-! ## Normalising -/

variable {payload : PyMap} {k : String}

theorem names_iff : names payload k = true ↔ ∃ v, payload.get? k = some v := by
  simp [names, Option.isSome_iff_exists]

theorem get_of_get? {v : PyTree} (h : payload.get? k = some v) : payload.get k = v := by
  simp [PyMap.get, h]

theorem get_of_not_names (h : names payload k = false) : payload.get k = .leaf .none := by
  have hnone : payload.get? k = none := by simpa [names] using h
  simp [PyMap.get, hnone]

theorem normalizeGoalPayload_ok {g : ProfitGoal} (h : normalizeGoalPayload payload = .ok g) :
    ∃ days, timeframeDays payload = .ok days ∧ g.timeHorizonSeconds = days * 86400
      ∧ g.targetReturnPercentage = clampTarget
        ((payload.get "target_return_percentage").orElse (payload.get "target_return_pct"))
      ∧ g.riskTolerance = normalizeRisk (payload.get "risk_tolerance")
      ∧ g.maxDrawdownPct = clampFloat (payload.get "max_drawdown_pct") 1 50 10
      ∧ g.capitalCommitmentPct = clampFloat (payload.get "capital_commitment_pct") 1 100 25 := by
  unfold normalizeGoalPayload at h
  cases hdays : timeframeDays payload with
  | error e =>
    rw [hdays] at h
    cases h
  | ok days =>
    rw [hdays] at h
    obtain rfl := Except.ok.inj h
    refine ⟨days, rfl, ?_, ?_, ?_, ?_, ?_⟩ <;> simp only

theorem resolve_ok {current g : ProfitGoal} (h : resolveGoalPatchPayload payload current = .ok g) :
    ∃ normalized, normalizeGoalPayload payload = .ok normalized
      ∧ g = patch payload normalized current := by
  unfold resolveGoalPatchPayload at h
  cases hn : normalizeGoalPayload payload with
  | error e =>
    rw [hn] at h
    cases h
  | ok normalized =>
    rw [hn] at h
    cases h
    exact ⟨normalized, rfl, rfl⟩

theorem normalizeRisk_mem (v : PyTree) : normalizeRisk v ∈ riskTolerances := by
  unfold normalizeRisk knownRisk
  split
  · assumption
  · decide

/-- One of the three names is not blank. -/
theorem currentStr_of_mem {risk : String} (h : risk ∈ riskTolerances) (default : String) :
    currentStr risk default = risk := by
  rcases List.mem_cons.1 h with rfl | h
  · rfl
  · rcases List.mem_cons.1 h with rfl | h
    · rfl
    · rw [List.mem_singleton.1 h]
      rfl

theorem timeframeDays_of_falsy (hdays : (payload.get "timeframe_days").truthy = false) :
    timeframeDays payload
      = (secondsToDays ((payload.get? "time_horizon_seconds").getD (.leaf (.int 0)))).map
        clampSeconds := by
  simp [timeframeDays, hdays]

/-! ## A patch that changes nothing -/

theorem patched_target_iff {x : PyFloat}
    (hx : x = clampTarget
      ((payload.get "target_return_percentage").orElse (payload.get "target_return_pct"))) :
    (names payload "target_return_percentage" || names payload "target_return_pct" →
      ∃ k ∈ ["target_return_percentage", "target_return_pct"], ∃ v, payload.get? k = some v
        ∧ x = clampTarget v)
    ↔ ∀ v, payload.get? "target_return_percentage" = some v → v.truthy = false →
      names payload "target_return_pct" = false → clampTarget v = clampTarget (.leaf .none) := by
  constructor
  · intro h v hv hfalsy hpct
    obtain ⟨k, hk, w, hw, hclamp⟩ := h (by simp [names, hv])
    -- the other name is not there, so that the value read is the falsy one
    have hkey : k = "target_return_percentage" := by
      rcases List.mem_cons.1 hk with hk | hk
      · exact hk
      · rw [List.mem_singleton.1 hk] at hw
        rw [names_iff.2 ⟨w, hw⟩] at hpct
        cases hpct
    rw [hkey, hv] at hw
    obtain rfl := Option.some.inj hw
    rw [← hclamp, hx, get_of_get? hv, PyTree.orElse_of_falsy _ hfalsy, get_of_not_names hpct]
  · intro h hnamed
    cases hv : payload.get? "target_return_percentage" with
    | none =>
      have hfirst : payload.get "target_return_percentage" = .leaf .none :=
        get_of_not_names (by simp [names, hv])
      have hpct : names payload "target_return_pct" = true := by
        simpa [names, hv] using hnamed
      obtain ⟨w, hw⟩ := names_iff.1 hpct
      refine ⟨"target_return_pct", by simp, w, hw, ?_⟩
      rw [hx, hfirst, PyTree.orElse_of_falsy _ rfl, get_of_get? hw]
    | some v =>
      by_cases htruthy : v.truthy = true
      · refine ⟨"target_return_percentage", by simp, v, hv, ?_⟩
        rw [hx, get_of_get? hv, PyTree.orElse_of_truthy _ htruthy]
      · have hfalsy : v.truthy = false := Bool.not_eq_true _ ▸ htruthy
        cases hpct : names payload "target_return_pct" with
        | true =>
          obtain ⟨w, hw⟩ := names_iff.1 hpct
          refine ⟨"target_return_pct", by simp, w, hw, ?_⟩
          rw [hx, get_of_get? hv, PyTree.orElse_of_falsy _ hfalsy, get_of_get? hw]
        | false =>
          refine ⟨"target_return_percentage", by simp, v, hv, ?_⟩
          rw [hx, get_of_get? hv, PyTree.orElse_of_falsy _ hfalsy, get_of_not_names hpct,
            h v hv hfalsy hpct]

theorem patched_horizon_iff {days : Int} (hdays : timeframeDays payload = .ok days) :
    (names payload "time_horizon_seconds" || names payload "timeframe_days" →
      (∃ v, payload.get? "timeframe_days" = some v ∧ days * 86400 = clampDays v * 86400)
      ∨ ∃ v quotient, payload.get? "time_horizon_seconds" = some v
        ∧ secondsToDays v = .ok quotient ∧ days * 86400 = clampSeconds quotient * 86400)
    ↔ ∀ v, payload.get? "timeframe_days" = some v → v.truthy = false →
      names payload "time_horizon_seconds" = false → clampDays v = 1 := by
  -- with neither name truthy the days come from the seconds, or from zero
  have hseconds : ∀ v, (payload.get "timeframe_days").truthy = false →
      payload.get? "time_horizon_seconds" = some v →
      ∃ quotient, secondsToDays v = .ok quotient ∧ days = clampSeconds quotient := by
    intro v hfalsy hv
    rw [timeframeDays_of_falsy hfalsy, hv, Option.getD_some] at hdays
    cases hq : secondsToDays v with
    | error e =>
      rw [hq] at hdays
      cases hdays
    | ok quotient =>
      rw [hq] at hdays
      cases hdays
      exact ⟨quotient, rfl, rfl⟩
  have hzero : (payload.get "timeframe_days").truthy = false →
      names payload "time_horizon_seconds" = false → days = 1 := by
    intro hfalsy hnot
    have hnone : payload.get? "time_horizon_seconds" = none := by simpa [names] using hnot
    rw [timeframeDays_of_falsy hfalsy, hnone] at hdays
    cases hdays
    rfl
  constructor
  · intro h v hv hfalsy hnot
    have hget : (payload.get "timeframe_days").truthy = false := by rw [get_of_get? hv, hfalsy]
    rcases h (by simp [names, hv]) with ⟨w, hw, heq⟩ | ⟨w, _, hw, -⟩
    · rw [hv] at hw
      obtain rfl := Option.some.inj hw
      have hone := hzero hget hnot
      omega
    · rw [names_iff.2 ⟨w, hw⟩] at hnot
      cases hnot
  · intro h hnamed
    cases hv : payload.get? "timeframe_days" with
    | none =>
      have hget : (payload.get "timeframe_days").truthy = false := by simp [PyMap.get, hv]; rfl
      have hsec : names payload "time_horizon_seconds" = true := by
        simpa [names, hv] using hnamed
      obtain ⟨w, hw⟩ := names_iff.1 hsec
      obtain ⟨quotient, hq, heq⟩ := hseconds w hget hw
      exact Or.inr ⟨w, quotient, hw, hq, by rw [heq]⟩
    | some v =>
      by_cases htruthy : v.truthy = true
      · have hfirst : timeframeDays payload = .ok (clampDays v) := by
          simp [timeframeDays, get_of_get? hv, htruthy]
        rw [hfirst] at hdays
        cases hdays
        exact Or.inl ⟨v, rfl, rfl⟩
      · have hfalsy : v.truthy = false := Bool.not_eq_true _ ▸ htruthy
        have hget : (payload.get "timeframe_days").truthy = false := by
          rw [get_of_get? hv, hfalsy]
        cases hsec : names payload "time_horizon_seconds" with
        | true =>
          obtain ⟨w, hw⟩ := names_iff.1 hsec
          obtain ⟨quotient, hq, heq⟩ := hseconds w hget hw
          exact Or.inr ⟨w, quotient, hw, hq, by rw [heq]⟩
        | false =>
          refine Or.inl ⟨v, rfl, ?_⟩
          rw [hzero hget hsec, h v hv hfalsy hsec]

/-- A goal that is resolved into itself has the values its names ask for exactly when no falsy
value was dropped. -/
theorem patched_self_iff {goal : ProfitGoal} (h : resolveGoalPatchPayload payload goal = .ok goal) :
    Patched payload goal goal ↔ NamesRead payload := by
  obtain ⟨normalized, hnorm, hpatch⟩ := resolve_ok h
  obtain ⟨days, hdays, hhorizon, htarget, hrisk, hdrawdown, hcommitment⟩ :=
    normalizeGoalPayload_ok hnorm
  have hfield := patched_target_iff htarget
  have hdaysField := patched_horizon_iff hdays
  have hgoalTarget : (names payload "target_return_percentage"
      || names payload "target_return_pct") = true →
      goal.targetReturnPercentage = normalized.targetReturnPercentage := by
    intro hnamed
    have heq := congrArg ProfitGoal.targetReturnPercentage hpatch
    rwa [patch, if_pos hnamed] at heq
  have hgoalHorizon : (names payload "time_horizon_seconds"
      || names payload "timeframe_days") = true → goal.timeHorizonSeconds = days * 86400 := by
    intro hnamed
    have heq := congrArg ProfitGoal.timeHorizonSeconds hpatch
    rw [patch, if_pos hnamed] at heq
    exact heq.trans hhorizon
  constructor
  · intro hp
    refine ⟨hfield.1 fun hnamed => ?_, hdaysField.1 fun hnamed => ?_⟩
    · rw [← hgoalTarget hnamed]
      exact hp.target hnamed
    · rw [← hgoalHorizon hnamed]
      exact hp.horizon hnamed
  · intro hr
    refine ⟨fun hnamed => ?_, fun hnamed => ?_, fun v hv => ?_, fun v hv => ?_, fun v hv => ?_,
      fun _ _ => rfl, fun _ _ => rfl, fun _ => rfl, fun _ => rfl, fun _ => rfl⟩
    · rw [hgoalTarget hnamed]
      exact hfield.2 hr.target hnamed
    · rw [hgoalHorizon hnamed]
      exact hdaysField.2 hr.horizon hnamed
    · have heq := congrArg ProfitGoal.riskTolerance hpatch
      rw [patch, if_pos (names_iff.2 ⟨v, hv⟩), hrisk, get_of_get? hv] at heq
      exact heq
    · have heq := congrArg ProfitGoal.maxDrawdownPct hpatch
      rw [patch, if_pos (names_iff.2 ⟨v, hv⟩), hdrawdown, get_of_get? hv] at heq
      exact heq
    · have heq := congrArg ProfitGoal.capitalCommitmentPct hpatch
      rw [patch, if_pos (names_iff.2 ⟨v, hv⟩), hcommitment, get_of_get? hv] at heq
      exact heq

end SovereignCapital.WealthGoals
