import SovereignCapital.Lib.Ceiling
import SovereignCapital.Sizing.Contract

/-! # The sizing kernel

`calculate_institutional_size` without a final quote: the approved notional is the least of the
caps it collects. A quote binds the approved notional to raw units and leaves it as it is.
-/

namespace SovereignCapital.Sizing

open Ceiling Decimal

def addCap (label : String) (value : Option ℚ) : List (String × ℚ) :=
  match value with
  | none => []
  | some number => if 0 ≤ number then [(label, number)] else []

def wealthCap (requested : ℚ) (goal : WealthGoalSizingContext) : ℚ :=
  requested * max 0 goal.aggressivenessCap * max (7 / 10) (goal.capitalCommitmentPct / 30)

def remainingPrime (capital : CapitalAuthoritySizingContext) (capacity : ℚ) : ℚ :=
  capacity * max 0 (1 - capital.primeUtilization) - capital.primeReservedUsd

def economicViability (requested : ℚ) (economics : EconomicsSizingContext) : Bool :=
  match economics.expectedNetProfitUsd with
  | none => false
  | some profit => decide (economics.minProfitUsd ≤ profit
      ∧ (0 < economics.minProfitBps → economics.minProfitBps ≤ profit / requested * 10000))

/-- The cap of zero where the condition holds. -/
def zeroIf (p : Prop) [Decidable p] : Option ℚ := if p then some 0 else none

/-- The calls of `_add_cap`, in order, and the zeros among them. -/
def capSources (requested : ℚ) (c : InstitutionalSizingContract) : List (String × Option ℚ) :=
  [("wealth_goal_aggressiveness", some (wealthCap requested c.wealthGoal)),
    ("capital_engine_deployable_pct", c.capital.deployableUsd.map fun deployable =>
      deployable * max 0 c.governance.maxDeployablePct),
    ("capital_after_drawdown_buffer", do
      let buffer ← c.capital.drawdownBufferUsd
      let deployable ← c.capital.deployableUsd
      return max 0 (deployable - buffer)),
    ("internal_prime_remaining_capacity",
      c.capital.primeCapacityUsd.map (remainingPrime c.capital)),
    ("liquidity_available", c.liquidity.availableUsd),
    ("pool_depth", c.liquidity.depthUsd),
    ("pool_depth_cap", c.liquidity.poolDepthCapUsd),
    ("provider_capacity", c.liquidity.providerCapacityUsd),
    ("route_capacity", c.liquidity.routeCapacityUsd),
    ("family_cap", c.capital.familyCapUsd.map fun cap =>
      max 0 (cap - c.capital.primeFamilyExposureUsd)),
    ("expected_economics_viability", zeroIf (economicViability requested c.economics = false)),
    ("execution_realism",
      zeroIf (1 ≤ c.execution.latencyPressure ∨ c.execution.freshnessScore ≤ 0)),
    ("execution_evidence",
      zeroIf (c.execution.simulationConfidence ≤ 0 ∨ c.execution.endpointQuality ≤ 0))]

def caps (requested : ℚ) (c : InstitutionalSizingContract) : List (String × ℚ) :=
  (capSources requested c).flatMap fun source => addCap source.1 source.2

structure SizingDecision where
  approvedNotionalUsd : ℚ
  constraintsApplied : List String
  downsizeReasons : List String
  capitalUtilization : ℚ

def approved (requested : ℚ) (c : InstitutionalSizingContract) : ℚ :=
  max 0 (least requested ((caps requested c).map Prod.snd))

def calculateInstitutionalSize (c : InstitutionalSizingContract) :
    Except String SizingDecision :=
  match c.requestedNotionalUsd with
  | .special => .error "institutional_sizing_contract_invalid"
  | .finite requested =>
    if validate c ≠ [] then .error "institutional_sizing_contract_invalid"
    else if requested ≤ 0 then .ok
      { approvedNotionalUsd := 0
        constraintsApplied := ["requested_notional"]
        downsizeReasons := ["requested_notional_non_positive"]
        capitalUtilization := 0 }
    else
      let collected := ("requested_notional", requested) :: caps requested c
      let size := approved requested c
      .ok
        { approvedNotionalUsd := pyRound 8 size
          constraintsApplied :=
            collected.map Prod.fst ++ ["p_success_validated", "margin_validated"]
          downsizeReasons := (collected.filter fun cap =>
            decide (cap.2 < requested - 1 / 10 ^ 9)).map Prod.fst
          capitalUtilization := pyRound 8 (match c.capital.deployableUsd with
            | some deployable => if 0 < deployable then size / deployable else 0
            | none => 0) }

/-- Building the contract and running the kernel. -/
def institutionalSize (x : SizingInputs) : Except String SizingDecision :=
  buildInstitutionalSizingContract x >>= calculateInstitutionalSize

/-! ## The approved notional -/

theorem mem_addCap {label : String} {value : Option ℚ} {cap : String × ℚ} :
    cap ∈ addCap label value ↔ value = some cap.2 ∧ 0 ≤ cap.2 ∧ cap.1 = label := by
  unfold addCap
  obtain ⟨label', number'⟩ := cap
  cases value with
  | none => simp
  | some number =>
    dsimp only
    split <;> rename_i h
    · simp only [List.mem_singleton, Prod.mk.injEq, Option.some.injEq]
      constructor
      · rintro ⟨rfl, rfl⟩
        exact ⟨rfl, h, rfl⟩
      · rintro ⟨rfl, -, rfl⟩
        exact ⟨rfl, rfl⟩
    · simp only [List.not_mem_nil, Option.some.injEq, false_iff]
      rintro ⟨rfl, hnonneg, -⟩
      exact h hnonneg

variable {requested : ℚ} {c : InstitutionalSizingContract}

theorem mem_caps {cap : String × ℚ} :
    cap ∈ caps requested c ↔ (cap.1, some cap.2) ∈ capSources requested c ∧ 0 ≤ cap.2 := by
  simp only [caps, List.mem_flatMap, mem_addCap]
  constructor
  · rintro ⟨source, hsource, hvalue, hnonneg, hlabel⟩
    refine ⟨?_, hnonneg⟩
    rw [hlabel, ← hvalue]
    exact hsource
  · rintro ⟨hsource, hnonneg⟩
    exact ⟨_, hsource, rfl, hnonneg, rfl⟩

theorem approved_eq (hrequested : 0 < requested) (c : InstitutionalSizingContract) :
    approved requested c = least requested ((caps requested c).map Prod.snd) := by
  refine max_eq_right ?_
  rcases List.mem_cons.1 (least_mem requested ((caps requested c).map Prod.snd)) with heq | hmem
  · rw [heq]
    exact hrequested.le
  · obtain ⟨cap, hcap, heq⟩ := List.mem_map.1 hmem
    rw [← heq]
    exact (mem_caps.1 hcap).2

/-- **Two contracts.** The one's approved notional is at most the other's exactly when each of the
other's caps is met by one of its own, to the eight decimals that are reported. -/
theorem approved_le_iff (hrequested : 0 < requested) (c c' : InstitutionalSizingContract) :
    pyRound 8 (approved requested c') ≤ pyRound 8 (approved requested c)
      ↔ ∀ cap ∈ caps requested c, ∃ cap' ∈ ("requested_notional", requested) :: caps requested c',
        pyRound 8 cap'.2 ≤ pyRound 8 cap.2 := by
  have hmono : Monotone (pyRound 8) := fun _ _ h => pyRound_mono 8 h
  rw [approved_eq hrequested, approved_eq hrequested, map_least_le_iff hmono]
  constructor
  · intro h cap hcap
    obtain ⟨value, hvalue, hle⟩ := h cap.2
      (List.mem_cons_of_mem _ (List.mem_map.2 ⟨cap, hcap, rfl⟩))
    rcases List.mem_cons.1 hvalue with rfl | hvalue
    · exact ⟨_, List.mem_cons_self, hle⟩
    · obtain ⟨cap', hcap', rfl⟩ := List.mem_map.1 hvalue
      exact ⟨cap', List.mem_cons_of_mem _ hcap', hle⟩
  · intro h value hvalue
    rcases List.mem_cons.1 hvalue with rfl | hvalue
    · exact ⟨_, List.mem_cons_self, le_refl _⟩
    · obtain ⟨cap, hcap, rfl⟩ := List.mem_map.1 hvalue
      obtain ⟨cap', hcap', hle⟩ := h cap hcap
      rcases List.mem_cons.1 hcap' with rfl | hcap'
      · exact ⟨_, List.mem_cons_self, hle⟩
      · exact ⟨cap'.2, List.mem_cons_of_mem _ (List.mem_map.2 ⟨cap', hcap', rfl⟩), hle⟩

/-! ## The decision -/

theorem valid_of_ok {d : SizingDecision} (h : calculateInstitutionalSize c = .ok d) :
    validate c = [] ∧ ∃ requested, c.requestedNotionalUsd = .finite requested := by
  unfold calculateInstitutionalSize at h
  cases hrequested : c.requestedNotionalUsd with
  | special =>
    rw [hrequested] at h
    cases h
  | finite requested =>
    rw [hrequested] at h
    dsimp only at h
    by_cases hvalid : validate c = []
    · exact ⟨hvalid, requested, rfl⟩
    · rw [if_pos hvalid] at h
      cases h

theorem decision_of_nonpos (hrequested : c.requestedNotionalUsd = .finite requested)
    (hvalid : validate c = []) (hnonpos : requested ≤ 0) :
    ∃ d, calculateInstitutionalSize c = .ok d ∧ d.approvedNotionalUsd = 0 := by
  simp [calculateInstitutionalSize, hrequested, hvalid, hnonpos]

theorem decision_of_pos (hrequested : c.requestedNotionalUsd = .finite requested)
    (hvalid : validate c = []) (hpos : 0 < requested) :
    ∃ d, calculateInstitutionalSize c = .ok d
      ∧ d.approvedNotionalUsd = pyRound 8 (approved requested c) := by
  simp [calculateInstitutionalSize, hrequested, hvalid, not_le.2 hpos]

end SovereignCapital.Sizing
