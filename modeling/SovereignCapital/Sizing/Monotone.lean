import SovereignCapital.Sizing.Limits

/-! # Sizing under a smaller limit

A smaller value of one supplied limit. The request does not grow where the limit is still read and
stands, and not where it does not bind; a zero under a key that `or` reads on from may raise it.
-/

namespace SovereignCapital.Sizing

/-! ## From a limit to the contract -/

/-- A number that is not zero is kept by `or`. -/
theorem truthy_of_finiteFloat {v : PyValue} {q : ℚ} (h : finiteFloat v = some q) (hq : q ≠ 0) :
    v.truthy = true := by
  cases v with
  | none => cases h
  | bool b =>
    cases b with
    | true => rfl
    | false =>
      simp only [finiteFloat, PyValue.float?, Bool.false_eq_true, if_false,
        Option.some.injEq] at h
      exact absurd h.symm hq
  | int n =>
    simp only [finiteFloat, PyValue.float?, Option.some.injEq] at h
    simp only [PyValue.truthy, bne_iff_ne, ne_eq]
    rintro rfl
    exact hq (by rw [← h]; rfl)
  | float x repr =>
    simp only [finiteFloat, PyValue.float?, Option.some.injEq] at h
    simpa [PyValue.truthy, h] using hq
  | text s =>
    simp only [PyValue.truthy, bne_iff_ne, ne_eq]
    rintro rfl
    have hempty : finiteFloat (.text "") = none := rfl
    rw [hempty] at h
    cases h
  | object truthy repr => cases h

/-- The number under the first name is the one that is read. -/
theorem finiteFloat_orElse {v w : PyValue} {q : ℚ} (h : finiteFloat v = some q) (hq : q ≠ 0) :
    finiteFloat (v.orElse w) = some q := by
  rw [PyValue.orElse_of_truthy _ (truthy_of_finiteFloat h hq), h]

theorem floatOr_of_pos {v : PyValue} {q d : ℚ} (h : finiteFloat v = some q) (hq : 0 < q) :
    floatOr v d = q := by
  simp [floatOr, h, hq.ne']

section

variable (x : SizingInputs) (goal : WealthGoalSizingContext) (key : String) (w : PyValue)

theorem contractOf_capture (hkey : key ∉ ["latency_pressure", "endpoint_quality",
    "simulation_confidence", "freshness_score"]) :
    contractOf (x.set .executionCapture key w) goal
      = { contractOf x goal with
          liquidity := buildLiquidityContext (x.set .executionCapture key w) } := by
  simp only [List.mem_cons, List.not_mem_nil, or_false, not_or] at hkey
  obtain ⟨h₁, h₂, h₃, h₄⟩ := hkey
  simp [contractOf, buildExecutionContext, buildEconomicsContext, buildCapitalContext,
    buildGovernanceContext, buildSettlementContext, SizingInputs.either, SizingInputs.present,
    SizingInputs.flag, SizingInputs.textOf, Ne.symm h₁, Ne.symm h₂, Ne.symm h₃,
    Ne.symm h₄]

theorem contractOf_governance :
    contractOf (x.set .governance key w) goal
      = { contractOf x goal with
          governance := buildGovernanceContext (x.set .governance key w) } := by
  simp [contractOf, buildLiquidityContext, buildExecutionContext, buildEconomicsContext,
    buildCapitalContext, buildSettlementContext, SizingInputs.either, SizingInputs.present,
    SizingInputs.flag, SizingInputs.textOf]

theorem contractOf_capital {m : Mapping}
    (hm : m ∈ [Mapping.capitalEngineState, .familyCapsUsd, .internalPrimeState]) :
    contractOf (x.set m key w) goal
      = { contractOf x goal with capital := buildCapitalContext (x.set m key w) } := by
  simp only [List.mem_cons, List.not_mem_nil, or_false] at hm
  rcases hm with rfl | rfl | rfl <;>
    simp [contractOf, buildLiquidityContext, buildExecutionContext, buildEconomicsContext,
      buildGovernanceContext, buildSettlementContext, SizingInputs.either, SizingInputs.present,
      SizingInputs.flag, SizingInputs.textOf]

theorem contractOf_wealthGoal :
    contractOf (x.set .wealthGoal key w) goal = contractOf x goal := by
  simp [contractOf, buildLiquidityContext, buildExecutionContext, buildEconomicsContext,
    buildCapitalContext, buildGovernanceContext, buildSettlementContext, SizingInputs.either,
    SizingInputs.present, SizingInputs.flag, SizingInputs.textOf]

theorem wealthGoalOf_set {m : Mapping} (hm : m ≠ .wealthGoal) (days : Int) :
    wealthGoalOf (x.set m key w) days = wealthGoalOf x days := by
  simp [wealthGoalOf, SizingInputs.either, hm.symm]

theorem days_set {m : Mapping}
    (hkey : m = .wealthGoal → key ≠ "timeframeDays" ∧ key ≠ "timeframe_days") :
    (((x.set m key w).get .wealthGoal "timeframeDays").orElse
        (((x.set m key w).get .wealthGoal "timeframe_days").orElse (.int 30))).int?
      = ((x.get .wealthGoal "timeframeDays").orElse
        ((x.get .wealthGoal "timeframe_days").orElse (.int 30))).int? := by
  by_cases hm : m = .wealthGoal
  · simp [(hkey hm).1.symm, (hkey hm).2.symm]
  · simp [Ne.symm hm]

theorem buildWealthGoalContext_set {m : Mapping}
    (hkey : m = .wealthGoal → key ≠ "timeframeDays" ∧ key ≠ "timeframe_days") :
    (∃ e, buildWealthGoalContext x = .error e ∧ buildWealthGoalContext (x.set m key w) = .error e)
      ∨ ∃ days, buildWealthGoalContext x = .ok (wealthGoalOf x days)
        ∧ buildWealthGoalContext (x.set m key w) = .ok (wealthGoalOf (x.set m key w) days) := by
  unfold buildWealthGoalContext
  rw [days_set x key w hkey]
  cases ((x.get .wealthGoal "timeframeDays").orElse
      ((x.get .wealthGoal "timeframe_days").orElse (.int 30))).int? with
  | none => exact Or.inl ⟨_, rfl, rfl⟩
  | some days => exact Or.inr ⟨days, rfl, rfl⟩

end

/-! ## Reading a limit -/

def Limit.put (c : InstitutionalSizingContract) (v : PyValue) :
    Limit → InstitutionalSizingContract
  | available => { c with capital := { c.capital with availableUsd := finiteFloat v } }
  | deployable => { c with capital := { c.capital with deployableUsd := finiteFloat v } }
  | familyCap => { c with capital := { c.capital with familyCapUsd := finiteFloat v } }
  | familyConcentration =>
    { c with governance := { c.governance with maxFamilyConcentration := floatOr v (45 / 100) } }
  | liquidityAvailable => { c with liquidity := { c.liquidity with availableUsd := finiteFloat v } }
  | depth => { c with liquidity := { c.liquidity with depthUsd := finiteFloat v } }
  | depthCap => { c with liquidity := { c.liquidity with poolDepthCapUsd := finiteFloat v } }
  | providerCapacity =>
    { c with liquidity := { c.liquidity with providerCapacityUsd := finiteFloat v } }
  | routeCapacity => { c with liquidity := { c.liquidity with routeCapacityUsd := finiteFloat v } }
  | primeCapacity => { c with capital := { c.capital with primeCapacityUsd := finiteFloat v } }
  | maxDrawdown => { c with wealthGoal := { c.wealthGoal with maxDrawdownPct := floatOr v 10 } }
  | maxDeployable =>
    { c with governance := { c.governance with maxDeployablePct := floatOr v (35 / 100) } }
  | commitment =>
    { c with wealthGoal := { c.wealthGoal with capitalCommitmentPct := floatOr v 25 } }
  | aggressiveness =>
    { c with wealthGoal := { c.wealthGoal with aggressivenessCap := floatOr v 1 } }

section

variable {c : InstitutionalSizingContract} {l : Limit} {q : ℚ}

theorem Limit.value_put {v : PyValue} (h : finiteFloat v = some q) (hq : 0 < q) :
    l.value (l.put c v) = some q := by
  cases l <;> simp [Limit.value, Limit.put, h, floatOr_of_pos h hq]

theorem Change.put (h : l.value c = some q) (hq : 0 < q) (v : PyValue) :
    Change c l (l.put c v) := by
  cases l with
  | deployable => exact .deployable _ (by simp only [Limit.value] at h; simp [h])
  | primeCapacity => exact .primeCapacity _ (by simp only [Limit.value] at h; simp [h])
  | maxDrawdown => exact .maxDrawdown _ (by simp only [Limit.value] at h; cases h; exact hq.le)
  | aggressiveness => exact .aggressiveness _ (by simp only [Limit.value] at h; cases h; exact hq)
  | available => exact .available _
  | familyCap => exact .familyCap _
  | familyConcentration => exact .familyConcentration _
  | liquidityAvailable => exact .liquidityAvailable _
  | depth => exact .depth _
  | depthCap => exact .depthCap _
  | providerCapacity => exact .providerCapacity _
  | routeCapacity => exact .routeCapacity _
  | maxDeployable => exact .maxDeployable _
  | commitment => exact .commitment _

end

/-- What is read where a value stands under one of the names: always the same, or the value where
it is a positive number. -/
def Picks (read : PyValue → PyValue) : Prop :=
  (∀ w w', read w = read w')
    ∨ ∀ w q, finiteFloat w = some q → 0 < q → finiteFloat (read w) = some q

theorem picks_only : Picks id := Or.inr fun _ _ h _ => h

theorem picks_first (other : PyValue) : Picks fun w => w.orElse other :=
  Or.inr fun _ _ h hq => finiteFloat_orElse h hq.ne'

theorem picks_second (first : PyValue) : Picks fun w => first.orElse w := by
  by_cases hfirst : first.truthy = true
  · refine Or.inl fun w w' => ?_
    simp only [PyValue.orElse_of_truthy _ hfirst]
  · refine Or.inr fun w q h _ => ?_
    simp only [PyValue.orElse_of_falsy _ (Bool.not_eq_true _ ▸ hfirst), h]

/-! ## Supplied limits -/

structure RiskLimit where
  mapping : Mapping
  key : String
  limit : Limit

/-- The limits that may be supplied, under all their names. -/
def riskLimits (strategyFamily : String) : List RiskLimit :=
  [⟨.capitalEngineState, "available_usd", .available⟩,
    ⟨.capitalEngineState, "availableUsd", .available⟩,
    ⟨.capitalEngineState, "deployable_usd", .deployable⟩,
    ⟨.capitalEngineState, "deployableUsd", .deployable⟩,
    ⟨.familyCapsUsd, strategyFamily, .familyCap⟩,
    ⟨.governance, "max_family_concentration", .familyConcentration⟩,
    ⟨.executionCapture, "available_usd", .liquidityAvailable⟩,
    ⟨.executionCapture, "liquidity_available_usd", .liquidityAvailable⟩,
    ⟨.executionCapture, "depth_usd", .depth⟩,
    ⟨.executionCapture, "pool_depth_usd", .depth⟩,
    ⟨.executionCapture, "pool_depth_cap_usd", .depthCap⟩,
    ⟨.executionCapture, "provider_capacity_usd", .providerCapacity⟩,
    ⟨.executionCapture, "route_capacity_usd", .routeCapacity⟩,
    ⟨.internalPrimeState, "capacityUsd", .primeCapacity⟩,
    ⟨.capitalEngineState, "prime_capacity_usd", .primeCapacity⟩,
    ⟨.wealthGoal, "maxDrawdownPct", .maxDrawdown⟩,
    ⟨.wealthGoal, "max_drawdown_pct", .maxDrawdown⟩,
    ⟨.governance, "max_deployable_pct", .maxDeployable⟩,
    ⟨.wealthGoal, "capitalCommitmentPct", .commitment⟩,
    ⟨.wealthGoal, "capital_commitment_pct", .commitment⟩,
    ⟨.wealthGoal, "aggressivenessCap", .aggressiveness⟩,
    ⟨.wealthGoal, "aggressiveness_cap", .aggressiveness⟩]

section

variable {x : SizingInputs} {r : RiskLimit} {v v' : ℚ}

/-- The contract with a value under the key of a limit is the contract with the limit read from
it. -/
def ReadBy (x : SizingInputs) (r : RiskLimit) (read : PyValue → PyValue) : Prop :=
  ∀ days, contractOf x (wealthGoalOf x days)
      = r.limit.put (contractOf x (wealthGoalOf x days)) (read (x.get r.mapping r.key))
    ∧ ∀ w, contractOf (x.set r.mapping r.key w) (wealthGoalOf (x.set r.mapping r.key w) days)
      = r.limit.put (contractOf x (wealthGoalOf x days)) (read w)

theorem exists_readBy (hr : r ∈ riskLimits x.strategyFamily) :
    ∃ read, Picks read ∧ ReadBy x r read := by
  simp only [riskLimits, List.mem_cons, List.not_mem_nil, or_false] at hr
  rcases hr with rfl | rfl | rfl | rfl | rfl | rfl | rfl | rfl | rfl | rfl | rfl | rfl | rfl
    | rfl | rfl | rfl | rfl | rfl | rfl | rfl | rfl | rfl <;> [
      refine ⟨_, picks_first (x.get .capitalEngineState "availableUsd"), ?_⟩;
      refine ⟨_, picks_second (x.get .capitalEngineState "available_usd"), ?_⟩;
      refine ⟨_, picks_first (x.get .capitalEngineState "deployableUsd"), ?_⟩;
      refine ⟨_, picks_second (x.get .capitalEngineState "deployable_usd"), ?_⟩;
      refine ⟨_, picks_only, ?_⟩;
      refine ⟨_, picks_only, ?_⟩;
      refine ⟨_, picks_first (x.get .executionCapture "liquidity_available_usd"), ?_⟩;
      refine ⟨_, picks_second (x.get .executionCapture "available_usd"), ?_⟩;
      refine ⟨_, picks_first (x.get .executionCapture "pool_depth_usd"), ?_⟩;
      refine ⟨_, picks_second (x.get .executionCapture "depth_usd"), ?_⟩;
      refine ⟨_, picks_only, ?_⟩;
      refine ⟨_, picks_only, ?_⟩;
      refine ⟨_, picks_only, ?_⟩;
      refine ⟨_, picks_first (x.get .capitalEngineState "prime_capacity_usd"), ?_⟩;
      refine ⟨_, picks_second (x.get .internalPrimeState "capacityUsd"), ?_⟩;
      refine ⟨_, picks_first (x.get .wealthGoal "max_drawdown_pct"), ?_⟩;
      refine ⟨_, picks_second (x.get .wealthGoal "maxDrawdownPct"), ?_⟩;
      refine ⟨_, picks_only, ?_⟩;
      refine ⟨_, picks_first (x.get .wealthGoal "capital_commitment_pct"), ?_⟩;
      refine ⟨_, picks_second (x.get .wealthGoal "capitalCommitmentPct"), ?_⟩;
      refine ⟨_, picks_first (x.get .wealthGoal "aggressiveness_cap"), ?_⟩;
      refine ⟨_, picks_second (x.get .wealthGoal "aggressivenessCap"), ?_⟩]
  all_goals refine fun days => ⟨rfl, fun w => ?_⟩
  -- one context is read anew, which one the dictionary of the key decides
  all_goals first
    | rw [contractOf_wealthGoal]
    | rw [wealthGoalOf_set x _ w (by simp), contractOf_governance]
    | rw [wealthGoalOf_set x _ w (by simp), contractOf_capture x _ _ w (by simp)]
    | rw [wealthGoalOf_set x _ w (by simp), contractOf_capital x _ _ w (by simp)]
  all_goals simp [Limit.put, contractOf, buildCapitalContext, buildLiquidityContext,
    buildGovernanceContext, wealthGoalOf, SizingInputs.either, SizingInputs.flag,
    SizingInputs.textOf]

theorem change_of_mem (hr : r ∈ riskLimits x.strategyFamily)
    (hv : finiteFloat (x.get r.mapping r.key) = some v) (hpos : 0 < v) (w : PyValue) (days : Int) :
    Change (contractOf x (wealthGoalOf x days)) r.limit
      (contractOf (x.set r.mapping r.key w) (wealthGoalOf (x.set r.mapping r.key w) days)) := by
  obtain ⟨read, hreads, hread⟩ := exists_readBy hr
  obtain ⟨hold, hnew⟩ := hread days
  rw [hnew w]
  rcases hreads with hsame | hreads
  · rw [hsame w (x.get r.mapping r.key), ← hold]
    exact .none _
  · refine Change.put ?_ hpos _
    rw [hold]
    exact Limit.value_put (hreads _ v hv hpos) hpos

/-- A positive value is read in the place of the old one, or neither is. -/
theorem value_of_mem (hr : r ∈ riskLimits x.strategyFamily)
    (hv : finiteFloat (x.get r.mapping r.key) = some v) (hpos : 0 < v) {w : PyValue}
    (hw : finiteFloat w = some v') (hpos' : 0 < v') (days : Int) :
    contractOf (x.set r.mapping r.key w) (wealthGoalOf (x.set r.mapping r.key w) days)
        = contractOf x (wealthGoalOf x days)
      ∨ r.limit.value (contractOf x (wealthGoalOf x days)) = some v
        ∧ r.limit.value (contractOf (x.set r.mapping r.key w)
          (wealthGoalOf (x.set r.mapping r.key w) days)) = some v' := by
  obtain ⟨read, hreads, hread⟩ := exists_readBy hr
  obtain ⟨hold, hnew⟩ := hread days
  rw [hnew w]
  rcases hreads with hsame | hreads
  · left
    rw [hsame w (x.get r.mapping r.key), ← hold]
  · right
    refine ⟨?_, Limit.value_put (hreads w v' hw hpos') hpos'⟩
    rw [hold]
    exact Limit.value_put (hreads _ v hv hpos) hpos

end

/-! ## Two runs -/

/-- The approved notional of the second run is not larger than that of the first. -/
def NotLarger (x x' : SizingInputs) : Prop :=
  ∀ d', institutionalSize x' = .ok d' →
    ∃ d, institutionalSize x = .ok d ∧ d'.approvedNotionalUsd ≤ d.approvedNotionalUsd

/-- What keeps a request that is accepted with the smaller value: the value is positive and not a
prime capacity, or the limit stands in the contract, or it does not bind. -/
def Bounded (x : SizingInputs) (r : RiskLimit) (w : PyValue) (v' : ℚ) : Prop :=
  ∀ c c' requested, buildInstitutionalSizingContract x = .ok c →
    buildInstitutionalSizingContract (x.set r.mapping r.key w) = .ok c' →
    x.requestedNotionalUsd = .finite requested → 0 < requested → validate c' = [] →
    (0 < v' ∧ r.limit ≠ .primeCapacity) ∨ r.limit.Stands c c' ∨ r.limit.Slack requested c c'

section

variable {x : SizingInputs} {r : RiskLimit} {w : PyValue} {v v' : ℚ}

theorem contracts_of_mem (hr : r ∈ riskLimits x.strategyFamily) (w : PyValue) :
    (∃ e, buildInstitutionalSizingContract x = .error e
        ∧ buildInstitutionalSizingContract (x.set r.mapping r.key w) = .error e)
      ∨ ∃ days, buildInstitutionalSizingContract x = .ok (contractOf x (wealthGoalOf x days))
        ∧ buildInstitutionalSizingContract (x.set r.mapping r.key w)
          = .ok (contractOf (x.set r.mapping r.key w)
            (wealthGoalOf (x.set r.mapping r.key w) days)) := by
  have hkey : r.mapping = .wealthGoal → r.key ≠ "timeframeDays" ∧ r.key ≠ "timeframe_days" := by
    simp only [riskLimits, List.mem_cons, List.not_mem_nil, or_false] at hr
    rcases hr with rfl | rfl | rfl | rfl | rfl | rfl | rfl | rfl | rfl | rfl | rfl | rfl | rfl
      | rfl | rfl | rfl | rfl | rfl | rfl | rfl | rfl | rfl <;> simp
  simp only [buildInstitutionalSizingContract]
  rcases buildWealthGoalContext_set x r.key w hkey with ⟨e, hold, hnew⟩ | ⟨days, hold, hnew⟩
  · exact Or.inl ⟨e, by rw [hold]; rfl, by rw [hnew]; rfl⟩
  · exact Or.inr ⟨days, by rw [hold]; rfl, by rw [hnew]; rfl⟩

/-- A positive value stands, or changes nothing. -/
theorem slack_of_pos (hr : r ∈ riskLimits x.strategyFamily)
    (hv : finiteFloat (x.get r.mapping r.key) = some v) (hw : finiteFloat w = some v')
    (hpos : 0 < v') (hless : v' < v) (hprime : r.limit ≠ .primeCapacity) {requested : ℚ}
    (hrequested : 0 < requested) (days : Int) :
    r.limit.Slack requested (contractOf x (wealthGoalOf x days))
      (contractOf (x.set r.mapping r.key w) (wealthGoalOf (x.set r.mapping r.key w) days)) := by
  have hv' := hpos.trans hless
  rcases value_of_mem hr hv hv' hw hpos days with hsame | ⟨hold, hnew⟩
  · rw [hsame]
    exact fun cap hcap _ => ⟨cap, List.mem_cons_of_mem _ hcap, le_refl _⟩
  · exact (change_of_mem hr hv hv' w days).slack_of_stands hrequested
      ⟨⟨v, v', hold, hnew, hpos.le, hless.le⟩, fun _ heq => absurd heq hprime⟩

/-- **A smaller limit.** The approved notional does not grow exactly when the smaller value is
bounded. -/
theorem notLarger_iff (hr : r ∈ riskLimits x.strategyFamily)
    (hv : finiteFloat (x.get r.mapping r.key) = some v) (hw : finiteFloat w = some v')
    (hnonneg : 0 ≤ v') (hless : v' < v) :
    NotLarger x (x.set r.mapping r.key w) ↔ Bounded x r w v' := by
  have hpos : 0 < v := lt_of_le_of_lt hnonneg hless
  rcases contracts_of_mem hr w with ⟨e, hold, hnew⟩ | ⟨days, hold, hnew⟩
  · constructor
    · intro _ c c' requested hc
      rw [hold] at hc
      cases hc
    · intro _ d' hd'
      rw [institutionalSize, hnew] at hd'
      cases hd'
  · have hchange := change_of_mem hr hv hpos w days
    set c := contractOf x (wealthGoalOf x days)
    set c' := contractOf (x.set r.mapping r.key w) (wealthGoalOf (x.set r.mapping r.key w) days)
    have hsize : institutionalSize x = calculateInstitutionalSize c := by
      rw [institutionalSize, hold]
      rfl
    have hsize' : institutionalSize (x.set r.mapping r.key w) = calculateInstitutionalSize c' := by
      rw [institutionalSize, hnew]
      rfl
    constructor
    · intro hlarger c₁ c₁' requested hc₁ hc₁' hrequested hrequestedPos hvalid'
      obtain rfl : c = c₁ := Except.ok.inj (hold.symm.trans hc₁)
      obtain rfl : c' = c₁' := Except.ok.inj (hnew.symm.trans hc₁')
      refine Or.inr (Or.inr ((hchange.approved_le_iff_slack hrequestedPos).1 ?_))
      obtain ⟨d, hd, happroved⟩ :=
        decision_of_pos (c := c) hrequested (hchange.valid hvalid') hrequestedPos
      obtain ⟨d', hd', happroved'⟩ := decision_of_pos (c := c') hrequested hvalid' hrequestedPos
      obtain ⟨d₁, hd₁, hle⟩ := hlarger d' (hsize'.trans hd')
      obtain rfl : d = d₁ := Except.ok.inj (hd.symm.trans (hsize.symm.trans hd₁))
      rw [← happroved, ← happroved']
      exact hle
    · intro hbounded d' hd'
      rw [hsize'] at hd'
      rw [hsize]
      obtain ⟨hvalid', requested, hrequested'⟩ := valid_of_ok hd'
      have hrequested : c.requestedNotionalUsd = .finite requested :=
        hchange.requested_eq.symm.trans hrequested'
      have hvalid := hchange.valid hvalid'
      rcases le_or_gt requested 0 with hnonpos | hrequestedPos
      · obtain ⟨d, hd, hzero⟩ := decision_of_nonpos hrequested hvalid hnonpos
        obtain ⟨d₁, hd₁, hzero'⟩ := decision_of_nonpos hrequested' hvalid' hnonpos
        obtain rfl : d₁ = d' := Except.ok.inj (hd₁.symm.trans hd')
        exact ⟨d, hd, by rw [hzero, hzero']⟩
      · obtain ⟨d, hd, happroved⟩ := decision_of_pos hrequested hvalid hrequestedPos
        obtain ⟨d₁, hd₁, happroved'⟩ := decision_of_pos hrequested' hvalid' hrequestedPos
        obtain rfl : d₁ = d' := Except.ok.inj (hd₁.symm.trans hd')
        refine ⟨d, hd, ?_⟩
        rw [happroved, happroved', hchange.approved_le_iff_slack hrequestedPos]
        rcases hbounded c c' requested hold hnew hrequested hrequestedPos hvalid' with
          ⟨hpositive, hprime⟩ | hstands | hslack
        · exact slack_of_pos hr hv hw hpositive hless hprime hrequestedPos days
        · exact hchange.slack_of_stands hrequestedPos hstands
        · exact hslack

end

/-- A request for 500 USD over a pool of 100 USD. -/
def shallowPool : SizingInputs :=
  { requestedNotionalUsd := .finite 500
    strategyFamily := "flash_loan"
    capitalSource := "wallet"
    mapping := fun
      | .capitalEngineState => PyDict.literal
          [("status", .text "ok"), ("freshness_class", .text "fresh"),
            ("deployable_usd", .int 2000)]
      | .executionCapture => PyDict.literal
          [("depth_usd", .int 100), ("endpoint_quality", .int 1),
            ("simulation_confidence", .int 1), ("freshness_score", .int 1)]
      | .economics => PyDict.literal
          [("expected_net_profit_usd", .int 5), ("success_probability", .int 1),
            ("margin_ratio", .int 1)]
      | .wealthGoal => PyDict.literal [("capitalCommitmentPct", .int 30)]
      | .governance => PyDict.literal [("admitted", .bool true)]
      | _ => PyDict.literal []
    baseBorrowAmountWei := 0
    maxBorrowAmountWei := 0
    targetNotionalUsd := .none }

theorem notLarger_shallowPool :
    NotLarger shallowPool (shallowPool.set .executionCapture "depth_usd" (.int 50)) :=
  (@notLarger_iff shallowPool ⟨.executionCapture, "depth_usd", .depth⟩ (.int 50) 100 50
    (by simp [riskLimits]) (by decide +kernel) (by decide +kernel) (by norm_num) (by norm_num)).2
    fun _ _ _ _ _ _ _ _ => Or.inl ⟨by norm_num, nofun⟩

/-- A depth of zero is dropped, and the approved notional rises from 100 to the request. -/
theorem zero_depth :
    finiteFloat (shallowPool.get .executionCapture "depth_usd") = some 100
      ∧ finiteFloat (.int 0) = some 0
      ∧ ¬ NotLarger shallowPool (shallowPool.set .executionCapture "depth_usd" (.int 0)) := by
  refine ⟨by decide +kernel, by decide +kernel, fun h => ?_⟩
  have hold : (institutionalSize shallowPool).toOption.map SizingDecision.approvedNotionalUsd
      = some 100 := by decide +kernel
  have hnew : (institutionalSize (shallowPool.set .executionCapture "depth_usd"
      (.int 0))).toOption.map SizingDecision.approvedNotionalUsd = some 500 := by decide +kernel
  unfold NotLarger at h
  cases hsize : institutionalSize (shallowPool.set .executionCapture "depth_usd" (.int 0)) with
  | error e =>
    rw [hsize] at hnew
    cases hnew
  | ok d' =>
    obtain ⟨d, hd, hle⟩ := h d' hsize
    rw [hd] at hold
    rw [hsize] at hnew
    have hd100 : d.approvedNotionalUsd = 100 := Option.some.inj hold
    have hd500 : d'.approvedNotionalUsd = 500 := Option.some.inj hnew
    rw [hd100, hd500] at hle
    norm_num at hle

end SovereignCapital.Sizing
