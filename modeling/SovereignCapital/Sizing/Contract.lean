import SovereignCapital.Lib.PyNumber

/-! # The sizing contract

`build_institutional_sizing_contract` reads the authorities' dictionaries into one record and
`validate` checks it. A dictionary inside a dictionary is an input of its own. Amounts are exact.
-/

namespace SovereignCapital.Sizing

/-- The dictionaries that a contract is read from. -/
inductive Mapping where
  | capitalEngineState
  /-- `capital_engine_state["family_caps_usd"]` -/
  | familyCapsUsd
  | internalPrimeState
  /-- `internal_prime_state["familyExposure"]` -/
  | familyExposure
  /-- `wealth_goal_state["state"]`, or the wealth goal itself -/
  | wealthGoal
  | executionCapture
  | latencyState
  | economics
  | governance
  | settlement
deriving DecidableEq

structure SizingInputs where
  requestedNotionalUsd : PyNumber
  strategyFamily : String
  capitalSource : String
  mapping : Mapping → PyDict
  baseBorrowAmountWei : Int
  maxBorrowAmountWei : Int
  targetNotionalUsd : PyValue

namespace SizingInputs

def get (x : SizingInputs) (m : Mapping) (key : String) : PyValue := (x.mapping m).get key

def set (x : SizingInputs) (m : Mapping) (key : String) (v : PyValue) : SizingInputs :=
  { x with mapping := fun m' => if m' = m then (x.mapping m).set key v else x.mapping m' }

/-- `d.get(key) or d.get(other)`. -/
def either (x : SizingInputs) (m : Mapping) (key other : String) : PyValue :=
  (x.get m key).orElse (x.get m other)

def present (x : SizingInputs) (m : Mapping) (key other : String) : PyValue :=
  ((x.mapping m).get? key).getD (((x.mapping m).get? other).getD .none)

/-- `bool(d.get(key, d.get(other, False)))`. -/
def flag (x : SizingInputs) (m : Mapping) (key other : String) : Bool :=
  (((x.mapping m).get? key).getD (((x.mapping m).get? other).getD (.bool false))).truthy

/-- `str(d.get(key) or d.get(other) or default)`. -/
def textOf (x : SizingInputs) (m : Mapping) (key other default : String) : String :=
  ((x.get m key).orElse ((x.get m other).orElse (.text default))).str

end SizingInputs

/-! ## Numbers -/

def finiteFloat (v : PyValue) : Option ℚ :=
  match v.float? with
  | some (.finite x) => some x
  | _ => none

/-- `float(_finite_float(v, default) or default)`. -/
def floatOr (v : PyValue) (default : ℚ) : ℚ :=
  match finiteFloat v with
  | none => default
  | some x => if x = 0 then default else x

/-! ## Contexts

The fields that `validate` and the kernel read. -/

structure LiquiditySizingContext where
  availableUsd : Option ℚ
  depthUsd : Option ℚ
  poolDepthCapUsd : Option ℚ
  providerCapacityUsd : Option ℚ
  routeCapacityUsd : Option ℚ

structure ExecutionSizingContext where
  latencyPressure : ℚ
  endpointQuality : ℚ
  simulationConfidence : ℚ
  freshnessScore : ℚ

structure EconomicsSizingContext where
  expectedNetProfitUsd : Option ℚ
  minProfitUsd : ℚ
  minProfitBps : ℚ
  successProbability : Option ℚ
  marginRatio : Option ℚ

structure CapitalAuthoritySizingContext where
  status : String
  freshness : String
  availableUsd : Option ℚ
  deployableUsd : Option ℚ
  drawdownBufferUsd : Option ℚ
  primeAvailable : Bool
  primeCapacityUsd : Option ℚ
  primeUtilization : ℚ
  primeReservedUsd : ℚ
  primeFamilyExposureUsd : ℚ
  familyCapUsd : Option ℚ

structure WealthGoalSizingContext where
  capitalCommitmentPct : ℚ
  aggressivenessCap : ℚ
  maxDrawdownPct : ℚ
  drawdownPct : ℚ
  timeframeDays : Int

structure GovernanceSizingContext where
  admitted : Bool
  liveAuthority : Bool
  hardStop : Bool
  killSwitch : Bool
  sandboxOnly : Bool
  maxDeployablePct : ℚ
  maxFamilyConcentration : ℚ

structure SettlementSizingContext where
  verified : Bool
  outcomeId : String

structure InstitutionalSizingContract where
  strategyFamily : String
  capitalSource : String
  requestedNotionalUsd : PyNumber
  targetNotionalUsd : Option ℚ
  baseBorrowAmountWei : Int
  maxBorrowAmountWei : Int
  liquidity : LiquiditySizingContext
  execution : ExecutionSizingContext
  economics : EconomicsSizingContext
  capital : CapitalAuthoritySizingContext
  wealthGoal : WealthGoalSizingContext
  governance : GovernanceSizingContext
  settlement : SettlementSizingContext

/-! ## Reading the contexts -/

def buildLiquidityContext (x : SizingInputs) : LiquiditySizingContext :=
  { availableUsd := finiteFloat
      (x.either .executionCapture "available_usd" "liquidity_available_usd")
    depthUsd := finiteFloat (x.either .executionCapture "depth_usd" "pool_depth_usd")
    poolDepthCapUsd := finiteFloat (x.get .executionCapture "pool_depth_cap_usd")
    providerCapacityUsd := finiteFloat (x.get .executionCapture "provider_capacity_usd")
    routeCapacityUsd := finiteFloat (x.get .executionCapture "route_capacity_usd") }

def buildExecutionContext (x : SizingInputs) : ExecutionSizingContext :=
  { latencyPressure := floatOr
      ((x.get .latencyState "pressure").orElse (x.get .executionCapture "latency_pressure")) 0
    endpointQuality := floatOr ((x.get .latencyState "endpoint_quality").orElse
      (x.get .executionCapture "endpoint_quality")) 0
    simulationConfidence := floatOr (x.get .executionCapture "simulation_confidence") 0
    freshnessScore := floatOr (x.get .executionCapture "freshness_score") 0 }

def buildEconomicsContext (x : SizingInputs) : EconomicsSizingContext :=
  { expectedNetProfitUsd := finiteFloat
      (x.present .economics "expected_net_profit_usd" "expected_realized_pnl")
    minProfitUsd := floatOr (x.get .economics "min_profit_usd") 0
    minProfitBps := floatOr (x.get .economics "min_profit_bps") 0
    successProbability := finiteFloat (x.present .economics "success_probability" "p_success")
    marginRatio := finiteFloat (x.get .economics "margin_ratio") }

def buildCapitalContext (x : SizingInputs) : CapitalAuthoritySizingContext :=
  { status := x.textOf .capitalEngineState "status" "capital_status" "unavailable"
    freshness := x.textOf .capitalEngineState "freshness_class" "freshness" "unavailable"
    availableUsd := finiteFloat (x.either .capitalEngineState "available_usd" "availableUsd")
    deployableUsd := finiteFloat (x.either .capitalEngineState "deployable_usd" "deployableUsd")
    drawdownBufferUsd := finiteFloat
      (x.either .capitalEngineState "drawdown_buffer_usd" "drawdownBufferUsd")
    primeAvailable := x.flag .capitalEngineState "internal_prime_available" "prime_available"
      || (x.get .internalPrimeState "stateReady").truthy
    primeCapacityUsd := finiteFloat ((x.get .internalPrimeState "capacityUsd").orElse
      (x.get .capitalEngineState "prime_capacity_usd"))
    primeUtilization := floatOr (x.get .internalPrimeState "utilization") 0
    primeReservedUsd := floatOr (x.get .internalPrimeState "reservedCollateralUsd") 0
    primeFamilyExposureUsd := floatOr (x.get .familyExposure x.strategyFamily) 0
    familyCapUsd := finiteFloat (x.get .familyCapsUsd x.strategyFamily) }

def wealthGoalOf (x : SizingInputs) (days : Int) : WealthGoalSizingContext :=
  { capitalCommitmentPct := floatOr
      (x.either .wealthGoal "capitalCommitmentPct" "capital_commitment_pct") 25
    aggressivenessCap := floatOr
      (x.either .wealthGoal "aggressivenessCap" "aggressiveness_cap") 1
    maxDrawdownPct := floatOr (x.either .wealthGoal "maxDrawdownPct" "max_drawdown_pct") 10
    drawdownPct := floatOr (x.either .wealthGoal "drawdownPct" "drawdown_pct") 0
    timeframeDays := max 1 days }

/-- The number of days is the one value that makes the reading raise. -/
def buildWealthGoalContext (x : SizingInputs) : Except String WealthGoalSizingContext :=
  match ((x.get .wealthGoal "timeframeDays").orElse ((x.get .wealthGoal "timeframe_days").orElse
      (.int 30))).int? with
  | none => .error "timeframe_days"
  | some days => .ok (wealthGoalOf x days)

def buildGovernanceContext (x : SizingInputs) : GovernanceSizingContext :=
  { admitted := x.flag .governance "admitted" "allowed"
    liveAuthority := x.flag .governance "live_authority" "liveAuthority"
    hardStop := x.flag .governance "hard_stop" "hardStop"
    killSwitch := x.flag .governance "kill_switch" "killSwitch"
    sandboxOnly := x.flag .governance "sandbox_only" "sandboxOnly"
    maxDeployablePct := floatOr (x.get .governance "max_deployable_pct") (35 / 100)
    maxFamilyConcentration := floatOr (x.get .governance "max_family_concentration") (45 / 100) }

def buildSettlementContext (x : SizingInputs) : SettlementSizingContext :=
  { verified := x.flag .settlement "verified" "settlement_verified"
    outcomeId := x.textOf .settlement "outcome_id" "outcomeId" "" }

def contractOf (x : SizingInputs) (goal : WealthGoalSizingContext) : InstitutionalSizingContract :=
  { strategyFamily := x.strategyFamily
    capitalSource := x.capitalSource
    requestedNotionalUsd := x.requestedNotionalUsd
    targetNotionalUsd := finiteFloat x.targetNotionalUsd
    baseBorrowAmountWei := max 0 x.baseBorrowAmountWei
    maxBorrowAmountWei := max 0 x.maxBorrowAmountWei
    liquidity := buildLiquidityContext x
    execution := buildExecutionContext x
    economics := buildEconomicsContext x
    capital := buildCapitalContext x
    wealthGoal := goal
    governance := buildGovernanceContext x
    settlement := buildSettlementContext x }

def buildInstitutionalSizingContract (x : SizingInputs) :
    Except String InstitutionalSizingContract :=
  (buildWealthGoalContext x).map (contractOf x)

/-! ## Validation -/

def errorIf (p : Prop) [Decidable p] (message : String) : List String :=
  if p then [message] else []

def validateIdentityAndNotional (c : InstitutionalSizingContract) : List String :=
  errorIf (c.strategyFamily = "") "strategy_family_missing"
    ++ errorIf (c.capitalSource = "") "capital_source_missing"
    ++ (match c.requestedNotionalUsd with
      | .finite requested => errorIf (requested < 0) "requested_notional_invalid"
      | .special => ["requested_notional_invalid"])
    ++ errorIf (c.targetNotionalUsd.any fun target => decide (target < 0)) "target_notional_invalid"
    ++ errorIf (c.baseBorrowAmountWei < 0 ∨ c.maxBorrowAmountWei < 0) "borrow_amount_invalid"
    ++ errorIf (c.maxBorrowAmountWei ≠ 0 ∧ c.maxBorrowAmountWei < c.baseBorrowAmountWei)
      "base_borrow_exceeds_hard_cap"

def validateCapitalAuthority (c : CapitalAuthoritySizingContext) : List String :=
  errorIf (c.status ≠ "ok") "capital_authority_unavailable"
    ++ errorIf (c.freshness = "stale" ∨ c.freshness = "unavailable") "capital_authority_stale"
    ++ errorIf (c.deployableUsd = none) "deployable_capital_missing"

def validateGovernance (g : GovernanceSizingContext) : List String :=
  errorIf (g.admitted = false) "governance_not_admitted"
    ++ errorIf (g.hardStop = true) "drawdown_hard_stop"
    ++ errorIf (g.killSwitch = true) "kill_switch_active"
    ++ errorIf (g.sandboxOnly = true ∧ g.liveAuthority = true) "sandbox_live_authority_conflict"

def validateEconomics (e : EconomicsSizingContext) : List String :=
  errorIf (e.expectedNetProfitUsd = none) "expected_net_profit_missing"
    ++ (match e.successProbability with
      | none => ["success_probability_missing"]
      | some p => errorIf (p < 0 ∨ 1 < p) "success_probability_invalid")
    ++ (match e.marginRatio with
      | none => ["margin_ratio_missing"]
      | some m => errorIf (m < 0) "margin_ratio_invalid")

def validateWealthGoal (g : WealthGoalSizingContext) : List String :=
  errorIf (g.aggressivenessCap ≤ 0) "aggressiveness_cap_invalid"
    ++ errorIf (g.maxDrawdownPct < 0 ∨ g.drawdownPct < 0) "drawdown_invalid"

def validatePrimeAuthority (c : InstitutionalSizingContract) : List String :=
  errorIf (c.capitalSource = "internal_prime" ∧ c.capital.primeAvailable = false)
      "internal_prime_unavailable"
    ++ errorIf (c.capitalSource = "internal_prime" ∧ c.capital.primeCapacityUsd = none)
      "internal_prime_capacity_missing"

def validate (c : InstitutionalSizingContract) : List String :=
  validateIdentityAndNotional c ++ validateCapitalAuthority c.capital
    ++ validateGovernance c.governance ++ validateEconomics c.economics
    ++ validateWealthGoal c.wealthGoal ++ validatePrimeAuthority c
    ++ errorIf (c.settlement.verified = true ∧ c.settlement.outcomeId = "")
      "settlement_outcome_id_missing"

/-! ## Reading a changed input -/

namespace SizingInputs

section

variable (x : SizingInputs) (m : Mapping) (key : String) (w : PyValue)

@[simp] theorem set_requested :
    (x.set m key w).requestedNotionalUsd = x.requestedNotionalUsd := rfl

@[simp] theorem set_strategyFamily : (x.set m key w).strategyFamily = x.strategyFamily := rfl

@[simp] theorem set_capitalSource : (x.set m key w).capitalSource = x.capitalSource := rfl

@[simp] theorem set_base :
    (x.set m key w).baseBorrowAmountWei = x.baseBorrowAmountWei := rfl

@[simp] theorem set_max : (x.set m key w).maxBorrowAmountWei = x.maxBorrowAmountWei := rfl

@[simp] theorem set_target :
    (x.set m key w).targetNotionalUsd = x.targetNotionalUsd := rfl

end

@[simp] theorem get_set (x : SizingInputs) (m m' : Mapping) (key key' : String) (w : PyValue) :
    (x.set m key w).get m' key' = if m' = m ∧ key' = key then w else x.get m' key' := by
  simp only [get, set]
  by_cases hm : m' = m
  · subst hm
    simp only [if_true, PyDict.get, Dict.getD, Dict.get?_set, true_and]
    split <;> rfl
  · simp [hm]

@[simp] theorem get?_set (x : SizingInputs) (m m' : Mapping) (key key' : String) (w : PyValue) :
    ((x.set m key w).mapping m').get? key'
      = if m' = m ∧ key' = key then some w else (x.mapping m').get? key' := by
  simp only [set]
  by_cases hm : m' = m
  · subst hm
    simp only [if_true, Dict.get?_set, true_and]
  · simp [hm]

end SizingInputs

theorem errorIf_eq_nil (p : Prop) [Decidable p] (message : String) :
    errorIf p message = [] ↔ ¬ p := by
  unfold errorIf
  split <;> simp [*]

end SovereignCapital.Sizing
