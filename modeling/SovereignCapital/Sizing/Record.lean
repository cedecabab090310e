import SovereignCapital.Lib.JsonTree
import SovereignCapital.Lib.PyTree
import SovereignCapital.Sizing.Contract

/-! # The sizing contract as a record

The dataclasses of `institutional_sizing.py` with all their fields, and the dictionary `to_dict`
makes of them. Different contracts have different dictionaries. The part of a record that the
kernel reads is its contract.
-/

namespace SovereignCapital.Sizing

open Bytes JsonTree

/-! ## Fields -/

structure FloatText where
  value : ℚ
  text : Word
  reads : PyFloat.ofText text.text = some (.finite value)

structure AnyFloat where
  value : PyFloat
  text : Word
  reads : PyFloat.ofText text.text = some value

def floatJson (x : FloatText) : JsonTree := .word x.text

def anyFloatJson (x : AnyFloat) : JsonTree := .word x.text

def optFloatJson : Option FloatText → JsonTree
  | none => .word .null
  | some x => floatJson x

def textJson (s : String) : JsonTree := .text s.toList

def boolJson (b : Bool) : JsonTree := .word (.ofBool b)

def intJson (n : Int) : JsonTree := .word (.ofInt n)

theorem floatJson_injective {x y : FloatText} (h : floatJson x = floatJson y) : x = y := by
  obtain ⟨value, text, reads⟩ := x
  obtain ⟨value', text', reads'⟩ := y
  cases JsonTree.word.inj h
  rw [reads] at reads'
  cases reads'
  rfl

theorem anyFloatJson_injective {x y : AnyFloat} (h : anyFloatJson x = anyFloatJson y) : x = y := by
  obtain ⟨value, text, reads⟩ := x
  obtain ⟨value', text', reads'⟩ := y
  cases JsonTree.word.inj h
  rw [reads] at reads'
  cases reads'
  rfl

/-- No float is written `null`. -/
theorem floatJson_ne_null (x : FloatText) : floatJson x ≠ .word .null := by
  intro h
  have hreads := x.reads
  rw [JsonTree.word.inj h] at hreads
  cases hreads

theorem optFloatJson_injective {x y : Option FloatText} (h : optFloatJson x = optFloatJson y) :
    x = y := by
  cases x with
  | none =>
    cases y with
    | none => rfl
    | some y => exact absurd h.symm (floatJson_ne_null y)
  | some x =>
    cases y with
    | none => exact absurd h (floatJson_ne_null x)
    | some y => rw [floatJson_injective h]

theorem textJson_injective {s t : String} (h : textJson s = textJson t) : s = t :=
  String.toList_injective (JsonTree.text.inj h)

theorem boolJson_injective {b b' : Bool} (h : boolJson b = boolJson b') : b = b' :=
  Word.ofBool_injective (JsonTree.word.inj h)

theorem intJson_injective {n m : Int} (h : intJson n = intJson m) : n = m :=
  Word.ofInt_injective (JsonTree.word.inj h)

@[simp] theorem floatJson_inj {x y : FloatText} : floatJson x = floatJson y ↔ x = y :=
  ⟨floatJson_injective, congrArg floatJson⟩

@[simp] theorem anyFloatJson_inj {x y : AnyFloat} : anyFloatJson x = anyFloatJson y ↔ x = y :=
  ⟨anyFloatJson_injective, congrArg anyFloatJson⟩

@[simp] theorem optFloatJson_inj {x y : Option FloatText} :
    optFloatJson x = optFloatJson y ↔ x = y :=
  ⟨optFloatJson_injective, congrArg optFloatJson⟩

@[simp] theorem textJson_inj {s t : String} : textJson s = textJson t ↔ s = t :=
  ⟨textJson_injective, congrArg textJson⟩

@[simp] theorem boolJson_inj {b b' : Bool} : boolJson b = boolJson b' ↔ b = b' :=
  ⟨boolJson_injective, congrArg boolJson⟩

@[simp] theorem intJson_inj {n m : Int} : intJson n = intJson m ↔ n = m :=
  ⟨intJson_injective, congrArg intJson⟩

/-- A dictionary as it is written. -/
def record (fields : List (String × JsonTree)) : JsonTree :=
  JsonTree.sorted (fields.map fun f => (f.1.toList, f.2))

theorem record_injective {fields fields' : List (String × JsonTree)}
    (hkeys : fields.map Prod.fst = fields'.map Prod.fst) (hnodup : (fields.map Prod.fst).Nodup)
    (h : record fields = record fields') : fields = fields' := by
  have htext : ∀ fields : List (String × JsonTree),
      (fields.map fun f => (f.1.toList, f.2)).map Prod.fst
        = (fields.map Prod.fst).map String.toList := by
    intro fields
    rw [List.map_map, List.map_map]
    rfl
  have hinj : Function.Injective String.toList := fun s t heq => String.toList_injective heq
  have hmap := sorted_injective (by rw [htext, htext, hkeys])
    (by rw [htext]; exact hnodup.map hinj) h
  refine List.map_injective_iff.2 ?_ hmap
  rintro ⟨k, j⟩ ⟨k', j'⟩ heq
  obtain ⟨hk, hj⟩ := Prod.mk.inj heq
  exact Prod.ext (hinj hk) hj

/-! ## Contexts -/

/-- `LiquiditySizingContext`. -/
structure LiquidityRecord where
  availableUsd : Option FloatText
  depthUsd : Option FloatText
  poolDepthCapUsd : Option FloatText
  reserveDistortion : FloatText
  liquidityFragility : FloatText
  slippageSensitivity : FloatText
  providerCapacityUsd : Option FloatText
  routeCapacityUsd : Option FloatText

def LiquidityRecord.fields (c : LiquidityRecord) : List (String × JsonTree) :=
  [("available_usd", optFloatJson c.availableUsd), ("depth_usd", optFloatJson c.depthUsd),
    ("pool_depth_cap_usd", optFloatJson c.poolDepthCapUsd),
    ("reserve_distortion", floatJson c.reserveDistortion),
    ("liquidity_fragility", floatJson c.liquidityFragility),
    ("slippage_sensitivity", floatJson c.slippageSensitivity),
    ("provider_capacity_usd", optFloatJson c.providerCapacityUsd),
    ("route_capacity_usd", optFloatJson c.routeCapacityUsd)]

theorem LiquidityRecord.fields_injective {c c' : LiquidityRecord}
    (h : record c.fields = record c'.fields) : c = c' := by
  have hfields := record_injective (by rfl) (by simp [fields]) h
  cases c
  cases c'
  simpa [fields] using hfields

/-- `ExecutionSizingContext`. -/
structure ExecutionRecord where
  expectedPipelineLatencyMs : Option FloatText
  latencyHalfLifeMs : Option FloatText
  latencyPressure : FloatText
  endpointQuality : FloatText
  venueReliability : FloatText
  simulationConfidence : FloatText
  freshnessScore : FloatText
  privateSendPreference : Bool

def ExecutionRecord.fields (c : ExecutionRecord) : List (String × JsonTree) :=
  [("expected_pipeline_latency_ms", optFloatJson c.expectedPipelineLatencyMs),
    ("latency_half_life_ms", optFloatJson c.latencyHalfLifeMs),
    ("latency_pressure", floatJson c.latencyPressure),
    ("endpoint_quality", floatJson c.endpointQuality),
    ("venue_reliability", floatJson c.venueReliability),
    ("simulation_confidence", floatJson c.simulationConfidence),
    ("freshness_score", floatJson c.freshnessScore),
    ("private_send_preference", boolJson c.privateSendPreference)]

theorem ExecutionRecord.fields_injective {c c' : ExecutionRecord}
    (h : record c.fields = record c'.fields) : c = c' := by
  have hfields := record_injective (by rfl) (by simp [fields]) h
  cases c
  cases c'
  simpa [fields] using hfields

/-- `EconomicsSizingContext`. -/
structure EconomicsRecord where
  expectedGrossProfitUsd : FloatText
  expectedNetProfitUsd : Option FloatText
  gasCostUsd : FloatText
  borrowCostUsd : FloatText
  slippageCostUsd : FloatText
  latencyCostUsd : FloatText
  failureCostUsd : FloatText
  minProfitUsd : FloatText
  minProfitBps : FloatText
  successProbability : Option FloatText
  marginRatio : Option FloatText

def EconomicsRecord.fields (c : EconomicsRecord) : List (String × JsonTree) :=
  [("expected_gross_profit_usd", floatJson c.expectedGrossProfitUsd),
    ("expected_net_profit_usd", optFloatJson c.expectedNetProfitUsd),
    ("gas_cost_usd", floatJson c.gasCostUsd), ("borrow_cost_usd", floatJson c.borrowCostUsd),
    ("slippage_cost_usd", floatJson c.slippageCostUsd),
    ("latency_cost_usd", floatJson c.latencyCostUsd),
    ("failure_cost_usd", floatJson c.failureCostUsd),
    ("min_profit_usd", floatJson c.minProfitUsd), ("min_profit_bps", floatJson c.minProfitBps),
    ("success_probability", optFloatJson c.successProbability),
    ("margin_ratio", optFloatJson c.marginRatio)]

theorem EconomicsRecord.fields_injective {c c' : EconomicsRecord}
    (h : record c.fields = record c'.fields) : c = c' := by
  have hfields := record_injective (by rfl) (by simp [fields]) h
  cases c
  cases c'
  simpa [fields] using hfields

/-- `CapitalAuthoritySizingContext`. -/
structure CapitalRecord where
  source : String
  status : String
  freshness : String
  authorityId : String
  availableUsd : Option FloatText
  deployableUsd : Option FloatText
  reserveUsd : Option FloatText
  drawdownBufferUsd : Option FloatText
  borrowedUsd : FloatText
  primeAvailable : Bool
  primeCapacityUsd : Option FloatText
  primeUtilization : FloatText
  primeReservedUsd : FloatText
  primeFamilyExposureUsd : FloatText
  familyCapUsd : Option FloatText

def CapitalRecord.fields (c : CapitalRecord) : List (String × JsonTree) :=
  [("source", textJson c.source), ("status", textJson c.status),
    ("freshness", textJson c.freshness), ("authority_id", textJson c.authorityId),
    ("available_usd", optFloatJson c.availableUsd),
    ("deployable_usd", optFloatJson c.deployableUsd), ("reserve_usd", optFloatJson c.reserveUsd),
    ("drawdown_buffer_usd", optFloatJson c.drawdownBufferUsd),
    ("borrowed_usd", floatJson c.borrowedUsd), ("prime_available", boolJson c.primeAvailable),
    ("prime_capacity_usd", optFloatJson c.primeCapacityUsd),
    ("prime_utilization", floatJson c.primeUtilization),
    ("prime_reserved_usd", floatJson c.primeReservedUsd),
    ("prime_family_exposure_usd", floatJson c.primeFamilyExposureUsd),
    ("family_cap_usd", optFloatJson c.familyCapUsd)]

theorem CapitalRecord.fields_injective {c c' : CapitalRecord}
    (h : record c.fields = record c'.fields) : c = c' := by
  have hfields := record_injective (by rfl) (by simp [fields]) h
  cases c
  cases c'
  simpa [fields] using hfields

/-- `WealthGoalSizingContext`. -/
structure WealthGoalRecord where
  targetReturnPct : FloatText
  currentReturnPct : FloatText
  capitalCommitmentPct : FloatText
  aggressivenessCap : FloatText
  maxDrawdownPct : FloatText
  drawdownPct : FloatText
  timeframeDays : Int
  goalStatus : String
  pacing : String
  goalHorizonCompatibility : FloatText

def WealthGoalRecord.fields (c : WealthGoalRecord) : List (String × JsonTree) :=
  [("target_return_pct", floatJson c.targetReturnPct),
    ("current_return_pct", floatJson c.currentReturnPct),
    ("capital_commitment_pct", floatJson c.capitalCommitmentPct),
    ("aggressiveness_cap", floatJson c.aggressivenessCap),
    ("max_drawdown_pct", floatJson c.maxDrawdownPct), ("drawdown_pct", floatJson c.drawdownPct),
    ("timeframe_days", intJson c.timeframeDays), ("goal_status", textJson c.goalStatus),
    ("pacing", textJson c.pacing),
    ("goal_horizon_compatibility", floatJson c.goalHorizonCompatibility)]

theorem WealthGoalRecord.fields_injective {c c' : WealthGoalRecord}
    (h : record c.fields = record c'.fields) : c = c' := by
  have hfields := record_injective (by rfl) (by simp [fields]) h
  cases c
  cases c'
  simpa [fields] using hfields

/-- `GovernanceSizingContext`. -/
structure GovernanceRecord where
  admitted : Bool
  reasonCode : String
  strategyFamily : String
  capitalSource : String
  liveAuthority : Bool
  executionAllowed : Bool
  hardStop : Bool
  killSwitch : Bool
  sandboxOnly : Bool
  defensiveMode : Bool
  maxDeployablePct : FloatText
  maxFamilyConcentration : FloatText

def GovernanceRecord.fields (c : GovernanceRecord) : List (String × JsonTree) :=
  [("admitted", boolJson c.admitted), ("reason_code", textJson c.reasonCode),
    ("strategy_family", textJson c.strategyFamily), ("capital_source", textJson c.capitalSource),
    ("live_authority", boolJson c.liveAuthority),
    ("execution_allowed", boolJson c.executionAllowed), ("hard_stop", boolJson c.hardStop),
    ("kill_switch", boolJson c.killSwitch), ("sandbox_only", boolJson c.sandboxOnly),
    ("defensive_mode", boolJson c.defensiveMode),
    ("max_deployable_pct", floatJson c.maxDeployablePct),
    ("max_family_concentration", floatJson c.maxFamilyConcentration)]

theorem GovernanceRecord.fields_injective {c c' : GovernanceRecord}
    (h : record c.fields = record c'.fields) : c = c' := by
  have hfields := record_injective (by rfl) (by simp [fields]) h
  cases c
  cases c'
  simpa [fields] using hfields

/-- `SettlementSizingContext`. -/
structure SettlementRecord where
  verified : Bool
  outcomeId : String
  decisionId : String
  executionId : String
  receiptId : String
  realizedNetProfitUsd : Option FloatText
  expectationErrorUsd : Option FloatText

def SettlementRecord.fields (c : SettlementRecord) : List (String × JsonTree) :=
  [("verified", boolJson c.verified), ("outcome_id", textJson c.outcomeId),
    ("decision_id", textJson c.decisionId), ("execution_id", textJson c.executionId),
    ("receipt_id", textJson c.receiptId),
    ("realized_net_profit_usd", optFloatJson c.realizedNetProfitUsd),
    ("expectation_error_usd", optFloatJson c.expectationErrorUsd)]

theorem SettlementRecord.fields_injective {c c' : SettlementRecord}
    (h : record c.fields = record c'.fields) : c = c' := by
  have hfields := record_injective (by rfl) (by simp [fields]) h
  cases c
  cases c'
  simpa [fields] using hfields

/-! ## The contract -/

/-- `InstitutionalSizingContract`; its metadata is what the encoder writes. -/
structure SizingRecord where
  contractVersion : String
  strategyFamily : String
  capitalSource : String
  requestedNotionalUsd : AnyFloat
  targetNotionalUsd : Option FloatText
  baseBorrowAmountWei : Int
  maxBorrowAmountWei : Int
  liquidity : LiquidityRecord
  execution : ExecutionRecord
  economics : EconomicsRecord
  capital : CapitalRecord
  wealthGoal : WealthGoalRecord
  governance : GovernanceRecord
  settlement : SettlementRecord
  metadata : JsonTree

def SizingRecord.fields (c : SizingRecord) : List (String × JsonTree) :=
  [("contract_version", textJson c.contractVersion), ("strategy_family", textJson c.strategyFamily),
    ("capital_source", textJson c.capitalSource),
    ("requested_notional_usd", anyFloatJson c.requestedNotionalUsd),
    ("target_notional_usd", optFloatJson c.targetNotionalUsd),
    ("base_borrow_amount_wei", intJson c.baseBorrowAmountWei),
    ("max_borrow_amount_wei", intJson c.maxBorrowAmountWei),
    ("liquidity", record c.liquidity.fields), ("execution", record c.execution.fields),
    ("economics", record c.economics.fields), ("capital", record c.capital.fields),
    ("wealth_goal", record c.wealthGoal.fields), ("governance", record c.governance.fields),
    ("settlement", record c.settlement.fields), ("metadata", c.metadata)]

def SizingRecord.toDict (c : SizingRecord) : JsonTree := record c.fields

/-- **Contracts with the same dictionary are equal.** -/
theorem SizingRecord.toDict_injective {c c' : SizingRecord} (h : c.toDict = c'.toDict) :
    c = c' := by
  have hfields := record_injective (by simp only [fields, List.map_cons, List.map_nil])
    (by simp [fields]) h
  simp only [fields, List.cons.injEq, Prod.mk.injEq, true_and, and_true] at hfields
  obtain ⟨hversion, hfamily, hsource, hrequested, htarget, hbase, hmax, hliquidity, hexecution,
    heconomics, hcapital, hgoal, hgovernance, hsettlement, hmetadata⟩ := hfields
  cases c
  cases c'
  rw [mk.injEq]
  exact ⟨textJson_injective hversion, textJson_injective hfamily, textJson_injective hsource,
    anyFloatJson_injective hrequested, optFloatJson_injective htarget, intJson_injective hbase,
    intJson_injective hmax, LiquidityRecord.fields_injective hliquidity,
    ExecutionRecord.fields_injective hexecution, EconomicsRecord.fields_injective heconomics,
    CapitalRecord.fields_injective hcapital, WealthGoalRecord.fields_injective hgoal,
    GovernanceRecord.fields_injective hgovernance,
    SettlementRecord.fields_injective hsettlement, hmetadata⟩

/-! ## What the kernel reads -/

def amountOf (x : Option FloatText) : Option ℚ := x.map FloatText.value

def LiquidityRecord.context (c : LiquidityRecord) : LiquiditySizingContext where
  availableUsd := amountOf c.availableUsd
  depthUsd := amountOf c.depthUsd
  poolDepthCapUsd := amountOf c.poolDepthCapUsd
  providerCapacityUsd := amountOf c.providerCapacityUsd
  routeCapacityUsd := amountOf c.routeCapacityUsd

def ExecutionRecord.context (c : ExecutionRecord) : ExecutionSizingContext where
  latencyPressure := c.latencyPressure.value
  endpointQuality := c.endpointQuality.value
  simulationConfidence := c.simulationConfidence.value
  freshnessScore := c.freshnessScore.value

def EconomicsRecord.context (c : EconomicsRecord) : EconomicsSizingContext where
  expectedNetProfitUsd := amountOf c.expectedNetProfitUsd
  minProfitUsd := c.minProfitUsd.value
  minProfitBps := c.minProfitBps.value
  successProbability := amountOf c.successProbability
  marginRatio := amountOf c.marginRatio

def CapitalRecord.context (c : CapitalRecord) : CapitalAuthoritySizingContext where
  status := c.status
  freshness := c.freshness
  availableUsd := amountOf c.availableUsd
  deployableUsd := amountOf c.deployableUsd
  drawdownBufferUsd := amountOf c.drawdownBufferUsd
  primeAvailable := c.primeAvailable
  primeCapacityUsd := amountOf c.primeCapacityUsd
  primeUtilization := c.primeUtilization.value
  primeReservedUsd := c.primeReservedUsd.value
  primeFamilyExposureUsd := c.primeFamilyExposureUsd.value
  familyCapUsd := amountOf c.familyCapUsd

def WealthGoalRecord.context (c : WealthGoalRecord) : WealthGoalSizingContext where
  capitalCommitmentPct := c.capitalCommitmentPct.value
  aggressivenessCap := c.aggressivenessCap.value
  maxDrawdownPct := c.maxDrawdownPct.value
  drawdownPct := c.drawdownPct.value
  timeframeDays := c.timeframeDays

def GovernanceRecord.context (c : GovernanceRecord) : GovernanceSizingContext where
  admitted := c.admitted
  liveAuthority := c.liveAuthority
  hardStop := c.hardStop
  killSwitch := c.killSwitch
  sandboxOnly := c.sandboxOnly
  maxDeployablePct := c.maxDeployablePct.value
  maxFamilyConcentration := c.maxFamilyConcentration.value

def SettlementRecord.context (c : SettlementRecord) : SettlementSizingContext where
  verified := c.verified
  outcomeId := c.outcomeId

def AnyFloat.number (x : AnyFloat) : PyNumber :=
  match x.value with
  | .finite x => .finite x
  | _ => .special

def SizingRecord.contract (c : SizingRecord) : InstitutionalSizingContract where
  strategyFamily := c.strategyFamily
  capitalSource := c.capitalSource
  requestedNotionalUsd := c.requestedNotionalUsd.number
  targetNotionalUsd := amountOf c.targetNotionalUsd
  baseBorrowAmountWei := c.baseBorrowAmountWei
  maxBorrowAmountWei := c.maxBorrowAmountWei
  liquidity := c.liquidity.context
  execution := c.execution.context
  economics := c.economics.context
  capital := c.capital.context
  wealthGoal := c.wealthGoal.context
  governance := c.governance.context
  settlement := c.settlement.context

/-- `validate`: the source of the capital is checked here, the rest in the contract. -/
def SizingRecord.validate (c : SizingRecord) : List String :=
  validateIdentityAndNotional c.contract
    ++ errorIf (c.capital.source ≠ "capital_engine_state") "capital_authority_source_invalid"
    ++ validateCapitalAuthority c.contract.capital ++ validateGovernance c.contract.governance
    ++ validateEconomics c.contract.economics ++ validateWealthGoal c.contract.wealthGoal
    ++ validatePrimeAuthority c.contract
    ++ errorIf (c.contract.settlement.verified = true ∧ c.contract.settlement.outcomeId = "")
      "settlement_outcome_id_missing"

end SovereignCapital.Sizing
