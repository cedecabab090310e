import Mathlib.Data.Prod.Lex
import Mathlib.Data.String.Basic
import SovereignCapital.Profitability.Truth

/-! # The truth about an execution route

`execution_route_truth`: a route is ready when its plan can be executed, its runtime is not
degraded and no cause against it is listed.
-/

namespace SovereignCapital.Selection

open Profitability

/-- `_ROUTE_RUNTIME_REASON_ALIASES` -/
def routeRuntimeReasonAlias (code : String) : String :=
  if code = "plan_profit_after_costs_invalid" then "profit_after_costs_invalid"
  else if code = "plan_profit_after_costs_mismatch" then "profit_after_costs_mismatch"
  else code

def uniqueStrings (values : List PyTree) : List String :=
  values.foldl (fun out value =>
    let text := (value.orElse (.leaf (.text ""))).str
    let code := routeRuntimeReasonAlias (String.ofList (Bytes.pyStrip text.toList))
    if code ≠ "" ∧ code ∉ out then out ++ [code] else out) []

/-- `list(v or [])`. -/
def listOr (v : PyTree) : Except Raised (List PyTree) :=
  if v.truthy then unhandled v.iterate else .ok []

def qualityCodes (payload : PyMap) : List PyTree :=
  ["route_quality_reason_code", "router_reliability_reason_code",
      "calldata_quality_reason_code"].filterMap fun key =>
    let value := textOr [payload.get key] ""
    if value ≠ "" then some (.leaf (.text value)) else none

/-- The codes of the parts of the runtime that are not in order. -/
def bucketCodes (payload : PyMap) : List PyTree :=
  ["input", "legs", "mutation", "profit"].filterMap fun bucket =>
    let state := (payload.get bucket).mapping
    if !state.isEmpty && !state.flag "ok" true then
      some (.leaf (.text (textOr [state.get "code"] ("execution_route_" ++ bucket ++ "_degraded"))))
    else none

def executionRouteRuntimeReasonCodes (payload : PyMap) : Except Raised (List String) := do
  let reasonCodes ← listOr (payload.get "reason_codes")
  let degradationReasons ← listOr (payload.get "route_degradation_reasons")
  return uniqueStrings (reasonCodes ++ degradationReasons ++ qualityCodes payload
    ++ bucketCodes payload)

/-- What `execution_route_truth` returns. -/
structure RouteTruth where
  ready : Bool
  reason : String
  reasonCodes : List String
  suggestedNextAction : String
  planExecutable : Bool
  invalidCauses : List String
  runtime : PyMap
  runtimeDegraded : Bool
  runtimeReasonCodes : List String

def routeVerdict (planExecutable : Bool) (invalidCauses : List String) (runtimeDegraded : Bool)
    (runtimeReasonCodes : List String) : Bool × String × List String × String :=
  if planExecutable = false then
    let reason := invalidCauses.headD "route_plan_not_executable"
    (false, reason, if invalidCauses = [] then [reason] else invalidCauses,
      "refresh_execution_route_plan")
  else if runtimeDegraded then
    let reason := runtimeReasonCodes.headD "execution_route_runtime_degraded"
    (false, reason, if runtimeReasonCodes = [] then [reason] else runtimeReasonCodes,
      if reason.startsWith "profit_after_costs_" then "refresh_after_fee_profitability_truth"
      else "refresh_execution_route_runtime")
  else
    match invalidCauses with
    | cause :: causes => (false, cause, cause :: causes, "refresh_execution_route_plan")
    | [] => (true, "ok", [], "continue_execution")

def executionRouteTruth (metadata : PyMap) : Except Raised RouteTruth := do
  let plan := (metadata.get "execution_route_plan").mapping
  let causes ← listOr
    ((plan.get "route_invalid_causes").orElse (metadata.get "route_invalid_causes"))
  let invalidCauses := uniqueStrings causes
  let runtime := (metadata.get "execution_route_runtime").mapping
  let runtimeReasonCodes ← executionRouteRuntimeReasonCodes runtime
  let runtimeDegraded := runtime.flag "degraded" false || !runtimeReasonCodes.isEmpty
  let planExecutable := plan.isEmpty || plan.flag "executable" true
  let verdict := routeVerdict planExecutable invalidCauses runtimeDegraded runtimeReasonCodes
  return {
    ready := verdict.1
    reason := verdict.2.1
    reasonCodes := verdict.2.2.1
    suggestedNextAction := verdict.2.2.2
    planExecutable := planExecutable
    invalidCauses := invalidCauses
    runtime := runtime
    runtimeDegraded := runtimeDegraded
    runtimeReasonCodes := runtimeReasonCodes }

theorem routeVerdict_ready {planExecutable runtimeDegraded : Bool}
    {invalidCauses runtimeReasonCodes : List String} :
    (routeVerdict planExecutable invalidCauses runtimeDegraded runtimeReasonCodes).1 = true
      ↔ planExecutable = true ∧ runtimeDegraded = false ∧ invalidCauses = [] := by
  unfold routeVerdict
  cases planExecutable with
  | false => simp only [if_true, Bool.false_eq_true, false_and]
  | true =>
    rw [if_neg (by decide)]
    cases runtimeDegraded with
    | true => simp only [if_true, Bool.false_eq_true, Bool.true_eq_false, false_and, and_false]
    | false =>
      rw [if_neg (by decide)]
      cases invalidCauses with
      | nil => simp only [and_self]
      | cons cause causes => simp only [Bool.false_eq_true, reduceCtorEq, and_false]

/-- **A ready route.** Its plan can be executed, nothing is degraded and no cause is listed. -/
theorem ready_iff {metadata : PyMap} {truth : RouteTruth}
    (h : executionRouteTruth metadata = .ok truth) :
    truth.ready = true ↔ truth.planExecutable = true ∧ truth.runtimeDegraded = false
      ∧ truth.invalidCauses = [] := by
  unfold executionRouteTruth at h
  obtain ⟨causes, -, h⟩ := Guarded.bind_ok_iff.1 h
  obtain ⟨codes, -, h⟩ := Guarded.bind_ok_iff.1 h
  obtain rfl := Except.ok.inj h
  exact routeVerdict_ready

end SovereignCapital.Selection

/-! # The evidence for a candidate

`_candidate_evidence` reads a candidate's metadata and its runtime's summary through chains of
keys, and blocks the candidate with the first reason that one of the gates gives.
-/

namespace SovereignCapital.Selection

open Profitability

/-! ## Reading -/

def number (d : PyMap) : List String → Except Raised (Option PyFloat)
  | [] => .ok none
  | key :: keys =>
    let value := d.get key
    if value.blank then number d keys
    else do
      match ← handled value.float with
      | some x => return some x
      | none => number d keys

def firstNumber : List (PyMap × List String) → Except Raised (Option PyFloat)
  | [] => .ok none
  | source :: sources => do
    match ← number source.1 source.2 with
    | some x => return some x
    | none => firstNumber sources

/-- `_number` of one key with `as_int=True`. -/
def numberInt (value : PyTree) : Option Int :=
  if value.blank then none else Bytes.pyInt 10 value.str.toList

def lower (s : String) : String := String.ofList (Bytes.pyLower s.toList)

section

variable (metadata : PyMap)

def admission : PyMap :=
  metadata.firstNested ["capitalAdmission", "capital_admission", "admission"]

def admissionDetails : PyMap := (admission metadata).firstNested ["details"]

def sizingBody : PyMap :=
  ((admissionDetails metadata).firstNested
    ["institutionalSizing", "institutional_sizing"]).firstNested ["sizing", "result"]

def capture : PyMap :=
  metadata.firstNested ["execution_capture", "executionCapture", "capture", "execution"]

def liquidity : PyMap :=
  let own := (capture metadata).firstNested ["liquidity", "liquidity_context"]
  if own.isEmpty then metadata.firstNested ["liquidity", "liquidity_context"] else own

def provider : String :=
  textOr [(capture metadata).get "selectedProvider", (capture metadata).get "selected_provider",
    metadata.get "selectedProvider", metadata.get "selected_provider"] ""

def providerCapacity : Except Raised (Option PyFloat) :=
  firstNumber [(capture metadata, ["provider_capacity_usd", "providerCapacityUsd"]),
    (liquidity metadata, ["provider_capacity_usd", "providerCapacityUsd"])]

/-- The least of the capacities that are given. -/
def liquidityCapacity : Except Raised (Option PyFloat) := do
  let provided ← providerCapacity metadata
  let route ← number (capture metadata) ["route_capacity_usd", "routeCapacityUsd",
    "executable_depth_usd", "executableDepthUsd"]
  let available ← number (liquidity metadata) ["available_usd", "availableUsd", "depth_usd",
    "depthUsd", "pool_depth_cap_usd", "poolDepthCapUsd"]
  match [route, provided, available].filterMap id with
  | [] => return none
  | capacity :: capacities => return some (PyFloat.least capacity capacities)

def requiredNotional : Except Raised (Option PyFloat) :=
  firstNumber
    [(sizingBody metadata, ["requested_notional_usd", "requestedNotionalUsd",
        "target_notional_usd", "targetNotionalUsd"]),
      (admissionDetails metadata, ["capital_required_usd", "capitalRequiredUsd",
        "requested_notional_usd", "requestedNotionalUsd"]),
      (capture metadata, ["capital_required_usd", "capitalRequiredUsd"])]

def sizingAvailable : Bool :=
  (((sizingBody metadata).firstFlag
      ["execution_allowed", "executionAllowed", "valid", "available"]).orElse fun _ =>
    (admissionDetails metadata).firstFlag ["sizing_available", "sizingAvailable"]).getD
      (!(sizingBody metadata).isEmpty)

def capitalRecordOk (capital : PyMap) : Bool :=
  lower (textOr [capital.get "status"] "") == "ok"
    && !(["stale", "unavailable"].contains
      (lower (textOr [capital.get "freshness", capital.get "freshness_class"] "")))

def capitalAuthority : Bool :=
  ((sizingBody metadata).firstFlag
    ["capital_authority_available", "capitalAuthorityAvailable"]).getD
      (capitalRecordOk ((sizingBody metadata).firstNested ["capital", "capital_authority"]))

def flashloanFlag : Option Bool :=
  (((admissionDetails metadata).firstNested ["flashloanSizing", "flashloan_sizing", "flashloan",
      "flashloanEligibility", "flashloan_eligibility"]).firstFlag
        ["eligible", "allowed", "execution_allowed", "executionAllowed"]).orElse fun _ =>
    metadata.firstFlag ["flashloan_eligible", "flashloanEligible"]

-- a strategy that declares no flash loan needs none
def flashloanEligible : Bool := (flashloanFlag metadata).getD true

def executionFlag : Option Bool :=
  ((capture metadata).firstFlag ["execution_ready", "executionReady", "exec_ready"]).orElse
    fun _ => metadata.firstFlag ["execution_ready", "executionReady", "exec_ready"]

def executionReady (candidate : Opportunity) : Except Raised Bool :=
  match executionFlag metadata with
  | some ready => .ok ready
  | none => (candidate.getattr "can_execute" (.leaf (.bool false))).map PyTree.truthy

def executionBlockReason : String :=
  textOr [(capture metadata).get "reason_code", (capture metadata).get "reason",
    metadata.get "execution_reason_code"] ""

variable (summary : PyMap)

def gate : PyMap := summary.firstNested ["auto_trade_gate", "autoTradeGate"]

def recovery : PyMap := summary.firstNested ["auto_trade_recovery", "autoTradeRecovery"]

def gateAllowed : Bool :=
  (gate summary).flag "allowed" false
    && ((gate metadata).isEmpty || (gate metadata).flag "allowed" false)

def gateReason : String :=
  if (gate summary).isEmpty ∨ (gate summary).get? "allowed" = none then
    "auto_trade_gate_summary_unavailable"
  else
    textOr [(gate metadata).get "reason_code", (gate metadata).get "reason",
      (gate summary).get "reason_code", (gate summary).get "reason"] "auto_trade_gate_unavailable"

/-- `ready` and not `blocked`. -/
def recovered (record : PyMap) : Bool := record.flag "ready" false && !record.flag "blocked" false

def recoveryReady : Bool :=
  recovered (recovery summary)
    && ((recovery metadata).isEmpty || recovered (recovery metadata))

def admissionFlag : Option Bool :=
  (admission metadata).firstFlag ["allowed", "admitted", "execution_allowed", "executionAllowed"]

def admissionAllowed : Bool := (admissionFlag metadata).getD (gateAllowed metadata summary)

end

/-! ## Gates -/

structure BlockingState where
  executionTokenAuthorized : Bool
  routeReady : Bool
  routeDegraded : Bool
  routeReason : String
  liquidityCapacity : Option PyFloat
  requiredNotional : Option PyFloat
  sizingAvailable : Bool
  capitalAuthority : Bool
  flashloanEligible : Bool
  admissionAllowed : Bool
  admissionReason : PyTree
  gateAllowed : Bool
  gateReason : String
  recoveryReady : Bool
  recoveryReason : PyTree
  executionReady : Bool
  executionReason : String

/-- `str(text or default)`. -/
def orText (text default : String) : String := if text = "" then default else text

def profitabilityBlockingReason (truth : ProfitAfterCostsTruth) (afterFeeUsdMicro : Option Int) :
    String :=
  if truth.verified = false then truth.reasonCode
  else if truth.positive = false then truth.reasonCode
  else
    match afterFeeUsdMicro with
    | none => "cross_runtime_usd_profit_unavailable"
    | some micro => if micro ≤ 0 then "profit_after_costs_usd_not_positive" else ""

def insufficient (capacity notional : Option PyFloat) : Bool :=
  match capacity, notional with
  | some capacity, some notional => capacity.lt notional
  | _, _ => false

def executionBlockingReason (state : BlockingState) : String :=
  if state.executionTokenAuthorized = false then "input_token_not_execution_authorized"
  else if state.routeReady = false then orText state.routeReason "execution_route_not_ready"
  else if state.routeDegraded = true then "execution_route_runtime_degraded"
  else if insufficient state.liquidityCapacity state.requiredNotional = true then
    "insufficient_liquidity_capacity"
  else if state.sizingAvailable = false then "sizing_unavailable"
  else if state.capitalAuthority = false then "capital_authority_unavailable"
  else if state.flashloanEligible = false then "flashloan_ineligible"
  else ""

def governanceBlockingReason (state : BlockingState) : String :=
  if state.admissionAllowed = false then
    textOr [state.admissionReason] "capital_admission_blocked"
  else if state.gateAllowed = false then orText state.gateReason "auto_trade_gate_unavailable"
  else if state.recoveryReady = false then
    textOr [state.recoveryReason] "auto_trade_recovery_blocked"
  else if state.executionReady = false then orText state.executionReason "execution_not_ready"
  else ""

def blockingReason (truth : ProfitAfterCostsTruth) (afterFeeUsdMicro : Option Int)
    (state : BlockingState) : String :=
  orText (orText (profitabilityBlockingReason truth afterFeeUsdMicro)
    (executionBlockingReason state)) (governanceBlockingReason state)

/-! ## Evidence -/

/-- `selection_score`, compared field by field. -/
def SelectionScore : Type := ℤ ×ₗ ℤ ×ₗ ℤ ×ₗ ℤ ×ₗ ℤ ×ₗ String

instance selectionScoreOrder : LinearOrder SelectionScore :=
  letI : LinearOrder ℤ := Int.instLinearOrder
  Prod.Lex.instLinearOrder ℤ (ℤ ×ₗ ℤ ×ₗ ℤ ×ₗ ℤ ×ₗ String)

def selectionScore (eligible profit capacity route readiness : ℤ) (id : String) : SelectionScore :=
  toLex (eligible, toLex (profit, toLex (capacity, toLex (route, toLex (readiness, id)))))

structure RuntimeOpportunityEvidence where
  runtime : String
  candidateCount : Nat
  opportunityId : String
  routeId : String
  strategy : String
  afterFeeVerified : Bool
  afterFeePositive : Bool
  afterFeeUsdMicro : Option Int
  afterFeeWei : Int
  canonicalProfitability : Bool
  projectedProfitUsd : Option PyFloat
  routeReady : Bool
  routeDegraded : Bool
  routeReasonCode : String
  liquidityCapacityUsd : Option PyFloat
  requiredNotionalUsd : Option PyFloat
  provider : String
  providerCapacityUsd : Option PyFloat
  sizingAvailable : Bool
  sizeMultiplier : Option PyFloat
  borrowMultiplier : Option PyFloat
  capitalAuthorityAvailable : Bool
  flashloanEligible : Bool
  admissionAllowed : Bool
  gateAllowed : Bool
  gateReasonCode : String
  recoveryReady : Bool
  executionReady : Bool
  executionBlockReason : String
  eligible : Bool
  blockingReason : String
  selectionScore : SelectionScore

/-- `int(max(0.0, capacity or 0.0) * 1000.0) if eligible else 0`. -/
def capacityRank (eligible : Bool) (capacity : Option PyFloat) : Except Raised Int :=
  if eligible then unhandled ((capacity.getD (.finite 0)).clipped.scale 1000).toInt else .ok 0

def attrText (candidate : Opportunity) (name : String) : Except Raised String :=
  (candidate.getattr name (.leaf (.text ""))).map fun value => textOr [value] ""

def blockingStateOf (metadata summary : PyMap) (executionTokenAuthorized : Bool)
    (route : RouteTruth) (capacity notional : Option PyFloat) (ready : Bool) : BlockingState :=
  { executionTokenAuthorized := executionTokenAuthorized
    routeReady := route.ready
    routeDegraded := route.runtimeDegraded
    routeReason := orText route.reason "ok"
    liquidityCapacity := capacity
    requiredNotional := notional
    sizingAvailable := sizingAvailable metadata
    capitalAuthority := capitalAuthority metadata
    flashloanEligible := flashloanEligible metadata
    admissionAllowed := admissionAllowed metadata summary
    admissionReason := (admission metadata).get "reason_code"
    gateAllowed := gateAllowed metadata summary
    gateReason := gateReason metadata summary
    recoveryReady := recoveryReady metadata summary
    recoveryReason :=
      ((recovery summary).get "reason_code").orElse ((recovery summary).get "reason")
    executionReady := ready
    executionReason := executionBlockReason metadata }

def candidateEvidence (runtimeName : String) (candidateCount : Nat) (candidate : Opportunity)
    (summary : PyMap) (executionTokenAuthorized : Bool) :
    Except Raised RuntimeOpportunityEvidence := do
  let metadata ← candidate.rawMeta
  let profitability ← profitabilityStateView candidate
  let truth ← inspectProfitAfterCostsTruth candidate
  let route ← executionRouteTruth metadata
  let provided ← providerCapacity metadata
  let capacity ← liquidityCapacity metadata
  let notional ← requiredNotional metadata
  let ready ← executionReady metadata candidate
  let micro := numberInt (.leaf (.int profitability.profitAfterCostsUsdMicroInt))
  let state := blockingStateOf metadata summary executionTokenAuthorized route capacity notional
    ready
  let reason := blockingReason truth micro state
  let eligible := reason == ""
  let capacityScore ← capacityRank eligible capacity
  let id ← attrText candidate "id"
  let routeId ← attrText candidate "route_id"
  let strategy ← attrText candidate "strategy"
  let sizeMultiplier ← number metadata ["size_multiplier", "sizeMultiplier"]
  let borrowMultiplier ← number metadata ["borrow_multiplier", "borrowMultiplier"]
  return {
    runtime := runtimeName
    candidateCount := candidateCount
    opportunityId := id
    routeId := routeId
    strategy := strategy
    afterFeeVerified := truth.verified
    afterFeePositive := truth.positive
    afterFeeUsdMicro := micro
    afterFeeWei := truth.valueWei
    canonicalProfitability := profitability.authoritative
    projectedProfitUsd := some profitability.expectedProfitUsd
    routeReady := state.routeReady
    routeDegraded := state.routeDegraded
    routeReasonCode := state.routeReason
    liquidityCapacityUsd := capacity
    requiredNotionalUsd := notional
    provider := provider metadata
    providerCapacityUsd := provided
    sizingAvailable := state.sizingAvailable
    sizeMultiplier := sizeMultiplier
    borrowMultiplier := borrowMultiplier
    capitalAuthorityAvailable := state.capitalAuthority
    flashloanEligible := state.flashloanEligible
    admissionAllowed := state.admissionAllowed
    gateAllowed := state.gateAllowed
    gateReasonCode := state.gateReason
    recoveryReady := state.recoveryReady
    executionReady := state.executionReady
    executionBlockReason := state.executionReason
    eligible := eligible
    blockingReason := reason
    selectionScore := selectionScore (if eligible then 1 else 0)
      (if eligible then micro.getD 0 else 0) capacityScore
      (if eligible && state.routeReady && !state.routeDegraded then 1 else 0)
      (if eligible && state.executionReady then 1 else 0) id }

end SovereignCapital.Selection
