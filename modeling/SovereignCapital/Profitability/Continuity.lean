import SovereignCapital.Profitability.UnitSound

/-! # Continuity of a mutated opportunity

`refresh_post_mutation_revalidation_contract`: what is observed of an opportunity is compared with
what was expected, the comparison is written to the metadata, and the profitability is revalidated.
What is expected is what was observed first, and a mismatch stays on record. A refresh may raise
after the record is written.
-/

namespace SovereignCapital.Profitability

open Bytes PyRaise Guarded

/-! ## Observations -/

/-- `_safe_int(value, default)`. -/
def safeIntOr (value : PyTree) (default : ℤ) : Except Raised ℤ :=
  if value.blank ∨ isBool value then .ok default
  else do
    match ← handled value.int with
    | some n => return n
    | none => return ((pyInt 10 value.str.toList).getD default)

/-- `str(item or "").strip()`. -/
def strippedText (item : PyTree) : Text := pyStrip (item.orElse (textTree "")).str.toList

def safeStrList : PyTree → List Text
  | .list items _ => (items.map strippedText).filter fun t => decide (t ≠ [])
  | _ => []

theorem listText_ne : "[...]" ≠ "" := by decide

def textList (texts : List Text) : PyTree :=
  .list (texts.map fun t => textTree (String.ofList t)) ⟨"[...]", listText_ne⟩

namespace RoutedOpportunity

variable (opp : RoutedOpportunity)

/-- A list of the metadata, or else that of the route plan. -/
def strList (key : String) : List Text :=
  let own := safeStrList (opp.metadata.get key)
  if own = [] then safeStrList ((opp.nested "execution_route_plan").get key) else own

def observedGasCandidates : Except Raised (List ℤ) :=
  [opp.metadata.get "gas_cost_estimate_wei",
    (opp.nested "search_profitability").get "gas_cost_wei",
    (opp.nested "safety").get "gas_cost_wei",
    (opp.nested "profitability").get "gas_cost_wei"].mapM safeInt

/-- `current_gas_cost_wei`. -/
def observedGasCostWei : Except Raised ℤ := do
  let candidates ← opp.observedGasCandidates
  match candidates.find? fun n => decide (0 < n) with
  | some n => return n
  | none => opp.inferGasCostWei none

end RoutedOpportunity

structure Observed where
  amountInWei : String
  amountOutWei : String
  routeId : String
  selectedVenues : List Text
  providerPriority : List Text
  routeInvalidCauses : List Text
  gasCostWei : String
  flashloanFeeBps : ℤ
  executionRoutePlanApplied : Bool

def natText (n : ℤ) : String := String.ofList (pyDecimal (max 0 n))

def observe (opp : RoutedOpportunity) (config : Config) : Except Raised Observed := do
  let gasCost ← opp.observedGasCostWei
  return {
    amountInWei := natText opp.amountInWei
    amountOutWei := natText opp.amountOutWei
    routeId := textOr [opp.routeId, opp.metadata.get "route_id"] ""
    selectedVenues := opp.strList "selected_venues"
    providerPriority := opp.strList "provider_priority"
    routeInvalidCauses := opp.strList "route_invalid_causes"
    gasCostWei := natText gasCost
    flashloanFeeBps := max 0 config.flashloanFeeBps
    executionRoutePlanApplied := (opp.metadata.get "execution_route_plan_applied").truthy }

def Observed.toMap (o : Observed) : PyMap :=
  [("amount_in_wei", textTree o.amountInWei), ("amount_out_wei", textTree o.amountOutWei),
    ("route_id", textTree o.routeId), ("selected_venues", textList o.selectedVenues),
    ("provider_priority", textList o.providerPriority),
    ("route_invalid_causes", textList o.routeInvalidCauses),
    ("gas_cost_wei", textTree o.gasCostWei),
    ("flashloan_fee_bps", .leaf (.int o.flashloanFeeBps)),
    ("execution_route_plan_applied", boolTree o.executionRoutePlanApplied)]

/-! ## The comparison -/

def routeContextList (context : PyMap) (key other : String) : List Text :=
  safeStrList ((context.get? key).getD (context.get other))

def expectedInContext (context expected : PyMap) : PyMap :=
  let selected := routeContextList context "selectedVenues" "selected_venues"
  let provider := routeContextList context "providerPriority" "provider_priority"
  let causes := routeContextList context "routeInvalidCauses" "route_invalid_causes"
  let expected := if selected = [] then expected
    else put expected "selected_venues" (textList selected)
  let expected := if provider = [] then expected
    else put expected "provider_priority" (textList provider)
  if (context.get? "routeInvalidCauses").isSome ∨ (context.get? "route_invalid_causes").isSome then
    put expected "route_invalid_causes" (textList causes)
  else expected

def textDiffers (expected : PyMap) (key observed : String) : Bool :=
  ((expected.get key).orElse (textTree observed)).str != observed

def listDiffers (expected : PyMap) (key : String) (observed : List Text) : Bool :=
  decide (safeStrList (expected.get key) ≠ safeStrList (textList observed))

def mismatchCodes (expected : PyMap) (o : Observed) : Except Raised (List String) := do
  let fee ← safeIntOr (expected.get "flashloan_fee_bps") o.flashloanFeeBps
  return (([(textDiffers expected "amount_in_wei" o.amountInWei, "mutation_desync_amount_in"),
    (textDiffers expected "amount_out_wei" o.amountOutWei, "mutation_desync_amount_out"),
    (textDiffers expected "route_id" o.routeId, "mutation_desync_route_id"),
    (listDiffers expected "selected_venues" o.selectedVenues, "mutation_desync_selected_venues"),
    (listDiffers expected "provider_priority" o.providerPriority,
      "mutation_desync_provider_priority"),
    (listDiffers expected "route_invalid_causes" o.routeInvalidCauses,
      "mutation_desync_route_invalid_causes"),
    (textDiffers expected "gas_cost_wei" o.gasCostWei, "mutation_desync_gas_cost"),
    (decide (fee ≠ o.flashloanFeeBps), "mutation_desync_flashloan_fee_bps")].filter
      fun p => p.1).map Prod.snd)

structure Continuity where
  valid : Bool
  reason : String
  mismatchCodes : List String
  expected : PyMap
  observed : Observed

def Continuity.toMap (c : Continuity) : PyMap :=
  [("valid", boolTree c.valid), ("reason", textTree c.reason),
    ("mismatchCodes", textList (c.mismatchCodes.map String.toList)),
    ("expected", record c.expected), ("observed", record c.observed.toMap)]

/-- `assess_post_mutation_profitability_continuity`. -/
def assess (opp : RoutedOpportunity) (config : Config) (context existing : PyMap) :
    Except Raised Continuity := do
  let observed ← observe opp config
  let recorded := (existing.get "expected").mapping
  let expected := expectedInContext context
    (if recorded.isEmpty then observed.toMap else recorded)
  let mismatches ← mismatchCodes expected observed
  let existingValid := existing.flag "valid" true
  let existingReason := textOr [existing.get "reason"] "ok"
  return {
    valid := existingValid && mismatches.isEmpty
    reason := mismatches.head?.getD (if existingValid then "ok" else existingReason)
    mismatchCodes := mismatches
    expected := expected
    observed := observed }

/-! ## The contract -/

structure PostMutationContract where
  source : String
  stage : String
  reasonCode : String
  degraded : Bool
  authoritative : Bool
  revalidated : Bool
  valid : Bool
  continuity : PyMap
  safetyRevalidated : Bool
  safetyReason : String
  gasCostWei : ℤ
  profitAfterCostsWei : ℤ
  flashloanFeeWei : ℤ
  routeInvalidCauses : List PyTree
  selectedVenues : List PyTree
  providerPriority : List PyTree
  profitability : PyMap

/-- `list(d.get(key) or d.get(other) or [])`. -/
def contextList (context : PyMap) (key other : String) : Except Raised (List PyTree) :=
  unhandled (PyMap.firstTruthy [context.get key, context.get other] (textList [])).iterate

/-- `_safe_int(safety.get(key), _safe_int(state.get(key), 0))`. -/
def safetyInt (safety state : PyMap) (key : String) : Except Raised ℤ := do
  let default ← safeInt (state.get key)
  safeIntOr (safety.get key) default

/-- `build_post_mutation_revalidation_contract`. -/
def buildContract (state : PyMap) (source : String) (context safety continuity : PyMap) :
    Except Raised PostMutationContract := do
  let own := (state.get "continuity").mapping
  let continuity := if own.isEmpty then continuity else own
  let reasonCode := textOr [state.get "reason", continuity.get "reason", safety.get "reason"]
    "profitability_unavailable"
  let gasCost ← safetyInt safety state "gas_cost_wei"
  let profit ← safetyInt safety state "profit_after_costs_wei"
  let fee ← safetyInt safety state "flashloan_fee_wei"
  let causes ← contextList context "routeInvalidCauses" "route_invalid_causes"
  let venues ← contextList context "selectedVenues" "selected_venues"
  let priority ← contextList context "providerPriority" "provider_priority"
  return {
    source := textOr [textTree source, state.get "source"] "execution_service"
    stage := textOr [state.get "stage"] "post_mutation_revalidation_unavailable"
    reasonCode := reasonCode
    degraded := state.flag "stale" true || !state.flag "valid" false
    authoritative := state.flag "authoritative" false
    revalidated := state.flag "revalidated" false
    valid := state.flag "valid" false
    continuity := continuity
    safetyRevalidated := safety.flag "revalidated" false
    safetyReason := textOr [safety.get "reason"] reasonCode
    gasCostWei := gasCost
    profitAfterCostsWei := profit
    flashloanFeeWei := fee
    routeInvalidCauses := causes
    selectedVenues := venues
    providerPriority := priority
    profitability := state }

def PostMutationContract.toMap (c : PostMutationContract) : PyMap :=
  [("source", textTree c.source), ("stage", textTree c.stage),
    ("reason_code", textTree c.reasonCode), ("reason", textTree c.reasonCode),
    ("degraded", boolTree c.degraded), ("authoritative", boolTree c.authoritative),
    ("revalidated", boolTree c.revalidated), ("valid", boolTree c.valid),
    ("continuity", record c.continuity),
    ("safety", record
      [("revalidated", boolTree c.safetyRevalidated), ("reason", textTree c.safetyReason),
        ("gas_cost_wei", intText c.gasCostWei),
        ("profit_after_costs_wei", intText c.profitAfterCostsWei),
        ("flashloan_fee_wei", intText c.flashloanFeeWei)]),
    ("routeInvalidCauses", .list c.routeInvalidCauses ⟨"[...]", listText_ne⟩),
    ("selectedVenues", .list c.selectedVenues ⟨"[...]", listText_ne⟩),
    ("providerPriority", .list c.providerPriority ⟨"[...]", listText_ne⟩),
    ("profitability", record c.profitability)]

/-! ## A refresh -/

structure RefreshCall where
  config : Config
  stage : String
  source : String
  gasCostWei : Option ℤ

def RefreshCall.revalidation (call : RefreshCall) : RevalidationCall :=
  ⟨call.config, call.stage, call.source, call.gasCostWei, none, none, none⟩

def RoutedOpportunity.withItem (opp : RoutedOpportunity) (key : String) (items : PyMap) :
    RoutedOpportunity :=
  { opp with metadata := put opp.metadata key (record items) }

/-- `refresh_post_mutation_revalidation_contract`: the opportunity afterwards, also where it
raises, and the contract. -/
def refresh (A : FloatArithmetic) (opp : RoutedOpportunity) (context : PyMap)
    (call : RefreshCall) : RoutedOpportunity × Except Raised PostMutationContract :=
  match assess opp call.config context (opp.nested "profitability_continuity") with
  | .error e => (opp, .error e)
  | .ok continuity =>
    let assessed := opp.withItem "profitability_continuity" continuity.toMap
    match revalidate A assessed call.revalidation with
    | .error e => (assessed, .error e)
    | .ok (state, revalidated) =>
      match buildContract state.toMap call.source context (revalidated.nested "safety")
          (revalidated.nested "profitability_continuity") with
      | .error e => (revalidated, .error e)
      | .ok contract =>
        (revalidated.withItem "post_mutation_revalidation" contract.toMap, .ok contract)

end SovereignCapital.Profitability
