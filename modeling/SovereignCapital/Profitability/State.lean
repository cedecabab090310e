import SovereignCapital.Lib.PyTree

/-! # The profitability state of an opportunity

`profitability_state_view`: what an opportunity's metadata says about its profit, whether it comes
from a profitability contract or from the scan. Attributes may raise when they are looked up.
-/

namespace SovereignCapital.Profitability

/-- An exception: the cancellation of a task, or an error by its class and the classes above it. -/
inductive Raised where
  | cancelled
  | error (className : String) (bases : List String)
deriving DecidableEq

/-- An opportunity by its attributes, the missing ones included. -/
structure Opportunity where
  attr : String → Except Raised (Option PyTree)
  /-- `token_in` of each leg of `route.legs` -/
  legTokens : Except Raised (List PyTree)

def Opportunity.getattr (opp : Opportunity) (name : String) (default : PyTree) :
    Except Raised PyTree :=
  (opp.attr name).map fun found => found.getD default

def raised : ConversionError → Raised
  | .type => .error "TypeError" []
  | .value => .error "ValueError" []
  | .overflow => .error "OverflowError" ["ArithmeticError"]

def unhandled {α : Type} (conversion : Except ConversionError α) : Except Raised α :=
  conversion.mapError raised

def handled {α : Type} (conversion : Except ConversionError α) : Except Raised (Option α) :=
  match conversion with
  | .ok a => .ok (some a)
  | .error .overflow => .error (raised .overflow)
  | .error _ => .ok none

/-- `isinstance(value, bool)`. -/
def isBool : PyTree → Bool
  | .leaf (.bool _) => true
  | _ => false

def safeInt (value : PyTree) : Except Raised Int :=
  if value.blank ∨ isBool value then .ok 0
  else do
    match ← handled value.int with
    | some n => return n
    | none => return ((Bytes.pyInt 10 value.str.toList).getD 0)

/-- `_safe_float(value, 0.0)`. -/
def safeFloat (value : PyTree) : Except Raised PyFloat :=
  if value.blank ∨ isBool value then .ok (.finite 0)
  else do
    match ← handled value.float with
    | some x => return x
    | none => return ((PyFloat.ofText value.str.toList).getD (.finite 0))

/-- `v or lookup`, where the lookup is made only if it is needed. -/
def orLookup (v : PyTree) (lookup : Except Raised PyTree) : Except Raised PyTree :=
  if v.truthy then .ok v else lookup

/-- What `profitability_state_view` returns. -/
structure ProfitabilityView where
  stage : String
  source : String
  reason : String
  revalidated : Bool
  stale : Bool
  valid : Bool
  authoritative : Bool
  continuity : PyMap
  continuityPresent : Bool
  continuityValid : Bool
  grossProfitWeiInt : Int
  profitAfterCostsWeiInt : Int
  expectedProfitUsd : PyFloat
  profitAfterCostsUsdMicroInt : Int
  amountInWeiInt : Int
  amountOutWeiInt : Int
  gasCostWeiInt : Int
  flashloanFeeWeiInt : Int

/-- A profit above the threshold is in millionths of a dollar. -/
def usdOfExpected (x : PyFloat) : PyFloat :=
  if (PyFloat.finite 1000).lt x then x.scale (1 / 1000000) else x

def textOr (values : List PyTree) (default : String) : String :=
  (PyMap.firstTruthy values (.leaf (.text default))).str

def contractView (opp : Opportunity) (metadata profitability : PyMap) :
    Except Raised ProfitabilityView := do
  let continuity := (metadata.get "profitability_continuity").mapping
  let safety := (metadata.get "safety").mapping
  let searchProfitability := (metadata.get "search_profitability").mapping
  let postMutation := (metadata.get "post_mutation_revalidation").mapping
  let unitEcon := (metadata.get "unit_econ").mapping
  let own := (profitability.get "continuity").mapping
  let profitabilityContinuity := if own.isEmpty then continuity else own
  let continuityPresent := !profitabilityContinuity.isEmpty
  let continuityValid := !continuityPresent || profitabilityContinuity.flag "valid" true
  let revalidated := profitability.flag "revalidated" false
  let stale := profitability.flag "stale"
    ((continuityPresent && !continuityValid) || (continuityPresent && !revalidated))
  let grossProfit ← orLookup (profitability.get "gross_profit_wei")
    (opp.getattr "expected_profit_raw" (.leaf .none))
  let gross ← safeInt grossProfit
  let afterCosts ← safeInt (PyMap.firstTruthy
    [profitability.get "profit_after_costs_wei", safety.get "profit_after_costs_wei",
      metadata.get "profit_after_all_costs_estimate_wei",
      searchProfitability.get "profit_after_costs_wei"]
    (metadata.get "profit_after_gas_estimate_wei"))
  let expectedUsd ← orLookup (profitability.get "expected_profit_usd")
    (opp.getattr "expected_profit_usd" (.leaf .none))
  let expected ← safeFloat (expectedUsd.orElse (unitEcon.get "expected_profit_usd_micro"))
  let usdMicro ← safeInt (PyMap.firstTruthy
    [profitability.get "profit_after_costs_usd_micro", safety.get "profit_after_costs_usd_micro"]
    (metadata.get "profit_after_gas_estimate_usd_micro"))
  let amountIn ← safeInt (profitability.get "amount_in_wei")
  let amountOut ← safeInt (profitability.get "amount_out_wei")
  let gasCost ← safeInt ((profitability.get "gas_cost_wei").orElse (safety.get "gas_cost_wei"))
  let fee ← safeInt
    ((profitability.get "flashloan_fee_wei").orElse (safety.get "flashloan_fee_wei"))
  return {
    stage := textOr [postMutation.get "stage", profitability.get "stage"] "legacy_projected"
    source := textOr [postMutation.get "source", profitability.get "source"] "legacy"
    reason := textOr
      [postMutation.get "reason_code", profitability.get "reason",
        profitabilityContinuity.get "reason", safety.get "reason",
        searchProfitability.get "reason"]
      (if stale then "profitability_metadata_stale" else "ok")
    revalidated := revalidated
    stale := stale
    valid := profitability.flag "valid" !stale
    authoritative := profitability.flag "authoritative" (revalidated && !stale)
    continuity := profitabilityContinuity
    continuityPresent := continuityPresent
    continuityValid := continuityValid
    grossProfitWeiInt := gross
    profitAfterCostsWeiInt := afterCosts
    expectedProfitUsd := usdOfExpected expected
    profitAfterCostsUsdMicroInt := usdMicro
    amountInWeiInt := amountIn
    amountOutWeiInt := amountOut
    gasCostWeiInt := gasCost
    flashloanFeeWeiInt := fee }

/-- The state without a contract. -/
def scanView (opp : Opportunity) (metadata : PyMap) : Except Raised ProfitabilityView := do
  let continuity := (metadata.get "profitability_continuity").mapping
  let safety := (metadata.get "safety").mapping
  let searchProfitability := (metadata.get "search_profitability").mapping
  let unitEcon := (metadata.get "unit_econ").mapping
  let continuityPresent := !continuity.isEmpty
  let continuityValid := !continuityPresent || continuity.flag "valid" true
  let safetyRevalidated := safety.flag "revalidated" !continuityPresent
  let stale := (continuityPresent && !continuityValid) || (continuityPresent && !safetyRevalidated)
  let expectedRaw ← opp.getattr "expected_profit_raw" (.leaf .none)
  let gross ← safeInt expectedRaw
  let afterCosts ← safeInt (PyMap.firstTruthy
    [safety.get "profit_after_costs_wei", metadata.get "profit_after_all_costs_estimate_wei",
      searchProfitability.get "profit_after_costs_wei"]
    (metadata.get "profit_after_gas_estimate_wei"))
  let expectedUsd ← opp.getattr "expected_profit_usd" (.leaf .none)
  let expected ← safeFloat (expectedUsd.orElse (unitEcon.get "expected_profit_usd_micro"))
  let usdMicro ← safeInt ((safety.get "profit_after_costs_usd_micro").orElse
    (metadata.get "profit_after_gas_estimate_usd_micro"))
  let gasCost ← safeInt ((safety.get "gas_cost_wei").orElse (metadata.get "gas_cost_estimate_wei"))
  let fee ← safeInt (safety.get "flashloan_fee_wei")
  return {
    stage := textOr [searchProfitability.get "stage"]
      (if safety.isEmpty then "legacy_projected" else "safety_revalidated")
    source := textOr [searchProfitability.get "stage"] "legacy"
    reason := textOr
      [continuity.get "reason", safety.get "reason", searchProfitability.get "reason"]
      (if stale then "profitability_metadata_stale" else "ok")
    revalidated := safetyRevalidated
    stale := stale
    valid := !stale && decide (0 < afterCosts)
    authoritative := !safety.isEmpty && safetyRevalidated && !stale
    continuity := continuity
    continuityPresent := continuityPresent
    continuityValid := continuityValid
    grossProfitWeiInt := gross
    profitAfterCostsWeiInt := afterCosts
    expectedProfitUsd := usdOfExpected expected
    profitAfterCostsUsdMicroInt := usdMicro
    amountInWeiInt := 0
    amountOutWeiInt := 0
    gasCostWeiInt := gasCost
    flashloanFeeWeiInt := fee }

/-- `_safe_dict(getattr(opp, "meta", None))`. -/
def Opportunity.rawMeta (opp : Opportunity) : Except Raised PyMap :=
  (opp.getattr "meta" (.leaf .none)).map PyTree.mapping

def profitabilityStateView (opp : Opportunity) : Except Raised ProfitabilityView := do
  let metadata ← opp.rawMeta
  let postMutation := (metadata.get "post_mutation_revalidation").mapping
  let revalidated := (postMutation.get "profitability").mapping
  let profitability :=
    if revalidated.isEmpty then (metadata.get "profitability").mapping else revalidated
  if profitability.isEmpty then scanView opp metadata else contractView opp metadata profitability

end SovereignCapital.Profitability
