import SovereignCapital.Execute.ProfitGate
import SovereignCapital.Lib.PyRaise
import SovereignCapital.Profitability.State

/-! # Revalidation of profitability

`revalidate_profitability_state` computes the profitability of an opportunity anew, from its route
and its metadata, and writes it to the metadata. Gas is paid in the native token, profit is made in
the token that is borrowed: a conversion is given, inherited, or the two are the same token. How
floats are computed is a parameter. A revalidation that raises leaves the opportunity as it is.
-/

namespace SovereignCapital.Profitability

open Bytes PyRaise Execute

/-! ## Floats -/

/-- How the floats of a profit in dollars are computed. -/
structure FloatArithmetic where
  ofInt : ℤ → Option ℚ
  ofText : Text → Option PyFloat
  millionth : ℚ → PyFloat

namespace FloatArithmetic

def doubles : FloatArithmetic :=
  ⟨Double.ofInt, PyFloat.ofText, fun x => PyFloat.ofRat (x * (1 / 1000000))⟩

/-- A text as the rational number it says. -/
def exactOfText (t : Text) : Option PyFloat :=
  match PyNumber.ofText t with
  | some (.finite x) => some (.finite x)
  | _ => PyFloat.ofText t

/-- Rational numbers, without rounding. -/
def exact : FloatArithmetic :=
  ⟨fun n => some (n : ℚ), exactOfText, fun x => .finite (x / 1000000)⟩

variable (A : FloatArithmetic)

def float : PyTree → Except ConversionError PyFloat
  | .leaf (.int n) => (A.ofInt n).elim (.error .overflow) fun x => .ok (.finite x)
  | .leaf (.text s) => (A.ofText s.toList).elim (.error .value) .ok
  | v => v.float

/-- `_safe_float(value, 0.0)`. -/
def safeFloat (value : PyTree) : Except Raised PyFloat :=
  if value.blank ∨ isBool value then .ok (.finite 0)
  else do
    match ← handled (A.float value) with
    | some x => return x
    | none => return ((A.ofText value.str.toList).getD (.finite 0))

/-- A profit above the threshold is in millionths of a dollar. -/
def usdOfExpected (x : PyFloat) : PyFloat :=
  if (PyFloat.finite 1000).lt x then
    match x with
    | .finite x => A.millionth x
    | x => x
  else x

end FloatArithmetic

def floatTree : PyFloat → PyTree
  | .finite x => .leaf (.float x ⟨"...", by decide⟩)
  | .inf negative => .inf negative
  | .nan => .nan

def textTree (s : String) : PyTree := .leaf (.text s)

def boolTree (b : Bool) : PyTree := .leaf (.bool b)

/-- `str(n)` of an integer as a value. -/
def intText (n : ℤ) : PyTree := textTree (String.ofList (pyDecimal n))

theorem recordText_ne : "\x7b...\x7d" ≠ "" := by decide

def record (items : PyMap) : PyTree := .dict items ⟨"\x7b...\x7d", recordText_ne⟩

/-! ## Opportunities -/

structure RouteLeg where
  tokenIn : PyTree
  amountIn : PyTree
  minOut : PyTree

structure RoutedOpportunity where
  legs : List RouteLeg
  minOuts : List PyTree
  routeId : PyTree
  expectedProfitRaw : PyTree
  expectedProfitUsd : PyTree
  metadata : PyMap

/-- The settings that are read: `chain.weth`, `execution` and `safety`. -/
structure Config where
  weth : PyTree
  flashloanFeeBps : ℤ
  gasLimit : ℤ
  minProfitAbs : ℤ
  minProfitBps : ℤ

structure RevalidationCall where
  config : Config
  stage : String
  source : String
  gasCostWei : Option ℤ
  quotedAmountOutWei : Option ℤ
  gasCostInProfitTokenWei : Option PyTree
  flashloanFeeBpsOverride : Option ℤ

/-- `int(str(v or "0"))`, zero where it raises. -/
def amountOf (v : PyTree) : ℤ := (pyInt 10 (v.orElse (textTree "0")).str.toList).getD 0

namespace RoutedOpportunity

variable (opp : RoutedOpportunity)

/-- `_safe_dict(meta.get(key))`. -/
def nested (key : String) : PyMap := (opp.metadata.get key).mapping

/-- The amount in of `_resolve_amounts`. -/
def amountInWei : ℤ := (opp.legs.head?.map fun leg => amountOf leg.amountIn).getD 0

/-- The amount out of `_resolve_amounts`. -/
def amountOutWei : ℤ :=
  match opp.minOuts.getLast? with
  | some out => amountOf out
  | none => (opp.legs.getLast?.map fun leg => amountOf leg.minOut).getD 0

def gasCostCandidates : Except Raised (List ℤ) :=
  [(opp.nested "profitability").get "gas_cost_wei", (opp.nested "safety").get "gas_cost_wei",
    opp.metadata.get "gas_cost_estimate_wei",
    (opp.nested "search_profitability").get "gas_cost_wei"].mapM safeInt

def inferGasCostWei (gasCostWei : Option ℤ) : Except Raised ℤ :=
  match gasCostWei with
  | some n => .ok (max 0 n)
  | none => opp.gasCostCandidates.map fun candidates =>
    (candidates.find? fun n => decide (0 < n)).getD 0

end RoutedOpportunity

/-- `str(v or "").strip().lower()`. -/
def normalToken (v : PyTree) : String :=
  String.ofList (pyLower (pyStrip (v.orElse (textTree "")).str.toList))

def RoutedOpportunity.profitToken (opp : RoutedOpportunity) : String :=
  (opp.legs.head?.map fun leg => normalToken leg.tokenIn).getD ""

/-! ## The gas cost in the borrowed token -/

def isTrue : PyTree → Bool
  | .leaf (.bool b) => b
  | _ => false

/-- `int(v or 0)`; nothing where it raises. -/
def intOrZero (v : PyTree) : Option ℤ := (v.orElse (.leaf (.int 0))).int.toOption

/-- `inherited_profit_token_gas`. -/
def RoutedOpportunity.inheritedGas (opp : RoutedOpportunity) : Option ℤ :=
  let own := (opp.nested "profitability").get "gas_cost_profit_token_wei"
  let raw := if own.blank then (opp.nested "safety").get "gas_cost_profit_token_wei" else own
  if raw.blank then none else raw.int.toOption

def RoutedOpportunity.inheritedConversion (opp : RoutedOpportunity)
    (amountIn amountOut gasCost : ℤ) : Option ℤ :=
  let existing := opp.nested "profitability"
  opp.inheritedGas.filter fun gas =>
    isTrue (existing.get "gas_cost_conversion_available")
      && decide (normalToken (existing.get "gas_cost_profit_token_address") = opp.profitToken)
      && decide (0 ≤ gas)
      && decide (intOrZero (existing.get "amount_in_wei") = some amountIn)
      && decide (intOrZero (existing.get "amount_out_wei") = some amountOut)
      && decide (intOrZero (existing.get "gas_cost_wei") = some gasCost)

/-- `explicit_converted_gas`. -/
def explicitConversion (v : PyTree) : Option ℤ := v.int.toOption.filter fun gas => decide (0 ≤ gas)

def RoutedOpportunity.nativeGasUnitsMatch (opp : RoutedOpportunity) (config : Config) : Bool :=
  opp.profitToken != "" && normalToken config.weth != ""
    && opp.profitToken == normalToken config.weth

/-- `resolved_gas_cost_in_profit_token_wei`: a conversion that is given and malformed is not
replaced by another one. -/
def RoutedOpportunity.convertedGas (opp : RoutedOpportunity) (call : RevalidationCall)
    (amountIn amountOut gasCost : ℤ) : Option ℤ :=
  match call.gasCostInProfitTokenWei with
  | some v => explicitConversion v
  | none =>
    match opp.inheritedConversion amountIn amountOut gasCost with
    | some gas => some gas
    | none => if opp.nativeGasUnitsMatch call.config then some gasCost else none

/-! ## The verdict -/

/-- The values that a revalidation starts from. -/
structure Figures where
  amountIn : ℤ
  amountOut : ℤ
  expectedUsd : PyFloat
  gasCost : ℤ
  converted : Option ℤ
  continuity : PyMap

def figures (A : FloatArithmetic) (opp : RoutedOpportunity) (call : RevalidationCall) :
    Except Raised Figures := do
  let amountIn := opp.amountInWei
  let amountOut := call.quotedAmountOutWei.getD opp.amountOutWei
  let expected ← A.safeFloat
    (opp.expectedProfitUsd.orElse ((opp.nested "unit_econ").get "expected_profit_usd_micro"))
  let gasCost ← opp.inferGasCostWei call.gasCostWei
  return {
    amountIn := amountIn
    amountOut := amountOut
    expectedUsd := A.usdOfExpected expected
    gasCost := gasCost
    converted := opp.convertedGas call amountIn amountOut gasCost
    continuity := opp.nested "profitability_continuity" }

/-- What a revalidation decides; a profit may be unavailable. -/
structure Verdict where
  reason : String
  revalidated : Bool
  valid : Bool
  profitAfterCosts : Option ℤ
  economicProfit : Option ℤ
  gasCost : ℤ
  flashloanFee : ℤ

def rejected (reason : String) (gasCost : ℤ) : Verdict :=
  ⟨reason, false, false, some 0, some 0, gasCost, 0⟩

/-- The fee of the flash loan in basis points. -/
def RevalidationCall.feeBps (call : RevalidationCall) : ℤ :=
  call.flashloanFeeBpsOverride.getD call.config.flashloanFeeBps

/-- The check of a trade with its gas cost in the borrowed token. -/
def check (call : RevalidationCall) (f : Figures) (converted : ℤ) : SafetyResult :=
  checkProfitAndRepay f.amountIn f.amountOut call.config.minProfitAbs call.config.minProfitBps
    call.feeBps converted

/-- The continuity is there and not valid. -/
def Figures.discontinued (f : Figures) : Bool :=
  !f.continuity.isEmpty && !f.continuity.flag "valid" false

def judge (call : RevalidationCall) (f : Figures) : Verdict :=
  if f.discontinued then
    rejected (textOr [f.continuity.get "reason"] "mutation_invalid") f.gasCost
  else if f.amountIn ≤ 0 ∨ f.amountOut ≤ 0 then rejected "invalid_amounts" f.gasCost
  else if f.gasCost ≤ 0 then rejected "gas_cost_unavailable" 0
  else
    match f.converted with
    | none =>
      { reason := "gas_cost_profit_token_unavailable"
        revalidated := false
        valid := false
        profitAfterCosts := none
        economicProfit := none
        gasCost := f.gasCost
        flashloanFee := computeFlashloanFee f.amountIn (max 0 call.feeBps) }
    | some converted =>
      let sr := check call f converted
      { reason := sr.reason
        revalidated := true
        valid := sr.ok
        profitAfterCosts := some sr.profitAfterCostsWei
        economicProfit := some
          (f.amountOut - f.amountIn - sr.flashloanFeeWei - sr.gasCostProfitTokenWei)
        gasCost := f.gasCost
        flashloanFee := sr.flashloanFeeWei }

/-! ## The state -/

structure ProfitabilityState where
  stage : String
  source : String
  reason : String
  revalidated : Bool
  stale : Bool
  valid : Bool
  grossProfitWei : ℤ
  expectedProfitUsd : PyFloat
  profitAfterCostsWei : Option ℤ
  economicProfitAfterCostsWei : Option ℤ
  gasCostWei : ℤ
  flashloanFeeWei : ℤ
  amountInWei : ℤ
  amountOutWei : ℤ
  continuity : PyMap
  gasCostProfitTokenWei : Option ℤ
  gasCostConversionAvailable : Bool
  gasCostProfitTokenAddress : String
  repaymentValid : Bool

def ProfitabilityState.authoritative (state : ProfitabilityState) : Bool :=
  state.revalidated && state.valid && !state.stale

/-- An amount that may be unavailable, as it is written. -/
def optionText (n : Option ℤ) : PyTree := n.elim (textTree "") intText

def ProfitabilityState.toMap (state : ProfitabilityState) : PyMap :=
  [("stage", textTree state.stage), ("source", textTree state.source),
    ("reason", textTree state.reason), ("revalidated", boolTree state.revalidated),
    ("stale", boolTree state.stale), ("valid", boolTree state.valid),
    ("authoritative", boolTree state.authoritative),
    ("gross_profit_wei", intText state.grossProfitWei),
    ("expected_profit_usd", floatTree state.expectedProfitUsd),
    ("profit_after_costs_wei", optionText state.profitAfterCostsWei),
    ("economic_profit_after_costs_wei", optionText state.economicProfitAfterCostsWei),
    ("profit_after_costs_usd_micro", .leaf (.int 0)),
    ("gas_cost_wei", intText state.gasCostWei),
    ("flashloan_fee_wei", intText state.flashloanFeeWei),
    ("amount_in_wei", intText state.amountInWei), ("amount_out_wei", intText state.amountOutWei),
    ("continuity", record state.continuity),
    ("gas_cost_profit_token_wei", optionText state.gasCostProfitTokenWei),
    ("gas_cost_conversion_available", boolTree state.gasCostConversionAvailable),
    ("gas_cost_profit_token_address", textTree state.gasCostProfitTokenAddress),
    ("repayment_valid", boolTree state.repaymentValid)]

/-- `str(t or "unknown")`. -/
def orUnknown (t : String) : String := if t = "" then "unknown" else t

def stateOf (opp : RoutedOpportunity) (call : RevalidationCall) (f : Figures) (v : Verdict) :
    ProfitabilityState where
  stage := orUnknown call.stage
  source := orUnknown call.source
  reason := orUnknown v.reason
  revalidated := v.revalidated
  stale := !v.revalidated
  valid := v.valid
  grossProfitWei := f.amountOut - f.amountIn
  expectedProfitUsd := f.expectedUsd
  profitAfterCostsWei := v.profitAfterCosts
  economicProfitAfterCostsWei := v.economicProfit
  gasCostWei := max 0 v.gasCost
  flashloanFeeWei := max 0 v.flashloanFee
  amountInWei := max 0 f.amountIn
  amountOutWei := max 0 f.amountOut
  continuity := f.continuity
  gasCostProfitTokenWei := f.converted
  gasCostConversionAvailable := f.converted.isSome
  gasCostProfitTokenAddress := opp.profitToken
  repaymentValid := decide (0 < f.amountIn ∧ 0 < f.amountOut
    ∧ f.amountIn + max 0 v.flashloanFee ≤ f.amountOut)

/-! ## What is written -/

def update (d items : PyMap) : PyMap := items ++ d

/-- `meta["safety"]`, where it is written. -/
def safetyOf (opp : RoutedOpportunity) (call : RevalidationCall) (f : Figures) (v : Verdict) :
    Option PyMap :=
  let safety := opp.nested "safety"
  if f.discontinued ∨ f.amountIn ≤ 0 ∨ f.amountOut ≤ 0 ∨ f.gasCost ≤ 0 then none
  else
    match f.converted with
    | none => some (update
        (safety.filter fun item => !(["profit_after_costs_wei", "economic_profit_after_costs_wei",
          "profit_after_costs_usd_micro"].contains item.1))
        [("ok", boolTree false), ("is_safe", boolTree false), ("revalidated", boolTree false),
          ("reason", textTree "gas_cost_profit_token_unavailable"),
          ("gas_cost_wei", intText f.gasCost), ("gas_cost_profit_token_wei", textTree ""),
          ("gas_cost_conversion_available", boolTree false),
          ("flashloan_fee_wei", intText v.flashloanFee)])
    | some converted =>
      let updated := update safety
        [("ok", boolTree v.valid), ("is_safe", boolTree v.valid), ("revalidated", boolTree true),
          ("reason", textTree v.reason), ("amount_out_final_wei", intText f.amountOut),
          ("flashloan_fee_wei", intText v.flashloanFee), ("gas_cost_wei", intText f.gasCost),
          ("gas_cost_profit_token_wei", intText (max 0 converted)),
          ("profit_after_costs_wei", optionText v.profitAfterCosts),
          ("economic_profit_after_costs_wei", optionText v.economicProfit),
          ("continuity", record f.continuity)]
      some (if (updated.get "gas_limit").truthy then updated
        else put updated "gas_limit" (.leaf (.int call.config.gasLimit)))

def writtenMetadata (opp : RoutedOpportunity) (state : ProfitabilityState)
    (safety : Option PyMap) : PyMap :=
  let metadata := safety.elim opp.metadata fun items => put opp.metadata "safety" (record items)
  let revalidated := state.revalidated && state.valid
  put (put metadata "profitability" (record state.toMap)) "unit_econ"
    (record (put (opp.nested "unit_econ") "profitability_revalidated" (boolTree revalidated)))

def revalidate (A : FloatArithmetic) (opp : RoutedOpportunity) (call : RevalidationCall) :
    Except Raised (ProfitabilityState × RoutedOpportunity) := do
  let f ← figures A opp call
  let v := judge call f
  let state := stateOf opp call f v
  return (state, { opp with metadata := writtenMetadata opp state (safetyOf opp call f v) })

end SovereignCapital.Profitability
