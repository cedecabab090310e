import Mathlib.Data.Int.Bitwise
import SovereignCapital.Execute.Calldata

/-! # Edges, the data of their legs and the cost of their gas

An edge is one pool in one direction. The scanners turn an edge and the metadata of its quote
into the `data` of a leg, once for two legs (`routeAuxForEdge`) and once for three (`auxFor`),
and record what a route is expected to cost.
-/

namespace SovereignCapital.Engine

open Bytes Execute

/-- `DexType`. -/
inductive Dex where
  | univ3
  | curve
  | balancer
  | aerodrome
  | slipstream
  | camelotAlgebra
  | camelotV2
  | constantProduct
  deriving DecidableEq

def Dex.name : Dex → String
  | univ3 => "univ3"
  | curve => "curve"
  | balancer => "balancer"
  | aerodrome => "aerodrome"
  | slipstream => "slipstream"
  | camelotAlgebra => "camelot_algebra"
  | camelotV2 => "camelot_v2"
  | constantProduct => "constant_product"

structure Edge where
  dex : Dex
  venue : String
  tokenIn : String
  tokenOut : String
  params : PyDict

/-- The metadata of a quote. -/
abbrev Meta := PyDict

/-! ## Data of a leg -/

def auxU256ToB32Hex (n : Int) : String :=
  String.ofList (with0x (toHex (beBytes 32 (n % 2 ^ 256).toNat)))

def auxUniv3Fee (fee : Int) : String := auxU256ToB32Hex (fee % 2 ^ 24)

def auxCurve (i j : Int) (underlying : Bool) : String :=
  auxU256ToB32Hex (Nat.cast ((i % 256).toNat ||| (j % 256).toNat <<< 8
    ||| (if underlying then 1 else 0) <<< 16))

/-- `aux_curve_from_meta`; nothing where `int` raises. -/
def auxCurveFromMeta (quote : Meta) (params : PyDict) : Option String := do
  let i := quote.getD "i" (params.getD "i" (.int 0))
  let j := quote.getD "j" (params.getD "j" (.int 0))
  let underlying := quote.getD "used_underlying" (params.getD "underlying" (.bool false))
  return auxCurve (← i.int?) (← j.int?) underlying.truthy

/-- `int(fee)` of the metadata, of the edge, or the default. -/
def feeOf (edge : Edge) (quote : Meta) : Option Int :=
  (quote.getD "fee" (edge.params.getD "fee" (.int 3000))).int?

/-- The word of a factory and a flag; nothing where `int(.., 16)` raises. -/
def factoryWord (factory : String) (stable : Bool) : Option String := do
  let raw ← pyInt 16 factory.toList
  return auxU256ToB32Hex (Int.lor raw (if stable then 2 ^ 160 else 0))

/-- The factory of the edge, `"0"` when it has none. -/
def edgeFactory (edge : Edge) : String := ((edge.params.get "factory").orElse (.text "0")).str

/-- `_route_aux_for_edge`; nothing where it raises. -/
def routeAuxForEdge (edge : Edge) (quote : Meta) : Option String :=
  match edge.dex with
  | .univ3 => (feeOf edge quote).map auxUniv3Fee
  | .curve => auxCurveFromMeta quote edge.params
  | .balancer => some ((edge.params.get "pool_id").orElse (.text "0x")).str
  | .aerodrome =>
    factoryWord (edgeFactory edge) (edge.params.getD "stable" (.bool false)).truthy
  | .slipstream =>
    (edge.params.getD "tick_spacing" (.int 0)).int?.map fun n => auxU256ToB32Hex (n % 2 ^ 24)
  | .camelotAlgebra => some "0x"
  | .camelotV2 | .constantProduct => factoryWord (edgeFactory edge) false

/-- The factory the three-leg scan encodes, empty when neither the metadata nor the edge has one. -/
def quotedFactory (edge : Edge) (quote : Meta) : String :=
  ((quote.getD "factory" (edge.params.getD "factory" (.text ""))).orElse (.text "")).str

def quotedStable (edge : Edge) (quote : Meta) : Bool :=
  (quote.getD "stable" (edge.params.getD "stable" (.bool false))).truthy

def quotedTickSpacing (edge : Edge) (quote : Meta) : Option Int :=
  (quote.getD "tick_spacing" (edge.params.getD "tick_spacing" (.int 0))).int?

/-- `_aux_for` of the three-leg scan; nothing where it raises. -/
def auxFor (edge : Edge) (quote : Meta) : Option String :=
  match edge.dex with
  | .univ3 => (feeOf edge quote).map auxUniv3Fee
  | .curve => auxCurveFromMeta quote edge.params
  | .balancer => some ((edge.params.get "pool_id").orElse (.text "0x")).str
  | .aerodrome => factoryWord (quotedFactory edge quote) (quotedStable edge quote)
  | .slipstream =>
    (quotedTickSpacing edge quote).map fun n => auxU256ToB32Hex (n % 2 ^ 24)
  | _ => some "0x"

/-! ## Gas -/

def defaultFlashOverhead : Int := 180000

def defaultExecOverhead : Int := 90000

def legGasHeuristic : Dex → Int
  | .univ3 => 120000
  | .curve => 160000
  | .balancer => 200000
  | .aerodrome => 140000
  | .slipstream => 165000
  | .camelotAlgebra => 170000
  | .camelotV2 => 125000
  | .constantProduct => 125000

/-- The gas of one leg: what the quoter estimates, when that is plausible. -/
def legGas (dex : Dex) (quote : Meta) : Int :=
  if dex = .univ3 then
    match ((quote.get "gas_estimate").orElse (.int 0)).int? with
    | some estimate => if 40000 < estimate then estimate else legGasHeuristic dex
    | none => legGasHeuristic dex
  else legGasHeuristic dex

/-- The legs with the metadata of their places, one without metadata past the end. -/
def routeGas : List Dex → List Meta → Int
  | [], _ => 0
  | dex :: venues, legs => legGas dex (legs.headD Dict.empty) + routeGas venues legs.tail

def estimateRouteGasUnits (venues : List Dex) (legs : List Meta) : Int :=
  defaultFlashOverhead + defaultExecOverhead + routeGas venues legs

structure GasPresets where
  standardMaxFeeGwei : Int
  fastMaxFeeGwei : Int
  instantMaxFeeGwei : Int

/-- `cfg.execution`, as far as the gas model reads it. -/
structure GasConfig where
  gasMode : String
  gasPresets : Option GasPresets

/-- The maximum fee of the configured mode. -/
def GasConfig.maxFeeGwei (cfg : GasConfig) : Int :=
  match cfg.gasPresets with
  | none => 25
  | some presets =>
    if cfg.gasMode = "fast" then presets.fastMaxFeeGwei
    else if cfg.gasMode = "instant" then presets.instantMaxFeeGwei
    else presets.standardMaxFeeGwei

def gweiToWei (gwei : Int) : Int := gwei * 1000000000

def estimateGasCostWeiFromCfg (cfg : GasConfig) (gasUnits : Int) (observedGasPriceWei : Option Int) :
    Int :=
  match observedGasPriceWei with
  | some observed =>
    if 0 < max 0 observed then gasUnits * max 0 observed
    else gasUnits * gweiToWei cfg.maxFeeGwei
  | none => gasUnits * gweiToWei cfg.maxFeeGwei

/-! ## Lemmas -/

theorem legGas_pos (dex : Dex) (quote : Meta) : 0 < legGas dex quote := by
  have hheuristic : 0 < legGasHeuristic dex := by
    cases dex <;> decide
  unfold legGas
  split
  · split
    · split
      · omega
      · exact hheuristic
    · exact hheuristic
  · exact hheuristic

theorem routeGas_nonneg (venues : List Dex) (legs : List Meta) : 0 ≤ routeGas venues legs := by
  induction venues generalizing legs with
  | nil => exact le_rfl
  | cons dex venues ih =>
    have hleg := legGas_pos dex (legs.headD Dict.empty)
    have hrest := ih legs.tail
    rw [routeGas]
    omega

theorem estimateRouteGasUnits_pos (venues : List Dex) (legs : List Meta) :
    0 < estimateRouteGasUnits venues legs := by
  have hlegs := routeGas_nonneg venues legs
  rw [estimateRouteGasUnits, defaultFlashOverhead, defaultExecOverhead]
  omega

theorem estimateGasCost_observed (cfg : GasConfig) (gasUnits : Int) {observed : Int}
    (h : 0 < observed) :
    estimateGasCostWeiFromCfg cfg gasUnits (some observed) = gasUnits * observed := by
  have hmax : max 0 observed = observed := max_eq_right (le_of_lt h)
  simp only [estimateGasCostWeiFromCfg, hmax, h, if_true]

end SovereignCapital.Engine
