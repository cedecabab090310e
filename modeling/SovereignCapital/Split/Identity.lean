import Mathlib.Data.Finset.Dedup
import SovereignCapital.Lib.PyText

/-! # Evidence of a split candidate

`gas_adjusted_split_identity.py`: what a sampled route must bring to take part in a split, and
the physical pools it goes through. A number is the integer it is read as, or nothing; a text
that is absent is empty.
-/

namespace SovereignCapital.Split

open Bytes

/-! ## Samples -/

/-- A leg of a sampled route; the auxiliary data may stand in one of two fields. -/
structure RawLeg where
  dex : String
  venue : String
  tokenIn : String
  tokenOut : String
  amountIn : Option ℤ
  data : String
  aux : String
deriving DecidableEq

/-- A sampled route; a flag tells whether the field is `True`. -/
structure RawCandidate where
  routeId : String
  amountIn : Option ℤ
  grossProfitWei : Option ℤ
  flashloanFeeWei : Option ℤ
  gasCostProfitTokenWei : Option ℤ
  gasCostWei : Option ℤ
  gasCostL2Wei : Option ℤ
  gasUnitsEstimate : Option ℤ
  baseL1FeeWei : Option ℤ
  baseL1FeeStatus : String
  repaymentValid : Bool
  revalidated : Bool
  authoritative : Bool
  valid : Bool
  legs : List RawLeg

def sharedExecutionOverheadGasUnits : ℤ := 180000 + 90000

/-! ## Pools -/

/-- `_normalized_leg_text`. -/
def normalizedText (text : String) : String := String.ofList (pyLower (pyStrip text.toList))

def normalizedLegAux (leg : RawLeg) : String :=
  normalizedText (if leg.data ≠ "" then leg.data else if leg.aux ≠ "" then leg.aux else "0x")

/-- `"|".join(sorted((token_in, token_out)))`. -/
def pairKey (tokenIn tokenOut : String) : String :=
  if tokenOut < tokenIn then tokenOut ++ "|" ++ tokenIn else tokenIn ++ "|" ++ tokenOut

def routerPairPoolKey (protocol venue pair aux : String) : Option String :=
  if venue = "" then none
  else if protocol ∈ ["camelot_algebra", "camelot_v2", "constant_product"] then
    some (protocol ++ "|" ++ venue ++ "|" ++ pair)
  else if aux = "" ∨ aux = "0x" then none
  else some (protocol ++ "|" ++ venue ++ "|" ++ pair ++ "|" ++ aux)

def resolvePoolKey (protocol venue pair aux : String) : Option String :=
  match protocol with
  | "curve" => if venue = "" then none else some ("curve|" ++ venue)
  | "balancer" => if aux = "" ∨ aux = "0x" then none else some ("balancer|" ++ aux)
  | "univ3" | "slipstream" | "aerodrome" | "camelot_algebra" | "camelot_v2"
  | "constant_product" => routerPairPoolKey protocol venue pair aux
  | _ =>
    if venue = "" then none
    else some (protocol ++ "|" ++ venue ++ "|" ++ pair ++ "|" ++ aux)

def legPoolKey (leg : RawLeg) : Option String :=
  let protocol := normalizedText leg.dex
  let tokenIn := normalizedText leg.tokenIn
  let tokenOut := normalizedText leg.tokenOut
  if protocol ≠ "" ∧ tokenIn ≠ "" ∧ tokenOut ≠ "" ∧ tokenIn ≠ tokenOut then
    resolvePoolKey protocol (normalizedText leg.venue) (pairKey tokenIn tokenOut)
      (normalizedLegAux leg)
  else none

/-! ## Cycles -/

/-- `_route_leg_identity`. -/
structure LegIdentity where
  tokenOut : String
  protocol : String
  poolKey : String
  venue : String
  directedPair : String

def routeLegIdentity (leg : RawLeg) (expectedTokenIn : String) : Option LegIdentity :=
  let tokenIn := normalizedText leg.tokenIn
  let tokenOut := normalizedText leg.tokenOut
  let protocol := normalizedText leg.dex
  if tokenIn ≠ "" ∧ tokenOut ≠ "" ∧ tokenIn ≠ tokenOut ∧ tokenIn = expectedTokenIn
      ∧ protocol ≠ "" then
    (legPoolKey leg).map fun poolKey =>
      { tokenOut := tokenOut
        protocol := protocol
        poolKey := poolKey
        venue := normalizedText leg.venue
        directedPair := tokenIn ++ "->" ++ tokenOut }
  else none

/-- The legs one after the other, each starting from the token the last one gave. -/
def legIdentities : List RawLeg → String → Option (List LegIdentity × String)
  | [], priorToken => some ([], priorToken)
  | leg :: legs, priorToken =>
    (routeLegIdentity leg priorToken).bind fun identity =>
      (legIdentities legs identity.tokenOut).map fun (rest, last) => (identity :: rest, last)

structure CycleIdentity where
  borrowToken : String
  poolKeys : Finset String
  protocols : Finset String
  routers : Finset String
  directedPairs : Finset String

def collectCycleLegIdentities (legs : List RawLeg) (borrowToken : String) : Option CycleIdentity :=
  (legIdentities legs borrowToken).bind fun (identities, last) =>
    let pools := identities.map LegIdentity.poolKey
    if last = borrowToken ∧ pools.Nodup then
      some
        { borrowToken := borrowToken
          poolKeys := pools.toFinset
          protocols := (identities.map LegIdentity.protocol).toFinset
          routers := ((identities.filter fun identity =>
            identity.venue ≠ "" ∧ identity.protocol ≠ "curve").map LegIdentity.venue).toFinset
          directedPairs := (identities.map LegIdentity.directedPair).toFinset }
    else none

def cycleIdentity (legs : List RawLeg) (amountIn : ℤ) : Option CycleIdentity :=
  match legs with
  | [] => none
  | first :: _ =>
    if (legs.length = 2 ∨ legs.length = 3) ∧ first.amountIn = some amountIn
        ∧ normalizedText first.tokenIn ≠ "" then
      collectCycleLegIdentities legs (normalizedText first.tokenIn)
    else none

/-! ## Candidates -/

/-- `_candidate_numeric_values`. -/
structure NumericValues where
  amount : ℤ
  gross : ℤ
  fee : ℤ
  gasToken : ℤ
  nativeCost : ℤ
  l2Gas : ℤ
  gasUnits : ℤ
  l1Fee : ℤ

def candidateNumericValues (candidate : RawCandidate) : Option NumericValues := do
  let amount ← candidate.amountIn
  let gross ← candidate.grossProfitWei
  let fee ← candidate.flashloanFeeWei
  let gasToken ← candidate.gasCostProfitTokenWei
  let nativeCost ← candidate.gasCostWei
  let l2Gas ← candidate.gasCostL2Wei
  let gasUnits ← candidate.gasUnitsEstimate
  let l1Fee ← candidate.baseL1FeeWei
  return ⟨amount, gross, fee, gasToken, nativeCost, l2Gas, gasUnits, l1Fee⟩

structure CostsAdmissible (candidate : RawCandidate) (values : NumericValues) (chainId : ℤ) :
    Prop where
  amount_pos : 0 < values.amount
  gross_pos : 0 < values.gross
  fee_nonneg : 0 ≤ values.fee
  repayment : candidate.repaymentValid = true
  native_pos : 0 < values.nativeCost
  l2_pos : 0 < values.l2Gas
  l1_nonneg : 0 ≤ values.l1Fee
  native_eq : values.nativeCost = values.l2Gas + values.l1Fee
  units : sharedExecutionOverheadGasUnits < values.gasUnits
  gasToken_pos : 0 < values.gasToken
  l1_exact : chainId ≠ 8453 ∨ candidate.baseL1FeeStatus ∈ ["exact_calldata", "exact_calldata_cached"]

instance (candidate : RawCandidate) (values : NumericValues) (chainId : ℤ) :
    Decidable (CostsAdmissible candidate values chainId) :=
  decidable_of_iff
    (0 < values.amount ∧ 0 < values.gross ∧ 0 ≤ values.fee ∧ candidate.repaymentValid = true
      ∧ 0 < values.nativeCost ∧ 0 < values.l2Gas ∧ 0 ≤ values.l1Fee
      ∧ values.nativeCost = values.l2Gas + values.l1Fee
      ∧ sharedExecutionOverheadGasUnits < values.gasUnits ∧ 0 < values.gasToken
      ∧ (chainId ≠ 8453
        ∨ candidate.baseL1FeeStatus ∈ ["exact_calldata", "exact_calldata_cached"]))
    ⟨fun ⟨a, b, c, d, e, f, g, h, i, j, k⟩ => ⟨a, b, c, d, e, f, g, h, i, j, k⟩,
      fun ⟨a, b, c, d, e, f, g, h, i, j, k⟩ => ⟨a, b, c, d, e, f, g, h, i, j, k⟩⟩

structure Candidate where
  routeId : String
  amountIn : ℤ
  grossProfitWei : ℤ
  flashloanFeeWei : ℤ
  gasCostProfitTokenWei : ℤ
  gasUnitsEstimate : ℤ
  gasPriceEffectiveWei : ℤ
  baseL1FeeWei : ℤ
  borrowToken : String
  legs : List RawLeg
  poolKeys : Finset String
  protocols : Finset String
  routers : Finset String
  directedPairs : Finset String
  singleRouteNetWei : ℤ
  gasTokenPerNativeWei : ℚ
  revalidated : Bool
  authoritative : Bool
  valid : Bool
  repaymentValid : Bool
  amount_pos : 0 < amountIn

def normalizeCandidate (candidate : RawCandidate) (chainId : ℤ) : Option Candidate :=
  (candidateNumericValues candidate).bind fun values =>
    if admissible : candidate.routeId ≠ "" ∧ CostsAdmissible candidate values chainId then
      (cycleIdentity candidate.legs values.amount).map fun identity =>
        { routeId := candidate.routeId
          amountIn := values.amount
          grossProfitWei := values.gross
          flashloanFeeWei := values.fee
          gasCostProfitTokenWei := values.gasToken
          gasUnitsEstimate := values.gasUnits
          gasPriceEffectiveWei :=
            max 1 ((values.l2Gas + values.gasUnits - 1) / values.gasUnits)
          baseL1FeeWei := values.l1Fee
          borrowToken := identity.borrowToken
          legs := candidate.legs
          poolKeys := identity.poolKeys
          protocols := identity.protocols
          routers := identity.routers
          directedPairs := identity.directedPairs
          singleRouteNetWei := values.gross - values.fee - values.gasToken
          gasTokenPerNativeWei := values.gasToken / values.nativeCost
          revalidated := candidate.revalidated
          authoritative := candidate.authoritative
          valid := candidate.valid
          repaymentValid := candidate.repaymentValid
          amount_pos := admissible.2.amount_pos }
    else none

/-- `_candidate_evidence_rank(a) > _candidate_evidence_rank(b)`. -/
def outranks (a b : Candidate) : Bool :=
  let rank := fun c : Candidate =>
    [((c.revalidated && c.authoritative && c.valid && c.repaymentValid).toNat : ℤ),
      (c.authoritative.toNat : ℤ), (c.revalidated.toNat : ℤ), c.singleRouteNetWei,
      c.grossProfitWei]
  decide (rank b < rank a)

end SovereignCapital.Split
