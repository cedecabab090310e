import Mathlib.Data.List.MinMax
import SovereignCapital.Launch.Rollout
import SovereignCapital.Lib.Decimal

/-! # Sizing a flash loan

`choose_flashloan_size` of `flashloan_sizing.py`: the points of a safe curve are scored for
every provider, under the caps of the treasury, the wealth goal, the drawdown, the family and
the depth of the pools.
-/

namespace SovereignCapital.Flashloan

open Bytes Decimal Launch

/-- `x or d`. -/
def orElse (x d : ℚ) : ℚ := if x = 0 then d else x

def clip (x lo hi : ℚ) : ℚ := max lo (min hi x)

/-! ## Inputs -/

structure SafeSizePoint where
  sizeMult : ℚ
  expectedProfitUsd : ℚ
  slippageCostUsd : ℚ
  interferencePenaltyUsd : ℚ
  latencyDecayCostUsd : ℚ

/-- An entry of `leg_states`; `viable` is the number it is read as. -/
structure LegState where
  viable : ℚ
  distortion : ℚ

/-- What is read of the treasury state. A cap that is absent or no number is nothing. -/
structure TreasuryState where
  governanceRawCap : Option ℚ
  stateRawCap : Option ℚ
  aggressivenessRawCap : Option ℚ
  governanceEffectiveCap : Option ℚ
  stateEffectiveCap : Option ℚ
  aggressivenessEffectiveCap : Option ℚ
  blocked : Bool
  governanceOk : Option Bool
  familyTargets : Dict String (Option ℚ)

/-- The arguments of `choose_flashloan_size`. -/
structure SizingInput where
  strategyFamily : String
  metaStrategyFamily : String
  routeFamily : String
  expectedProfitUsd : ℚ
  gasEstimateUsd : ℚ
  safeSizeCurve : List SafeSizePoint
  requestedSizeMult : ℚ
  routeScore : ℚ
  reserveDistortion : ℚ
  providerPriority : List String
  providerScores : List (String × ℚ)
  selectedProvider : String
  fallbackProvider : String
  legStates : List LegState
  routeViable : Bool
  interferenceProbability : ℚ
  staleProbability : ℚ
  copyRisk : ℚ
  postOrderingRealizedEdge : ℚ
  treasury : TreasuryState
  aggressivenessCap : ℚ
  capitalCommitmentPct : ℚ
  drawdownPct : ℚ
  hardStop : Bool
  killActive : Bool

/-! ## Families -/

def unique (values : List String) : List String :=
  values.foldl (fun out value => if value = "" ∨ value ∈ out then out else out ++ [value]) []

/-- `family_alias_candidates`: a family goes by its own name and at most one other. -/
def familyAliasCandidates (families : List String) : List String :=
  unique (families.flatMap fun family =>
    let launch := canonicalLaunchFamilyId family
    [family, launch] ++ ((aliasToLaunch.find? fun e => e.2 = launch).map Prod.fst).toList)

def familyTargetCandidates (i : SizingInput) : List String :=
  let routePrefix := String.ofList (i.routeFamily.toList.takeWhile (· ≠ '|'))
  familyAliasCandidates
    (unique [i.strategyFamily, i.metaStrategyFamily, routePrefix, i.routeFamily])

/-- `_resolve_family_target`: the name it was found under and the target. -/
def resolveFamilyTarget (i : SizingInput) : Option (String × ℚ) :=
  let targets := i.treasury.familyTargets
  ((familyAliasCandidates (familyTargetCandidates i)).find? targets.contains).map fun family =>
    (family, (targets.getD family none).getD 0)

/-! ## Caps -/

def providerLimit (provider : String) : ℚ :=
  match String.ofList (pyLower provider.toList) with
  | "aave" => 5
  | "balancer" => 4
  | "maker" => 35 / 10
  | "uniswap_flash" => 25 / 10
  | _ => 3

/-- `effective_borrow_mult_target_cap` of `treasury_governance_view`. -/
def effectiveBorrowMultTargetCap (t : TreasuryState) : ℚ :=
  let raw := t.governanceRawCap.getD (t.stateRawCap.getD (t.aggressivenessRawCap.getD 1))
  let raw := if raw ≤ 0 then 1 else raw
  let effective :=
    t.governanceEffectiveCap.getD (t.stateEffectiveCap.getD (t.aggressivenessEffectiveCap.getD raw))
  let effective := if effective ≤ 0 then raw else effective
  let ok := t.governanceOk.getD (!t.blocked) && !t.blocked
  if !ok && decide (1 < effective) then 1 else effective

def treasuryCap (i : SizingInput) : ℚ := orElse (effectiveBorrowMultTargetCap i.treasury) 1

def wealthCap (i : SizingInput) : ℚ :=
  max (35 / 100) (min (18 / 10)
    (orElse i.aggressivenessCap 1 * max (70 / 100) (orElse i.capitalCommitmentPct 25 / 30)))

def familyCap (i : SizingInput) : ℚ :=
  match resolveFamilyTarget i with
  | some (_, target) => clip (max (35 / 100) (target * (18 / 10))) (35 / 100) (18 / 10)
  | none => if i.treasury.familyTargets.entries.isEmpty then 1 else 50 / 100

def riskCap (i : SizingInput) : ℚ :=
  let risk : ℚ := if 8 ≤ i.drawdownPct then 85 / 100 else 1
  if i.hardStop || i.killActive then min risk (75 / 100) else risk

/-- `_safe_curve_candidates`. -/
def safeCurve (i : SizingInput) : List SafeSizePoint :=
  match i.safeSizeCurve.take 10 with
  | [] => [⟨1, 0, 0, 0, 0⟩]
  | point :: rest => point :: rest

/-- The loop of `pool_depth_cap`: the first point that is too thin or slips too much. -/
def poolDepthFrom (priorDensity : ℚ) : List SafeSizePoint → ℚ
  | [] => 5
  | point :: rest =>
    let mult := max (10 / 100) point.sizeMult
    let density := point.expectedProfitUsd / mult
    if density < priorDensity * (72 / 100)
        ∨ point.expectedProfitUsd * (42 / 100) < point.slippageCostUsd then
      min 5 (max (75 / 100) mult)
    else poolDepthFrom density rest

def poolDepthCap (i : SizingInput) : ℚ :=
  match safeCurve i with
  | [] => 5
  | first :: rest =>
    poolDepthFrom (max (1 / 100) (first.expectedProfitUsd / max (10 / 100) first.sizeMult)) rest

/-! ## Candidates -/

def requested (i : SizingInput) : ℚ := max (10 / 100) (orElse i.requestedSizeMult 1)

def postEdge (i : SizingInput) : ℚ := orElse i.postOrderingRealizedEdge i.expectedProfitUsd

def avgLegDistortion (i : SizingInput) : ℚ :=
  (i.legStates.map LegState.distortion).sum / max 1 i.legStates.length

def legViability (i : SizingInput) : ℚ :=
  ((i.legStates.map fun leg => if leg.viable = 0 then 0 else 1 - leg.distortion).min?).getD 1

def providerScore (i : SizingInput) (provider : String) : ℚ :=
  orElse ((i.providerScores.reverse.lookup provider).getD 0) (75 / 100)

structure ProviderCaps where
  routeViabilityCap : ℚ
  distortionCap : ℚ
  fragilityCap : ℚ
  hardCap : ℚ

def providerHardCap (i : SizingInput) (provider : String) : ℚ :=
  [max (1 / 2) (providerLimit provider), max (1 / 2) (treasuryCap i), wealthCap i, riskCap i,
    familyCap i, poolDepthCap i].foldl min 5

def minSafeCandidate (i : SizingInput) : ℚ :=
  (((safeCurve i).map fun point => max (1 / 2) point.sizeMult).min?).getD (1 / 2)

/-- `hard_cap`, with the caps it is made from. -/
def providerCaps (i : SizingInput) (provider : String) : ProviderCaps :=
  let base := providerHardCap i provider
  let distortion := max i.reserveDistortion (avgLegDistortion i)
  let routeViability := clip
    (base * (75 / 100 + 30 / 100 * max 0 i.routeScore) * (75 / 100 + 25 / 100 * legViability i)
      * (75 / 100 + 20 / 100 * providerScore i provider))
    (1 / 2) base
  let distortionCap := clip (base * (1 - distortion * (60 / 100))) (1 / 2) base
  let fragilityCap := clip
    (base * (1 - (45 / 100 * i.interferenceProbability + 30 / 100 * i.staleProbability
      + 20 / 100 * i.copyRisk)))
    (1 / 2) base
  { routeViabilityCap := routeViability
    distortionCap := distortionCap
    fragilityCap := fragilityCap
    hardCap := max (minSafeCandidate i)
      (min (min (min base routeViability) distortionCap) fragilityCap) }

/-- A row of `candidates`. -/
structure SizeCandidate where
  provider : String
  sizeMult : ℚ
  borrowMult : ℚ
  netEdge : ℚ
  fragility : ℚ
  providerScore : ℚ
  providerLimit : ℚ
  caps : ProviderCaps
  poolDepthCap : ℚ

def fragility (i : SizingInput) (point : SafeSizePoint) : ℚ :=
  clip
    (i.reserveDistortion * (25 / 100) + avgLegDistortion i * (16 / 100)
      + i.interferenceProbability * (26 / 100) + i.staleProbability * (16 / 100)
      + i.copyRisk * (10 / 100) + max 0 (point.sizeMult - requested i) * (20 / 100))
    0 (98 / 100)

/-- `net_edge` of a point, `previous` the point before it on the curve. -/
def netEdge (i : SizingInput) (provider : String) (previous : Option SafeSizePoint)
    (point : SafeSizePoint) : ℚ :=
  let cost := fun p : SafeSizePoint =>
    p.slippageCostUsd + p.interferencePenaltyUsd + p.latencyDecayCostUsd
  let edge := point.expectedProfitUsd * clip i.routeScore (25 / 100) (125 / 100)
      * clip (70 / 100 + providerScore i provider * (40 / 100)) (70 / 100) (110 / 100)
      * (1 - fragility i point) - cost point
  let edge :=
    if 0 < postEdge i then
      min edge (postEdge i * max (25 / 100) (1 - fragility i point * (55 / 100)))
    else edge
  match previous with
  | none => edge
  | some prev =>
    let marginal := (point.expectedProfitUsd - prev.expectedProfitUsd) - (cost point - cost prev)
    if marginal < 0 then edge - |marginal| * (35 / 100) else edge

/-- `borrow_mult` before it is rounded. -/
def borrowMult (i : SizingInput) (provider : String) (point : SafeSizePoint) : ℚ :=
  let hardCap := (providerCaps i provider).hardCap
  let lift : ℚ := if 75 / 100 ≤ providerScore i provider then 105 / 100 else 1
  clip (min hardCap (max (1 / 2) (point.sizeMult * lift))) (1 / 2) hardCap

def admits (i : SizingInput) (provider : String) (point : SafeSizePoint) : Bool :=
  decide (0 < point.sizeMult)
    && decide (point.sizeMult ≤ (providerCaps i provider).hardCap + 1 / 10 ^ 6)

def sizeCandidate (i : SizingInput) (provider : String) (previous : Option SafeSizePoint)
    (point : SafeSizePoint) : SizeCandidate where
  provider := provider
  sizeMult := pyRound 6 point.sizeMult
  borrowMult := pyRound 6 (borrowMult i provider point)
  netEdge := pyRound 6 (netEdge i provider previous point)
  fragility := pyRound 6 (fragility i point)
  providerScore := pyRound 6 (providerScore i provider)
  providerLimit := providerLimit provider
  caps := providerCaps i provider
  poolDepthCap := poolDepthCap i

def candidateFirst (i : SizingInput) (a b : SizeCandidate) : Prop :=
  b.netEdge < a.netEdge ∨ (b.netEdge = a.netEdge ∧ (a.fragility < b.fragility
    ∨ (a.fragility = b.fragility ∧ (|a.sizeMult - requested i| < |b.sizeMult - requested i|
      ∨ (|a.sizeMult - requested i| = |b.sizeMult - requested i| ∧ a.sizeMult ≤ b.sizeMult)))))

instance (i : SizingInput) : DecidableRel (candidateFirst i) := fun a b => by
  unfold candidateFirst
  infer_instance

def providerCandidates (i : SizingInput) (provider : String) : List SizeCandidate :=
  let points := safeCurve i
  let rows := (points.zip (none :: points.map some)).filterMap fun (point, previous) =>
    if admits i provider point then some (sizeCandidate i provider previous point) else none
  rows.insertionSort (candidateFirst i)

def emptyCandidate (i : SizingInput) (provider : String) : SizeCandidate where
  provider := provider
  sizeMult := 1
  borrowMult := 1
  netEdge := min (postEdge i) i.expectedProfitUsd
  fragility := 1
  providerScore := providerScore i provider
  providerLimit := providerLimit provider
  caps := providerCaps i provider
  poolDepthCap := poolDepthCap i

def bestOfProvider (i : SizingInput) (provider : String) : SizeCandidate :=
  ((providerCandidates i provider).head?).getD (emptyCandidate i provider)

/-! ## The result -/

def providers (i : SizingInput) : List String :=
  match i.providerPriority.filter (· ≠ "") with
  | [] => ["aave"]
  | provider :: rest => provider :: rest

/-- The order of the providers' best rows. -/
def providerFirst (i : SizingInput) (a b : String × SizeCandidate) : Prop :=
  b.2.netEdge < a.2.netEdge ∨ (b.2.netEdge = a.2.netEdge
    ∧ (orElse a.2.fragility 1 < orElse b.2.fragility 1
      ∨ (orElse a.2.fragility 1 = orElse b.2.fragility 1
        ∧ (providers i).idxOf a.1 ≤ (providers i).idxOf b.1)))

instance (i : SizingInput) : DecidableRel (providerFirst i) := fun a b => by
  unfold providerFirst
  infer_instance

/-- `provider_candidates`, best first. -/
def rankedProviders (i : SizingInput) : List (String × SizeCandidate) :=
  ((providers i).map fun provider => (provider, bestOfProvider i provider)).insertionSort
    (providerFirst i)

/-- `winner`; there is always a provider. -/
def winner (i : SizingInput) : String × SizeCandidate :=
  ((rankedProviders i).head?).getD ("aave", bestOfProvider i "aave")

/-- What `choose_flashloan_size` returns. -/
structure SizingResult where
  allowed : Bool
  requestedSizeMult : ℚ
  sizeMult : ℚ
  borrowMult : ℚ
  netEdge : ℚ
  fragility : ℚ
  providerLimit : ℚ
  selectedProvider : String
  reasonCodes : List String
  hardCap : ℚ
  poolDepthCap : ℚ
  familyBudgetCap : ℚ

def routeViable (i : SizingInput) : Bool := i.routeViable && decide (0 < legViability i)

/-- `selected_provider`. -/
def preferredProvider (i : SizingInput) : String :=
  if i.selectedProvider ≠ "" then i.selectedProvider else (providers i).headD "aave"

def familyTargetUnresolved (i : SizingInput) : Bool :=
  !i.treasury.familyTargets.entries.isEmpty && (resolveFamilyTarget i).isNone

/-- A family target that is known and next to nothing. -/
def familyTargetZero (i : SizingInput) : Bool :=
  match resolveFamilyTarget i with
  | some (_, target) => decide (target ≤ 2 / 100)
  | none => false

def enforceExecutionFloor (i : SizingInput) : Bool :=
  decide (1 < requested i) || decide (1 < orElse (winner i).2.sizeMult 1)

def minEdgeFloor (i : SizingInput) : ℚ :=
  if enforceExecutionFloor i then
    max (75 / 100) (max (i.gasEstimateUsd * (90 / 100))
      (if 0 < postEdge i then postEdge i * (20 / 100) else 75 / 100))
  else 0

/-- `severe_distortion and severe_structure_collapse`. -/
def structureShiftTooLarge (i : SizingInput) : Bool :=
  decide (60 / 100 ≤ max i.reserveDistortion (avgLegDistortion i))
    && decide (0 < requested i ∧ (winner i).2.sizeMult / requested i < 1 / 2)

def allowed (i : SizingInput) : Bool :=
  let best := (winner i).2
  routeViable i && decide (minEdgeFloor i ≤ best.netEdge)
    && decide (orElse best.fragility 1 < 82 / 100) && !i.hardStop && !i.killActive
    && !familyTargetUnresolved i && !familyTargetZero i && !structureShiftTooLarge i

def reasonCodes (i : SizingInput) : List String :=
  let best := (winner i).2
  let distortion := decide (45 / 100 ≤ i.reserveDistortion)
    || decide (45 / 100 ≤ avgLegDistortion i)
  let say := fun (condition : Bool) (code : String) => if condition then [code] else []
  say (decide (orElse best.sizeMult 1 < requested i)) "size_capped_for_net_ev"
    ++ say (decide (best.caps.hardCap < requested i)) "hard_cap_applied"
    ++ say distortion "reserve_distortion_cap"
    ++ say (decide (55 / 100 ≤ i.interferenceProbability) || decide (55 / 100 ≤ i.copyRisk))
      "competition_fragility_cap"
    ++ say (decide (50 / 100 ≤ i.staleProbability)) "stale_risk_cap"
    ++ say i.hardStop "drawdown_hard_stop"
    ++ say i.killActive "kill_switch_active"
    ++ say (!routeViable i) "route_not_viable"
    ++ (if familyTargetUnresolved i then ["family_target_unresolved"]
      else say (familyTargetZero i) "family_target_zero")
    ++ (if best.netEdge ≤ 0 then ["negative_net_ev"]
      else if enforceExecutionFloor i && decide (best.netEdge < minEdgeFloor i) then
        ["negative_net_ev", "net_ev_below_execution_floor"]
      else [])
    ++ say (decide (82 / 100 ≤ best.fragility)) "fragility_too_high"
    ++ say (structureShiftTooLarge i) "structure_shift_too_large"
    ++ say (decide ((winner i).1 ≠ preferredProvider i)) "provider_fallback_selected"
    ++ say (decide (i.fallbackProvider ≠ "") && decide ((winner i).1 = i.fallbackProvider))
      "configured_fallback_provider_used"

def chooseFlashloanSize (i : SizingInput) : SizingResult :=
  let best := (winner i).2
  { allowed := allowed i
    requestedSizeMult := requested i
    sizeMult := orElse best.sizeMult 1
    borrowMult := orElse best.borrowMult 1
    netEdge := best.netEdge
    fragility := best.fragility
    providerLimit := orElse best.providerLimit (providerLimit (winner i).1)
    selectedProvider := (winner i).1
    reasonCodes := reasonCodes i
    hardCap := orElse best.caps.hardCap 1
    poolDepthCap := orElse best.poolDepthCap (poolDepthCap i)
    familyBudgetCap := familyCap i }

end SovereignCapital.Flashloan
