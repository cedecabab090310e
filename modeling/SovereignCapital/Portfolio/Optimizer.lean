import SovereignCapital.Lib.Dict
import SovereignCapital.Lib.Double
import SovereignCapital.Lib.Greedy
import SovereignCapital.Lib.PyText

/-! # The portfolio optimizer

`select_portfolio` of `portfolio_optimizer.py`: a greedy selection of trades under budgets of
gas and capital, caps on families and engines, and conflict keys. The expected value of a
candidate is adjusted by what was picked before it.

A quantity is the number it is read as, or nothing when the value is absent or no number.
-/

namespace SovereignCapital.Portfolio

open Bytes

/-! ## Candidates -/

structure Candidate where
  oppId : String
  routeId : String
  evWei : Option ℚ
  gasCostWei : Option ℚ
  conflictKeys : List String
  correlationKey : String
  strategyFamily : String
  engineType : String
  chain : String
  tokenKeys : List String
  venueKeys : List String
  capitalRequiredWei : Option ℚ
  pathId : String
  pSuccess : ℚ
  qualityEdgeWei : Option ℚ
  routeQualityScore : ℚ
deriving DecidableEq

def coerceInt (value : Option ℚ) (fallback : ℤ) : ℤ := (value.map Double.trunc).getD fallback

def coerceCeilInt (value : Option ℚ) (fallback : ℤ) : ℤ := (value.map Int.ceil).getD fallback

def Candidate.gasCost (c : Candidate) : ℤ := max 0 (coerceCeilInt c.gasCostWei 0)

def Candidate.capitalRequired (c : Candidate) : ℤ := max 0 (coerceCeilInt c.capitalRequiredWei 0)

def Candidate.ev (c : Candidate) : ℤ := coerceInt c.evWei 0

/-- `_candidate_quality_edge_wei`. -/
def Candidate.qualityEdge (c : Candidate) (adjustedEv : ℤ) : ℤ :=
  max 0 (coerceInt c.qualityEdgeWei adjustedEv)

def familyCapitalAliases : String → Option String
  | "flash_arb" => some "flashloan_atomic"
  | "cex_dex_arb" => some "cross_cex_dex"
  | "liquidation_capture" => some "liquidation_anticipation"
  | _ => none

def canonicalFamilyName (value : String) : String :=
  let family := String.ofList (pyStrip value.toList)
  (familyCapitalAliases family).getD family

def nonemptyStrings (values : List String) : List String :=
  values.foldl (fun out raw =>
    let text := String.ofList (pyStrip raw.toList)
    if text = "" ∨ text ∈ out then out else out ++ [text]) []

/-- `conflict_keys` of `candidates_from_opps`, from `meta["pool_keys"]` and the keys that are derived
from the route. -/
def conflictKeysOf (poolKeys routeConflictKeys : List String) : List String :=
  if nonemptyStrings poolKeys = [] then routeConflictKeys else nonemptyStrings poolKeys

def Candidate.family (c : Candidate) : String := canonicalFamilyName c.strategyFamily

/-! ## Limits -/

/-- The arguments of `select_portfolio`. A dictionary that is not given is empty. -/
structure Limits where
  gasBudgetRemainingWei : ℚ
  maxTrades : ℤ
  familyCaps : Dict String (Option ℚ)
  engineCaps : Dict String (Option ℚ)
  covariancePenalties : Dict String ℚ
  pathPenalties : Dict String ℚ
  capitalBudgetRemainingWei : Option (Option ℚ)
  familyCapitalRemainingWei : Dict String (Option ℚ)

/-- One entry of `_canonical_family_capital_limits`: of two limits of a family the smaller
counts. -/
def addFamilyLimit (out : Dict String ℤ) (entry : String × Option ℚ) : Dict String ℤ :=
  let family := canonicalFamilyName entry.1
  if family = "" then out
  else
    let value := max 0 (coerceInt entry.2 0)
    out.set family (match out.get? family with
      | none => value
      | some existing => min existing value)

def canonicalFamilyCapitalLimits (limits : Dict String (Option ℚ)) : Dict String ℤ :=
  limits.entries.foldl addFamilyLimit Dict.empty

/-- `capital_limit_wei`. -/
def Limits.capitalLimit (limits : Limits) : Option ℤ :=
  limits.capitalBudgetRemainingWei.map fun budget => max 0 (coerceInt budget 0)

def Limits.familyCapitalLimits (limits : Limits) : Dict String ℤ :=
  canonicalFamilyCapitalLimits limits.familyCapitalRemainingWei

/-- The canonical `family_caps`. -/
def Limits.familyCountCaps (limits : Limits) : Dict String ℤ :=
  canonicalFamilyCapitalLimits limits.familyCaps

def Limits.capitalTruthRequired (limits : Limits) : Bool :=
  limits.capitalLimit.isSome || !limits.familyCapitalLimits.entries.isEmpty

/-! ## Adjusted values -/

def baseAdjustedEv (limits : Limits) (usedCorrelation : List String) (c : Candidate) : ℤ :=
  let ev := c.ev
  let ev :=
    if c.correlationKey ≠ "" ∧ c.correlationKey ∈ usedCorrelation then
      Double.trunc (ev * (72 / 100))
    else ev
  let ev :=
    if c.strategyFamily ≠ "" then
      Double.trunc
        (ev * max (65 / 100) (1 - limits.covariancePenalties.getD c.strategyFamily 0))
    else ev
  if c.pathId ≠ "" then
    Double.trunc (ev * max (60 / 100) (1 - limits.pathPenalties.getD c.pathId 0))
  else ev

/-- The running state of the loop. A set is a list whose order and repetitions do not matter. -/
structure Chosen where
  picked : List Candidate
  usedConflicts : List String
  usedGas : ℤ
  usedCapital : ℤ
  usedCorrelation : List String
  usedTokens : List String
  usedVenues : List String
  familyCounts : Dict String ℕ
  engineCounts : Dict String ℕ
  familyCapitalUsed : Dict String ℤ

def Chosen.none : Chosen := ⟨[], [], 0, 0, [], [], [], Dict.empty, Dict.empty, Dict.empty⟩

/-! ## Scores -/

def clip (x lo hi : ℚ) : ℚ := max lo (min hi x)

def capitalEfficiency (c : Candidate) (adjustedEv : ℤ) : ℚ :=
  let edgeRatio : ℚ := max 0 adjustedEv / (max 1 c.capitalRequired : ℤ)
  clip (75 / 100 + min (50 / 100) (edgeRatio * 5)) (75 / 100) (125 / 100)

def crowdingPenalty (chosen : Chosen) (c : Candidate) : ℚ :=
  let tokens : ℚ := (c.tokenKeys.filter (· ∈ chosen.usedTokens)).length
  let venues : ℚ := (c.venueKeys.filter (· ∈ chosen.usedVenues)).length
  let family : ℚ := if c.family = "" then 0 else chosen.familyCounts.getD c.family 0
  let engine : ℚ := if c.engineType = "" then 0 else chosen.engineCounts.getD c.engineType 0
  let sameChain := c.chain ≠ "" ∧ chosen.picked ≠ [] ∧ ∀ p ∈ chosen.picked, p.chain = c.chain
  clip (1 - min (18 / 100) (6 / 100 * tokens) - min (18 / 100) (6 / 100 * venues)
      - min (15 / 100) (8 / 100 * family) - min (10 / 100) (5 / 100 * engine)
      - if sameChain then 3 / 100 else 0)
    (55 / 100) 1

def scoreTuple (chosen : Chosen) (c : Candidate) (adjustedEv : ℤ) : ℚ × ℚ × ℚ × ℤ :=
  let orOne := fun x : ℚ => if x = 0 then 1 else x
  let efficiency := capitalEfficiency c adjustedEv
  let qualityRatio : ℚ :=
    if 0 < adjustedEv then
      clip (c.qualityEdge adjustedEv / (max 1 adjustedEv : ℤ)) (70 / 100) 1
    else 1
  let reliability := clip (70 / 100 + 30 / 100 * orOne c.pSuccess) (70 / 100) 1
  let routeQuality := clip (80 / 100 + 20 / 100 * orOne c.routeQualityScore) (80 / 100) 1
  let quality := qualityRatio * reliability * routeQuality
  (adjustedEv * quality * crowdingPenalty chosen c * efficiency / (max 1 c.gasCost : ℤ), efficiency,
    quality, adjustedEv)

/-- `score > best_score`. -/
def scoreBeats (a b : ℚ × ℚ × ℚ × ℤ) : Bool :=
  decide (b.1 < a.1) || (decide (b.1 = a.1) && (decide (b.2.1 < a.2.1) || (decide (b.2.1 = a.2.1)
    && (decide (b.2.2.1 < a.2.2.1) || (decide (b.2.2.1 = a.2.2.1) && decide (b.2.2.2 < a.2.2.2))))))

/-! ## Selection -/

/-- The checks of one candidate against what was chosen; its adjusted value when it passes. -/
def admissible (limits : Limits) (chosen : Chosen) (c : Candidate) : Option ℤ :=
  if c.ev ≤ 0 then .none
  else if limits.gasBudgetRemainingWei < chosen.usedGas + c.gasCost then .none
  else if limits.capitalTruthRequired ∧ c.capitalRequired ≤ 0 then .none
  else if ∃ limit ∈ limits.capitalLimit, 0 < c.capitalRequired
      ∧ limit < chosen.usedCapital + c.capitalRequired then .none
  else if c.family ≠ "" ∧ 0 < c.capitalRequired ∧ ∃ limit ∈ limits.familyCapitalLimits.get? c.family,
      limit < chosen.familyCapitalUsed.getD c.family 0 + c.capitalRequired then .none
  else if c.family ≠ "" ∧ ∃ cap ∈ limits.familyCountCaps.get? c.family,
      cap ≤ chosen.familyCounts.getD c.family 0 then .none
  else if c.engineType ≠ "" ∧ ∃ cap ∈ limits.engineCaps.get? c.engineType,
      coerceInt cap 0 ≤ chosen.engineCounts.getD c.engineType 0 then .none
  else if ∃ k ∈ c.conflictKeys, k ∈ chosen.usedConflicts then .none
  else
    let adjustedEv := baseAdjustedEv limits chosen.usedCorrelation c
    if adjustedEv ≤ 0 then .none else some adjustedEv

def Chosen.pick (chosen : Chosen) (c : Candidate) : Chosen where
  picked := chosen.picked ++ [c]
  usedConflicts := chosen.usedConflicts ++ c.conflictKeys
  usedGas := chosen.usedGas + c.gasCost
  usedCapital := chosen.usedCapital + c.capitalRequired
  usedCorrelation :=
    if c.correlationKey = "" then chosen.usedCorrelation
    else chosen.usedCorrelation ++ [c.correlationKey]
  usedTokens := chosen.usedTokens ++ c.tokenKeys
  usedVenues := chosen.usedVenues ++ c.venueKeys
  familyCounts :=
    if c.family = "" then chosen.familyCounts
    else chosen.familyCounts.set c.family (chosen.familyCounts.getD c.family 0 + 1)
  engineCounts :=
    if c.engineType = "" then chosen.engineCounts
    else chosen.engineCounts.set c.engineType (chosen.engineCounts.getD c.engineType 0 + 1)
  familyCapitalUsed :=
    if c.family = "" then chosen.familyCapitalUsed
    else chosen.familyCapitalUsed.set c.family
      (chosen.familyCapitalUsed.getD c.family 0 + c.capitalRequired)

/-- `sorted(candidates, key=…, reverse=True)`: a candidate stands before those its key is not
smaller than. -/
def standsBefore (a b : Candidate) : Prop :=
  b.ev < a.ev ∨ (b.ev = a.ev ∧ (a.gasCost < b.gasCost
    ∨ (a.gasCost = b.gasCost ∧ a.capitalRequired ≤ b.capitalRequired)))

instance : DecidableRel standsBefore := fun a b => by
  unfold standsBefore
  infer_instance

section Selection

variable {κ : Type}

/-- The loop, for a scoring function and its comparison. -/
def rules (score : Chosen → Candidate → ℤ → κ) (beats : κ → κ → Bool) (limits : Limits) :
    Greedy.Rules Chosen Candidate κ where
  score chosen c := (admissible limits chosen c).map (score chosen c)
  beats := beats
  take := Chosen.pick
  full chosen := !decide ((chosen.picked.length : ℤ) < limits.maxTrades)

/-- `select_portfolio` with a scoring function in place of `_score_tuple`. -/
def selectPortfolioWith (score : Chosen → Candidate → ℤ → κ) (beats : κ → κ → Bool)
    (limits : Limits) (candidates : List Candidate) : List Candidate :=
  if limits.maxTrades ≤ 0 ∨ limits.gasBudgetRemainingWei ≤ 0 then []
  else
    ((rules score beats limits).select Chosen.none (candidates.insertionSort standsBefore)).1.picked

end Selection

def selectPortfolio (limits : Limits) (candidates : List Candidate) : List Candidate :=
  selectPortfolioWith scoreTuple scoreBeats limits candidates

end SovereignCapital.Portfolio
