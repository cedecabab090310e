import Mathlib.Data.List.MinMax
import Mathlib.Data.Rat.Floor
import SovereignCapital.Lib.BudgetedSearch
import SovereignCapital.Lib.Dict
import SovereignCapital.Split.Identity

/-! # The split router

`gas_adjusted_split_router.py`: candidates are shortlisted for each amount, and for each target
amount a search looks for the set of routes that adds up to it and nets most.
-/

namespace SovereignCapital.Split

/-! ## Shortlists -/

structure SplitSearchLimits where
  maxRoutes : ℤ := 3
  maxCandidatesPerAmount : ℤ := 8
  maxSearchStates : ℤ := 2000
  maxPlans : ℤ := 8

structure SizeRow where
  quoteRequests : Option ℤ
  quoteSuccesses : Option ℤ
  candidates : List RawCandidate

def quoteBacked (row : SizeRow) : Bool :=
  decide (0 < row.quoteRequests.getD 0) && decide (0 < row.quoteSuccesses.getD 0)

/-- The loop of `_deduplicate_candidates`. -/
def keepCandidate (chainId : ℤ) (unique : Dict (String × ℤ × String) Candidate)
    (raw : RawCandidate) : Dict (String × ℤ × String) Candidate :=
  match normalizeCandidate raw chainId with
  | none => unique
  | some candidate =>
    let key := (candidate.borrowToken, candidate.amountIn, candidate.routeId)
    match unique.get? key with
    | none => unique.set key candidate
    | some prior => if outranks candidate prior then unique.set key candidate else unique

def deduplicateCandidates (raw : List RawCandidate) (chainId : ℤ) :
    Dict (String × ℤ × String) Candidate :=
  raw.foldl (keepCandidate chainId) Dict.empty

/-- `_group_candidates_by_token_and_amount`. -/
def groupCandidates (candidates : List Candidate) : Dict String (Dict ℤ (List Candidate)) :=
  candidates.foldl
    (fun grouped candidate =>
      let buckets := grouped.getD candidate.borrowToken Dict.empty
      grouped.set candidate.borrowToken
        (buckets.set candidate.amountIn (buckets.getD candidate.amountIn [] ++ [candidate])))
    Dict.empty

/-- `set().union(*(…))`. -/
def unionOf (field : Candidate → Finset String) (rows : List Candidate) : Finset String :=
  rows.foldl (fun union row => union ∪ field row) ∅

def bestDiverseCandidateIndex (pending chosen : List Candidate) (bestNet tolerance : ℤ) : ℕ :=
  let protocols := unionOf Candidate.protocols chosen
  let pools := unionOf Candidate.poolKeys chosen
  let nearBest := pending.zipIdx.filter fun (row, _) => bestNet - row.singleRouteNetWei ≤ tolerance
  let key := fun entry : Candidate × ℕ =>
    [((entry.1.protocols \ protocols).card : ℤ), ((entry.1.poolKeys \ pools).card : ℤ),
      entry.1.singleRouteNetWei, entry.1.grossProfitWei]
  let best := nearBest.foldl
    (fun best entry =>
      match best with
      | none => some entry
      | some prior => if key prior < key entry then some entry else some prior)
    none
  (best.map Prod.snd).getD 0

/-- The order of `_shortlist_amount_bucket`, best first. -/
def ranksFirst (a b : Candidate) : Prop :=
  b.singleRouteNetWei < a.singleRouteNetWei ∨ (b.singleRouteNetWei = a.singleRouteNetWei
    ∧ (b.grossProfitWei < a.grossProfitWei ∨ (b.grossProfitWei = a.grossProfitWei
      ∧ b.routeId ≤ a.routeId)))

instance : DecidableRel ranksFirst := fun a b => by
  unfold ranksFirst
  infer_instance

/-- The loop of `_shortlist_amount_bucket`: at most `room` more. -/
def diversify (bestNet tolerance : ℤ) : ℕ → List Candidate → List Candidate → List Candidate
  | 0, _, chosen => chosen
  | room + 1, pending, chosen =>
    let index := bestDiverseCandidateIndex pending chosen bestNet tolerance
    match pending[index]? with
    | none => chosen
    | some row => diversify bestNet tolerance room (pending.eraseIdx index) (chosen ++ [row])

def shortlistAmountBucket (rows : List Candidate) (maxCandidates : ℤ) : List Candidate :=
  match rows.insertionSort ranksFirst with
  | [] => []
  | best :: pending =>
    if maxCandidates ≤ 0 then []
    else
      diversify best.singleRouteNetWei (max 1 (|best.singleRouteNetWei| * 50 / 10000))
        (maxCandidates - 1).toNat pending [best]

def prepareCandidateBuckets (sizeMatrix : List SizeRow) (chainId maxPerAmount : ℤ) :
    Dict String (List Candidate) :=
  let raw := (sizeMatrix.filter quoteBacked).flatMap SizeRow.candidates
  let grouped := groupCandidates (deduplicateCandidates raw chainId).values
  let cap := max 1 (min maxPerAmount 12)
  grouped.mapVal fun buckets =>
    (buckets.entries.insertionSort fun a b => a.1 ≤ b.1).flatMap fun bucket =>
      shortlistAmountBucket bucket.2 cap

/-! ## Costs -/

def extraSplitRouteGasUnits : ℤ := 75000

/-- `_split_cost_totals`. -/
structure CostTotals where
  amount : ℤ
  gross : ℤ
  fee : ℤ
  l2Units : ℤ
  l2Cost : ℤ
  l1Cost : ℤ
  nativeCost : ℤ
  gasTokenCost : ℤ
  net : ℤ
deriving DecidableEq

def total (quantity : Candidate → ℤ) (parts : List Candidate) : ℤ := (parts.map quantity).sum

/-- `max(…)` over the parts of a split. -/
def greatest {α : Type} [LinearOrder α] [Zero α] (quantity : Candidate → α)
    (parts : List Candidate) : α :=
  ((parts.map quantity).max?).getD 0

def splitCostTotals (parts : List Candidate) : CostTotals :=
  let extra : ℤ := max 0 ((parts.length : ℤ) - 1)
  let gross := total Candidate.grossProfitWei parts
  let fee := total Candidate.flashloanFeeWei parts + extra
  let routeUnits := total
    (fun row => max 0 (row.gasUnitsEstimate - sharedExecutionOverheadGasUnits)) parts
  let l2Units := sharedExecutionOverheadGasUnits + routeUnits + extra * extraSplitRouteGasUnits
  let l2Cost := l2Units * greatest Candidate.gasPriceEffectiveWei parts
  let l1Cost := total Candidate.baseL1FeeWei parts
  let nativeCost := l2Cost + l1Cost
  let conversion := greatest Candidate.gasTokenPerNativeWei parts
  let gasTokenCost := (nativeCost * conversion.num + conversion.den - 1) / conversion.den
  { amount := total Candidate.amountIn parts
    gross := gross
    fee := fee
    l2Units := l2Units
    l2Cost := l2Cost
    l1Cost := l1Cost
    nativeCost := nativeCost
    gasTokenCost := gasTokenCost
    net := gross - fee - gasTokenCost }

/-! ## Search -/

/-- A completed split: `_evaluate_split` with what `_record_completed_split` adds. -/
structure SplitModel where
  borrowToken : String
  parts : List Candidate
  totals : CostTotals
  bestSingleNet : Option ℤ
  improvement : Option ℤ

def SplitModel.net (model : SplitModel) : ℤ := model.totals.net

/-- `_PartialSplit`; where the next part may be taken from is kept beside it. -/
structure PartialSplit where
  remainingAmount : ℤ
  parts : List Candidate
  usedRouteIds : List String
  usedPoolKeys : Finset String

structure SearchTarget where
  borrowToken : String
  bestSingleNet : Option ℤ
  limits : SplitSearchLimits

structure SplitSearchState where
  statesSeen : ℕ
  combinationsEvaluated : ℕ
  bestPlan : Option SplitModel

def evaluateSplit (target : SearchTarget) (parts : List Candidate) : SplitModel :=
  let totals := splitCostTotals parts
  { borrowToken := target.borrowToken
    parts := parts
    totals := totals
    bestSingleNet := target.bestSingleNet
    improvement := target.bestSingleNet.map fun best => totals.net - best }

def recordCompletedSplit (target : SearchTarget) (state : SplitSearchState)
    (parts : List Candidate) : SplitSearchState :=
  if parts.length < 2 then state
  else
    { state with
      combinationsEvaluated := state.combinationsEvaluated + 1
      bestPlan :=
        BudgetedSearch.keepBetter SplitModel.net state.bestPlan (evaluateSplit target parts) }

/-- `states_seen >= max_search_states`. -/
def outOfStates (target : SearchTarget) (state : SplitSearchState) : Bool :=
  decide (target.limits.maxSearchStates ≤ state.statesSeen)

/-- The candidate cannot be the next part. -/
def PartialSplit.skips (p : PartialSplit) (row : Candidate) : Prop :=
  p.remainingAmount < row.amountIn ∨ row.routeId ∈ p.usedRouteIds
    ∨ ¬ Disjoint p.usedPoolKeys row.poolKeys

instance (p : PartialSplit) (row : Candidate) : Decidable (p.skips row) := by
  unfold PartialSplit.skips
  infer_instance

def PartialSplit.child (p : PartialSplit) (row : Candidate) : PartialSplit where
  remainingAmount := p.remainingAmount - row.amountIn
  parts := p.parts ++ [row]
  usedRouteIds := p.usedRouteIds ++ [row.routeId]
  usedPoolKeys := p.usedPoolKeys ∪ row.poolKeys

/-- `_walk_split_search`, given how to extend the split. -/
def enterSplit (target : SearchTarget) (p : PartialSplit)
    (extend : SplitSearchState → SplitSearchState) (state : SplitSearchState) : SplitSearchState :=
  if outOfStates target state then state
  else
    let state := { state with statesSeen := state.statesSeen + 1 }
    if p.remainingAmount = 0 then recordCompletedSplit target state p.parts
    else if target.limits.maxRoutes ≤ p.parts.length then state
    else extend state

/-- `_extend_split_search` from the candidates at and after `start_index`. -/
def extendSplitSearch (target : SearchTarget) :
    List Candidate → PartialSplit → SplitSearchState → SplitSearchState
  | [], _, state => state
  | row :: rest, p, state =>
    if p.skips row then extendSplitSearch target rest p state
    else
      let state := enterSplit target (p.child row)
        (extendSplitSearch target rest (p.child row)) state
      if outOfStates target state then state else extendSplitSearch target rest p state

def walkSplitSearch (target : SearchTarget) (rows : List Candidate) (p : PartialSplit)
    (state : SplitSearchState) : SplitSearchState :=
  enterSplit target p (extendSplitSearch target rows p) state

def searchedFirst (a b : Candidate) : Prop :=
  b.singleRouteNetWei < a.singleRouteNetWei ∨ (b.singleRouteNetWei = a.singleRouteNetWei
    ∧ (b.grossProfitWei < a.grossProfitWei ∨ (b.grossProfitWei = a.grossProfitWei
      ∧ (a.amountIn < b.amountIn ∨ (a.amountIn = b.amountIn ∧ a.routeId ≤ b.routeId)))))

instance : DecidableRel searchedFirst := fun a b => by
  unfold searchedFirst
  infer_instance

def amountPool (candidates : List Candidate) (targetAmount : ℤ) : List Candidate :=
  (candidates.filter fun row => row.amountIn ≤ targetAmount).insertionSort searchedFirst

def bestSingleNet (candidates : List Candidate) (targetAmount : ℤ) : Option ℤ :=
  ((candidates.filter fun row => row.amountIn = targetAmount).map Candidate.singleRouteNetWei).max?

structure SplitPlan extends SplitModel where
  searchStates : ℕ
  splitCombinationsEvaluatedForTarget : ℕ
  searchTruncated : Bool

/-- What `_search_target_amount` returns. -/
structure TargetSearch where
  plan : Option SplitPlan
  combinationsEvaluated : ℕ
  truncated : Bool

def searchTargetAmount (token : String) (candidates : List Candidate) (targetAmount : ℤ)
    (limits : SplitSearchLimits) : TargetSearch :=
  let target := ⟨token, bestSingleNet candidates targetAmount, limits⟩
  let state := walkSplitSearch target (amountPool candidates targetAmount)
    ⟨targetAmount, [], [], ∅⟩ ⟨0, 0, none⟩
  let truncated := outOfStates target state
  { plan := state.bestPlan.map fun model =>
      { model with
        searchStates := state.statesSeen
        splitCombinationsEvaluatedForTarget := state.combinationsEvaluated
        searchTruncated := truncated }
    combinationsEvaluated := state.combinationsEvaluated
    truncated := truncated }

/-! ## Plans -/

def targetAmounts (candidates : List Candidate) : List ℤ :=
  ((candidates.map Candidate.amountIn).dedup).insertionSort (· ≤ ·)

/-- `_collect_split_plans`: the search of each token and target. -/
def collectSplitSearches (candidatesByToken : Dict String (List Candidate))
    (limits : SplitSearchLimits) : List TargetSearch :=
  (candidatesByToken.entries.insertionSort fun a b => a.1 ≤ b.1).flatMap fun entry =>
    (targetAmounts entry.2).map fun targetAmount =>
      searchTargetAmount entry.1 entry.2 targetAmount limits

/-- The order of `_sort_split_plans_by_net`, best first. -/
def planFirst (a b : SplitPlan) : Prop :=
  b.net < a.net ∨ (b.net = a.net ∧ (b.improvement.getD 0 < a.improvement.getD 0
    ∨ (b.improvement.getD 0 = a.improvement.getD 0 ∧ b.totals.gross ≤ a.totals.gross)))

instance : DecidableRel planFirst := fun a b => by
  unfold planFirst
  infer_instance

/-- `_group_split_plans_by_token`. -/
def groupSplitPlans (plans : List SplitPlan) : Dict String (List SplitPlan) :=
  plans.foldl
    (fun grouped plan =>
      grouped.set plan.borrowToken (grouped.getD plan.borrowToken [] ++ [plan]))
    Dict.empty

/-- `_interleave_split_plans_by_token`. -/
def interleave (ranked : List (List SplitPlan)) : List SplitPlan :=
  (List.range ((ranked.map List.length).foldl max 0)).flatMap fun i =>
    ranked.filterMap fun plans => plans[i]?

/-- `_round_robin_split_plans`, before the output limit. -/
def roundRobinSplitPlans (plans : List SplitPlan) : List SplitPlan :=
  let grouped := (groupSplitPlans plans).mapVal fun plans => plans.insertionSort planFirst
  interleave ((grouped.entries.insertionSort fun a b => a.1 ≤ b.1).map Prod.snd)

/-- What `build_gas_adjusted_split_frontier` returns. -/
structure SplitFrontier where
  eligibleRouteAmountEvidence : ℕ
  candidatePlansBeforeOutputLimit : ℕ
  splitCombinationsEvaluated : ℕ
  searchTruncatedTargets : ℕ
  positiveAfterCostEstimates : ℕ
  plans : List SplitPlan
  reasonCode : String

def buildGasAdjustedSplitFrontier (sizeMatrix : List SizeRow) (chainId : ℤ) : SplitFrontier :=
  let limits : SplitSearchLimits := {}
  let candidatesByToken := prepareCandidateBuckets sizeMatrix chainId limits.maxCandidatesPerAmount
  let eligible := (candidatesByToken.values.map List.length).sum
  let searches := collectSplitSearches candidatesByToken limits
  let interleaved := roundRobinSplitPlans (searches.filterMap TargetSearch.plan)
  { eligibleRouteAmountEvidence := eligible
    candidatePlansBeforeOutputLimit := interleaved.length
    splitCombinationsEvaluated := (searches.map TargetSearch.combinationsEvaluated).sum
    searchTruncatedTargets := (searches.filter TargetSearch.truncated).length
    positiveAfterCostEstimates := (interleaved.filter fun plan => 0 < plan.net).length
    plans := interleaved.take (max 1 (min limits.maxPlans 32)).toNat
    reasonCode :=
      if eligible = 0 then "no_routes_with_complete_positive_gross_and_gas_cost_evidence"
      else "executor_abi_v2_supports_one_sequential_route_only" }

end SovereignCapital.Split
