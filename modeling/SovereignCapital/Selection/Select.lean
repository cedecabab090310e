import Mathlib.Data.List.MinMax
import SovereignCapital.Selection.Evidence

/-! # Selection over all runtimes

`select` gathers the evidence of every runtime, a runtime whose reading raises excepted, and picks
the eligible candidate with the best score. Discovery from outside is reported beside it.
-/

namespace SovereignCapital.Selection

open Profitability

/-- What the bounded wait for `runtime.summary()` ends with. -/
inductive SummaryAnswer where
  | returned (summary : PyTree)
  | raised (exception : Raised)
  | late

structure Runtime where
  /-- `list(runtime._opps or [])` -/
  opportunities : Except Raised (List Opportunity)
  summary : SummaryAnswer
  /-- `runtime.cfg.chain.token_universe` -/
  tokenUniverse : Except Raised PyTree

def expected : Raised → Option String
  | .cancelled => none
  | .error className bases =>
    if ["TimeoutError", "AttributeError", "RuntimeError", "TypeError", "ValueError"].any
        fun handler => (className :: bases).contains handler
    then some className else none

def runtimeSummary (runtime : Runtime) : Except Raised (PyMap × Option String) :=
  match runtime.summary with
  | .returned summary => .ok (summary.mapping, none)
  | .late => .ok ([], some "summary_failed:TimeoutError")
  | .raised exception =>
    match expected exception with
    | some className => .ok ([], some ("summary_failed:" ++ className))
    | none => .error exception

def executionTokens (runtime : Runtime) : Except Raised (List String) := do
  let tokenUniverse ← runtime.tokenUniverse
  let tokens ← listOr tokenUniverse
  return (tokens.filter PyTree.truthy).map fun token => lower token.str

/-- The first leg's token, in lower case. -/
def inputToken (candidate : Opportunity) : Except Raised String := do
  match ← candidate.legTokens with
  | [] => return ""
  | token :: _ => return lower (textOr [token] "")

def executionTokenAuthorized (tokens : List String) (token : String) : Bool :=
  !tokens.isEmpty && tokens.contains token

def runtimeEvidence (name : String) (runtime : Runtime) :
    Except Raised (List RuntimeOpportunityEvidence × Option String) := do
  let opportunities ← runtime.opportunities
  if opportunities.isEmpty then return ([], none)
  else
    let (summary, error) ← runtimeSummary runtime
    let tokens ← executionTokens runtime
    let evidence ← opportunities.mapM fun candidate => do
      let token ← inputToken candidate
      candidateEvidence name opportunities.length candidate summary
        (executionTokenAuthorized tokens token)
    return (evidence, error)

/-! ## Discovery from outside -/

structure DiscoveryRow where
  opportunityId : String
  routeId : String
  amountIn : String
  grossProfitUsd : PyFloat
  afterCostProfitUsd : PyFloat
  afterCostProfitUsdMicro : Int
  quoteDerived : Bool
  observed : Bool
  extrapolated : Bool
  reason : String

def discoveryRow (row : PyMap) : Except Raised DiscoveryRow := do
  let zero : PyTree := .leaf (.int 0)
  let gross ← unhandled ((row.get "gross_profit_usd").orElse zero).float
  let afterCost ← unhandled ((row.get "after_cost_profit_usd").orElse zero).float
  let micro ← unhandled ((row.get "after_cost_profit_usd_micro").orElse zero).int
  return {
    opportunityId := textOr [row.get "id"] ""
    routeId := textOr [row.get "route_id"] ""
    amountIn := textOr [row.get "amount_in"] "0"
    grossProfitUsd := gross
    afterCostProfitUsd := afterCost
    afterCostProfitUsdMicro := micro
    quoteDerived := row.flag "quote_derived" false
    observed := row.flag "observed" false
    extrapolated := row.flag "extrapolated" false
    reason := textOr [row.get "reason"] "awaiting_canonical_solana_revalidation" }

def discoveryRows (externalDiscovery : PyTree) : Except Raised (List DiscoveryRow) :=
  match externalDiscovery.mapping.get "candidates" with
  | .list rows _ => (rows.filter PyTree.isMapping).mapM fun row => discoveryRow row.mapping
  | _ => .ok []

/-- The first row that no later one is above. -/
def bestDiscovery : List DiscoveryRow → Option DiscoveryRow
  | [] => none
  | row :: rows => some (rows.foldl (fun best row =>
    if best.afterCostProfitUsd.lt row.afterCostProfitUsd then row else best) row)

/-! ## Selection -/

structure SelectionResult where
  selected : Option RuntimeOpportunityEvidence
  candidates : List RuntimeOpportunityEvidence
  discovery : List DiscoveryRow
  discoveryBest : Option DiscoveryRow
  runtimeErrors : List (String × String)

def className : Raised → String
  | .cancelled => "CancelledError"
  | .error className _ => className

def gathered (result : Except Raised (List RuntimeOpportunityEvidence × Option String)) :
    List RuntimeOpportunityEvidence :=
  match result with
  | .ok (evidence, _) => evidence
  | .error _ => []

def runtimeError (result : Except Raised (List RuntimeOpportunityEvidence × Option String)) :
    Option String :=
  match result with
  | .ok (_, error) => error
  | .error exception => some ("runtime_evidence_failed:" ++ className exception)

def isCancelled (result : Except Raised (List RuntimeOpportunityEvidence × Option String)) :
    Bool :=
  match result with
  | .error .cancelled => true
  | _ => false

def allEvidence (runtimes : List (String × Runtime)) : List RuntimeOpportunityEvidence :=
  runtimes.flatMap fun item => gathered (runtimeEvidence item.1 item.2)

/-- `max(eligible, key=lambda item: item.selection_score)`. -/
def selectedOf (evidence : List RuntimeOpportunityEvidence) :
    Option RuntimeOpportunityEvidence :=
  (evidence.filter RuntimeOpportunityEvidence.eligible).argmax
    RuntimeOpportunityEvidence.selectionScore

def select (runtimes : List (String × Runtime)) (externalDiscovery : PyTree) :
    Except Raised SelectionResult :=
  if runtimes.any fun item => isCancelled (runtimeEvidence item.1 item.2) then .error .cancelled
  else do
    let rows ← discoveryRows externalDiscovery
    return {
      selected := selectedOf (allEvidence runtimes)
      candidates := allEvidence runtimes
      discovery := rows
      discoveryBest := bestDiscovery rows
      runtimeErrors := runtimes.filterMap fun item =>
        (runtimeError (runtimeEvidence item.1 item.2)).map fun error => (item.1, error) }

end SovereignCapital.Selection
