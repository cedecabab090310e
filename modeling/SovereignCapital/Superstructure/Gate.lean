import SovereignCapital.Lib.PyValue
import SovereignCapital.Lib.Guarded

/-! # The services of the superstructure

The registry of the agents, the command center and the capital auction, as far as the gate of a
trade reads and writes them. Numbers are exact rationals; the clock is an argument.
-/

namespace SovereignCapital.Superstructure

open Bytes

/-! ## The registry -/

inductive AgentState where
  | idle
  | evaluating
  | negotiating
  | executing
  | waiting
  | suspended
  | error
  deriving DecidableEq

structure AgentHandle where
  state : AgentState := .idle
  suspended : Bool := false

structure AgentRegistry where
  agents : Dict String AgentHandle

namespace AgentRegistry

def default : AgentRegistry :=
  ⟨["coordinator", "negotiator", "observer", "strategy_initiator", "arb_initiator",
    "mev_initiator", "risk_executor", "trade_executor"].foldl
      (fun agents agent => agents.set agent {}) Dict.empty⟩

def setSuspended (registry : AgentRegistry) (agent : String) (suspended : Bool) : AgentRegistry :=
  match registry.agents.get? agent with
  | none => registry
  | some _ => ⟨registry.agents.set agent ⟨if suspended then .suspended else .idle, suspended⟩⟩

/-- `transition`: suspended agents stay suspended. -/
def transition (registry : AgentRegistry) (agent : String) (state : AgentState) : AgentRegistry :=
  match registry.agents.get? agent with
  | none => registry
  | some handle =>
    if handle.suspended then registry
    else ⟨registry.agents.set agent { handle with state := state }⟩

def isSuspended (registry : AgentRegistry) (agent : String) : Bool :=
  (registry.agents.get? agent).elim false AgentHandle.suspended

def flag (registry : AgentRegistry) (agent : String) : Option Bool :=
  (registry.agents.get? agent).map AgentHandle.suspended

theorem isSuspended_eq (registry : AgentRegistry) (agent : String) :
    registry.isSuspended agent = (registry.flag agent).getD false := by
  unfold isSuspended flag
  cases registry.agents.get? agent <;> rfl

/-- A transition suspends nobody and ends no suspension. -/
@[simp] theorem flag_transition (registry : AgentRegistry) (agent agent' : String)
    (state : AgentState) : (registry.transition agent state).flag agent' = registry.flag agent' := by
  unfold transition
  cases hget : registry.agents.get? agent with
  | none => rfl
  | some handle =>
    dsimp only
    split
    · rfl
    · unfold flag
      rw [Dict.get?_set]
      split
      · rename_i heq
        rw [heq, hget]
        rfl
      · rfl

@[simp] theorem isSuspended_transition (registry : AgentRegistry) (agent agent' : String)
    (state : AgentState) :
    (registry.transition agent state).isSuspended agent' = registry.isSuspended agent' := by
  rw [isSuspended_eq, isSuspended_eq, flag_transition]

theorem flag_setSuspended {registry : AgentRegistry} {agent : String}
    (h : (registry.flag agent).isSome = true) :
    (registry.setSuspended agent true).flag agent = some true := by
  unfold flag at h
  rw [Option.isSome_map] at h
  obtain ⟨handle, hget⟩ := Option.isSome_iff_exists.1 h
  simp only [setSuspended, hget, flag, Dict.get?_set_self, Option.map_some]

end AgentRegistry

/-! ## The command center -/

structure CommandCenter where
  directive : PyDict := Dict.empty
  directiveUntil : ℚ := 0
  riskMultiplier : ℚ := 1
  explorationCap : ℚ := 1
  approvals : Dict String ℚ := Dict.empty

namespace CommandCenter

def setDirective (center : CommandCenter) (directive : PyDict) (ttl now : ℚ) : CommandCenter :=
  { center with
    directive := directive
    directiveUntil := if 0 < max 0 ttl then now + max 0 ttl else 0 }

/-- `directive`: one that has run out is cleared. -/
def currentDirective (center : CommandCenter) (now : ℚ) : PyDict × CommandCenter :=
  if center.directiveUntil ≠ 0 ∧ center.directiveUntil < now then
    (Dict.empty, { center with directive := Dict.empty, directiveUntil := 0 })
  else (center.directive, center)

def setExplorationCap (center : CommandCenter) (cap : ℚ) : CommandCenter :=
  { center with explorationCap := max 0 (min 1 cap) }

def setRiskMultiplier (center : CommandCenter) (multiplier : ℚ) : CommandCenter :=
  { center with riskMultiplier := max (1 / 10) (min 2 multiplier) }

def Approved (center : CommandCenter) (proposal : String) (now : ℚ) : Prop :=
  proposal ≠ "" ∧ 0 < center.approvals.getD proposal 0 ∧ now ≤ center.approvals.getD proposal 0

/-- `is_approved`: an approval that has run out is dropped. -/
def isApproved (center : CommandCenter) (proposal : String) (now : ℚ) : Bool × CommandCenter :=
  let limit := center.approvals.getD proposal 0
  if proposal = "" ∨ limit ≤ 0 then (false, center)
  else if limit < now then
    (false, { center with approvals := center.approvals.erase proposal })
  else (true, center)

/-- An approval that counts is live and stays. -/
theorem isApproved_spec {center : CommandCenter} {proposal : String} {now : ℚ}
    (h : (center.isApproved proposal now).1 = true) :
    center.Approved proposal now ∧ (center.isApproved proposal now).2 = center := by
  unfold isApproved at h ⊢
  dsimp only at h ⊢
  split at h
  · cases h
  · rename_i hnot
    split at h
    · cases h
    · rename_i hlive
      obtain ⟨hid, hlimit⟩ := not_or.1 hnot
      rw [if_neg hnot, if_neg hlive]
      exact ⟨⟨hid, not_le.1 hlimit, not_lt.1 hlive⟩, rfl⟩

end CommandCenter

/-! ## Proposals and the auction -/

/-- `Proposal`, with what the gate and the auction read of its `meta`. -/
structure Proposal where
  proposalId : String
  agentId : String
  expectedReturn : ℚ
  riskScore : ℚ
  capitalRequired : ℚ
  executionLatency : ℚ
  fundingAdvantage : ℚ
  graphConfidence : ℚ
  reliabilityScore : ℚ
  confidence : ℚ
  overlapKeys : List String
  profitAfterCosts : Int
  profitAfterVerified : Bool
  profitAfterReason : String
  govPower : Option ℚ
  govRep : Option ℚ

/-- `value or default`, of numbers. -/
def orDefault (value default : ℚ) : ℚ := if value = 0 then default else value

/-- `max(0.0, min(1.0, x))`. -/
def unit (x : ℚ) : ℚ := max 0 (min 1 x)

def Proposal.bid (p : Proposal) : ℚ :=
  let er := max 0 (orDefault p.expectedReturn 0)
  let conf := min 1 (max 0 (orDefault p.confidence 0))
  let rel := min 1 (max 0 (orDefault p.reliabilityScore 0))
  let gc := min 1 (max 0 (orDefault p.graphConfidence 0))
  let risk := min 1 (max 0 (orDefault p.riskScore 1))
  let gp := max 0 (orDefault (p.govPower.getD (1 / 10)) (1 / 10))
  let gr := min 1 (max 0 (orDefault (p.govRep.getD (1 / 2)) (1 / 2)))
  let repMult := 3 / 4 + 1 / 2 * unit gr
  let powMult := 17 / 20 + 3 / 10 * unit (gp / (2 / 5))
  let gmult := max (1 / 2) (min (6 / 5) (repMult * powMult))
  gmult * (er * (1 / 4 + conf) * (1 / 5 + rel) * (1 / 5 + gc) * (1 - 17 / 20 * risk)
    + 1 / 1000000)

/-- `CapitalAuctionEngine`. -/
structure CapitalAuction where
  maxFractionPerTask : ℚ

/-- `__init__`. -/
def CapitalAuction.new (fraction : ℚ) : CapitalAuction := ⟨max (1 / 20) (min (19 / 20) fraction)⟩

def CapitalAuction.allocate (auction : CapitalAuction) (proposals : List Proposal)
    (totalCapital : ℚ) : Dict String ℚ :=
  let bids := proposals.foldl (fun bids p => bids.set p.proposalId (max 0 p.bid))
    (Dict.empty : Dict String ℚ)
  let bids := if bids.values.sum ≤ 0 then bids.mapVal fun _ => 1 else bids
  let total := max 0 totalCapital
  proposals.foldl (fun allocations p =>
    let want := min (bids.getD p.proposalId 0 / bids.values.sum * total)
      (total * auction.maxFractionPerTask)
    let required := max 0 (orDefault p.capitalRequired 0)
    allocations.set p.proposalId (max 0 (min want required))) Dict.empty

end SovereignCapital.Superstructure

/-! # The gate of a trade

`pre_execute_trade`: safe mode, suspensions, the profit after costs, negotiation, governance, the
approval of a human, the capital auction, the path plan and the stability monitor, in this order.
The answers of the services are part of the input; a service can raise. The gate runs without a
break, so it reads the clock once.
-/

namespace SovereignCapital.Superstructure

open Bytes Guarded

/-! ## Inputs -/

inductive Call (α : Type) where
  | absent
  | raised
  | answered (a : α)

namespace Call

variable {α : Type}

/-- The answer of a call in a `try`. -/
def answer? : Call α → Option α
  | answered a => some a
  | _ => none

def configured : Call α → Bool
  | absent => false
  | _ => true

end Call

/-- `SuperstructureConfig`, as far as the gate reads it. -/
structure Config where
  enabled : Bool
  requireNegotiation : Bool
  requireCapitalAuction : Bool
  requirePathPlanning : Bool
  capitalTotalWei : String
  humanEnabled : Bool
  humanHighRiskThreshold : ℚ
  humanRequireApprovalForHighRisk : Bool
  instabilityCooldown : ℚ

structure Leg where
  amountIn : PyValue
  target : String

/-- The opportunity; `digest` is the hash of its chain, its id, its route and its amount. -/
structure Opportunity where
  digest : String
  routeId : String
  legs : List Leg

/-- `profitability_summary_projection`, as far as it is read. -/
structure Projection where
  displayProfitAfterCosts : PyValue
  valid : Bool
  reason : String
  stale : Bool

/-- What is read of the brain, the decision and the bus. -/
structure Signals where
  pSuccess : ℚ
  gasRatio : ℚ
  mevRisk : ℚ
  drawdown : ℚ
  fundingAdvantage : ℚ
  graphConfidence : ℚ
  reliability : ℚ

/-- What `wrapper_execution` returns, as far as it is read. -/
structure GovernanceAnswer where
  allow : Option Bool
  humanRequired : Bool
  authority : String

/-- The clock and what the services do in one call. An answer of the governance that is no
dictionary counts as raised. -/
structure Environment where
  now : ℚ
  initiatorRaises : Bool
  executorRaises : Bool
  projection : Option Projection
  signals : Signals
  govPower : Option ℚ
  govRep : Option ℚ
  negotiation : Call Bool
  governance : Call GovernanceAnswer
  auction : Call (Proposal → ℚ → Option (Dict String ℚ))
  planner : Call PyDict
  stability : Call Bool

structure State where
  forceSafeModeUntil : ℚ
  registry : AgentRegistry
  command : Option CommandCenter

structure Verdict where
  ok : Bool
  allow : Bool
  reason : String
  sizeMult : ℚ
  overrides : PyDict

/-- A call that ends before the trade is approved. -/
inductive Exit where
  | raised (state : State)
  | refused (verdict : Verdict) (state : State)

/-! ## The proposal -/

def intOrDefault (value : PyValue) : Int := ((value.orElse (.int 0)).int?).getD 0

def profitAfterCostsInfo (projection : Projection) : Int × Bool × String :=
  let amount := max 0 (intOrDefault projection.displayProfitAfterCosts)
  let reason :=
    if projection.reason = "" then "profit_after_costs_unavailable" else projection.reason
  if projection.stale = true ∨ reason = "profit_after_costs_invalid"
      ∨ reason = "profit_after_costs_mismatch" then (0, false, reason)
  else (amount, projection.valid, reason)

def expectedReturnBps (profit amountIn : Int) : ℚ :=
  if amountIn ≤ 0 then 0 else profit / amountIn * 10000

def riskScore (signals : Signals) (legs : Nat) : ℚ :=
  let gr := min 1 (|signals.gasRatio| / (2 / 1000))
  let ps := unit signals.pSuccess
  let lpen := min 1 (max 0 (((legs : ℚ) - 2) / 3))
  unit (3 / 10 * gr + 1 / 4 * (1 - ps) + 1 / 5 * lpen + 3 / 20 * unit signals.mevRisk
    + 1 / 10 * unit signals.drawdown)

def buildTradeProposal (env : Environment) (opp : Opportunity) (projection : Projection) :
    Proposal :=
  let amountIn := opp.legs.head?.elim 0 fun leg => intOrDefault leg.amountIn
  let info := profitAfterCostsInfo projection
  { proposalId := "trade:" ++ opp.digest
    agentId := "strategy_initiator"
    expectedReturn := expectedReturnBps info.1 amountIn
    riskScore := riskScore env.signals (if opp.legs = [] then 2 else opp.legs.length)
    capitalRequired := max 0 (amountIn : ℚ)
    executionLatency := 0
    fundingAdvantage := env.signals.fundingAdvantage
    graphConfidence := env.signals.graphConfidence
    reliabilityScore := env.signals.reliability
    confidence := unit env.signals.pSuccess
    overlapKeys :=
      (if opp.routeId = "" then [] else ["route:" ++ opp.routeId])
        ++ (opp.legs.take 6).filterMap fun leg =>
          if leg.target = "" then none
          else some ("to:" ++ String.ofList (pyLower leg.target.toList))
    profitAfterCosts := info.1
    profitAfterVerified := info.2.1
    profitAfterReason := info.2.2
    govPower := env.govPower
    govRep := env.govRep }

/-! ## The gates -/

def refuse (reason : String) (s : State) : Exit := .refused ⟨true, false, reason, 0, Dict.empty⟩ s

def State.transition (s : State) (agent : String) (state : AgentState) : State :=
  { s with registry := s.registry.transition agent state }

/-- The negotiation over the one proposal. -/
def negotiate (env : Environment) (s : State) : Except Exit Unit :=
  match env.negotiation with
  | .absent => .ok ()
  | .raised => .error (.raised s)
  | .answered selected => ensure (selected = true) (refuse "proposal_not_selected" s)

/-- From the start to the proposal that the negotiation has chosen. -/
def propose (cfg : Config) (env : Environment) (opp : Opportunity) (s : State) :
    Except Exit (Proposal × State) := do
  ensure (s.forceSafeModeUntil < env.now) (refuse "safe_mode" s)
  -- a registry that raises counts as one without suspensions
  ensure (env.initiatorRaises = true ∨ s.registry.isSuspended "strategy_initiator" = false)
    (refuse "agent_suspended:strategy_initiator" s)
  ensure (env.initiatorRaises = true ∨ env.executorRaises = true
      ∨ s.registry.isSuspended "trade_executor" = false)
    (refuse "agent_suspended:trade_executor" s)
  ensure (env.negotiation.configured = true ∨ cfg.requireNegotiation = false)
    (.refused ⟨false, false, "negotiation_unavailable", 0, Dict.empty⟩ s)
  let s := s.transition "strategy_initiator" .evaluating
  let projection ← require env.projection (.raised s)
  let p := buildTradeProposal env opp projection
  ensure (p.profitAfterVerified = true) (refuse p.profitAfterReason s)
  ensure (0 < p.expectedReturn) (refuse "profit_after_costs_not_positive" s)
  let s := s.transition "negotiator" .negotiating
  negotiate env s
  return (p, s)

/-- The governance and the approval of a human. -/
def authorize (cfg : Config) (env : Environment) (p : Proposal) (s : State) :
    Except Exit State := do
  -- a governance that raises blocks nothing
  let gov := env.governance.answer?
  ensure (gov.bind GovernanceAnswer.allow ≠ some false)
    (refuse ("governance_block:" ++ gov.elim "" GovernanceAnswer.authority) s)
  if cfg.humanEnabled = true ∧ cfg.humanRequireApprovalForHighRisk = true
      ∧ (cfg.humanHighRiskThreshold ≤ p.riskScore
        ∨ gov.elim false GovernanceAnswer.humanRequired = true) then
    match s.command with
    | none => throw (refuse "human_approval_required" s)
    | some center =>
      let s := { s with command := some (center.isApproved p.proposalId env.now).2 }
      ensure ((center.isApproved p.proposalId env.now).1 = true)
        (refuse "human_approval_required" s)
      return s
  else return s

/-- The capital the auction is held over. -/
def totalCapital (cfg : Config) (p : Proposal) : ℚ :=
  let total := ((pyInt 10 cfg.capitalTotalWei.toList).getD 0 : ℚ)
  if total ≤ 0 then max 0 p.capitalRequired else total

/-- What the auction allocates to the proposal; nothing where it raises. -/
def allocated (p : Proposal) (total : ℚ) (auction : Proposal → ℚ → Option (Dict String ℚ)) :
    Option ℚ :=
  (auction p total).map fun allocations => allocations.getD p.proposalId 0

def auctionSize (cfg : Config) (env : Environment) (p : Proposal) (s : State) : Except Exit ℚ :=
  if cfg.requireCapitalAuction = true then
    match env.auction with
    | .absent => .ok 1
    | .raised => .error (.raised s)
    | .answered auction =>
      match allocated p (totalCapital cfg p) auction with
      | none => .error (.raised s)
      | some got => .ok (max (1 / 10) (min 1 (got / max 1 p.capitalRequired)))
  else .ok 1

/-- The overrides of the path plan, none where the planner raises. -/
def planOverrides (cfg : Config) (env : Environment) : PyDict :=
  if cfg.requirePathPlanning = true then env.planner.answer?.getD Dict.empty else Dict.empty

def State.forceSafeMode (s : State) (ttl now : ℚ) : State :=
  { s with
    forceSafeModeUntil := max s.forceSafeModeUntil (now + max 10 ttl)
    registry := s.registry.transition "coordinator" .suspended }

def stabilityDirective (reason : String) : PyDict :=
  PyDict.literal [("mode", .text "Maximize stability mode"), ("reason", .text reason)]

def CommandCenter.stabilize (center : CommandCenter) (cooldown now : ℚ) : CommandCenter :=
  ((center.setExplorationCap (1 / 4)).setRiskMultiplier (3 / 5)).setDirective
    (stabilityDirective "org_instability") cooldown now

/-- What the stability monitor does when it trips. -/
def State.degrade (cfg : Config) (env : Environment) (s : State) : State :=
  match env.stability with
  | .answered true =>
    let s := s.forceSafeMode cfg.instabilityCooldown env.now
    { s with
      command := s.command.map fun center =>
        center.stabilize cfg.instabilityCooldown env.now }
  | _ => s

/-- `needle in text`. -/
def mentions (needle text : Text) : Bool := text.tails.any fun suffix => needle.isPrefixOf suffix

def directs (directive : PyDict) (word : String) : Bool :=
  mentions word.toList
    (pyLower (((directive.get "mode").orElse (directive.get "directive")).orElse
      (.text "")).str.toList)

def applyDirective (directive : PyDict) (sizeMult : ℚ) (overrides : PyDict) : ℚ × PyDict :=
  let stable := directs directive "stability"
  let overrides :=
    if stable then (overrides.set "gas_mode" (.text "standard")).set "send_mode" (.text "private")
    else overrides
  (if stable then min sizeMult (3 / 5) else sizeMult,
    if directs directive "reduce mev" then overrides.set "send_mode" (.text "private")
    else overrides)

def dispatch (cfg : Config) (env : Environment) (sizeMult : ℚ) (s : State) : Verdict × State :=
  let overrides := planOverrides cfg env
  let s := s.degrade cfg env
  let s := (s.transition "trade_executor" .executing).transition "trade_executor" .waiting
  let directive := s.command.elim Dict.empty fun center => (center.currentDirective env.now).1
  let s := { s with command := s.command.map fun center => (center.currentDirective env.now).2 }
  let applied := applyDirective directive sizeMult overrides
  (⟨true, true, "approved", applied.1, applied.2⟩, s)

/-- What follows the negotiation. -/
def completeTrade (cfg : Config) (env : Environment) (p : Proposal) (s : State) :
    Except Exit (Verdict × State) := do
  let s ← authorize cfg env p s
  let sizeMult ← auctionSize cfg env p s
  return dispatch cfg env sizeMult s

/-- The verdict of a call, none where it raises, and the state it leaves. -/
def conclude : Except Exit (Verdict × State) → Option Verdict × State
  | .ok (verdict, s) => (some verdict, s)
  | .error (.refused verdict s) => (some verdict, s)
  | .error (.raised s) => (none, s)

def preExecuteTrade (cfg : Config) (env : Environment) (opp : Opportunity) (s : State) :
    Option Verdict × State :=
  if cfg.enabled = true then
    conclude do
      let (p, s) ← propose cfg env opp s
      completeTrade cfg env p s
  else (some ⟨true, true, "disabled", 1, Dict.empty⟩, s)

end SovereignCapital.Superstructure
