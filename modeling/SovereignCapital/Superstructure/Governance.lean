import SovereignCapital.Superstructure.Gate

/-! # The governance and the process around it

`GMAOGovernance` with its file, `on_trade_outcome` and the restart of the process. The restricted
agents stand in two places: in the state of the governance, which is saved, and as suspensions of
the registry, which is not.
-/

namespace SovereignCapital.Superstructure

open Guarded

/-! ## The state -/

/-- The parameters of `GovernanceState`. -/
structure GovernanceConfig where
  autonomyWeight : ℚ
  decentralizationWeight : ℚ
  efficiencyWeight : ℚ
  powerDecayRate : ℚ
  maxAgentPower : ℚ
  powerRotationInterval : Int
  reputationDecayRate : ℚ
  reputationMinThreshold : ℚ
  riskThresholdDrawdown : ℚ
  riskThresholdVolatility : ℚ
  riskHumanVerified : ℚ
  riskSupervised : ℚ

structure GovernanceState where
  decentralizationWeight : ℚ
  systemCycle : Int
  riskEmergencyMode : Bool
  humanOverrideRequired : Bool
  humanEscalationLevel : Int
  agentPower : Dict String ℚ
  agentReputation : Dict String ℚ
  restrictedAgents : Dict String String

/-- What `_load` reads of the file. -/
structure SavedGovernance where
  power : Dict String ℚ
  reputation : Dict String ℚ
  restricted : Dict String String
  systemCycle : Int

namespace GovernanceState

/-- A new process before `_load`. -/
def fresh (gcfg : GovernanceConfig) : GovernanceState :=
  ⟨gcfg.decentralizationWeight, 0, false, false, 0, Dict.empty, Dict.empty, Dict.empty⟩

/-- `as_dict`, as far as it is loaded. -/
def saved (gov : GovernanceState) : SavedGovernance :=
  ⟨gov.agentPower, gov.agentReputation, gov.restrictedAgents, gov.systemCycle⟩

/-- A new process after `_load`. -/
def load (gcfg : GovernanceConfig) : Option SavedGovernance → GovernanceState
  | none => fresh gcfg
  | some file =>
    { fresh gcfg with
      agentPower := file.power
      agentReputation := file.reputation
      restrictedAgents := file.restricted
      systemCycle := file.systemCycle }

/-! ## Outcomes -/

def updateAgentPower (gcfg : GovernanceConfig) (gov : GovernanceState) (agent : String)
    (performance : ℚ) : GovernanceState :=
  let power := gov.agentPower.getD agent (1 / 10) + performance / 100 - gcfg.powerDecayRate
  { gov with agentPower := gov.agentPower.set agent (max 0 (min gcfg.maxAgentPower power)) }

def nextReputation (gcfg : GovernanceConfig) (gov : GovernanceState) (agent : String)
    (outcome : ℚ) : ℚ :=
  unit (gov.agentReputation.getD agent (1 / 2) + outcome / 20 - gcfg.reputationDecayRate)

def restrictAgent (gov : GovernanceState) (registry : AgentRegistry) (agent reason : String) :
    GovernanceState × AgentRegistry :=
  ({ gov with restrictedAgents := gov.restrictedAgents.set agent reason },
    registry.setSuspended agent true)

def updateAgentReputation (gcfg : GovernanceConfig) (gov : GovernanceState)
    (registry : AgentRegistry) (agent : String) (outcome : ℚ) : GovernanceState × AgentRegistry :=
  let reputation := gov.nextReputation gcfg agent outcome
  let gov := { gov with agentReputation := gov.agentReputation.set agent reputation }
  if reputation < gcfg.reputationMinThreshold then
    gov.restrictAgent registry agent "reputation_below_threshold"
  else (gov, registry)

/-! ## The wrapper of an execution -/

def trilemmaBalancer (gcfg : GovernanceConfig) (gov : GovernanceState) : GovernanceState :=
  if 2 < gcfg.autonomyWeight + gov.decentralizationWeight + gcfg.efficiencyWeight then
    { gov with decentralizationWeight := gov.decentralizationWeight * (17 / 20) }
  else gov

def requireHumanReview (gov : GovernanceState) : GovernanceState :=
  { gov with
    humanOverrideRequired := true
    humanEscalationLevel := max 1 gov.humanEscalationLevel }

def emergency (gcfg : GovernanceConfig) (drawdown volatility : ℚ) : Bool :=
  decide (gcfg.riskThresholdDrawdown < drawdown ∨ gcfg.riskThresholdVolatility < volatility)

def riskGovernorMonitor (gcfg : GovernanceConfig) (drawdown volatility : ℚ)
    (gov : GovernanceState) : GovernanceState :=
  if emergency gcfg drawdown volatility then
    let gov := requireHumanReview { gov with riskEmergencyMode := true }
    { gov with humanEscalationLevel := max 2 gov.humanEscalationLevel }
  else { gov with riskEmergencyMode := false }

def rotateGovernancePower (gcfg : GovernanceConfig) (gov : GovernanceState) : GovernanceState :=
  let total := gov.agentReputation.values.sum
  if gcfg.powerRotationInterval ≤ 0 ∨ gov.systemCycle % gcfg.powerRotationInterval ≠ 0
      ∨ total ≤ 0 then gov
  else
    { gov with
      agentPower := gov.agentReputation.entries.foldl (fun power item =>
        power.set item.1 (max 0 (min gcfg.maxAgentPower
          (1 / 20 + (gcfg.maxAgentPower - 1 / 20) * (item.2 / total))))) gov.agentPower }

inductive Authority where
  | humanForced
  | humanVerified
  | supervisedAutonomous
  | fullyAutonomous
  deriving DecidableEq

def Authority.text : Authority → String
  | humanForced => "HUMAN_FORCED"
  | humanVerified => "HUMAN_VERIFIED"
  | supervisedAutonomous => "SUPERVISED_AUTONOMOUS"
  | fullyAutonomous => "FULLY_AUTONOMOUS"

def decisionAuthorityLayer (gcfg : GovernanceConfig) (gov : GovernanceState) (risk : ℚ) :
    Authority :=
  if gov.riskEmergencyMode then .humanForced
  else if gcfg.riskHumanVerified < unit risk then .humanVerified
  else if gcfg.riskSupervised < unit risk then .supervisedAutonomous
  else .fullyAutonomous

/-- `wrapper_execution`: the answer and the state after it. The restricted agents are not read. -/
def wrapperExecution (gcfg : GovernanceConfig) (gov : GovernanceState)
    (risk drawdown volatility : ℚ) : GovernanceAnswer × GovernanceState :=
  let gov := { gov with systemCycle := gov.systemCycle + 1 }
  let gov := rotateGovernancePower gcfg
    (riskGovernorMonitor gcfg drawdown volatility (trilemmaBalancer gcfg gov))
  let authority := decisionAuthorityLayer gcfg gov risk
  let human := decide (authority = .humanForced ∨ authority = .humanVerified)
  (⟨some (!human), human, authority.text⟩, if human then gov.requireHumanReview else gov)

end GovernanceState

/-! ## The process -/

/-- The arguments of `on_trade_outcome` that count. -/
structure TradeOutcome where
  ok : Bool
  expectedAfterCosts : Int
  realizedAfterGas : Int

namespace TradeOutcome

/-- `perf`. -/
def performance (o : TradeOutcome) : ℚ :=
  let realized := if o.ok then max 0 o.realizedAfterGas else 0
  min 1 (realized / max 1 (o.expectedAfterCosts : ℚ))

def score (o : TradeOutcome) : ℚ :=
  if o.ok then
    if o.performance < 1 / 20 then -3 / 4 else if o.performance < 1 / 4 then -1 / 4 else 1
  else -1

end TradeOutcome

/-- The agent that proposes trades. -/
def initiator : String := "strategy_initiator"

structure Process where
  state : State
  governance : GovernanceState
  file : Option SavedGovernance

/-- The bus, and whether the file can be written. -/
structure Surroundings where
  drawdown : ℚ
  volatility : ℚ
  writable : Bool

namespace Process

/-- A process starts: the registry is new, the governance is loaded. -/
def boot (gcfg : GovernanceConfig) (file : Option SavedGovernance) : Process :=
  ⟨⟨0, AgentRegistry.default, some {}⟩, GovernanceState.load gcfg file, file⟩

def save (process : Process) (writable : Bool) : Process :=
  if writable then { process with file := some process.governance.saved } else process

def onTradeOutcome (gcfg : GovernanceConfig) (process : Process) (o : TradeOutcome)
    (writable : Bool) : Process :=
  let governance := process.governance.updateAgentPower gcfg initiator o.performance
  let updated := governance.updateAgentReputation gcfg process.state.registry initiator o.score
  save ⟨{ process.state with registry := updated.2 }, updated.1, process.file⟩ writable

/-- What the gate sees: the registry of the process never raises. -/
def surveyed (process : Process) (env : Environment) : Environment :=
  { env with
    initiatorRaises := false
    executorRaises := false
    govPower := some (process.governance.agentPower.getD initiator (1 / 10))
    govRep := some (process.governance.agentReputation.getD initiator (1 / 2)) }

/-- `_apply_command_center_guardrails`. -/
def guarded (center : CommandCenter) (now : ℚ) : CommandCenter :=
  ((center.setExplorationCap (3 / 20)).setRiskMultiplier (1 / 2)).setDirective
    (stabilityDirective "risk_emergency") 3600 now

/-- `pre_execute_trade` with the governance of the process. -/
def preExecute (cfg : Config) (gcfg : GovernanceConfig) (process : Process) (env : Environment)
    (opp : Opportunity) (around : Surroundings) : Option Verdict × Process :=
  let env := process.surveyed env
  if cfg.enabled = true then
    match propose cfg env opp process.state with
    | .error exit =>
      let result := conclude (.error exit)
      (result.1, { process with state := result.2 })
    | .ok (p, s) =>
      let answer := process.governance.wrapperExecution gcfg p.riskScore around.drawdown
        around.volatility
      let s :=
        if GovernanceState.emergency gcfg around.drawdown around.volatility then
          { s with command := s.command.map fun center => guarded center env.now }
        else s
      let result := conclude
        (completeTrade cfg { env with governance := .answered answer.1 } p s)
      (result.1,
        save ⟨result.2, answer.2, process.file⟩
          (around.writable && answer.2.systemCycle % 20 == 0))
  else (some ⟨true, true, "disabled", 1, Dict.empty⟩, process)

/-- The process ends and another starts. -/
def restart (gcfg : GovernanceConfig) (process : Process) : Process := boot gcfg process.file

end Process

end SovereignCapital.Superstructure
