import SovereignCapital.Lib.Runs
import SovereignCapital.Superstructure.GateSound
import SovereignCapital.Superstructure.Governance

/-! # Restrictions over restarts

`Watched` is a process with a history it does not keep: whether its agent was ever restricted, and
whether that was since the last start. The suspension that refuses trades lives in the registry,
and a new process starts with a new one.

* `restriction_sticks` : as long as no restart comes between, a restricted agent trades no more.
* `restart_lifts` : after a restart it does.
-/

namespace SovereignCapital.Superstructure

open Guarded Runs

/-! ## Suspensions -/

/-- Nobody is suspended in between, and no suspension ends. -/
def KeepsFlags (s s' : State) : Prop := ∀ agent, s'.registry.flag agent = s.registry.flag agent

theorem KeepsFlags.refl (s : State) : KeepsFlags s s := fun _ => rfl

theorem KeepsFlags.trans {s₁ s₂ s₃ : State} (h₁ : KeepsFlags s₁ s₂) (h₂ : KeepsFlags s₂ s₃) :
    KeepsFlags s₁ s₃ :=
  fun agent => (h₂ agent).trans (h₁ agent)

theorem keepsFlags_transition (s : State) (agent : String) (state : AgentState) :
    KeepsFlags s (s.transition agent state) :=
  fun agent' => s.registry.flag_transition agent agent' state

def leaves {α : Type} (state : α → State) : Except Exit α → State
  | .ok a => state a
  | .error (.raised s) => s
  | .error (.refused _ s) => s

/-- What a chain leaves when its first part and the rest keep the flags. -/
theorem leaves_bind {α β : Type} {before : State} (state : α → State) {state' : β → State}
    {x : Except Exit α} {f : α → Except Exit β} (hx : KeepsFlags before (leaves state x))
    (hf : ∀ a, x = .ok a → KeepsFlags (state a) (leaves state' (f a))) :
    KeepsFlags before (leaves state' (x >>= f)) := by
  cases x with
  | ok a => exact hx.trans (hf a rfl)
  | error exit => cases exit <;> exact hx

theorem leaves_ensure {before : State} {p : Prop} [Decidable p] (verdict : Verdict) :
    KeepsFlags before (leaves (fun _ => before) (ensure p (.refused verdict before))) := by
  unfold ensure
  split <;> exact KeepsFlags.refl before

theorem keepsFlags_negotiate (env : Environment) (s : State) :
    KeepsFlags s (leaves (fun _ => s) (negotiate env s)) := by
  unfold negotiate
  split
  · exact KeepsFlags.refl s
  · exact KeepsFlags.refl s
  · exact leaves_ensure _

theorem keepsFlags_propose (cfg : Config) (env : Environment) (opp : Opportunity) (s : State) :
    KeepsFlags s (leaves Prod.snd (propose cfg env opp s)) := by
  unfold propose
  refine leaves_bind (fun _ => s) (leaves_ensure _) fun _ _ =>
    leaves_bind (fun _ => s) (leaves_ensure _) fun _ _ =>
      leaves_bind (fun _ => s) (leaves_ensure _) fun _ _ =>
        leaves_bind (fun _ => s) (leaves_ensure _) fun _ _ => ?_
  refine (keepsFlags_transition s "strategy_initiator" .evaluating).trans ?_
  dsimp only
  generalize s.transition "strategy_initiator" .evaluating = s
  refine leaves_bind (fun _ => s) ?_ fun projection _ =>
    leaves_bind (fun _ => s) (leaves_ensure _) fun _ _ =>
      leaves_bind (fun _ => s) (leaves_ensure _) fun _ _ => ?_
  · cases env.projection <;> exact KeepsFlags.refl s
  · refine (keepsFlags_transition s "negotiator" .negotiating).trans ?_
    generalize s.transition "negotiator" .negotiating = s
    exact leaves_bind (fun _ => s) (keepsFlags_negotiate env s) fun _ _ => KeepsFlags.refl s

theorem keepsFlags_degrade (cfg : Config) (env : Environment) (s : State) :
    KeepsFlags s (s.degrade cfg env) := by
  unfold State.degrade
  split
  · exact fun agent => s.registry.flag_transition "coordinator" agent .suspended
  · exact KeepsFlags.refl s

theorem keepsFlags_dispatch (cfg : Config) (env : Environment) (size : ℚ) (s : State) :
    KeepsFlags s (dispatch cfg env size s).2 :=
  ((keepsFlags_degrade cfg env s).trans (keepsFlags_transition _ _ _)).trans
    (keepsFlags_transition _ "trade_executor" .waiting)

theorem keepsFlags_completeTrade (cfg : Config) (env : Environment) (p : Proposal) (s : State) :
    KeepsFlags s (leaves Prod.snd (completeTrade cfg env p s)) := by
  refine leaves_bind id ?_ fun s₂ _ => leaves_bind (fun _ => s₂) ?_ fun size _ =>
    keepsFlags_dispatch cfg env size s₂
  · unfold authorize
    refine leaves_bind (fun _ => s) (leaves_ensure _) fun _ _ => ?_
    split
    · cases s.command with
      | none => exact KeepsFlags.refl s
      | some center =>
        dsimp only
        generalize hs : ({ s with command := some (center.isApproved p.proposalId env.now).2 } :
          State) = s'
        have hkeeps : KeepsFlags s s' := by
          rw [← hs]
          exact KeepsFlags.refl s
        exact hkeeps.trans (leaves_bind (fun _ => s') (leaves_ensure _) fun _ _ =>
          KeepsFlags.refl s')
    · exact KeepsFlags.refl s
  · unfold auctionSize
    split
    · split
      · exact KeepsFlags.refl s₂
      · exact KeepsFlags.refl s₂
      · split <;> exact KeepsFlags.refl s₂
    · exact KeepsFlags.refl s₂

theorem conclude_state (x : Except Exit (Verdict × State)) :
    (conclude x).2 = leaves Prod.snd x := by
  cases x with
  | ok result => rfl
  | error exit => cases exit <;> rfl

/-! ## The history of a process -/

inductive ProcessEvent where
  | outcome (o : TradeOutcome) (writable : Bool)
  | preExecute (env : Environment) (opp : Opportunity) (around : Surroundings)
  | restart

structure Watched where
  process : Process
  /-- the agent was restricted for its reputation -/
  restricted : Bool
  /-- and that since the last start -/
  standing : Bool

variable (cfg : Config) (gcfg : GovernanceConfig)

def fallsBelow (process : Process) (o : TradeOutcome) : Bool :=
  decide ((process.governance.updateAgentPower gcfg initiator o.performance).nextReputation gcfg
    initiator o.score < gcfg.reputationMinThreshold)

namespace Watched

def start (file : Option SavedGovernance) : Watched := ⟨Process.boot gcfg file, false, false⟩

def advance (w : Watched) : ProcessEvent → Watched
  | .outcome o writable =>
    { process := w.process.onTradeOutcome gcfg o writable
      restricted := w.restricted || fallsBelow gcfg w.process o
      standing := w.standing || fallsBelow gcfg w.process o }
  | .preExecute env opp around =>
    { w with process := (w.process.preExecute cfg gcfg env opp around).2 }
  | .restart => { w with process := w.process.restart gcfg, standing := false }

end Watched

def Approves (w : Watched) : ProcessEvent → Prop
  | .preExecute env opp around =>
    ∃ verdict, (w.process.preExecute cfg gcfg env opp around).1 = some verdict
      ∧ verdict.allow = true
  | _ => False

/-- **The restriction sticks**: once the agent is restricted no call approves a trade of it. -/
def Sticks (start : Watched) (events : List ProcessEvent) : Prop :=
  ∀ reached event, reached ++ [event] <+: events →
    (run (Watched.advance cfg gcfg) start reached).restricted = true →
    ¬Approves cfg gcfg (run (Watched.advance cfg gcfg) start reached) event

/-- No restart lies between the restriction of the agent and a call. -/
def Unbroken (w : Watched) : ProcessEvent → Prop
  | .preExecute _ _ _ => w.restricted = true → w.standing = true
  | _ => True

/-! ## In one process -/

structure Upheld (w : Watched) : Prop where
  known : (w.process.state.registry.flag initiator).isSome = true
  suspended : w.standing = true → w.process.state.registry.flag initiator = some true

variable {cfg gcfg}

theorem known_default : (AgentRegistry.default.flag initiator).isSome = true := by decide +kernel

theorem registry_onTradeOutcome (process : Process) (o : TradeOutcome) (writable : Bool) :
    (process.onTradeOutcome gcfg o writable).state.registry
      = if fallsBelow gcfg process o then process.state.registry.setSuspended initiator true
        else process.state.registry := by
  have hsave : ∀ process : Process, (process.save writable).state = process.state := by
    intro process
    unfold Process.save
    split <;> rfl
  unfold Process.onTradeOutcome
  rw [hsave]
  unfold GovernanceState.updateAgentReputation fallsBelow
  dsimp only
  simp only [decide_eq_true_eq]
  split <;> rfl

theorem keepsFlags_preExecute (process : Process) (env : Environment) (opp : Opportunity)
    (around : Surroundings) :
    KeepsFlags process.state (process.preExecute cfg gcfg env opp around).2.state := by
  have hsave : ∀ (process : Process) (writable : Bool),
      (process.save writable).state = process.state := by
    intro process writable
    unfold Process.save
    split <;> rfl
  unfold Process.preExecute
  split
  · have hpropose := keepsFlags_propose cfg (process.surveyed env) opp process.state
    dsimp only
    cases hresult : propose cfg (process.surveyed env) opp process.state with
    | error exit =>
      rw [hresult] at hpropose
      dsimp only
      rw [conclude_state]
      cases exit <;> exact hpropose
    | ok chosen =>
      obtain ⟨p, s⟩ := chosen
      rw [hresult] at hpropose
      dsimp only
      rw [hsave, conclude_state]
      refine hpropose.trans (KeepsFlags.trans ?_ (keepsFlags_completeTrade cfg _ p _))
      split <;> exact KeepsFlags.refl _
  · exact KeepsFlags.refl _

theorem upheld_advance {w : Watched} (h : Upheld w) (event : ProcessEvent) :
    Upheld (w.advance cfg gcfg event) := by
  cases event with
  | outcome o writable =>
    have hregistry := @registry_onTradeOutcome gcfg w.process o writable
    cases hfalls : fallsBelow gcfg w.process o with
    | true =>
      have hflag : (w.process.onTradeOutcome gcfg o writable).state.registry.flag initiator
          = some true := by
        rw [hregistry, hfalls]
        exact AgentRegistry.flag_setSuspended h.known
      exact ⟨Option.isSome_of_eq_some hflag, fun _ => hflag⟩
    | false =>
      rw [hfalls] at hregistry
      simp only [Bool.false_eq_true, if_false] at hregistry
      refine ⟨?_, fun hstanding => ?_⟩
      · exact hregistry ▸ h.known
      · have hbefore : w.standing = true := by
          simpa only [Watched.advance, hfalls, Bool.or_false] using hstanding
        exact hregistry ▸ h.suspended hbefore
  | preExecute env opp around =>
    have hflags := @keepsFlags_preExecute cfg gcfg w.process env opp around initiator
    exact ⟨hflags ▸ h.known, fun hstanding => hflags.trans (h.suspended hstanding)⟩
  | restart =>
    exact ⟨known_default, fun hstanding => absurd hstanding Bool.false_ne_true⟩

/-- A call with the agent suspended approves nothing. -/
theorem not_approves_of_suspended (henabled : cfg.enabled = true) {w : Watched}
    (h : w.process.state.registry.flag initiator = some true) (event : ProcessEvent) :
    ¬Approves cfg gcfg w event := by
  cases event with
  | preExecute env opp around =>
    rintro ⟨verdict, hverdict, hallow⟩
    unfold Process.preExecute at hverdict
    rw [if_pos henabled] at hverdict
    dsimp only at hverdict
    have hrefuses := propose_refuses cfg (w.process.surveyed env) opp w.process.state
    cases hresult : propose cfg (w.process.surveyed env) opp w.process.state with
    | error exit =>
      rw [hresult] at hverdict
      have hrefused := hrefuses exit hresult
      cases exit with
      | raised s => cases hverdict
      | refused v s =>
        cases hverdict
        rw [show verdict.allow = false from hrefused] at hallow
        cases hallow
    | ok chosen =>
      obtain ⟨p, s⟩ := chosen
      have hfree := (propose_spec hresult).2.1.resolve_left Bool.false_ne_true
      rw [AgentRegistry.isSuspended_eq] at hfree
      have hflag : w.process.state.registry.flag "strategy_initiator" = some true := h
      rw [hflag] at hfree
      cases hfree
  | _ => exact id

/-! ## Runs -/

variable (cfg gcfg)

/-- **A restriction sticks** in every run whose calls come in the process that has restricted the
agent. -/
theorem restriction_sticks (henabled : cfg.enabled = true) (file : Option SavedGovernance)
    (events : List ProcessEvent)
    (h : AllSteps (Watched.advance cfg gcfg) Unbroken (Watched.start gcfg file) events) :
    Sticks cfg gcfg (Watched.start gcfg file) events := by
  have hstart : Upheld (Watched.start gcfg file) :=
    ⟨known_default, fun hstanding => absurd hstanding Bool.false_ne_true⟩
  rintro reached event ⟨rest, rfl⟩ hrestricted happroves
  have hupheld : Upheld (run (Watched.advance cfg gcfg) (Watched.start gcfg file) reached) :=
    @run_invariant _ _ _ _ Upheld (fun _ event hw _ => upheld_advance hw event) _ hstart _
      h.of_append.1.of_append.1
  have hunbroken : Unbroken (run (Watched.advance cfg gcfg) (Watched.start gcfg file) reached)
      event := by
    rw [List.append_assoc, List.singleton_append] at h
    exact h.call
  have hstanding : (run (Watched.advance cfg gcfg) (Watched.start gcfg file) reached).standing
      = true := by
    cases event with
    | preExecute env opp around => exact hunbroken hrestricted
    | _ => exact absurd happroves id
  exact not_approves_of_suspended henabled (hupheld.suspended hstanding) event happroves

/-! An agent that fails four times, and the trade of a later process. -/

def sampleGovernance : GovernanceConfig where
  autonomyWeight := 13 / 20
  decentralizationWeight := 11 / 20
  efficiencyWeight := 3 / 4
  powerDecayRate := 1 / 50
  maxAgentPower := 2 / 5
  powerRotationInterval := 500
  reputationDecayRate := 1 / 100
  reputationMinThreshold := 3 / 10
  riskThresholdDrawdown := 3 / 20
  riskThresholdVolatility := 3 / 10
  riskHumanVerified := 4 / 5
  riskSupervised := 1 / 2

def failures : List ProcessEvent :=
  List.replicate 4 (.outcome ⟨false, 1, 0⟩ true)

def sampleCall : ProcessEvent :=
  .preExecute (sampleEnvironment false) sampleOpportunity ⟨0, 0, true⟩

/-- In the process that has restricted the agent. -/
theorem restriction_sticks_sample :
    Sticks sampleConfig sampleGovernance (Watched.start sampleGovernance none)
      (failures ++ [sampleCall]) := by
  refine restriction_sticks sampleConfig sampleGovernance rfl none (failures ++ [sampleCall]) ?_
  refine ⟨trivial, trivial, trivial, trivial, fun _ => ?_, trivial⟩
  decide +kernel

/-- After a restart the restricted agent trades again. -/
theorem restart_lifts :
    ¬∀ (cfg : Config) (gcfg : GovernanceConfig), cfg.enabled = true →
      ∀ (file : Option SavedGovernance) (events : List ProcessEvent),
        Sticks cfg gcfg (Watched.start gcfg file) events := by
  intro h
  have hsticks := h sampleConfig sampleGovernance rfl none (failures ++ [.restart] ++ [sampleCall])
    (failures ++ [.restart]) sampleCall List.prefix_rfl (by decide +kernel)
  refine hsticks ?_
  have hallow : ((run (Watched.advance sampleConfig sampleGovernance)
      (Watched.start sampleGovernance none) (failures ++ [.restart])).process.preExecute sampleConfig
        sampleGovernance (sampleEnvironment false) sampleOpportunity ⟨0, 0, true⟩).1.map
          Verdict.allow = some true := by
    decide +kernel
  obtain ⟨verdict, hverdict, hverdict'⟩ := Option.map_eq_some_iff.1 hallow
  exact ⟨verdict, hverdict, hverdict'⟩

end SovereignCapital.Superstructure
