import SovereignCapital.Lib.Dict
import SovereignCapital.Lib.PyText

/-! # The staged rollout of strategy families

`StagedRolloutManager`: the launch profile with its mode, the families that may trade and a
health state for each family. Five calls change it, some through the transition table and some
past it, and a restart loads what was saved last.
-/

namespace SovereignCapital.Launch

open Bytes

/-! ## Health states -/

inductive HealthState where
  | live
  | degraded
  | observeOnly
  | cappedLive
  | disabled
  | quarantined
deriving DecidableEq

def HealthState.value : HealthState → String
  | .live => "live"
  | .degraded => "degraded"
  | .observeOnly => "observe_only"
  | .cappedLive => "capped_live"
  | .disabled => "disabled"
  | .quarantined => "quarantined"

/-- The keys of `HEALTH_PRIORITY`. -/
def healthStates : List HealthState :=
  [.live, .cappedLive, .degraded, .observeOnly, .disabled, .quarantined]

def normalizeHealthState (value : String) (default : HealthState) : HealthState :=
  let raw := String.ofList (pyLower (pyStrip value.toList))
  (healthStates.find? fun h => h.value = raw).getD default

@[simp] theorem normalizeHealthState_value (h default : HealthState) :
    normalizeHealthState h.value default = h := by
  cases h <;> rfl

attribute [irreducible] normalizeHealthState

def allowed : HealthState → List HealthState
  | .live => [.cappedLive, .degraded, .observeOnly, .disabled, .quarantined]
  | .cappedLive => [.live, .degraded, .observeOnly, .disabled, .quarantined]
  | .degraded => [.cappedLive, .observeOnly, .disabled, .quarantined]
  | .observeOnly => [.cappedLive, .live, .disabled, .quarantined]
  | .disabled => [.observeOnly, .cappedLive]
  | .quarantined => [.observeOnly, .disabled]

/-- What `apply_transition` lets through: no change, or a pair of the table. -/
def mayBecome (cur tgt : HealthState) : Prop := cur = tgt ∨ tgt ∈ allowed cur

instance (cur tgt : HealthState) : Decidable (mayBecome cur tgt) :=
  inferInstanceAs (Decidable (_ ∨ _))

/-- The states in which a family must not trade. -/
def HealthState.halted (h : HealthState) : Prop := h = .quarantined ∨ h = .disabled

instance (h : HealthState) : Decidable h.halted := inferInstanceAs (Decidable (_ ∨ _))

/-! ## Families -/

def defaultActivationOrder : List String :=
  ["flash_arb", "funding_arb", "cex_cex_arb", "liquidation_capture", "mev_search", "stat_arb",
    "volatility_market_making", "treasury_yield"]

/-- The entries of `_ALIAS_TO_LAUNCH` that name a family by another name. -/
def aliasToLaunch : List (String × String) :=
  [("flashloan_atomic", "flash_arb"), ("cross_cex_dex", "cex_dex_arb"),
    ("liquidation_anticipation", "liquidation_capture"),
    ("market_making", "volatility_market_making"),
    ("auto_generated_strategy", "auto_strategy_generator")]

def canonicalLaunchFamilyId (family : String) : String :=
  (aliasToLaunch.lookup family).getD family

/-- `is_core_launch_family`: of the identity table only one entry is core. -/
def isCoreLaunchFamily (family : String) : Bool :=
  canonicalLaunchFamilyId family = "flash_arb"

/-! ## The profile -/

/-- The record `apply_transition` returns. -/
structure Transition where
  family : String
  fromState : HealthState
  toState : HealthState
  actor : String
  reasonCode : String
  stage : Option String
  tsMs : Int
  changed : Bool
deriving DecidableEq

/-- A row of the history: a transition, or the note `_touch` leaves. -/
inductive HistoryRow where
  | transition (t : Transition)
  | touched (tsMs : Int) (reasonCode profileMode : String) (activeFamilies : List String)
deriving DecidableEq

structure ExplorationBudget where
  maxTrades : Int
  usedTrades : Int
deriving DecidableEq

structure LaunchProfile where
  mode : String
  activeFamilies : List String
  requestedFamilies : List String
  familyStates : Dict String String
  history : List HistoryRow
  explorationBudget : ExplorationBudget
  lastTransition : Option Transition
  updatedTsMs : Int

/-- The saved file: any key may be missing. -/
structure Stored where
  mode : Option String
  activeFamilies : Option (List String)
  requestedFamilies : Option (List String)
  familyStates : Option (Dict String String)
  history : Option (List HistoryRow)
  explorationBudget : Option ExplorationBudget
  lastTransition : Option (Option Transition)
  updatedTsMs : Option Int

def defaultState (family : String) : HealthState :=
  if family = "flash_arb" then .live else .observeOnly

def defaultFamilyStates : Dict String String :=
  Dict.empty.updateEach defaultActivationOrder fun family _ => some (defaultState family).value

/-- The profile of what was saved, with the defaults of the fields that are missing. -/
def Stored.profile (raw : Stored) : LaunchProfile where
  mode := raw.mode.getD "V1_ONLY"
  activeFamilies := raw.activeFamilies.getD ["flash_arb"]
  requestedFamilies := raw.requestedFamilies.getD []
  familyStates := raw.familyStates.getD defaultFamilyStates
  history := raw.history.getD []
  explorationBudget := raw.explorationBudget.getD ⟨3, 0⟩
  lastTransition := raw.lastTransition.getD none
  updatedTsMs := raw.updatedTsMs.getD 0

/-- `LaunchRepository.save`: the dictionaries are written with their keys sorted. -/
def LaunchProfile.stored (p : LaunchProfile) : Stored where
  mode := some p.mode
  activeFamilies := some p.activeFamilies
  requestedFamilies := some p.requestedFamilies
  familyStates := some (p.familyStates.sortKeys fun a b => a ≤ b)
  history := some p.history
  explorationBudget := some p.explorationBudget
  lastTransition := some p.lastTransition
  updatedTsMs := some p.updatedTsMs

/-- The health state a transition starts from: an unknown family is only observed. -/
def LaunchProfile.health (p : LaunchProfile) (family : String) : HealthState :=
  normalizeHealthState (p.familyStates.getD family "observe_only") .observeOnly

/-! ## Loading -/

/-- The first loop of `_normalize_profile`. -/
def normalizeStates (states : Dict String String) : Dict String String :=
  states.updateEach defaultActivationOrder fun family value =>
    some (value.elim (defaultState family)
      fun v => normalizeHealthState v (defaultState family)).value

/-- Its second loop: before the other modes nothing but the core family is live. -/
def observeOthers (states : Dict String String) : Dict String String :=
  states.updateEach defaultActivationOrder fun family value =>
    if family ≠ "flash_arb" ∧ value = some "live" then some "observe_only" else none

def normalizeProfile (p : LaunchProfile) : LaunchProfile :=
  let states := normalizeStates p.familyStates
  let active :=
    if "flash_arb" ∈ p.activeFamilies then p.activeFamilies else "flash_arb" :: p.activeFamilies
  let active := active.filter fun f => f ∈ defaultActivationOrder
  if p.mode = "V1_ONLY" then
    { p with activeFamilies := ["flash_arb"], familyStates := observeOthers states }
  else { p with activeFamilies := active, familyStates := states }

/-- `append_transition`: the last two hundred rows are kept. -/
@[irreducible] def appendTransition (history : List HistoryRow) (row : HistoryRow) :
    List HistoryRow :=
  (history ++ [row]).rtake 200

/-- What `_touch` writes before it saves. -/
def LaunchProfile.touch (p : LaunchProfile) (reason : String) (now : Int) : LaunchProfile :=
  { p with
    updatedTsMs := now
    history := appendTransition p.history (.touched now reason p.mode p.activeFamilies) }

/-- The manager and the file beneath it. -/
structure World where
  profile : LaunchProfile
  saved : Stored

def touchAndSave (p : LaunchProfile) (reason : String) (now : Int) : World :=
  { profile := p.touch reason now, saved := (p.touch reason now).stored }

/-- `StagedRolloutManager.__init__`. -/
def World.load (raw : Stored) (now : Int) : World :=
  let p := normalizeProfile raw.profile
  if p.updatedTsMs = 0 then touchAndSave p "bootstrap" now else { profile := p, saved := raw }

/-! ## Calls -/

/-- The record `apply_transition` returns for a pair it lets through. -/
def transitionOf (family : String) (current target : HealthState) (actor reasonCode : String)
    (stage : Option String) (now : Int) : Transition where
  family := family
  fromState := current
  toState := target
  actor := if actor = "" then "system" else actor
  reasonCode :=
    if reasonCode ≠ "" then reasonCode
    else if current = target then "noop"
    else "state_transition"
  stage := stage
  tsMs := now
  changed := current ≠ target

/-- What `_apply_family_state` writes. -/
def LaunchProfile.record (p : LaunchProfile) (t : Transition) : LaunchProfile :=
  { p with
    familyStates := p.familyStates.set t.family t.toState.value
    lastTransition := some t
    history := appendTransition p.history (.transition t) }

/-- `_apply_family_state`; nothing where it raises `InvalidTransitionError`. -/
def LaunchProfile.applyFamilyState (p : LaunchProfile) (family : String) (target : HealthState)
    (actor reasonCode : String) (stage : Option String) (now : Int) : Option LaunchProfile :=
  if mayBecome (p.health family) target then
    some (p.record (transitionOf family (p.health family) target actor reasonCode stage now))
  else none

inductive Answer where
  | ok
  | refused (reasonCode : String)
  | raised
deriving DecidableEq

/-- The values of `LaunchMode`. -/
def launchModes : List String :=
  ["V1_ONLY", "V1_PLUS_STABLE_ALPHA", "STAGED_MULTI_STRATEGY", "FULL_MULTI_STRATEGY"]

/-- The mode `set_mode` ends up in. -/
def modeOf (mode : String) : String := if mode ∈ launchModes then mode else "V1_ONLY"

/-- What `set_mode` writes before it touches the profile. -/
def LaunchProfile.setMode (p : LaunchProfile) (mode : String) : LaunchProfile :=
  let mode := modeOf mode
  if mode = "V1_ONLY" then
    { p with
      mode := mode
      activeFamilies := ["flash_arb"]
      familyStates := p.familyStates.updateEach defaultActivationOrder
        fun family _ => some (defaultState family).value }
  else if mode = "V1_PLUS_STABLE_ALPHA" then
    let states := p.familyStates.set "flash_arb" HealthState.live.value
    { p with
      mode := mode
      activeFamilies := ["flash_arb", "funding_arb"]
      familyStates := states.set "funding_arb"
        (normalizeHealthState (states.getD "funding_arb" "") .cappedLive).value }
  else { p with mode := mode }

/-- `current_state` of `build_family_readiness`: keys are read by their canonical name, and
the last of those that agree counts. -/
def LaunchProfile.readinessState (p : LaunchProfile) (family : String) : HealthState :=
  let rows := p.familyStates.entries.filter fun e => canonicalLaunchFamilyId e.1 = family
  normalizeHealthState ((rows.getLast?.map Prod.snd).getD "")
    (if isCoreLaunchFamily family then .live else .observeOnly)

/-- `activation_decision`: `gates` is what the readiness of everything but the family's state
comes to. -/
def LaunchProfile.activationAllowed (p : LaunchProfile) (family : String) (gates : Bool) : Prop :=
  gates = true ∧ ¬ (p.readinessState family).halted

instance (p : LaunchProfile) (family : String) (gates : Bool) :
    Decidable (p.activationAllowed family gates) :=
  inferInstanceAs (Decidable (_ ∧ _))

/-- The state `enable_family` aims at. -/
def LaunchProfile.enableTarget (p : LaunchProfile) (family : String) : HealthState :=
  if family = "flash_arb" then .live
  else
    match p.readinessState family with
    | .live | .observeOnly => .cappedLive
    | other => other

/-- `sorted(set(names))`. -/
def sortedSet (names : List String) : List String :=
  names.dedup.insertionSort fun a b => a ≤ b

/-- What `enable_family` writes before the transition. -/
def LaunchProfile.admitFamily (p : LaunchProfile) (family : String) : LaunchProfile :=
  { p with
    activeFamilies :=
      if family ∈ p.activeFamilies then p.activeFamilies else p.activeFamilies ++ [family]
    requestedFamilies := sortedSet (p.requestedFamilies ++ [family]) }

/-- `_update_exploration_budget` of one trade. -/
def LaunchProfile.countTrade (p : LaunchProfile) (family : String) : LaunchProfile :=
  if isCoreLaunchFamily family then p
  else
    { p with
      explorationBudget :=
        { p.explorationBudget with usedTrades := p.explorationBudget.usedTrades + 1 } }

/-- Why `enable_family` answers before it changes anything. -/
def LaunchProfile.enableRefusal (p : LaunchProfile) (family : String) (gates : Bool) :
    Option String :=
  if p.mode = "V1_ONLY" ∧ isCoreLaunchFamily family = false then some "launch_mode_v1_only"
  else if family ∉ p.activeFamilies
      ∧ p.explorationBudget.maxTrades ≤ p.explorationBudget.usedTrades then
    some "exploration_budget_exhausted"
  else if p.activationAllowed family gates then none
  else some "not_ready"

def World.enableFamily (w : World) (family stage actor : String) (gates : Bool) (now : Int) :
    World × Answer :=
  let family := canonicalLaunchFamilyId family
  match w.profile.enableRefusal family gates with
  | some reason => (w, .refused reason)
  | none =>
    let p := w.profile.admitFamily family
    let entered :=
      (p.applyFamilyState family (w.profile.enableTarget family) actor "family_enabled"
        (some stage) now).or
      (p.applyFamilyState family .cappedLive actor "family_enabled_safe_fallback"
        (some stage) now)
    match entered with
    | some q => (touchAndSave (q.countTrade family) ("family_enabled:" ++ family) now, .ok)
    -- the second transition is not guarded: what was written before it stays
    | none => ({ w with profile := p }, .raised)

/-- The list of active families without one that is not core. -/
def LaunchProfile.withdraw (p : LaunchProfile) (family : String) : LaunchProfile :=
  if isCoreLaunchFamily family then p
  else
    { p with
      activeFamilies := (p.activeFamilies.map canonicalLaunchFamilyId).filter (· ≠ family) }

/-- `pause_family` and `quarantine_family`: the family is withdrawn, then the transition is
applied. -/
def World.withdrawThenApply (w : World) (family : String) (target : HealthState)
    (actor reasonCode touchReason : String) (now : Int) : World × Answer :=
  let family := canonicalLaunchFamilyId family
  let p := w.profile.withdraw family
  match p.applyFamilyState family target actor reasonCode none now with
  | some q => (touchAndSave q (touchReason ++ ":" ++ family) now, .ok)
  | none => ({ w with profile := p }, .raised)

def World.pauseFamily (w : World) (family actor : String) (now : Int) : World × Answer :=
  w.withdrawThenApply family .observeOnly actor "family_paused" "family_paused" now

def World.quarantineFamily (w : World) (family actor reasonCode : String) (now : Int) :
    World × Answer :=
  w.withdrawThenApply family .quarantined actor reasonCode "family_quarantined" now

/-- `revert_family`: the transition is applied, then the family is withdrawn. -/
def World.revertFamily (w : World) (family actor : String) (now : Int) : World × Answer :=
  let family := canonicalLaunchFamilyId family
  let target := if isCoreLaunchFamily family then HealthState.cappedLive else .observeOnly
  match w.profile.applyFamilyState family target actor "family_reverted" none now with
  | some q => (touchAndSave (q.withdraw family) ("family_reverted:" ++ family) now, .ok)
  | none => (w, .raised)

/-- What happens to a manager. -/
inductive Call where
  | setMode (mode : String) (now : Int)
  | enableFamily (family stage actor : String) (gates : Bool) (now : Int)
  | pauseFamily (family actor : String) (now : Int)
  | revertFamily (family actor : String) (now : Int)
  | quarantineFamily (family actor reasonCode : String) (now : Int)
  | restart (now : Int)

def World.perform (w : World) : Call → World × Answer
  | .setMode mode now =>
    (touchAndSave (w.profile.setMode mode) ("mode_set:" ++ modeOf mode) now, .ok)
  | .enableFamily family stage actor gates now => w.enableFamily family stage actor gates now
  | .pauseFamily family actor now => w.pauseFamily family actor now
  | .revertFamily family actor now => w.revertFamily family actor now
  | .quarantineFamily family actor reasonCode now =>
    w.quarantineFamily family actor reasonCode now
  | .restart now => (World.load w.saved now, .ok)

def World.step (w : World) (call : Call) : World := (w.perform call).1

end SovereignCapital.Launch
