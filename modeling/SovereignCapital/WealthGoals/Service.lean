import SovereignCapital.Lib.Runs
import SovereignCapital.WealthGoals.Patch

/-! # The wealth goal service

`WealthGoalService.state` and `set_goal` over the live goal of a treasury. `set_goal` writes the
fields of the goal one by one, then asks the treasury to save it, and only then writes its own
books; `TreasuryRuntime` has no method to save a goal.
-/

namespace SovereignCapital.WealthGoals

open Bytes Runs

/-! ## The service -/

abbrev Clock := { ms : Int // 0 < ms }

/-- `meta` of the service's state; what is missing is empty or zero. -/
structure GoalMeta where
  activeGoalId : String
  activeSinceMs : Int
  goalRevision : Int
  achievedAtMs : Int
  updatedBy : String
  reason : String
deriving DecidableEq

inductive HistoryRow where
  | achieved (goalId : String) (targetReturnPct : PyFloat) (achievedAtMs : Int)
      (currentReturnPct : PyFloat) (riskTolerance : String)
  | replaced (goalId : String) (targetReturnPct : PyFloat) (closedAtMs : Int) (reason : String)
deriving DecidableEq

def HistoryRow.isAchieved : HistoryRow → Bool
  | .achieved .. => true
  | .replaced .. => false

structure WealthGoalSignals where
  currentReturnPct : PyFloat
  drawdownPct : PyFloat
  fundStage : String
  riskPosture : String
  hardStop : Bool
  killSwitch : Bool
  capitalBaseUsd : PyFloat
  stabilityScore : PyFloat
  executionRealismScore : PyFloat
  riskScore : PyFloat
  falseAdmissionRate : PyFloat
  falseDropRate : PyFloat
deriving DecidableEq

structure CacheSignature where
  goal : ProfitGoal
  signals : WealthGoalSignals
  goalRevision : Int
  achievedAtMs : Int
deriving DecidableEq

/-- `WealthGoalService`; of the stored goal only the target is read back. -/
structure Service where
  chain : String
  goalMeta : GoalMeta
  storedTarget : Option PyFloat
  history : List HistoryRow
  cacheKey : Option CacheSignature

structure World where
  goal : ProfitGoal
  /-- The treasury has a method `_save_goal`. -/
  savesGoal : Bool
  service : Service

/-- The methods of `TreasuryRuntime` do not include `_save_goal`. -/
def World.ofTreasuryRuntime (goal : ProfitGoal) (service : Service) : World :=
  { goal, savesGoal := false, service }

/-- `goal_revision` as it is read, one where it is missing. -/
def GoalMeta.revision (m : GoalMeta) : Int := if m.goalRevision = 0 then 1 else m.goalRevision

inductive Answer where
  | returned
  | raised
deriving DecidableEq

/-! ## Reading the state -/

def GoalMeta.ensured (m : GoalMeta) (chain : String) (now : Clock) : GoalMeta :=
  let m :=
    if m.activeGoalId = "" then
      { m with
        activeGoalId := "goal-" ++ chain ++ "-" ++ String.ofList (pyDecimal now)
        activeSinceMs := now }
    else m
  { m with goalRevision := m.revision }

/-- `current_return_pct >= target_return_pct` for a positive target. -/
def achieves (goal : ProfitGoal) (signals : WealthGoalSignals) : Bool :=
  (PyFloat.finite 0).lt goal.targetReturnPercentage
    && (goal.targetReturnPercentage.lt signals.currentReturnPct
      || !floatDiffers goal.targetReturnPercentage signals.currentReturnPct)

/-- The row `state` appends once for a goal that is achieved. -/
def Service.recordAchieved (s : Service) (goal : ProfitGoal) (signals : WealthGoalSignals)
    (now : Clock) : Service :=
  if achieves goal signals ∧ s.goalMeta.achievedAtMs = 0 then
    { s with
      goalMeta := { s.goalMeta with achievedAtMs := now }
      history := s.history ++ [.achieved s.goalMeta.activeGoalId goal.targetReturnPercentage now
        signals.currentReturnPct
        (if goal.riskTolerance = "" then "moderate" else goal.riskTolerance)] }
  else s

/-- `state`; without signals, building them raised. -/
def World.state (w : World) (signals : Option WealthGoalSignals) (now : Clock) :
    World × Answer :=
  let s := { w.service with
    goalMeta := w.service.goalMeta.ensured w.service.chain now
    storedTarget := some w.goal.targetReturnPercentage }
  match signals with
  | none => ({ w with service := s }, .raised)
  | some signals =>
    let key : CacheSignature :=
      { goal := w.goal, signals, goalRevision := s.goalMeta.revision
        achievedAtMs := s.goalMeta.achievedAtMs }
    if s.cacheKey = some key then ({ w with service := s }, .returned)
    else
      let s := { s.recordAchieved w.goal signals now with cacheKey := some key }
      ({ w with service := s }, .returned)

/-! ## Setting the goal -/

/-- What `set_goal` writes to its books after the goal was saved. -/
def Service.replaceGoal (s : Service) (actor reason : String) (now : Clock) : Service :=
  let revision := s.goalMeta.goalRevision + 1
  let rows := s.storedTarget.elim [] fun target =>
    [.replaced s.goalMeta.activeGoalId target now
      (if reason = "" then "goal_update" else reason)]
  { s with
    history := s.history ++ rows
    goalMeta :=
      { activeGoalId := "goal-" ++ s.chain ++ "-" ++ String.ofList (pyDecimal now) ++ "-r"
          ++ String.ofList (pyDecimal revision)
        activeSinceMs := now, goalRevision := revision, achievedAtMs := 0
        updatedBy := actor, reason }
    cacheKey := none }

/-- `changed` of `set_goal`. -/
def changes (resolved goal : ProfitGoal) : Bool :=
  goalPatchChangesState resolved goal || goal.differs resolved

def World.setGoal (w : World) (payload : PyMap) (actor reason : String)
    (signals : Option WealthGoalSignals) (now later : Clock) : World × Answer :=
  match resolveGoalPatchPayload payload w.goal with
  | .error _ => (w, .raised)
  | .ok resolved =>
    -- the live goal has every field of the patch before anything is saved
    let w' := { w with goal := resolved }
    if changes resolved w.goal = false then w'.state signals later
    else if w.savesGoal = false then (w', .raised)
    else { w' with service := w'.service.replaceGoal actor reason now }.state signals later

inductive Call where
  | setGoal (payload : PyMap) (actor reason : String) (signals : Option WealthGoalSignals)
      (now later : Clock)
  | state (signals : Option WealthGoalSignals) (now : Clock)

def World.perform (w : World) : Call → World × Answer
  | .setGoal payload actor reason signals now later =>
    w.setGoal payload actor reason signals now later
  | .state signals now => w.state signals now

def World.step (w : World) (call : Call) : World := (w.perform call).1

/-! ## What should hold -/

def World.revision (w : World) : Int := w.service.goalMeta.revision

def World.achievedRows (w : World) : Nat := w.service.history.countP HistoryRow.isAchieved

def World.replacedRows (w : World) : Nat := w.service.history.countP fun r => !r.isAchieved

structure Untouched (w w' : World) : Prop where
  goal : w'.goal = w.goal
  revision : w'.revision = w.revision
  history : w'.service.history = w.service.history

/-- What a `set_goal` that returns should do. -/
structure Applied (payload : PyMap) (w w' : World) : Prop where
  patched : Patched payload w.goal w'.goal
  revision : w'.revision = w.revision + if w'.goal = w.goal then 0 else 1
  replaced : w'.replacedRows = w.replacedRows
    + if w'.goal ≠ w.goal ∧ w.service.storedTarget.isSome then 1 else 0
  /-- Repeating the payload changes nothing. -/
  repeated : ∀ actor reason signals now later,
    (w'.step (.setGoal payload actor reason signals now later)).goal = w'.goal
    ∧ (w'.step (.setGoal payload actor reason signals now later)).revision = w'.revision

/-- What a `set_goal` should do. -/
structure Delivered (payload : PyMap) (w : World) (result : World × Answer) : Prop where
  returned : result.2 = .returned → Applied payload w result.1
  raised : result.2 = .raised → Untouched w result.1

def CallSound (w : World) : Call → Prop
  | .setGoal payload actor reason signals now later =>
    Delivered payload w (w.setGoal payload actor reason signals now later)
  | .state signals now =>
    let w' := (w.state signals now).1
    w'.goal = w.goal ∧ w'.revision = w.revision ∧ w'.replacedRows = w.replacedRows

/-- The achieved rows a run appends while the goal has a revision. -/
def achievedAt (r : Int) : World → List Call → Nat
  | _, [] => 0
  | w, call :: calls =>
    (if w.revision = r then (w.step call).achievedRows - w.achievedRows else 0)
      + achievedAt r (w.step call) calls

/-- The condition on a call: the goal that the payload resolves to is the live one, and no name
was dropped for its falsy value. -/
def CallOk (w : World) : Call → Prop
  | .setGoal payload _ _ signals _ _ =>
    ∀ resolved, resolveGoalPatchPayload payload w.goal = .ok resolved →
      resolved = w.goal
        ∧ (w.goal.hasNan = false → signals.isSome → NamesRead payload)
  | .state _ _ => True

/-! ## Changes -/

theorem floatDiffers_eq_false_iff {x y : PyFloat} :
    floatDiffers x y = false ↔ x = y ∧ x ≠ .nan := by
  unfold floatDiffers
  constructor
  · intro h
    simp only [Bool.or_eq_false_iff, decide_eq_false_iff_not, ne_eq, not_not] at h
    exact ⟨h.2, h.1.1⟩
  · rintro ⟨rfl, hx⟩
    simp [hx]

theorem differs_eq_false_iff {g h : ProfitGoal} :
    g.differs h = false ↔ g = h ∧ g.hasNan = false := by
  obtain ⟨gt, gh, gr, gd, gc⟩ := g
  obtain ⟨ht, hh, hr, hd, hc⟩ := h
  simp only [ProfitGoal.differs, ProfitGoal.hasNan, Bool.or_eq_false_iff,
    floatDiffers_eq_false_iff, decide_eq_false_iff_not, ne_eq, not_not, ProfitGoal.mk.injEq]
  tauto

variable {goal : ProfitGoal} {payload : PyMap} {w : World}

theorem eq_of_changes {resolved : ProfitGoal} (h : changes resolved goal = false) :
    resolved = goal ∧ goal.hasNan = false := by
  obtain ⟨-, hdiffers⟩ := Bool.or_eq_false_iff.1 h
  obtain ⟨heq, hnan⟩ := differs_eq_false_iff.1 hdiffers
  exact ⟨heq.symm, hnan⟩

theorem resolve_empty_of_self (h : resolveGoalPatchPayload payload goal = .ok goal) :
    resolveGoalPatchPayload [] goal = .ok goal := by
  obtain ⟨normalized, hnorm, hpatch⟩ := resolve_ok h
  obtain ⟨_, -, -, -, hrisk, -, -⟩ := normalizeGoalPayload_ok hnorm
  have hgoal := congrArg ProfitGoal.riskTolerance hpatch
  have hstr : currentStr goal.riskTolerance (normalizeRisk (.leaf .none)) = goal.riskTolerance := by
    rw [patch_riskTolerance, hrisk] at hgoal
    cases hnamed : names payload "risk_tolerance" with
    | true =>
      rw [hnamed, if_pos rfl] at hgoal
      rw [hgoal]
      exact currentStr_of_mem (normalizeRisk_mem _) _
    | false =>
      rw [hnamed, get_of_not_names hnamed, if_neg Bool.false_ne_true] at hgoal
      exact hgoal.symm
  have hempty : resolveGoalPatchPayload [] goal
      = .ok { goal with
        riskTolerance := currentStr goal.riskTolerance (normalizeRisk (.leaf .none)) } := rfl
  rw [hempty, hstr]

theorem changes_self (h : resolveGoalPatchPayload payload goal = .ok goal)
    (hnan : goal.hasNan = false) : changes goal goal = false := by
  have hsame : goal.differs goal = false := differs_eq_false_iff.2 ⟨rfl, hnan⟩
  simp [changes, goalPatchChangesState, resolve_empty_of_self h, hsame]

/-! ## The state -/

theorem ensured_revision (m : GoalMeta) (chain : String) (now : Clock) :
    (m.ensured chain now).revision = m.revision := by
  by_cases hid : m.activeGoalId = "" <;> by_cases hrev : m.goalRevision = 0 <;>
    simp [GoalMeta.ensured, GoalMeta.revision, hid, hrev]

theorem ensured_achievedAtMs (m : GoalMeta) (chain : String) (now : Clock) :
    (m.ensured chain now).achievedAtMs = m.achievedAtMs := by
  by_cases h : m.activeGoalId = "" <;> simp [GoalMeta.ensured, h]

/-- The achieved rows a revision still allows. -/
def World.room (w : World) : Nat := if w.service.goalMeta.achievedAtMs = 0 then 1 else 0

structure Quiet (w w' : World) : Prop where
  goal : w'.goal = w.goal
  savesGoal : w'.savesGoal = w.savesGoal
  revision : w'.revision = w.revision
  replaced : w'.replacedRows = w.replacedRows
  achieved : w'.achievedRows + w'.room ≤ w.achievedRows + w.room
  grows : w.achievedRows ≤ w'.achievedRows

/-- `state` appends at most the row of a goal that is achieved for the first time. -/
theorem state_quiet (w : World) (signals : Option WealthGoalSignals) (now : Clock) :
    Quiet w (w.state signals now).1 := by
  have hrevision := ensured_revision w.service.goalMeta w.service.chain now
  have hachieved := ensured_achievedAtMs w.service.goalMeta w.service.chain now
  cases signals with
  | none =>
    refine ⟨rfl, rfl, hrevision, rfl, le_of_eq ?_, le_rfl⟩
    simp only [World.state, World.achievedRows, World.room, hachieved]
  | some signals =>
    unfold World.state
    simp only
    split
    · refine ⟨rfl, rfl, hrevision, rfl, le_of_eq ?_, le_rfl⟩
      simp only [World.achievedRows, World.room, hachieved]
    · unfold Service.recordAchieved
      simp only [hachieved]
      by_cases hnew : achieves w.goal signals ∧ w.service.goalMeta.achievedAtMs = 0
      · have hpos : (now : Int) ≠ 0 := ne_of_gt now.2
        simp only [if_pos hnew]
        refine ⟨rfl, rfl, hrevision, ?_, le_of_eq ?_, ?_⟩
        · simp [World.replacedRows, HistoryRow.isAchieved]
        · simp [World.achievedRows, World.room, HistoryRow.isAchieved, hnew.2, hpos]
        · simp [World.achievedRows, HistoryRow.isAchieved]
      · simp only [if_neg hnew]
        refine ⟨rfl, rfl, hrevision, rfl, le_of_eq ?_, le_rfl⟩
        simp only [World.achievedRows, World.room, hachieved]

theorem state_raised (now : Clock) :
    (w.state none now).2 = .raised ∧ (w.state none now).1.service.history = w.service.history :=
  ⟨rfl, rfl⟩

theorem state_returned (w : World) (signals : WealthGoalSignals) (now : Clock) :
    (w.state (some signals) now).2 = .returned := by
  unfold World.state
  simp only
  split <;> rfl

/-! ## A call -/

/-- `set_goal` with a payload that resolves into the live goal. -/
theorem setGoal_self (h : resolveGoalPatchPayload payload w.goal = .ok w.goal)
    (hnan : w.goal.hasNan = false) (actor reason : String) (signals : Option WealthGoalSignals)
    (now later : Clock) :
    w.setGoal payload actor reason signals now later = w.state signals later := by
  simp only [World.setGoal, h, changes_self h hnan, if_true]

/-- `set_goal` on a treasury that has no method to save a goal. -/
theorem setGoal_changed {resolved : ProfitGoal} (hsaves : w.savesGoal = false)
    (h : resolveGoalPatchPayload payload w.goal = .ok resolved)
    (hchanges : changes resolved w.goal = true) (actor reason : String)
    (signals : Option WealthGoalSignals) (now later : Clock) :
    w.setGoal payload actor reason signals now later = ({ w with goal := resolved }, .raised) := by
  simp [World.setGoal, h, hchanges, hsaves]

theorem applied_iff (signals : WealthGoalSignals) (later : Clock)
    (h : resolveGoalPatchPayload payload w.goal = .ok w.goal) (hnan : w.goal.hasNan = false) :
    Applied payload w (w.state (some signals) later).1 ↔ NamesRead payload := by
  have hquiet := state_quiet w (some signals) later
  rw [← patched_self_iff h]
  constructor
  · intro happlied
    have hpatched := happlied.patched
    rwa [hquiet.goal] at hpatched
  · intro hpatched
    refine ⟨by rwa [hquiet.goal], ?_, ?_, fun actor reason signals' now later' => ?_⟩
    · rw [hquiet.revision, if_pos hquiet.goal, add_zero]
    · rw [hquiet.replaced, if_neg fun hne => hne.1 hquiet.goal, add_zero]
    · have hself : resolveGoalPatchPayload payload (w.state (some signals) later).1.goal
          = .ok (w.state (some signals) later).1.goal := by
        rw [hquiet.goal]
        exact h
      have hstep : (w.state (some signals) later).1.step
          (.setGoal payload actor reason signals' now later')
          = ((w.state (some signals) later).1.state signals' later').1 :=
        congrArg Prod.fst (setGoal_self hself (by rw [hquiet.goal]; exact hnan) ..)
      have hagain := state_quiet (w.state (some signals) later).1 signals' later'
      rw [hstep]
      exact ⟨hagain.goal, hagain.revision⟩

/-- A `set_goal` does what it should exactly when it meets its condition. -/
theorem setGoal_sound_iff (hsaves : w.savesGoal = false) (payload : PyMap) (actor reason : String)
    (signals : Option WealthGoalSignals) (now later : Clock) :
    CallSound w (.setGoal payload actor reason signals now later)
      ↔ CallOk w (.setGoal payload actor reason signals now later) := by
  change Delivered payload w (w.setGoal payload actor reason signals now later)
    ↔ ∀ resolved, resolveGoalPatchPayload payload w.goal = .ok resolved →
      resolved = w.goal ∧ (w.goal.hasNan = false → signals.isSome → NamesRead payload)
  cases h : resolveGoalPatchPayload payload w.goal with
  | error e =>
    have hraised : w.setGoal payload actor reason signals now later = (w, .raised) := by
      simp only [World.setGoal, h]
    rw [hraised]
    refine ⟨fun _ resolved hok => (nomatch hok), fun _ => ⟨fun hret => (nomatch hret), ?_⟩⟩
    exact fun _ => ⟨rfl, rfl, rfl⟩
  | ok resolved =>
    cases hchanges : changes resolved w.goal with
    | true =>
      -- the goal is written and the call raises: only a goal that is not a number is the same
      rw [setGoal_changed hsaves h hchanges]
      constructor
      · intro hdelivered resolved' hok
        obtain rfl := Except.ok.inj hok
        have hself : resolved = w.goal := (hdelivered.raised rfl).goal
        refine ⟨hself, fun hnan _ => ?_⟩
        rw [hself] at h hchanges
        rw [changes_self h hnan] at hchanges
        cases hchanges
      · intro hok
        exact ⟨fun hret => (nomatch hret), fun _ => ⟨(hok resolved rfl).1, rfl, rfl⟩⟩
    | false =>
      obtain ⟨rfl, hnan⟩ := eq_of_changes hchanges
      rw [setGoal_self h hnan]
      cases signals with
      | none =>
        have hquiet := state_quiet w none later
        constructor
        · intro _ resolved hok
          exact ⟨(Except.ok.inj hok).symm, fun _ hsome => nomatch hsome⟩
        · intro _
          refine ⟨fun hret => (nomatch hret), fun _ => ?_⟩
          exact ⟨hquiet.goal, hquiet.revision, (state_raised later).2⟩
      | some signals =>
        have hreturned := state_returned w signals later
        constructor
        · intro hdelivered resolved hok
          refine ⟨(Except.ok.inj hok).symm, fun _ _ => ?_⟩
          exact (applied_iff signals later h hnan).1 (hdelivered.returned hreturned)
        · intro hok
          refine ⟨fun _ => (applied_iff signals later h hnan).2 ((hok _ rfl).2 hnan rfl), ?_⟩
          intro hraised
          rw [hreturned] at hraised
          cases hraised

/-- Without a method to save a goal no call appends a replaced row or changes the revision. -/
theorem step_spec (hsaves : w.savesGoal = false) (call : Call) :
    (w.step call).savesGoal = false ∧ (w.step call).revision = w.revision
      ∧ (w.step call).achievedRows + (w.step call).room ≤ w.achievedRows + w.room
      ∧ w.achievedRows ≤ (w.step call).achievedRows := by
  cases call with
  | state signals now =>
    have hquiet := state_quiet w signals now
    exact ⟨hquiet.savesGoal.trans hsaves, hquiet.revision, hquiet.achieved, hquiet.grows⟩
  | setGoal payload actor reason signals now later =>
    change (w.setGoal payload actor reason signals now later).1.savesGoal = false
      ∧ (w.setGoal payload actor reason signals now later).1.revision = w.revision
      ∧ (w.setGoal payload actor reason signals now later).1.achievedRows
          + (w.setGoal payload actor reason signals now later).1.room
        ≤ w.achievedRows + w.room
      ∧ w.achievedRows ≤ (w.setGoal payload actor reason signals now later).1.achievedRows
    cases h : resolveGoalPatchPayload payload w.goal with
    | error e =>
      have hraised : w.setGoal payload actor reason signals now later = (w, .raised) := by
        simp only [World.setGoal, h]
      rw [hraised]
      exact ⟨hsaves, rfl, le_rfl, le_rfl⟩
    | ok resolved =>
      cases hchanges : changes resolved w.goal with
      | true =>
        rw [setGoal_changed hsaves h hchanges]
        exact ⟨hsaves, rfl, le_rfl, le_rfl⟩
      | false =>
        obtain ⟨rfl, hnan⟩ := eq_of_changes hchanges
        rw [setGoal_self h hnan]
        have hquiet := state_quiet w signals later
        exact ⟨hquiet.savesGoal.trans hsaves, hquiet.revision, hquiet.achieved, hquiet.grows⟩

/-! ## Whole runs -/

theorem callSound_iff (hsaves : w.savesGoal = false) (call : Call) :
    CallSound w call ↔ CallOk w call := by
  cases call with
  | setGoal payload actor reason signals now later =>
    exact setGoal_sound_iff hsaves payload actor reason signals now later
  | state signals now =>
    have hquiet := state_quiet w signals now
    exact ⟨fun _ => trivial, fun _ => ⟨hquiet.goal, hquiet.revision, hquiet.replaced⟩⟩

theorem achievedAt_le (hsaves : w.savesGoal = false) (r : Int) (calls : List Call) :
    achievedAt r w calls ≤ w.room := by
  induction calls generalizing w with
  | nil => exact Nat.zero_le _
  | cons call calls ih =>
    obtain ⟨hsaves', -, hroom, hgrows⟩ := step_spec hsaves call
    have hrest := ih hsaves'
    have hfirst : (if w.revision = r then (w.step call).achievedRows - w.achievedRows else 0)
        ≤ (w.step call).achievedRows - w.achievedRows := by
      split
      · exact le_rfl
      · exact Nat.zero_le _
    simp only [achievedAt]
    omega

/-- **Updates of the wealth goal.** On a `TreasuryRuntime`, every call of a run is exact and
atomic and no revision is achieved twice, exactly when every payload resolves into the live
goal or is refused before anything is written. -/
theorem updates_exact_iff (goal : ProfitGoal) (service : Service) (calls : List Call) :
    (AllSteps World.step CallSound (World.ofTreasuryRuntime goal service) calls
      ∧ ∀ r, achievedAt r (World.ofTreasuryRuntime goal service) calls ≤ 1)
    ↔ AllSteps World.step CallOk (World.ofTreasuryRuntime goal service) calls := by
  have hsaves : (World.ofTreasuryRuntime goal service).savesGoal = false := rfl
  have hcall : ∀ w call, w.savesGoal = false → (CallSound w call ↔ CallOk w call) :=
    fun w call h => callSound_iff h call
  have hstep : ∀ w call, w.savesGoal = false → CallOk w call → (w.step call).savesGoal = false :=
    fun w call h _ => (step_spec h call).1
  have hrun := allSteps_iff hcall hstep hsaves calls
  rw [hrun, and_iff_left_iff_imp]
  intro _ r
  refine (achievedAt_le hsaves r calls).trans ?_
  unfold World.room
  split <;> omega

def defaultGoal : ProfitGoal where
  targetReturnPercentage := .finite 0
  timeHorizonSeconds := 604800
  riskTolerance := "conservative"
  maxDrawdownPct := .finite 10
  capitalCommitmentPct := .finite 25

def Service.fresh : Service where
  chain := "polygon"
  goalMeta := ⟨"", 0, 0, 0, "", ""⟩
  storedTarget := none
  history := []
  cacheKey := none

/-- A new risk tolerance is written to the live goal by a call that raises. -/
theorem raised_goal_kept :
    ¬ CallSound (World.ofTreasuryRuntime defaultGoal .fresh)
      (.setGoal [("risk_tolerance", .leaf (.text "aggressive"))] "operator" "" none
        ⟨1700000000000, by decide⟩ ⟨1700000000001, by decide⟩) := by
  rw [callSound_iff rfl]
  intro hok
  have hself := (hok { defaultGoal with riskTolerance := "aggressive" } rfl).1
  have hrisk := congrArg ProfitGoal.riskTolerance hself
  exact absurd hrisk (by decide)

end SovereignCapital.WealthGoals
