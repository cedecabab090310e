import SovereignCapital.Lib.Tickets
import SovereignCapital.Omar.Attribution

/-! # Learning from settlements

Over any run of decisions and outcomes the learner is told at most once for every snapshot, by an
outcome whose own record attributes it, and reports say so: as long as the outcomes carry their
own attribution, the numbers that are converted after the learner was told can be converted, and
decisions are for actions that the learner knows.
-/

namespace SovereignCapital.Omar

open Bytes PyRaise Runs Guarded

/-! ## The property -/

/-- The learner after the call is another one. -/
def updates (cfg : OmarConfig) (st : OmarState) (c : OutcomeCall) : Prop :=
  (observeOutcome cfg st c).1.learner ≠ st.learner

/-- The call reports `learned=True`. -/
def reportsLearned (cfg : OmarConfig) (st : OmarState) (c : OutcomeCall) : Prop :=
  ∃ report, (observeOutcome cfg st c).2 = .ok report ∧ report.learned = true

/-- The counts go up: the total, and the count of one state. -/
def countsUp (cfg : OmarConfig) (st : OmarState) (c : OutcomeCall) : Prop :=
  let learner := (observeOutcome cfg st c).1.learner
  learner.totalObservations = st.learner.totalObservations + 1 ∧
    ∃ key, learner.count key = st.learner.count key + 1

/-- The snapshot that a call leaves under its decision id. -/
def opens (cfg : OmarConfig) : Call → Option (String × Snapshot)
  | .decision d =>
    if cfg.learns then d.snapshot.toOption.map fun s => (d.decisionId, s) else none
  | .outcome _ => none

/-- The call updates the learner for a decision. -/
def spends (cfg : OmarConfig) (st : OmarState) : Call → String → Prop
  | .decision _, _ => False
  | .outcome c, id => c.decisionId = id ∧ updates cfg st c

/-- The counts add up, the values are at most 50, and a learner that is saved and loaded has
learned the same. -/
structure Kept (cfg : OmarConfig) (l : Learner) : Prop where
  total : l.totalObservations = Dict.sumBy (fun _ count => count) l.n
  value : ∀ key action, |l.value key action| ≤ 50
  reload : ∃ l', Learner.load (some (l.saved cfg)) = .ok l' ∧ SameLearning l l'

/-- What an outcome may do after some calls: a report of learning and the counts agree, and the
learner is updated only for the snapshot that was left last under the decision id, which no update
has used, by a record that attributes itself. -/
structure Gated (cfg : OmarConfig) (start : OmarState) (before : List Call) (c : OutcomeCall) :
    Prop where
  reported : reportsLearned cfg (run (step cfg) start before) c ↔
    countsUp cfg (run (step cfg) start before) c
  updated : updates cfg (run (step cfg) start before) c →
    countsUp cfg (run (step cfg) start before) c ∧
      ∃ e s, c.evidence = .ok e ∧ Attributed e s ∧
        Tickets.OpenedLast (step cfg) (opens cfg) (spends cfg) start before c.decisionId s

/-- The learning gate over a run from a runtime that was just started, with a learner that is new
or comes from a file. -/
structure LearningGate (cfg : OmarConfig) (learner : Learner) (calls : List Call) : Prop where
  kept : ∀ reached, reached <+: calls →
    Kept cfg (run (step cfg) (started learner) reached).learner
  gated : ∀ before c after, calls = before ++ .outcome c :: after →
    Gated cfg (started learner) before c
  /-- between two updates for one decision id there is a new snapshot -/
  once : ∀ before c between c' after,
    calls = before ++ .outcome c :: between ++ .outcome c' :: after →
    updates cfg (run (step cfg) (started learner) before) c →
    updates cfg (run (step cfg) (started learner) (before ++ .outcome c :: between)) c' →
    c'.decisionId = c.decisionId →
    ∃ d, .decision d ∈ between ∧ d.decisionId = c.decisionId

/-! ## The condition -/

/-- The numbers that are converted after the learner was told can be converted. -/
structure Convertible (e : Evidence) : Prop where
  latency : (PyMap.get e.settlement "latency_ms").truthy = true →
    ∃ n, readInt (PyMap.get e.settlement "latency_ms") = .ok n
  gas : (PyMap.get e.settlement "gas_cost_usd").truthy = true →
    ∃ x, PyRaise.float (PyMap.get e.settlement "gas_cost_usd") = .ok x

def knownAction (action : String) : Prop := text (words action) = "" ∨ action ∈ actions

/-- A decision is for an action that the learner knows; an outcome that says it is settled, for a
decision that is open, carries its own attribution and numbers that can be converted. -/
def Careful (st : OmarState) : Call → Prop
  | .decision d => knownAction d.action
  | .outcome c => ∀ e, c.evidence = .ok e → st.pending.contains c.decisionId = true →
      c.saysSettled e → Carries c e ∧ Convertible e

/-! ## One call -/

structure Ready (st : OmarState) : Prop where
  sound : st.learner.Sound
  snapshots : ∀ id s, st.pending.get? id = some s → s.decisionId = id ∧ knownAction s.action

variable {id : String} {s : Snapshot} {c : OutcomeCall} {lesson : Lesson} {e : Evidence}
  {cfg : OmarConfig} {st : OmarState}

theorem get?_evictOldest {pending : Dict String Snapshot}
    (h : (evictOldest pending).get? id = some s) : pending.get? id = some s := by
  have herase : ∀ (l : List (String × Snapshot)) (d : Dict String Snapshot),
      (l.foldl (fun d e => d.erase e.1) d).get? id = some s → d.get? id = some s := by
    intro l
    induction l with
    | nil => exact fun d hd => hd
    | cons e l ih =>
      intro d hd
      have hrest := ih (d.erase e.1) hd
      rw [Dict.get?_erase] at hrest
      split at hrest
      · cases hrest
      · exact hrest
  unfold evictOldest at h
  split at h
  · exact herase _ _ h
  · exact h

theorem snapshot_of_ok {d : DecisionCall} (h : d.snapshot = .ok s) :
    s.decisionId = d.decisionId ∧ s.action = d.action := by
  obtain ⟨lineage, -, h⟩ := bind_ok_iff.1 h
  obtain rfl := (Except.ok.inj h).symm
  exact ⟨rfl, rfl⟩

theorem step_decision (cfg : OmarConfig) (st : OmarState) (d : DecisionCall) :
    (step cfg st (.decision d)).learner = st.learner ∧
      ∀ id s, (step cfg st (.decision d)).pending.get? id = some s →
        opens cfg (.decision d) = some (id, s) ∨
          (st.pending.get? id = some s ∧ ∀ s', opens cfg (.decision d) ≠ some (id, s')) := by
  cases hlearns : cfg.learns with
  | false =>
    have hstep : step cfg st (.decision d) = st := by
      simp [step, observeDecision, hlearns, Except.toOption]
    rw [hstep]
    refine ⟨rfl, fun id s hs => .inr ⟨hs, fun s' h => ?_⟩⟩
    simp [opens, hlearns] at h
  | true =>
    cases hsnapshot : d.snapshot with
    | error e =>
      have hstep : step cfg st (.decision d) = st := by
        simp [step, observeDecision, hlearns, hsnapshot, bind, Except.bind, Except.toOption]
      rw [hstep]
      refine ⟨rfl, fun id s hs => .inr ⟨hs, fun s' h => ?_⟩⟩
      simp [opens, hlearns, hsnapshot, Except.toOption] at h
    | ok snapshot =>
      have hstep : step cfg st (.decision d)
          = { st with pending := evictOldest (st.pending.set d.decisionId snapshot) } := by
        simp [step, observeDecision, hlearns, hsnapshot, bind, Except.bind, Except.toOption,
          pure, Except.pure]
      have hopens : opens cfg (.decision d) = some (d.decisionId, snapshot) := by
        simp [opens, hlearns, hsnapshot, Except.toOption]
      rw [hstep, hopens]
      refine ⟨rfl, fun id s hs => ?_⟩
      have hset := get?_evictOldest hs
      rw [Dict.get?_set] at hset
      split at hset
      · rename_i hid
        obtain rfl := Option.some.inj hset
        exact .inl (by rw [hid])
      · rename_i hid
        refine .inr ⟨hset, fun s' h => hid ?_⟩
        exact (Prod.mk.inj (Option.some.inj h)).1.symm

/-- The lesson that the learner is told is about the snapshot. -/
theorem lessonOf_ok {outcome : PyMap} (h : lessonOf c s.row outcome = .ok lesson) :
    lesson.stateKey = s.stateKey ∧ lesson.action = s.action ∧
      (∃ x, PyRaise.float ((PyMap.get outcome "slippage_bps").orElse (floating 0)) = .ok x) ∧
      (∃ x, PyRaise.float (c.gasCostUsd.orElse (floating 0)) = .ok x) ∧
      (∃ x, PyRaise.float (c.slippageBps.orElse (floating 0)) = .ok x) ∧
      ∃ n, readInt (c.latencyMs.orElse (.leaf (.int 0))) = .ok n := by
  have hshown : ∀ v : String, ((words v).orElse (words "")).str = v := by
    intro v
    unfold PyTree.orElse
    rw [truthy_words]
    by_cases hv : v = ""
    · simp [hv, words, PyTree.str, PyValue.str]
    · simp [hv, words, PyTree.str, PyValue.str]
  unfold lessonOf at h
  simp only [bind_ok_iff] at h
  obtain ⟨_, -, _, -, slippage, hslippage, _, -, _, -, gas, hgas, slippage', hslippage', latency',
    hlatency', h⟩ := h
  obtain rfl := (Except.ok.inj h).symm
  exact ⟨hshown s.stateKey, hshown s.action, ⟨_, hslippage⟩, ⟨_, hgas⟩, ⟨_, hslippage'⟩,
    ⟨_, hlatency'⟩⟩

/-- A value that is set is read as it is, another one as its default. -/
theorem read_orElse {α : Type} {read : PyTree → Except PyError α} {v w : PyTree}
    (hv : v.truthy = true → ∃ x, read v = .ok x) (hw : ∃ x, read w = .ok x) :
    ∃ x, read (v.orElse w) = .ok x := by
  unfold PyTree.orElse
  split
  · rename_i h
    exact hv h
  · exact hw

/-- After a lesson nothing is left to fail where the numbers of the record can be converted. -/
theorem learnedReport_ok (hconvertible : Convertible e)
    (h : lessonOf c s.row (rebuiltOutcome c e s.row) = .ok lesson) (result : LearnResult) :
    ∃ report, learnedReport c s.row (rebuiltOutcome c e s.row) lesson result = .ok report := by
  obtain ⟨-, -, hslippage, hgas, hslippage', hlatency⟩ := lessonOf_ok h
  have hread := fun {k : String} (hk : k ≠ "expectation_error") => get_rebuilt c e s.row hk
  have hlatencyOf : PyMap.get (rebuiltOutcome c e s.row) "latency_ms"
      = PyMap.get e.settlement "latency_ms" := (hread (by decide)).trans rfl
  have hgasOf : PyMap.get (rebuiltOutcome c e s.row) "gas_cost_usd"
      = PyMap.get e.settlement "gas_cost_usd" := (hread (by decide)).trans rfl
  obtain ⟨latency, hlatency⟩ := read_orElse hconvertible.latency hlatency
  obtain ⟨gas, hgas⟩ := read_orElse hconvertible.gas hgas
  have hslippageSet : (PyMap.get (rebuiltOutcome c e s.row) "slippage_bps").truthy = true →
      ∃ x, PyRaise.float (PyMap.get (rebuiltOutcome c e s.row) "slippage_bps") = .ok x := by
    intro htruthy
    rwa [PyTree.orElse_of_truthy _ htruthy] at hslippage
  obtain ⟨slippage, hslippage⟩ := read_orElse hslippageSet hslippage'
  unfold learnedReport
  simp only [hlatencyOf, hgasOf, hlatency, hslippage, hgas, bind, Except.bind]
  exact ⟨_, rfl⟩

structure Told (cfg : OmarConfig) (st : OmarState) (c : OutcomeCall) : Prop where
  /-- the record and the snapshot that the call is about -/
  attributed : ∃ e s, c.evidence = .ok e ∧ st.pending.get? c.decisionId = some s ∧ Attributed e s
  pending : (observeOutcome cfg st c).1.pending = st.pending.erase c.decisionId
  learner : ∃ key action reward, Learned cfg st.learner (observeOutcome cfg st c).1.learner key
    action reward
  sound : (observeOutcome cfg st c).1.learner.Sound
  report : ∃ report, (observeOutcome cfg st c).2 = .ok (.told report)

theorem quiet_of_result {result : Except PyError OutcomeReport}
    (hresult : observeOutcome cfg st c = (st, result))
    (hlearned : ∀ report, result = .ok report → report.learned = false) :
    (observeOutcome cfg st c).1 = st ∧ ¬ reportsLearned cfg st c := by
  refine ⟨by rw [hresult], fun ⟨report, hreport, htrue⟩ => ?_⟩
  rw [hresult] at hreport
  rw [hlearned report hreport] at htrue
  cases htrue

/-- An outcome that passes the gate is about a snapshot. -/
theorem snapshot_of_allowed {row : PyMap} (h : Allowed (st.pendingRow id) row id) :
    ∃ s, st.pending.get? id = some s ∧ st.pendingRow id = s.row := by
  cases hpending : st.pending.get? id with
  | none =>
    have hrow : st.pendingRow id = [] := by
      rw [OmarState.pendingRow, hpending]
      rfl
    rw [hrow] at h
    exact absurd text_none h.actionNamed
  | some s =>
    refine ⟨s, rfl, ?_⟩
    rw [OmarState.pendingRow, hpending]
    rfl

/-- The lesson of such an outcome names a state and an action that the learner knows. -/
theorem lesson_of_allowed (h : Allowed s.row (rebuiltOutcome c e s.row) c.decisionId)
    (haction : knownAction s.action)
    (hlesson : lessonOf c s.row (rebuiltOutcome c e s.row) = .ok lesson) :
    lesson.stateKey ≠ "" ∧ lesson.action ∈ actions := by
  obtain ⟨hkey, hact, -⟩ := lessonOf_ok hlesson
  constructor
  · rw [hkey]
    intro hempty
    apply h.stateKey
    have hget : PyMap.get s.row "state_key" = words s.stateKey := rfl
    rw [hget, hempty]
    decide +kernel
  · rw [hact]
    exact haction.resolve_left h.actionNamed

theorem settled_of_allowed (h : Allowed s.row (rebuiltOutcome c e s.row) c.decisionId) :
    c.saysSettled e := by
  have hstatus := h.status
  rw [get_rebuilt c e s.row (by decide)] at hstatus
  exact (congrArg lower (text_words_textOf _)).symm.trans hstatus

/-- An outcome leaves everything as it is and reports no learning, or it tells the learner. -/
theorem observeOutcome_cases (hready : Ready st) (hcareful : Careful st (.outcome c)) :
    ((observeOutcome cfg st c).1 = st ∧ ¬ reportsLearned cfg st c) ∨ Told cfg st c := by
  cases hlearns : cfg.learns with
  | false =>
    refine .inl (quiet_of_result (by rw [observeOutcome, if_neg (by simp [hlearns])]) ?_)
    exact fun report h => by rw [← Except.ok.inj h]; rfl
  | true =>
    have hobserve : observeOutcome cfg st c = observeOutcome cfg st c := rfl
    conv at hobserve => rhs; rw [observeOutcome, if_pos hlearns]
    cases hevidence : c.evidence with
    | error e =>
      rw [hevidence] at hobserve
      exact .inl (quiet_of_result hobserve fun report h => nomatch h)
    | ok e =>
      rw [hevidence] at hobserve
      dsimp only at hobserve
      cases hgate : validateLearningTransition (st.pendingRow c.decisionId)
          (rebuiltOutcome c e (st.pendingRow c.decisionId)) c.decisionId with
      | some reason =>
        rw [hgate] at hobserve
        exact .inl (quiet_of_result hobserve fun report h => by rw [← Except.ok.inj h]; rfl)
      | none =>
        rw [hgate] at hobserve
        dsimp only at hobserve
        have hallowed := allowed_of_validate hgate
        obtain ⟨s, hpending, hrow⟩ := snapshot_of_allowed hallowed
        rw [hrow] at hallowed hobserve
        obtain ⟨hcarries, hconvertible⟩ := hcareful e hevidence
          (Dict.contains_iff.2 ⟨s, hpending⟩) (settled_of_allowed hallowed)
        obtain ⟨hid, haction⟩ := hready.snapshots c.decisionId s hpending
        cases hlesson : lessonOf c s.row (rebuiltOutcome c e s.row) with
        | error error =>
          rw [hlesson] at hobserve
          exact .inl (quiet_of_result hobserve fun report h => nomatch h)
        | ok lesson =>
          obtain ⟨hstate, hknown⟩ := lesson_of_allowed hallowed haction hlesson
          obtain ⟨learner, states, hlearn, hsound, hlearned⟩ :=
            @observe_learns cfg st.learner hready.sound _ _ hstate hknown lesson.reward
          rw [hlesson] at hobserve
          dsimp only at hobserve
          rw [hlearn] at hobserve
          dsimp only at hobserve
          obtain ⟨report, hreport⟩ := learnedReport_ok hconvertible hlesson
            (.learned lesson.stateKey lesson.action (clipReward lesson.reward)
              (st.learner.totalObservations + 1) states)
          rw [hreport] at hobserve
          have hattributed : Attributed e s := attributed_of_allowed hallowed hid hcarries
          exact .inr
            { attributed := ⟨e, s, hevidence, hpending, hattributed⟩
              pending := by rw [hobserve]
              learner := ⟨_, _, _, by rw [hobserve]; exact hlearned⟩
              sound := by rw [hobserve]; exact hsound
              report := ⟨report, by rw [hobserve]⟩ }

theorem Told.countsUp (h : Told cfg st c) : countsUp cfg st c := by
  obtain ⟨key, action, reward, hlearned⟩ := h.learner
  exact ⟨hlearned.total, key, by rw [hlearned.count, if_pos rfl]⟩

theorem Told.reportsLearned (h : Told cfg st c) : reportsLearned cfg st c := by
  obtain ⟨report, hreport⟩ := h.report
  exact ⟨_, hreport, rfl⟩

theorem not_countsUp_of_eq (h : (observeOutcome cfg st c).1 = st) : ¬ countsUp cfg st c := by
  rintro ⟨htotal, -⟩
  rw [h] at htotal
  omega

/-! ## Runs -/

theorem opens_cases {call : Call} (h : opens cfg call = some (id, s)) :
    ∃ d, call = .decision d ∧ d.decisionId = id ∧ d.snapshot = .ok s := by
  cases call with
  | outcome c => cases h
  | decision d =>
    refine ⟨d, rfl, ?_⟩
    simp only [opens] at h
    split at h
    · cases hsnapshot : d.snapshot with
      | error e =>
        rw [hsnapshot] at h
        cases h
      | ok snapshot =>
        rw [hsnapshot] at h
        obtain ⟨hid, hs⟩ := Prod.mk.inj (Option.some.inj h)
        exact ⟨hid, by rw [hs]⟩
    · cases h

theorem Ready.step (hready : Ready st) {call : Call} (hcareful : Careful st call) :
    Ready (step cfg st call) := by
  cases call with
  | decision d =>
    obtain ⟨hlearner, hpending⟩ := step_decision cfg st d
    refine ⟨by rw [hlearner]; exact hready.sound, fun id s hs => ?_⟩
    rcases hpending id s hs with hopens | ⟨hold, -⟩
    · obtain ⟨d', hd, hid, hsnapshot⟩ := opens_cases hopens
      obtain rfl := Call.decision.inj hd
      obtain ⟨hsid, hsaction⟩ := snapshot_of_ok hsnapshot
      exact ⟨hsid.trans hid, by rw [hsaction]; exact hcareful⟩
    · exact hready.snapshots id s hold
  | outcome c =>
    have hstep : Omar.step cfg st (.outcome c) = (observeOutcome cfg st c).1 := rfl
    rw [hstep]
    rcases observeOutcome_cases hready hcareful with ⟨hsame, -⟩ | htold
    · rw [hsame]
      exact hready
    · refine ⟨htold.sound, fun id s hs => ?_⟩
      rw [htold.pending, Dict.get?_erase] at hs
      split at hs
      · cases hs
      · exact hready.snapshots id s hs

/-- The snapshots are tickets: a decision opens one, an update uses it up. -/
theorem office (cfg : OmarConfig) :
    Tickets.Office (step cfg) (fun st call => Ready st ∧ Careful st call)
      (fun st id => st.pending.get? id) (opens cfg) (spends cfg) where
  origin := by
    intro st call id s ⟨hready, hcareful⟩ hheld
    cases call with
    | decision d =>
      refine ((step_decision cfg st d).2 id s hheld).imp_right fun ⟨hold, hnew⟩ => ?_
      exact ⟨hold, fun hspends => hspends, hnew⟩
    | outcome c =>
      have hstep : step cfg st (.outcome c) = (observeOutcome cfg st c).1 := rfl
      rw [hstep] at hheld
      right
      rcases observeOutcome_cases hready hcareful with ⟨hsame, -⟩ | htold
      · rw [hsame] at hheld
        refine ⟨hheld, fun ⟨_, hupdates⟩ => hupdates (by rw [hsame]), fun s' h => nomatch h⟩
      · rw [htold.pending, Dict.get?_erase] at hheld
        split at hheld
        · cases hheld
        · rename_i hid
          exact ⟨hheld, fun ⟨hsame, _⟩ => hid hsame.symm, fun s' h => nomatch h⟩

theorem ready_started {learner : Learner} (h : learner.Sound) : Ready (started learner) :=
  ⟨h, fun _ _ hs => nomatch hs⟩

theorem Ready.allSteps (hready : Ready st) {calls : List Call}
    (hcareful : AllSteps (Omar.step cfg) Careful st calls) :
    AllSteps (Omar.step cfg) (fun st call => Ready st ∧ Careful st call) st calls :=
  AllSteps.sound (fun _ _ hinv hok => ⟨⟨hinv, hok⟩, hinv.step hok⟩) hready hcareful

theorem kept_of_sound (cfg : OmarConfig) {l : Learner} (h : l.Sound) : Kept cfg l :=
  ⟨h.total, h.abs_value_le, l.reloaded, load_saved cfg h, sameLearning_reloaded h⟩

theorem gated_of_careful {learner : Learner} (hlearner : learner.Sound) {before after : List Call}
    (hcareful : AllSteps (step cfg) Careful (started learner) (before ++ .outcome c :: after)) :
    Gated cfg (started learner) before c := by
  have hready := ready_started hlearner
  obtain ⟨hbefore, hcall, -⟩ := (hready.allSteps hcareful).of_append
  rcases observeOutcome_cases hcall.1 hcall.2 with ⟨hsame, hreport⟩ | htold
  · constructor
    · exact ⟨fun h => absurd h hreport, fun h => absurd h (not_countsUp_of_eq hsame)⟩
    · exact fun hupdates => absurd (by rw [hsame]) hupdates
  · obtain ⟨e, s, hevidence, hpending, hattributed⟩ := htold.attributed
    constructor
    · exact ⟨fun _ => htold.countsUp, fun _ => htold.reportsLearned⟩
    · intro _
      refine ⟨htold.countsUp, e, s, hevidence, hattributed, ?_⟩
      exact (office cfg).openedLast (fun _ => rfl) hbefore hpending

/-- **The learning gate.** Over a run of careful calls the learner is told at most once for every
snapshot, by an outcome whose own record attributes it; reports and counts agree, and the books of
the learner stay in order. -/
theorem learningGate (cfg : OmarConfig) {learner : Learner} (hlearner : learner.Sound)
    {calls : List Call} (hcareful : AllSteps (step cfg) Careful (started learner) calls) :
    LearningGate cfg learner calls := by
  constructor
  · intro reached hreached
    have hinv := @reached_invariant _ _ _ _ Ready (fun _ _ hinv hok => hinv.step hok) _
      (ready_started hlearner) calls reached hcareful hreached
    exact kept_of_sound cfg hinv.sound
  · intro before c after hcalls
    subst hcalls
    exact gated_of_careful hlearner hcareful
  · intro before c between c' after hcalls hfirst hsecond hid
    subst hcalls
    obtain ⟨-, e, s, -, -, hopened⟩ := (gated_of_careful hlearner hcareful).updated hsecond
    rw [hid] at hopened
    obtain ⟨opener, hmem, hopens⟩ := hopened.reopened ⟨rfl, hfirst⟩ (fun h => nomatch h)
    obtain ⟨d, rfl, hd, -⟩ := opens_cases hopens
    exact ⟨d, hmem, hd⟩

/-! ## A decision and its outcome -/

def sampleConfig : OmarConfig where
  enabled := true
  realLearningEnabled := true
  realLearningAlpha := 12 / 100
  liveExplorationEpsilon := 0
  realLearningMinObservations := 20

/-- A decision under a canonical authority that expects 100 USD. -/
def sampleDecision : DecisionCall where
  decisionId := "decision-1"
  opportunityId := "opp-1"
  routeId := "route-1"
  action := "EXECUTE"
  stateKey := "state-1"
  context :=
    [("capital_authority_source", words "capital_engine_state"),
      ("capital_authority_status", words "authorized"),
      ("capital_authority_freshness", words "fresh")]
  metadata :=
    [("canonical_lineage", record
        [("decision_id", words "decision-1"), ("correlation_id", words "corr-1")]),
      ("expected_net_usd", floating 100)]
  expectedNetUsd := .leaf .none
  prior := []
  nowMs := 0

/-- An outcome with some fields of its settlement record besides the physical identities. -/
def sampleOutcome (fields : PyMap) : OutcomeCall where
  decisionId := "decision-1"
  ok := true
  realizedNetUsd := floating 70
  expectedNetUsd := floating 100
  amountInWei := .leaf (.int 100)
  gasCostUsd := .leaf .none
  slippageBps := .leaf .none
  latencyMs := .leaf .none
  routeId := ""
  txHash := "0xtx-1"
  outcomeTruthVerified := true
  metadata :=
    [("settlement", record
        ([("status", words "settled"), ("source", words "phase2_canonical_outcome_ledger"),
          ("execution_id", words "execution-1"), ("outcome_id", words "outcome-1"),
          ("sizing_id", words "sizing-1"), ("truth_verified", .leaf (.bool true))] ++ fields))]

/-- The fields that the gate compares with the snapshot. -/
def sampleAttribution : PyMap :=
  [("decision_id", words "decision-1"), ("correlation_id", words "corr-1"),
    ("opportunity_id", words "opp-1"), ("route_id", words "route-1"), ("action", words "EXECUTE"),
    ("expected_net_usd", floating 100)]

theorem learningGate_sample :
    LearningGate sampleConfig Learner.new
      [.decision sampleDecision, .outcome (sampleOutcome sampleAttribution)] := by
  refine learningGate sampleConfig sound_new ⟨.inr (by decide), ?_, trivial⟩
  intro e hevidence _ _
  obtain rfl := Except.ok.inj hevidence
  have hcarries : Carries (sampleOutcome sampleAttribution)
      ⟨(PyMap.get (sampleOutcome sampleAttribution).metadata "settlement").mapping, []⟩ :=
    { status := by decide, source := by decide, verified := by decide, decision := by decide
      correlation := by decide, action := by decide, opportunity := by decide, route := by decide
      expectedNet := ⟨floating 100, rfl, .inr rfl⟩ }
  have hconvertible : Convertible
      ⟨(PyMap.get (sampleOutcome sampleAttribution).metadata "settlement").mapping, []⟩ :=
    ⟨fun h => absurd h (by decide), fun h => absurd h (by decide)⟩
  exact ⟨hcarries, hconvertible⟩

/-- A record that names no decision, no correlation, no opportunity, no route and no action is
learned from: all of them are taken from the snapshot or from the call. -/
theorem not_learningGate_unattributed :
    ¬ ∀ calls, LearningGate sampleConfig Learner.new calls := by
  intro hall
  have hgate := (hall [.decision sampleDecision, .outcome (sampleOutcome [])]).gated
    [.decision sampleDecision] (sampleOutcome []) [] rfl
  have hupdates : updates sampleConfig
      (run (step sampleConfig) (started Learner.new) [.decision sampleDecision])
      (sampleOutcome []) := by
    intro hsame
    have htotal := congrArg Learner.totalObservations hsame
    revert htotal
    decide +kernel
  obtain ⟨-, e, s, hevidence, hattributed, before, call, since, hcalls, hopens, -⟩ :=
    hgate.updated hupdates
  have hcall : call = .decision sampleDecision := by
    have hmem : call ∈ [Call.decision sampleDecision] := by
      rw [hcalls]
      simp
    exact List.mem_singleton.1 hmem
  obtain ⟨d, hd, -, hsnapshot⟩ := opens_cases hopens
  obtain rfl := Call.decision.inj (hd.symm.trans hcall)
  have haction := hattributed.action
  rw [(snapshot_of_ok hsnapshot).2] at haction
  obtain rfl := Except.ok.inj hevidence
  revert haction
  decide +kernel

end SovereignCapital.Omar
