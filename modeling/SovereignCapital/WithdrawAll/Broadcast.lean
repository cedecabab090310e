import SovereignCapital.Lib.Runs
import SovereignCapital.WithdrawAll.Service

/-! # Items handed to the broadcaster

Calls of the service wait for the network, and others run meanwhile. An execution is written
down only when it is over: what is handed over before is forgotten when a later step of it
raises, when its save fails or when the process restarts, and is not seen by an execution that
has begun before. (The ledger is written after the save; that it raises changes nothing here.)
-/

namespace SovereignCapital.WithdrawAll

open Bytes Tx Runs

/-! ## The machine -/

inductive Phase where
  | planning (dryRun : Bool)
  | proving (items : List Item)
  /-- the transaction of an item is being built -/
  | preparing (results : List ResultItem) (item : Item) (rest : List Item)
  /-- it was handed over -/
  | sending (results : List ResultItem) (item : Item) (rest : List Item)
  | assessing (results : List ResultItem) (item : Item) (rest : List Item) (txHash : Text)

def Phase.handed : Phase → Nat
  | .planning _ => 0
  | .proving _ => 0
  | .preparing results _ _ => results.length
  | .sending results _ _ => results.length + 1
  | .assessing results _ _ _ => results.length + 1

inductive Task where
  | preview (state : State)
  | execute (state : State) (previewId : Text) (phase : Phase)
  | over

/-- The preview a call is executing, with what was handed over of it. -/
def Task.execution : Task → Option (Text × Nat)
  | .execute _ previewId phase => some (previewId, phase.handed)
  | _ => none

structure Service where
  file : File
  tasks : List Task
  /-- the preview ids there have been -/
  drawn : List Text
  /-- the items that were handed over: preview and position in its plan -/
  sent : List (Text × Nat)

inductive Event where
  | configure (allowlist : List Text) (payload : PyDict) (save : Save)
  | beginPreview
  /-- the plan of a preview is made; `hex` is its random part -/
  | previewed (k : Nat) (rt : Runtime) (hex : Text) (nowMs : Int) (save : Save)
  | beginExecute (payload : PyDict) (nowMs : Int) (save : Save)
  | planned (k : Nat) (rt : Runtime) (save : Save)
  /-- the proof of the owner fails for a reason, or succeeds -/
  | proved (k : Nat) (reason : Option String) (nowMs : Int) (save : Save)
  | handOver (k : Nat)
  /-- the broadcaster accepts with a hash, or refuses -/
  | answered (k : Nat) (txHash : Option Text) (save : Save)
  | assessed (k : Nat) (answer : ReceiptAnswer) (visible : Bool) (sendMode : Text) (nowMs : Int)
      (save : Save)
  /-- an exception leaves a call that waits -/
  | raises (k : Nat)
  | restart

/-- A call goes on and waits again. -/
def Service.wait (s : Service) (k : Nat) (task : Task) : Service :=
  { s with tasks := s.tasks.set k task }

/-- A call ends without a save. -/
def Service.drop (s : Service) (k : Nat) : Service := s.wait k .over

def Service.close (s : Service) (k : Nat) (state : State) (save : Save) : Service :=
  { s.drop k with file := s.file.save state save }

def previewIdOf (hex : Text) : Text := "wipe_".toList ++ hex

def step (s : Service) (event : Event) : Service :=
  match event with
  | .configure allowlist payload save =>
    match configure allowlist s.file.load payload with
    | none => s
    | some state => { s with file := s.file.save state save }
  | .beginPreview => { s with tasks := s.tasks ++ [.preview s.file.load] }
  | .previewed k rt hex nowMs save =>
    match s.tasks[k]? with
    | some (.preview state) =>
      -- the ids are random and do not repeat
      if previewIdOf hex ∈ s.drawn then s
      else
        { s.close k (preview state (plan rt state) (previewIdOf hex) nowMs) save with
          drawn := previewIdOf hex :: s.drawn }
    | _ => s
  | .beginExecute payload nowMs save =>
    match beginExecute s.file.load payload nowMs with
    | .invalid => s
    | .blocked reason => { s with file := s.file.save (s.file.load.block reason) save }
    | .replayed _ => s
    | .planning previewId dryRun =>
      { s with tasks := s.tasks ++ [.execute s.file.load previewId (.planning dryRun)] }
  | .planned k rt save =>
    match s.tasks[k]? with
    | some (.execute state previewId (.planning dryRun)) =>
      match planned state rt dryRun with
      | .blocked reason => s.close k (state.block reason) save
      | .prepared items => s.close k (state.prepare previewId items) save
      | .raises => s.drop k
      | .proving items => s.wait k (.execute state previewId (.proving items))
    | _ => s
  | .proved k reason nowMs save =>
    match s.tasks[k]? with
    | some (.execute state previewId (.proving items)) =>
      match reason, items with
      | some reason, _ => s.close k (state.block reason) save
      | none, item :: rest => s.wait k (.execute state previewId (.preparing [] item rest))
      | none, [] => s.close k (state.executed previewId [] nowMs) save
    | _ => s
  | .handOver k =>
    match s.tasks[k]? with
    | some (.execute state previewId (.preparing results item rest)) =>
      { s.wait k (.execute state previewId (.sending results item rest)) with
        sent := (previewId, results.length) :: s.sent }
    | _ => s
  | .answered k txHash save =>
    match s.tasks[k]? with
    | some (.execute state previewId (.sending results item rest)) =>
      match txHash.filter isTxHash with
      | none => s.close k (state.sendFailed previewId results item) save
      | some txHash =>
        s.wait k (.execute state previewId (.assessing results item rest txHash))
    | _ => s
  | .assessed k answer visible sendMode nowMs save =>
    match s.tasks[k]? with
    | some (.execute state previewId (.assessing results item rest txHash)) =>
      match assessed state previewId results item rest
          (assessSubmittedTx answer visible txHash sendMode) nowMs with
      | .closes state' => s.close k state' save
      | .preparing results item rest =>
        s.wait k (.execute state previewId (.preparing results item rest))
    | _ => s
  | .raises k => s.drop k
  | .restart => { s with tasks := [] }

def Service.start (file : File) : Service where
  file := file
  tasks := []
  drawn := [file.load.lastPreviewId]
  sent := []

def Service.execution (s : Service) (k : Nat) : Option (Text × Nat) :=
  s.tasks[k]?.bind Task.execution

/-- An execution begins when no other one of its preview is waiting; and once it has handed items
over it does not raise, the process does not restart, and its save does not leave the file as it
was. -/
def Meets (s : Service) (event : Event) : Prop :=
  match event with
  | .beginExecute payload nowMs _ =>
    ∀ previewId dryRun, beginExecute s.file.load payload nowMs = .planning previewId dryRun →
      ∀ k n, s.execution k ≠ some (previewId, n)
  | .answered k txHash save =>
    ∀ state previewId results item rest,
      s.tasks[k]? = some (Task.execute state previewId (.sending results item rest)) →
        txHash.filter isTxHash = none → save ≠ .unopened
  | .assessed k answer visible sendMode _ save =>
    ∀ state previewId results item rest txHash,
      s.tasks[k]? = some (Task.execute state previewId (.assessing results item rest txHash)) →
        (assessSubmittedTx answer visible txHash sendMode).txStatus = .minedReverted ∨ rest = [] →
          save ≠ .unopened
  | .raises k => ∀ previewId n, s.execution k = some (previewId, n) → n = 0
  | .restart => ∀ k previewId n, s.execution k = some (previewId, n) → n = 0
  | _ => True

/-! ## The invariant -/

/-- The execution of a preview is written down. -/
def State.Recorded (s : State) (previewId : Text) : Prop :=
  s.lastExecutedPreviewId = previewId ∧ s.lastExecutedResult ≠ none

/-- Each item was handed over once; what a waiting execution has handed over are the first items
of its preview; and the executions that are over are written down where their preview can be
executed. -/
structure Inv (s : Service) : Prop where
  known : s.file.load.lastPreviewId = [] ∨ s.file.load.lastPreviewId ∈ s.drawn
  sentDrawn : ∀ previewId i, (previewId, i) ∈ s.sent → previewId ∈ s.drawn ∧ previewId ≠ []
  held : ∀ (k : Nat) state previewId phase, s.tasks[k]? = some (Task.execute state previewId phase) →
    state.lastPreviewId = previewId ∧ previewId ∈ s.drawn ∧ previewId ≠ []
  apart : ∀ previewId j m k n, s.execution j = some (previewId, m) →
    s.execution k = some (previewId, n) → j = k
  counted : ∀ previewId k n, s.execution k = some (previewId, n) →
    ∀ i, (previewId, i) ∈ s.sent ↔ i < n
  recorded : ∀ previewId i, (previewId, i) ∈ s.sent →
    (∀ k n, s.execution k ≠ some (previewId, n)) → s.file.load.lastPreviewId = previewId →
      s.file.load.Recorded previewId
  nodup : s.sent.Nodup

/-! ## Tasks -/

variable {task : Task} {state : State} {previewId : Text} {results : List ResultItem} {item : Item}
  {rest : List Item} {nowMs : Int}

theorem Service.execution_eq {s : Service} {k : Nat} (h : s.tasks[k]? = some task) :
    s.execution k = task.execution := by
  rw [Service.execution, h, Option.bind_some]

theorem Service.execution_nil (s : Service) (k : Nat) :
    Service.execution { s with tasks := [] } k = none := by
  rw [Service.execution, List.getElem?_nil, Option.bind_none]

theorem Service.execution_wait {s : Service} {k : Nat} {old : Task} (h : s.tasks[k]? = some old)
    (task : Task) (j : Nat) :
    (s.wait k task).execution j = if j = k then task.execution else s.execution j := by
  have hlt : k < s.tasks.length := (List.getElem?_eq_some_iff.1 h).1
  simp only [Service.execution, Service.wait, List.getElem?_set]
  by_cases hjk : j = k
  · subst hjk
    rw [if_pos rfl, if_pos hlt, if_pos rfl, Option.bind_some]
  · rw [if_neg (Ne.symm hjk), if_neg hjk]

theorem Service.tasks_wait {s : Service} {k j : Nat} {task' : Task}
    (h : (s.wait k task).tasks[j]? = some task') : task' = task ∨ s.tasks[j]? = some task' := by
  simp only [Service.wait, List.getElem?_set] at h
  split at h
  · split at h
    · exact .inl (Option.some.inj h).symm
    · cases h
  · exact .inr h

/-! ## How a step keeps it -/

namespace Inv

variable {s : Service} {k : Nat}

theorem withFile (h : Inv s) {file : File}
    (hknown : file.load.lastPreviewId = [] ∨ file.load.lastPreviewId ∈ s.drawn)
    (hrecorded : ∀ previewId i, (previewId, i) ∈ s.sent →
      (∀ k n, s.execution k ≠ some (previewId, n)) → file.load.lastPreviewId = previewId →
        file.load.Recorded previewId) :
    Inv { s with file := file } :=
  { h with
    known := hknown
    recorded := hrecorded }

theorem save (h : Inv s) (save : Save)
    (hstate : state.lastPreviewId = []
      ∨ (state.lastPreviewId = s.file.load.lastPreviewId
        ∧ ∀ previewId, s.file.load.Recorded previewId → state.Recorded previewId)) :
    Inv { s with file := s.file.save state save } := by
  cases save with
  | written =>
    rcases hstate with hempty | ⟨hid, hkept⟩
    · refine @withFile s h (.saved state) (.inl hempty) ?_
      intro p i hsent _ hlast
      exact absurd (hlast.symm.trans hempty) (h.sentDrawn p i hsent).2
    · refine @withFile s h (.saved state) (by rw [File.load_saved, hid]; exact h.known) ?_
      intro p i hsent hnone hlast
      exact hkept p (h.recorded p i hsent hnone (hid.symm.trans hlast))
  | unopened => exact h
  | torn =>
    apply h.withFile (.inl rfl)
    intro p i hsent _ hlast
    exact absurd hlast.symm (h.sentDrawn p i hsent).2

/-- An execution goes on without handing anything over. -/
theorem wait (h : Inv s) {phase phase' : Phase}
    (hold : s.tasks[k]? = some (.execute state previewId phase))
    (hsame : phase'.handed = phase.handed) : Inv (s.wait k (.execute state previewId phase')) := by
  have hexecution (j : Nat) :
      (s.wait k (.execute state previewId phase')).execution j = s.execution j := by
    rw [Service.execution_wait hold]
    split
    · rename_i hjk
      rw [hjk, Service.execution_eq hold, Task.execution, Task.execution, hsame]
    · rfl
  exact
    { known := h.known
      sentDrawn := h.sentDrawn
      held := by
        intro j state' p phase hj
        rcases Service.tasks_wait hj with htask | hj
        · cases htask
          exact h.held k _ _ _ hold
        · exact h.held j state' p phase hj
      apart := by
        simp only [hexecution]
        exact h.apart
      counted := by
        simp only [hexecution]
        exact h.counted
      recorded := by
        simp only [hexecution]
        exact h.recorded
      nodup := h.nodup }

theorem finished (h : Inv s) {old : Task} (hold : s.tasks[k]? = some old) {file : File}
    (hknown : file.load.lastPreviewId = [] ∨ file.load.lastPreviewId ∈ s.drawn)
    (hrecorded : ∀ previewId i, (previewId, i) ∈ s.sent →
      (∀ j n, j ≠ k → s.execution j ≠ some (previewId, n)) → file.load.lastPreviewId = previewId →
        file.load.Recorded previewId) :
    Inv { s.drop k with file := file } := by
  have hexecution (j : Nat) {previewId : Text} {n : Nat}
      (hj : Service.execution { s.drop k with file := file } j = some (previewId, n)) :
      s.execution j = some (previewId, n) ∧ j ≠ k := by
    replace hj : (s.wait k .over).execution j = some (previewId, n) := hj
    rw [Service.execution_wait hold] at hj
    split at hj
    · cases hj
    · exact ⟨hj, by assumption⟩
  exact
    { known := hknown
      sentDrawn := h.sentDrawn
      held := by
        intro j state previewId phase hj
        rcases Service.tasks_wait (s := s) hj with htask | hj
        · cases htask
        · exact h.held j state previewId phase hj
      apart := by
        intro previewId i m j n hi hj
        exact h.apart previewId i m j n (hexecution i hi).1 (hexecution j hj).1
      counted := by
        intro previewId j n hj
        exact h.counted previewId j n (hexecution j hj).1
      recorded := by
        intro previewId i hsent hnone hid
        apply hrecorded previewId i hsent ?_ hid
        intro j n hjk hj
        apply hnone j n
        show (s.wait k .over).execution j = _
        rw [Service.execution_wait hold, if_neg hjk]
        exact hj
      nodup := h.nodup }

/-- An execution is over. Where it has handed items over it was written down, and the save does
not leave the file as it was. -/
theorem close (h : Inv s) {state : State} {previewId : Text} {phase : Phase}
    (hold : s.tasks[k]? = some (.execute state previewId phase)) {state' : State} {save : Save}
    (hid : state'.lastPreviewId = state.lastPreviewId)
    (hwritten : phase.handed = 0 ∨ (state'.Recorded previewId ∧ save ≠ .unopened)) :
    Inv (s.close k state' save) := by
  obtain ⟨hstate, hdrawn, -⟩ := h.held k state previewId phase hold
  have hexecution : s.execution k = some (previewId, phase.handed) := Service.execution_eq hold
  have hnone (hzero : phase.handed = 0) (i : Nat) : (previewId, i) ∉ s.sent := by
    rw [h.counted previewId k _ hexecution, hzero]
    exact Nat.not_lt_zero i
  rw [hstate] at hid
  apply h.finished hold
  · cases save with
    | written => exact .inr (by rw [File.save_written, File.load_saved, hid]; exact hdrawn)
    | unopened => exact h.known
    | torn => exact .inl rfl
  · intro p i hsent hothers hlast
    cases save with
    | written =>
      rw [File.save_written, File.load_saved, hid] at hlast
      subst hlast
      rcases hwritten with hzero | ⟨hrecorded, -⟩
      · exact absurd hsent (hnone hzero i)
      · exact hrecorded
    | unopened =>
      rcases hwritten with hzero | ⟨-, hsave⟩
      · apply h.recorded p i hsent ?_ hlast
        intro j n hj
        by_cases hjk : j = k
        · rw [hjk, hexecution] at hj
          cases hj
          exact hnone hzero i hsent
        · exact hothers j n hjk hj
      · exact absurd rfl hsave
    | torn => exact absurd hlast.symm (h.sentDrawn p i hsent).2

theorem draw (h : Inv s) (previewId : Text) :
    Inv { s with drawn := previewId :: s.drawn } where
  known := h.known.imp_right (List.mem_cons_of_mem _)
  sentDrawn p i hsent := (h.sentDrawn p i hsent).imp_left (List.mem_cons_of_mem _)
  held j state p phase hj :=
    (h.held j state p phase hj).imp_right (And.imp_left (List.mem_cons_of_mem _))
  apart := h.apart
  counted := h.counted
  recorded := h.recorded
  nodup := h.nodup

theorem closePreview (h : Inv s) {state' : State} (hold : s.tasks[k]? = some (.preview state))
    (hnew : state'.lastPreviewId ∉ s.drawn) (save : Save) :
    Inv { s.close k state' save with drawn := state'.lastPreviewId :: s.drawn } := by
  have hdrawn := h.draw state'.lastPreviewId
  apply hdrawn.finished hold
  · cases save with
    | written => exact .inr List.mem_cons_self
    | unopened => exact hdrawn.known
    | torn => exact .inl rfl
  · intro p i hsent hothers hlast
    cases save with
    | written =>
      exact absurd (hlast ▸ (h.sentDrawn p i hsent).1) hnew
    | unopened =>
      apply h.recorded p i hsent ?_ hlast
      intro j n hj
      by_cases hjk : j = k
      · rw [hjk, Service.execution_eq hold] at hj
        cases hj
      · exact hothers j n hjk hj
    | torn => exact absurd hlast.symm (h.sentDrawn p i hsent).2

/-- A call begins and waits. An execution begins with a preview of which nothing was handed
over. -/
theorem begin (h : Inv s)
    (hheld : ∀ state previewId phase, task = .execute state previewId phase →
      state.lastPreviewId = previewId ∧ previewId ∈ s.drawn ∧ previewId ≠ [])
    (hnew : ∀ previewId n, task.execution = some (previewId, n) →
      n = 0 ∧ (∀ i, (previewId, i) ∉ s.sent) ∧ ∀ k m, s.execution k ≠ some (previewId, m)) :
    Inv { s with tasks := s.tasks ++ [task] } := by
  have hexecution (j : Nat) :
      Service.execution { s with tasks := s.tasks ++ [task] } j
        = if j = s.tasks.length then task.execution else s.execution j := by
    simp only [Service.execution, List.getElem?_append]
    by_cases hlt : j < s.tasks.length
    · rw [if_pos hlt, if_neg (Nat.ne_of_lt hlt)]
    · rw [if_neg hlt]
      split
      · rename_i hj
        simp [hj]
      · rename_i hj
        rw [List.getElem?_eq_none (by omega : s.tasks.length ≤ j),
          List.getElem?_eq_none (by simp; omega)]
  exact
    { known := h.known
      sentDrawn := h.sentDrawn
      held := by
        intro j state previewId phase hj
        rw [List.getElem?_append] at hj
        split at hj
        · exact h.held j state previewId phase hj
        · have htask := List.mem_singleton.1 (List.mem_of_getElem? hj)
          exact hheld state previewId phase htask.symm
      apart := by
        intro previewId i m j n hi hj
        rw [hexecution] at hi hj
        split at hi
        · split at hj
          · omega
          · exact absurd hj ((hnew previewId m hi).2.2 j n)
        · split at hj
          · exact absurd hi ((hnew previewId n hj).2.2 i m)
          · exact h.apart previewId i m j n hi hj
      counted := by
        intro previewId j n hj i
        rw [hexecution] at hj
        split at hj
        · obtain ⟨rfl, hnone, -⟩ := hnew previewId n hj
          exact ⟨fun hsent => absurd hsent (hnone i), fun hlt => absurd hlt (Nat.not_lt_zero i)⟩
        · exact h.counted previewId j n hj i
      recorded := by
        intro previewId i hsent hnone hlast
        apply h.recorded previewId i hsent ?_ hlast
        intro j n hj
        apply hnone j n
        rw [hexecution, if_neg]
        · exact hj
        · rintro rfl
          simp [Service.execution] at hj
      nodup := h.nodup }

theorem handOver (h : Inv s)
    (hold : s.tasks[k]? = some (.execute state previewId (.preparing results item rest))) :
    Inv { s.wait k (.execute state previewId (.sending results item rest)) with
      sent := (previewId, results.length) :: s.sent } := by
  have hheld := h.held k state previewId _ hold
  have hk : s.execution k = some (previewId, results.length) := Service.execution_eq hold
  have hexecution (j : Nat) :
      Service.execution { s.wait k (.execute state previewId (.sending results item rest)) with
          sent := (previewId, results.length) :: s.sent } j
        = if j = k then some (previewId, results.length + 1) else s.execution j :=
    Service.execution_wait hold _ j
  exact
    { known := h.known
      sentDrawn := by
        intro p i hsent
        rcases List.mem_cons.1 hsent with heq | hsent
        · cases heq
          exact hheld.2
        · exact h.sentDrawn p i hsent
      held := by
        intro j state' p phase hj
        rcases Service.tasks_wait (s := s) hj with htask | hj
        · cases htask
          exact hheld
        · exact h.held j state' p phase hj
      apart := by
        intro p i m j n hi hj
        rw [hexecution] at hi hj
        split at hi <;> split at hj
        · omega
        · rename_i hik hjk
          cases hi
          exact absurd (h.apart previewId j n k _ hj hk) hjk
        · rename_i hik hjk
          cases hj
          exact absurd (h.apart previewId i m k _ hi hk) hik
        · exact h.apart p i m j n hi hj
      counted := by
        intro p j n hj i
        rw [hexecution] at hj
        rw [List.mem_cons]
        split at hj
        · cases hj
          rw [h.counted previewId k _ hk, Prod.mk.injEq, eq_self_iff_true, true_and]
          omega
        · rename_i hjk
          rw [h.counted p j n hj, Prod.mk.injEq]
          constructor
          · rintro (⟨rfl, -⟩ | hlt)
            · exact absurd (h.apart p j n k _ hj hk) hjk
            · exact hlt
          · exact .inr
      recorded := by
        intro p i hsent hnone hlast
        rcases List.mem_cons.1 hsent with heq | hsent
        · cases heq
          exact absurd (by rw [hexecution, if_pos rfl]) (hnone k _)
        · apply h.recorded p i hsent ?_ hlast
          intro j n hj
          by_cases hjk : j = k
          · rw [hjk, hk] at hj
            cases hj
            exact hnone k _ (by rw [hexecution, if_pos rfl])
          · exact hnone j n (by rw [hexecution, if_neg hjk]; exact hj)
      nodup := by
        rw [List.nodup_cons, h.counted previewId k _ hk]
        exact ⟨Nat.lt_irrefl _, h.nodup⟩ }

/-- The process restarts when nothing was handed over by what waits. -/
theorem restart (h : Inv s) (hzero : ∀ k previewId n, s.execution k = some (previewId, n) → n = 0) :
    Inv { s with tasks := [] } where
  known := h.known
  sentDrawn := h.sentDrawn
  held := by
    intro k state previewId phase hk
    cases List.getElem?_nil.symm.trans hk
  apart := by
    intro previewId j m k n hj
    rw [Service.execution_nil] at hj
    cases hj
  counted := by
    intro previewId k n hk
    rw [Service.execution_nil] at hk
    cases hk
  recorded p i hsent _ hlast := by
    apply h.recorded p i hsent ?_ hlast
    intro k n hk
    have hlt := (h.counted p k n hk i).1 hsent
    rw [hzero k p n hk] at hlt
    exact Nat.not_lt_zero i hlt
  nodup := h.nodup

end Inv

/-! ## Sections -/

theorem lastPreviewId_configure {allowlist : List Text} {s s' : State} {payload : PyDict}
    (h : configure allowlist s payload = some s') : s'.lastPreviewId = [] := by
  simp only [configure, Option.bind_eq_bind, Option.bind_eq_some_iff, Option.pure_def,
    Option.some.injEq] at h
  obtain ⟨_, -, _, -, _, -, _, -, _, -, _, -, _, -, rfl⟩ := h
  rfl

/-- An execution that waits for its plan has passed the replay guard. -/
theorem beginExecute_planning {s : State} {payload : PyDict} {dryRun : Bool}
    (h : beginExecute s payload nowMs = .planning previewId dryRun) :
    s.lastPreviewId = previewId ∧ previewId ≠ [] ∧ ¬ s.Recorded previewId := by
  unfold beginExecute at h
  split at h
  · cases h
  split at h
  · cases h
  dsimp only at h
  split at h
  · cases h
  rename_i hid
  obtain ⟨hne, hlast⟩ := not_or.1 hid
  split at h
  · cases h
  split at h
  · cases h
  split at h
  · -- the preview was executed, but nothing is kept of it
    split at h
    · cases h
    · rename_i hresult
      cases h
      exact ⟨(not_not.1 hlast).symm, hne, fun hrecorded => hrecorded.2 hresult⟩
  · rename_i hexecuted
    cases h
    exact ⟨(not_not.1 hlast).symm, hne, fun hrecorded => hexecuted hrecorded.1.symm⟩

theorem State.recorded_withOutcome (s : State) (status : Status) (reasonCode : String)
    (result : Result) (hne : previewId ≠ []) :
    (s.withOutcome status reasonCode result previewId).Recorded previewId := by
  simp only [State.Recorded, State.withOutcome, if_neg hne]
  exact ⟨trivial, nofun⟩

/-- What closes an execution is written down in what it saves. -/
theorem assessed_closes {s s' : State} {tx : SubmittedTxStatus} (hne : previewId ≠ [])
    (h : assessed s previewId results item rest tx nowMs = .closes s') :
    s'.lastPreviewId = s.lastPreviewId ∧ s'.Recorded previewId
      ∧ (tx.txStatus = .minedReverted ∨ rest = []) := by
  unfold assessed at h
  split at h
  · rename_i hreverted
    cases h
    exact ⟨rfl, State.recorded_withOutcome _ _ _ _ hne, .inl hreverted⟩
  · cases rest with
    | nil =>
      cases h
      exact ⟨rfl, State.recorded_withOutcome _ _ _ _ hne, .inr rfl⟩
    | cons next rest => cases h

theorem assessed_preparing {s : State} {results' : List ResultItem} {next : Item}
    {rest' : List Item} {tx : SubmittedTxStatus}
    (h : assessed s previewId results item rest tx nowMs = .preparing results' next rest') :
    results'.length = results.length + 1 := by
  unfold assessed at h
  split at h
  · cases h
  · cases rest with
    | nil => cases h
    | cons next rest =>
      cases h
      rw [List.length_append, List.length_singleton]

/-! ## Steps -/

/-- **The step lemma**: what meets the condition keeps the invariant. -/
theorem inv_step {s : Service} (h : Inv s) (event : Event) (hmeets : Meets s event) :
    Inv (step s event) := by
  cases event with
  | configure allowlist payload save =>
    simp only [step]
    split
    · exact h
    · rename_i state hstate
      exact h.save save (.inl (lastPreviewId_configure hstate))
  | beginPreview =>
    apply h.begin
    · intro state previewId phase htask
      cases htask
    · intro previewId n hp
      cases hp
  | previewed k rt hex nowMs save =>
    simp only [step]
    split
    · rename_i state hk
      split
      · exact h
      · rename_i hnew
        exact h.closePreview hk hnew save
    · exact h
  | beginExecute payload nowMs save =>
    simp only [step]
    split
    · exact h
    · rename_i reason _
      exact h.save save (.inr ⟨rfl, fun _ hrecorded => hrecorded⟩)
    · exact h
    · rename_i previewId dryRun hbegin
      obtain ⟨hlast, hne, hnot⟩ := beginExecute_planning hbegin
      have hfree := hmeets previewId dryRun hbegin
      have hdrawn : previewId ∈ s.drawn := by
        rcases h.known with hempty | hdrawn
        · exact absurd (hlast.symm.trans hempty) hne
        · exact hlast ▸ hdrawn
      apply h.begin
      · intro state p phase htask
        cases htask
        exact ⟨hlast, hdrawn, hne⟩
      · intro p n hp
        cases hp
        refine ⟨rfl, ?_, hfree⟩
        intro i hsent
        exact hnot (h.recorded previewId i hsent hfree hlast)
  | planned k rt save =>
    simp only [step]
    split
    · rename_i state previewId dryRun hk
      split
      · exact h.close hk rfl (.inl rfl)
      · exact h.close hk rfl (.inl rfl)
      · exact @Inv.close s k h state previewId _ hk state .unopened rfl (.inl rfl)
      · exact h.wait hk rfl
    · exact h
  | proved k reason nowMs save =>
    simp only [step]
    split
    · rename_i state previewId items hk
      split
      · exact h.close hk rfl (.inl rfl)
      · exact h.wait hk rfl
      · exact h.close hk rfl (.inl rfl)
    · exact h
  | handOver k =>
    simp only [step]
    split
    · rename_i hk
      exact h.handOver hk
    · exact h
  | answered k txHash save =>
    simp only [step]
    split
    · rename_i state previewId results item rest hk
      split
      · rename_i hrefused
        have hsave := hmeets state previewId results item rest hk hrefused
        have hne := (h.held k _ _ _ hk).2.2
        exact h.close hk rfl (.inr ⟨State.recorded_withOutcome _ _ _ _ hne, hsave⟩)
      · exact h.wait hk rfl
    · exact h
  | assessed k answer visible sendMode nowMs save =>
    simp only [step]
    split
    · rename_i state previewId results item rest txHash hk
      have hheld := h.held k _ _ _ hk
      split
      · rename_i state' hcloses
        obtain ⟨hid, hrecorded, hlast⟩ := assessed_closes hheld.2.2 hcloses
        exact h.close hk hid (.inr ⟨hrecorded, hmeets _ _ _ _ _ _ hk hlast⟩)
      · rename_i results' next rest' hpreparing
        exact h.wait hk (assessed_preparing hpreparing)
    · exact h
  | raises k =>
    cases hk : s.tasks[k]? with
    | none =>
      have hsame : s.tasks.set k .over = s.tasks :=
        List.set_eq_of_length_le (List.getElem?_eq_none_iff.1 hk)
      simp only [step, Service.drop, Service.wait, hsame]
      exact h
    | some task =>
      apply h.finished hk h.known
      intro p i hsent hothers hlast
      apply h.recorded p i hsent ?_ hlast
      intro j n hj
      by_cases hjk : j = k
      · have hlt := (h.counted p j n hj i).1 hsent
        rw [hmeets p n (hjk ▸ hj)] at hlt
        exact Nat.not_lt_zero i hlt
      · exact hothers j n hjk hj
  | restart => exact h.restart hmeets

theorem inv_start (file : File) : Inv (Service.start file) where
  known := .inr List.mem_cons_self
  sentDrawn := nofun
  held := by
    intro k state previewId phase hk
    cases List.getElem?_nil.symm.trans hk
  apart := by
    intro previewId j m k n hj
    rw [Service.start, Service.execution, List.getElem?_nil] at hj
    cases hj
  counted := by
    intro previewId k n hk
    rw [Service.start, Service.execution, List.getElem?_nil] at hk
    cases hk
  recorded := nofun
  nodup := List.nodup_nil

/-- **An item is handed over at most once** in every state of a run whose steps meet the
condition. -/
theorem handed_over_once {file : File} {events reached : List Event}
    (hmeets : AllSteps step Meets (Service.start file) events) (hreached : reached <+: events) :
    (run step (Service.start file) reached).sent.Nodup :=
  (@reached_invariant Service Event step Meets Inv (fun _ event h => inv_step h event) _
    (inv_start file) events reached hmeets hreached).nodup

/-! ## A sample -/

/-- A preview, and its execution up to the first item. -/
def sampleEvents : List Event :=
  [.configure [] sampleConfig .written, .beginPreview,
    .previewed 0 sampleRuntime ['1'] 1 .written, .beginExecute samplePayload 2 .written,
    .planned 1 sampleRuntime .written, .proved 1 none 2 .written, .handOver 1]

/-- The process restarts before the broadcaster answers, and the preview is executed again. -/
def sampleRestart : List Event := sampleEvents ++
  [.restart, .beginExecute samplePayload 3 .written, .planned 0 sampleRuntime .written,
    .proved 0 none 3 .written, .handOver 0]

/-- The item of the sample is handed over once before the restart. -/
theorem handed_over_once_sample : (run step (Service.start .missing) sampleEvents).sent.Nodup := by
  have htasks : (run step (Service.start .missing) (sampleEvents.take 3)).tasks = [.over] := rfl
  have hfree : ∀ previewId k n,
      (run step (Service.start .missing) (sampleEvents.take 3)).execution k
        ≠ some (previewId, n) := by
    intro previewId k n hk
    rw [Service.execution, htasks] at hk
    cases k with
    | zero => cases hk
    | succ k => cases hk
  have hmeets : AllSteps step Meets (Service.start .missing) sampleEvents :=
    ⟨trivial, trivial, trivial, fun previewId _ _ => hfree previewId, trivial, trivial, trivial,
      trivial⟩
  exact handed_over_once hmeets (List.prefix_refl _)

/-- **It is handed over again after the restart.** -/
theorem handed_over_twice :
    ¬ ∀ (file : File) (events : List Event), (run step (Service.start file) events).sent.Nodup := by
  intro hall
  have hsent : (run step (Service.start .missing) sampleRestart).sent
      = [("wipe_1".toList, 0), ("wipe_1".toList, 0)] := by decide +kernel
  have hnodup := hall .missing sampleRestart
  rw [hsent] at hnodup
  revert hnodup
  decide

end SovereignCapital.WithdrawAll
