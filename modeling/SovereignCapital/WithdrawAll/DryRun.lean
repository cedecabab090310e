import SovereignCapital.WithdrawAll.Alone

/-! # Dry runs before an execution

A dry run prepares the calldata and hands nothing over, and yet it is saved as the execution of
its preview: the execution that follows is answered with the result of the dry run.
-/

namespace SovereignCapital.WithdrawAll

open Bytes Tx Runs

def Attempt.Dry (a : Attempt) : Prop := fieldBool a.payload "dry_run" false = some true

def afterCall (file : File) (a : Attempt) : File := (execute file a).file

/-- The dry runs change neither whether the execution is accepted nor what it broadcasts. -/
structure Inert (file : File) (dryRuns : List Attempt) (real : Attempt) : Prop where
  ok : (execute (run afterCall file dryRuns) real).ok = (execute file real).ok
  sent : (execute (run afterCall file dryRuns) real).sent = (execute file real).sent

def Writes (file : File) (a : Attempt) : Prop :=
  match beginExecute file.load a.payload a.nowMs with
  | .invalid => False
  | .replayed _ => False
  | .blocked _ => True
  | .planning _ dryRun => planned file.load a.rt dryRun ≠ .raises

def Tears (file : File) (a : Attempt) : Prop := a.save = .torn ∧ Writes file a

def Prepares (file : File) (a : Attempt) : Prop :=
  ∀ previewId dryRun, beginExecute file.load a.payload a.nowMs = .planning previewId dryRun →
    (∃ items, planned file.load a.rt dryRun = .prepared items) ∧ a.save = .written

/-- The call gets to its plan, which is prepared and written down. -/
def Marks (file : File) (a : Attempt) : Prop :=
  (∃ previewId dryRun, beginExecute file.load a.payload a.nowMs = .planning previewId dryRun)
    ∧ Prepares file a

def Refused (file : File) (a : Attempt) : Prop :=
  match beginExecute file.load a.payload a.nowMs with
  | .invalid => True
  | .blocked _ => True
  | .replayed result => result.ok = false
  | .planning _ dryRun =>
    match planned file.load a.rt dryRun with
    | .blocked _ => True
    | .prepared _ => a.save ≠ .written
    | .raises => False
    | .proving _ => ∃ reason, a.proof = .fails reason

/-! ## What an execution reads of the state -/

structure SamePreview (s s' : State) : Prop where
  enabled : s'.enabled = s.enabled
  approvedDestination : s'.approvedDestination = s.approvedDestination
  previewId : s'.lastPreviewId = s.lastPreviewId
  previewDigest : s'.lastPreviewDigest = s.lastPreviewDigest
  previewTsMs : s'.lastPreviewTsMs = s.lastPreviewTsMs

structure Alike (s s' : State) : Prop extends SamePreview s s' where
  executedPreviewId : s'.lastExecutedPreviewId = s.lastExecutedPreviewId
  executedResult : s'.lastExecutedResult = s.lastExecutedResult

theorem SamePreview.refl (s : State) : SamePreview s s := ⟨rfl, rfl, rfl, rfl, rfl⟩

variable {s'' : State} {file : File} {a : Attempt} {dryRuns : List Attempt}

theorem SamePreview.trans {s s' : State} (h : SamePreview s s') (h' : SamePreview s' s'') :
    SamePreview s s'' :=
  ⟨h'.enabled.trans h.enabled, h'.approvedDestination.trans h.approvedDestination,
    h'.previewId.trans h.previewId, h'.previewDigest.trans h.previewDigest,
    h'.previewTsMs.trans h.previewTsMs⟩

theorem Alike.refl (s : State) : Alike s s := ⟨SamePreview.refl s, rfl, rfl⟩

theorem Alike.trans {s s' : State} (h : Alike s s') (h' : Alike s' s'') : Alike s s'' :=
  ⟨h.toSamePreview.trans h'.toSamePreview, h'.executedPreviewId.trans h.executedPreviewId,
    h'.executedResult.trans h.executedResult⟩

/-- A call that is turned away leaves what an execution reads. -/
theorem alike_block (s : State) (reason : String) : Alike s (s.block reason) :=
  ⟨⟨rfl, rfl, rfl, rfl, rfl⟩, rfl, rfl⟩

section

variable {s s' : State}

theorem SamePreview.plan (h : SamePreview s s') (rt : Runtime) : plan rt s' = plan rt s := by
  obtain ⟨henabled, hdestination, -, -, -⟩ := h
  cases s
  cases s'
  cases henabled
  cases hdestination
  rfl

theorem SamePreview.itemCalldata (h : SamePreview s s') (item : Item) :
    itemCalldata s' item = itemCalldata s item := by
  simp only [WithdrawAll.itemCalldata, h.approvedDestination]

theorem SamePreview.planned (h : SamePreview s s') (rt : Runtime) (dryRun : Bool) :
    planned s' rt dryRun = planned s rt dryRun := by
  have hcalldata : WithdrawAll.itemCalldata s' = WithdrawAll.itemCalldata s :=
    funext h.itemCalldata
  simp only [WithdrawAll.planned, h.plan, h.previewDigest, hcalldata]

theorem Alike.beginExecute (h : Alike s s') (payload : PyDict) (nowMs : Int) :
    beginExecute s' payload nowMs = beginExecute s payload nowMs := by
  obtain ⟨⟨-, -, hpreviewId, -, hpreviewTsMs⟩, hexecuted, hresult⟩ := h
  cases s
  cases s'
  cases hpreviewId
  cases hpreviewTsMs
  cases hexecuted
  cases hresult
  rfl

/-- The loop hands over the same transactions and is answered alike. -/
theorem SamePreview.sendItems (h : SamePreview s s') (file file' : File) (a : Attempt)
    (previewId : Text) (results : List ResultItem) (item : Item) (rest : List Item) :
    (sendItems file' s' a previewId results item rest).ok
        = (sendItems file s a previewId results item rest).ok
      ∧ (sendItems file' s' a previewId results item rest).sent
        = (sendItems file s a previewId results item rest).sent := by
  have hcalldata := h.itemCalldata
  fun_induction WithdrawAll.sendItems file s a previewId results item rest with
  | case1 rest results item hnone =>
    rw [WithdrawAll.sendItems.eq_def, hcalldata, hnone]
    exact ⟨rfl, rfl⟩
  | case2 rest results item calldata hsome hanswer =>
    rw [WithdrawAll.sendItems.eq_def, hcalldata, hsome]
    simp only [hanswer, and_self]
  | case3 rest results item calldata hsome hanswer =>
    rw [WithdrawAll.sendItems.eq_def, hcalldata, hsome]
    simp only [hanswer, and_self]
  | case4 rest results item calldata hsome txHash receipt hanswer hrefused =>
    rw [WithdrawAll.sendItems.eq_def, hcalldata, hsome]
    simp only [hanswer, hrefused, persisted, and_self]
  | case5 rest results item calldata hsome txHash hash haccepted hanswer =>
    rw [WithdrawAll.sendItems.eq_def, hcalldata, hsome]
    simp only [hanswer, haccepted, and_self]
  | case6 rest results item calldata hsome txHash hash answer visible haccepted tx hreverted
      hanswer =>
      rw [WithdrawAll.sendItems.eq_def, hcalldata, hsome]
      simp only [hanswer, haccepted, persisted]
      rw [if_pos hreverted]
      exact ⟨rfl, rfl⟩
  | case7 results item calldata hsome txHash hash answer visible haccepted tx hreverted hanswer =>
    rw [WithdrawAll.sendItems.eq_def, hcalldata, hsome]
    simp only [hanswer, haccepted, persisted]
    rw [if_neg hreverted]
    exact ⟨rfl, rfl⟩
  | case8 results item calldata hsome txHash hash answer visible haccepted tx hreverted next rest
      hanswer ih =>
      rw [WithdrawAll.sendItems.eq_def, hcalldata, hsome]
      simp only [hanswer, haccepted]
      rw [if_neg hreverted]
      exact ⟨ih.1, congrArg (List.cons calldata) ih.2⟩

theorem SamePreview.executePlanned (h : SamePreview s s') (file file' : File) (a : Attempt)
    (previewId : Text) (dryRun : Bool) :
    (executePlanned file' s' a previewId dryRun).ok
        = (executePlanned file s a previewId dryRun).ok
      ∧ (executePlanned file' s' a previewId dryRun).sent
        = (executePlanned file s a previewId dryRun).sent := by
  unfold WithdrawAll.executePlanned
  rw [h.planned]
  cases WithdrawAll.planned s a.rt dryRun with
  | blocked reason => exact ⟨rfl, rfl⟩
  | prepared items => exact ⟨rfl, rfl⟩
  | raises => exact ⟨rfl, rfl⟩
  | proving items =>
    cases a.proof with
    | raises => exact ⟨rfl, rfl⟩
    | fails reason => exact ⟨rfl, rfl⟩
    | holds =>
      cases items with
      | nil => exact ⟨rfl, rfl⟩
      | cons item rest => exact h.sendItems file file' a previewId [] item rest

end

/-- **What is read alike is answered alike.** -/
theorem Alike.execute {file' : File} (h : Alike file.load file'.load) (a : Attempt) :
    (execute file' a).ok = (execute file a).ok ∧ (execute file' a).sent = (execute file a).sent := by
  unfold WithdrawAll.execute
  rw [h.beginExecute]
  cases WithdrawAll.beginExecute file.load a.payload a.nowMs with
  | invalid => exact ⟨rfl, rfl⟩
  | blocked reason => exact ⟨rfl, rfl⟩
  | replayed result => exact ⟨rfl, rfl⟩
  | planning previewId dryRun =>
    exact h.toSamePreview.executePlanned file file' a previewId dryRun

/-! ## What a dry run leaves -/

/-- The preview is written down as executed with a result that is `ok`. -/
structure Marked (s s' : State) : Prop extends SamePreview s s' where
  executedPreviewId : s'.lastExecutedPreviewId = s.lastPreviewId
  executedResult : ∃ result, s'.lastExecutedResult = some result ∧ result.ok = true

theorem planned_dry_ne_proving (s : State) (rt : Runtime) (items : List Item) :
    planned s rt true ≠ .proving items := by
  unfold planned
  dsimp only
  split
  · exact nofun
  split
  · exact nofun
  rw [if_pos (Or.inl rfl)]
  split <;> exact nofun

theorem beginExecute_dryRun {s : State} {payload : PyDict} {nowMs : Int} {previewId : Text}
    {dryRun : Bool} (h : beginExecute s payload nowMs = .planning previewId dryRun) :
    fieldBool payload "dry_run" false = some dryRun := by
  unfold beginExecute at h
  split at h
  · cases h
  split at h
  · cases h
  rename_i b hb
  dsimp only at h
  split at h
  · cases h
  split at h
  · cases h
  split at h
  · cases h
  split at h
  · split at h
    · cases h
    · cases h
      exact hb
  · cases h
    exact hb

theorem load_save_of_ne_torn (file : File) (s : State) {save : Save} (hsave : save ≠ .torn) :
    (file.save s save).load = s ∧ save = .written
      ∨ (file.save s save).load = file.load ∧ save = .unopened := by
  cases save with
  | written => exact .inl ⟨rfl, rfl⟩
  | unopened => exact .inr ⟨rfl, rfl⟩
  | torn => exact absurd rfl hsave

theorem alike_persisted {s : State} {save : Save} (ok : Bool) (sent : List Text)
    (hs : Alike file.load s) (hsave : save ≠ .torn) :
    Alike file.load (persisted file s save ok sent).file.load := by
  rcases load_save_of_ne_torn file s hsave with ⟨hload, -⟩ | ⟨hload, -⟩
  · rw [persisted, hload]
    exact hs
  · rw [persisted, hload]
    exact Alike.refl _

/-- **The step lemma.** A dry run that neither tears the file nor prepares its plan leaves what an
execution reads. -/
theorem alike_afterCall (hdry : a.Dry) (htears : ¬ Tears file a) (hmarks : ¬ Marks file a) :
    Alike file.load (afterCall file a).load := by
  unfold afterCall execute
  unfold Tears Writes at htears
  cases hbegin : beginExecute file.load a.payload a.nowMs with
  | invalid => exact Alike.refl _
  | blocked reason =>
    rw [hbegin] at htears
    exact alike_persisted false [] (alike_block _ _) fun htorn => htears ⟨htorn, trivial⟩
  | replayed result => exact Alike.refl _
  | planning previewId dryRun =>
    rw [hbegin] at htears
    obtain rfl : dryRun = true := Option.some.inj ((beginExecute_dryRun hbegin).symm.trans hdry)
    dsimp only [executePlanned] at htears ⊢
    cases hplanned : planned file.load a.rt true with
    | blocked reason =>
      rw [hplanned] at htears
      exact alike_persisted false [] (alike_block _ _) fun htorn => htears ⟨htorn, nofun⟩
    | prepared items =>
      rw [hplanned] at htears
      have htorn : a.save ≠ .torn := fun htorn => htears ⟨htorn, nofun⟩
      rcases load_save_of_ne_torn file (file.load.prepare previewId items) htorn with
        ⟨-, hwritten⟩ | ⟨hload, -⟩
      · refine absurd ⟨⟨previewId, true, hbegin⟩, fun p b hp => ?_⟩ hmarks
        cases hbegin.symm.trans hp
        exact ⟨⟨items, hplanned⟩, hwritten⟩
      · dsimp only [persisted]
        rw [hload]
        exact Alike.refl _
    | raises => exact Alike.refl _
    | proving items => exact absurd hplanned (planned_dry_ne_proving _ _ _)

/-- A call that prepares its plan writes the preview down as executed. -/
theorem Marks.marked (h : Marks file a) : Marked file.load (afterCall file a).load := by
  obtain ⟨⟨previewId, dryRun, hbegin⟩, hprepares⟩ := h
  obtain ⟨⟨items, hplanned⟩, hwritten⟩ := hprepares previewId dryRun hbegin
  obtain ⟨hlast, hne, -⟩ := beginExecute_planning hbegin
  have hload : (afterCall file a).load = file.load.prepare previewId items := by
    unfold afterCall execute
    rw [hbegin]
    dsimp only [executePlanned]
    rw [hplanned]
    dsimp only [persisted]
    rw [hwritten]
    rfl
  rw [hload]
  refine ⟨⟨rfl, rfl, rfl, rfl, rfl⟩, ?_, ?_⟩
  · simp only [State.prepare, State.withOutcome, if_neg hne]
    exact hlast.symm
  · simp only [State.prepare, State.withOutcome, if_neg hne]
    exact ⟨_, rfl, rfl⟩

/-- A preview that is written down does not get to its plan again. -/
theorem Marked.not_planning {s s' : State} (h : Marked s s') {payload : PyDict} {nowMs : Int}
    {previewId : Text} {dryRun : Bool} :
    beginExecute s' payload nowMs ≠ .planning previewId dryRun := by
  intro hbegin
  obtain ⟨hlast, -, hnot⟩ := beginExecute_planning hbegin
  obtain ⟨result, hresult, -⟩ := h.executedResult
  refine hnot ⟨?_, by rw [hresult]; exact nofun⟩
  rw [h.executedPreviewId, ← h.previewId, hlast]

theorem Marked.trans_alike {s s' : State} (h : Marked s s') (h' : Alike s' s'') : Marked s s'' where
  toSamePreview := h.toSamePreview.trans h'.toSamePreview
  executedPreviewId := h'.executedPreviewId.trans h.executedPreviewId
  executedResult := by
    rw [h'.executedResult]
    exact h.executedResult

theorem Alike.trans_marked {s s' : State} (h : Alike s s') (h' : Marked s' s'') : Marked s s'' where
  toSamePreview := h.toSamePreview.trans h'.toSamePreview
  executedPreviewId := h'.executedPreviewId.trans h.previewId
  executedResult := h'.executedResult

/-! ## Runs of dry runs -/

def Untorn (file : File) (dryRuns : List Attempt) : Prop :=
  AllSteps afterCall (fun file a => ¬ Tears file a) file dryRuns

/-- No dry run gets its plan written down. -/
def Unmarked (file : File) (dryRuns : List Attempt) : Prop :=
  AllSteps afterCall (fun file a => ¬ Marks file a) file dryRuns

theorem alike_run (hdry : ∀ a ∈ dryRuns, a.Dry) (huntorn : Untorn file dryRuns)
    (hunmarked : Unmarked file dryRuns) : Alike file.load (run afterCall file dryRuns).load := by
  induction dryRuns generalizing file with
  | nil => exact Alike.refl _
  | cons a dryRuns ih =>
    have hstep := alike_afterCall (hdry a List.mem_cons_self) huntorn.1 hunmarked.1
    have hrest := ih (fun b hb => hdry b (List.mem_cons_of_mem _ hb)) huntorn.2 hunmarked.2
    exact hstep.trans hrest

theorem marked_stays {s : State} (h : Marked s file.load) (hdry : ∀ a ∈ dryRuns, a.Dry)
    (huntorn : Untorn file dryRuns) : Marked s (run afterCall file dryRuns).load := by
  induction dryRuns generalizing file with
  | nil => exact h
  | cons a dryRuns ih =>
    have hnot : ¬ Marks file a := by
      rintro ⟨⟨previewId, dryRun, hbegin⟩, -⟩
      exact h.not_planning hbegin
    have hstep := alike_afterCall (hdry a List.mem_cons_self) huntorn.1 hnot
    exact ih (h.trans_alike hstep) (fun b hb => hdry b (List.mem_cons_of_mem _ hb)) huntorn.2

theorem marked_run (hdry : ∀ a ∈ dryRuns, a.Dry) (huntorn : Untorn file dryRuns)
    (hmarked : ¬ Unmarked file dryRuns) :
    Marked file.load (run afterCall file dryRuns).load
      ∧ ¬ file.load.Recorded file.load.lastPreviewId := by
  induction dryRuns generalizing file with
  | nil => exact absurd trivial hmarked
  | cons a dryRuns ih =>
    have hlater : ∀ b ∈ dryRuns, b.Dry := fun b hb => hdry b (List.mem_cons_of_mem _ hb)
    by_cases hmarks : Marks file a
    · have hmarked := marked_stays hmarks.marked hlater huntorn.2
      obtain ⟨⟨previewId, dryRun, hbegin⟩, -⟩ := hmarks
      obtain ⟨hlast, -, hnot⟩ := beginExecute_planning hbegin
      exact ⟨hmarked, by rw [hlast]; exact hnot⟩
    · have hstep := alike_afterCall (hdry a List.mem_cons_self) huntorn.1 hmarks
      obtain ⟨hrest, hnot⟩ := ih hlater huntorn.2 fun hrest => hmarked ⟨hmarks, hrest⟩
      refine ⟨hstep.trans_marked hrest, fun hrecorded => hnot ?_⟩
      rw [State.Recorded, hstep.executedPreviewId, hstep.executedResult, hstep.previewId]
      exact hrecorded

theorem beginExecute_lost {s : State} (h : s.lastPreviewId = []) (payload : PyDict) (nowMs : Int) :
    beginExecute s payload nowMs = .invalid
      ∨ beginExecute s payload nowMs = .blocked "preview_id_mismatch" := by
  unfold beginExecute
  split
  · exact .inl rfl
  split
  · exact .inl rfl
  · dsimp only
    rw [h, if_pos (Classical.em _)]
    exact .inr rfl

theorem lost_stays (h : file.load.lastPreviewId = []) (dryRuns : List Attempt) :
    (run afterCall file dryRuns).load.lastPreviewId = [] := by
  induction dryRuns generalizing file with
  | nil => exact h
  | cons a dryRuns ih =>
    apply ih
    unfold afterCall execute
    rcases beginExecute_lost h a.payload a.nowMs with hbegin | hbegin
    · rw [hbegin]
      exact h
    · rw [hbegin]
      dsimp only [persisted]
      cases a.save with
      | written => exact h
      | unopened => exact h
      | torn => rfl

theorem Tears.lost (h : Tears file a) (hdry : a.Dry) :
    (afterCall file a).load.lastPreviewId = [] := by
  obtain ⟨htorn, hwrites⟩ := h
  unfold Writes at hwrites
  unfold afterCall execute
  cases hbegin : beginExecute file.load a.payload a.nowMs with
  | invalid =>
    rw [hbegin] at hwrites
    exact hwrites.elim
  | blocked reason =>
    dsimp only [persisted]
    rw [htorn]
    rfl
  | replayed result =>
    rw [hbegin] at hwrites
    exact hwrites.elim
  | planning previewId dryRun =>
    rw [hbegin] at hwrites
    obtain rfl : dryRun = true := Option.some.inj ((beginExecute_dryRun hbegin).symm.trans hdry)
    dsimp only [executePlanned] at hwrites ⊢
    cases hplanned : planned file.load a.rt true with
    | blocked reason =>
      dsimp only [persisted]
      rw [htorn]
      rfl
    | prepared items =>
      dsimp only [persisted]
      rw [htorn]
      rfl
    | raises => exact absurd hplanned hwrites
    | proving items => exact absurd hplanned (planned_dry_ne_proving _ _ _)

theorem lost_run (hdry : ∀ a ∈ dryRuns, a.Dry) (htorn : ¬ Untorn file dryRuns) :
    (run afterCall file dryRuns).load.lastPreviewId = [] := by
  induction dryRuns generalizing file with
  | nil => exact absurd trivial htorn
  | cons a dryRuns ih =>
    by_cases htears : Tears file a
    · exact lost_stays (htears.lost (hdry a List.mem_cons_self)) dryRuns
    · exact ih (fun b hb => hdry b (List.mem_cons_of_mem _ hb)) fun hrest => htorn ⟨htears, hrest⟩

/-! ## The execution after them -/

/-- Whoever answers about the items, a transaction was handed over. -/
theorem sendItems_sent_ne_nil (file : File) (s : State) (a : Attempt) (previewId : Text)
    (results : List ResultItem) (item : Item) (rest : List Item)
    (hok : (sendItems file s a previewId results item rest).ok ≠ none) :
    (sendItems file s a previewId results item rest).sent ≠ [] := by
  rw [sendItems.eq_def] at hok ⊢
  cases hcalldata : itemCalldata s item with
  | none =>
    rw [hcalldata] at hok
    exact absurd rfl hok
  | some calldata =>
    cases hanswer : a.answers results.length with
    | notBuilt =>
      rw [hcalldata] at hok
      simp only [hanswer] at hok
      exact absurd rfl hok
    | noAnswer => simp only [ne_eq, List.cons_ne_nil, not_false_iff]
    | answer txHash receipt =>
      cases hhash : txHash.filter isTxHash with
      | none => simp only [hhash, persisted, ne_eq, List.cons_ne_nil, not_false_iff]
      | some hash =>
        cases receipt with
        | none => simp only [hhash, ne_eq, List.cons_ne_nil, not_false_iff]
        | some r =>
          simp only [hhash]
          split
          · exact List.cons_ne_nil _ _
          · cases rest with
            | nil => exact List.cons_ne_nil _ _
            | cons next rest => exact List.cons_ne_nil _ _

/-- An execution that is accepted and hands nothing over has prepared its plan. -/
theorem executePlanned_accepted_iff (file : File) (s : State) (a : Attempt) (previewId : Text)
    (dryRun : Bool) :
    (executePlanned file s a previewId dryRun).ok = some true
        ∧ (executePlanned file s a previewId dryRun).sent = []
      ↔ (∃ items, planned s a.rt dryRun = .prepared items) ∧ a.save = .written := by
  unfold executePlanned
  cases hplanned : planned s a.rt dryRun with
  | blocked reason => simp [persisted]
  | prepared items => simp [persisted]
  | raises => simp
  | proving items =>
    obtain ⟨-, hne⟩ := planned_proving hplanned
    cases a.proof with
    | raises => simp
    | fails reason => simp [persisted]
    | holds =>
      cases items with
      | nil => exact absurd rfl hne
      | cons item rest =>
        have hsent := sendItems_sent_ne_nil file s a previewId [] item rest
        constructor
        · rintro ⟨hok, hnil⟩
          exact absurd hnil (hsent (by rw [hok]; exact nofun))
        · rintro ⟨⟨items, hitems⟩, -⟩
          cases hitems

/-- An execution that is turned away hands nothing over. -/
theorem refused_iff (file : File) (a : Attempt) :
    (execute file a).ok = some false ∧ (execute file a).sent = [] ↔ Refused file a := by
  unfold execute Refused
  cases hbegin : beginExecute file.load a.payload a.nowMs with
  | invalid => simp
  | blocked reason => simp [persisted]
  | replayed result => simp
  | planning previewId dryRun =>
    dsimp only [executePlanned]
    cases hplanned : planned file.load a.rt dryRun with
    | blocked reason => simp [persisted]
    | prepared items => simp [persisted]
    | raises => simp
    | proving items =>
      obtain ⟨-, hne⟩ := planned_proving hplanned
      cases a.proof with
      | raises => simp
      | fails reason => simp [persisted]
      | holds =>
        cases items with
        | nil => exact absurd rfl hne
        | cons item rest =>
          have hsent := sendItems_sent_ne_nil file file.load a previewId [] item rest
          constructor
          · rintro ⟨hok, hnil⟩
            exact absurd hnil (hsent (by rw [hok]; exact nofun))
          · rintro ⟨reason, hreason⟩
            cases hreason

/-- Where the preview is written down, what would have got to its plan is answered with what is
written, and the rest begins as before. -/
theorem Marked.beginExecute {s s' : State} (h : Marked s s')
    (hnot : ¬ s.Recorded s.lastPreviewId) (payload : PyDict) (nowMs : Int) :
    (∃ previewId dryRun result, beginExecute s payload nowMs = .planning previewId dryRun
        ∧ beginExecute s' payload nowMs = .replayed result ∧ result.ok = true)
      ∨ (beginExecute s' payload nowMs = beginExecute s payload nowMs
        ∧ (beginExecute s payload nowMs = .invalid
          ∨ ∃ reason, beginExecute s payload nowMs = .blocked reason)) := by
  obtain ⟨result, hresult, hok⟩ := h.executedResult
  have hexpired : previewExpired s' nowMs = previewExpired s nowMs := by
    rw [previewExpired, previewExpired, h.previewTsMs]
  unfold WithdrawAll.beginExecute
  rw [h.previewId, hexpired, h.executedPreviewId, hresult]
  split
  · exact .inr ⟨rfl, .inl rfl⟩
  cases fieldBool payload "dry_run" false with
  | none => exact .inr ⟨rfl, .inl rfl⟩
  | some dryRun =>
    dsimp only
    by_cases hid : fieldText payload "preview_id" = []
        ∨ fieldText payload "preview_id" ≠ s.lastPreviewId
    · rw [if_pos hid, if_pos hid]
      exact .inr ⟨rfl, .inr ⟨_, rfl⟩⟩
    rw [if_neg hid, if_neg hid]
    have hsame : fieldText payload "preview_id" = s.lastPreviewId := not_not.1 (not_or.1 hid).2
    split
    · exact .inr ⟨rfl, .inr ⟨_, rfl⟩⟩
    split
    · exact .inr ⟨rfl, .inr ⟨_, rfl⟩⟩
    refine .inl ⟨fieldText payload "preview_id", dryRun, result, ?_, rfl, hok⟩
    split
    · rename_i hexecuted
      cases hnone : s.lastExecutedResult with
      | none => rfl
      | some r => exact absurd ⟨hexecuted.symm.trans hsame, by rw [hnone]; exact nofun⟩ hnot
    · rfl

/-- A preview that the dry runs have marked answers the execution. -/
theorem execute_marked {file' : File} (h : Marked file.load file'.load)
    (hnot : ¬ file.load.Recorded file.load.lastPreviewId) (real : Attempt) :
    ((execute file' real).ok = (execute file real).ok
        ∧ (execute file' real).sent = (execute file real).sent)
      ↔ Prepares file real := by
  unfold execute Prepares
  rcases h.beginExecute hnot real.payload real.nowMs with
    ⟨previewId, dryRun, result, hbegin, hbegin', hok⟩ | ⟨hsame, hturned⟩
  · rw [hbegin, hbegin']
    dsimp only
    rw [hok, eq_comm, eq_comm (a := []), executePlanned_accepted_iff]
    constructor
    · rintro hprepared p b hp
      cases hp
      exact hprepared
    · exact fun hall => hall previewId dryRun rfl
  · rw [hsame]
    rcases hturned with hbegin | ⟨reason, hbegin⟩
    · rw [hbegin]
      exact ⟨fun _ => nofun, fun _ => ⟨rfl, rfl⟩⟩
    · rw [hbegin]
      exact ⟨fun _ => nofun, fun _ => ⟨rfl, rfl⟩⟩

theorem execute_lost (h : file.load.lastPreviewId = []) (real : Attempt) :
    (execute file real).ok = some false ∧ (execute file real).sent = [] := by
  unfold execute
  rcases beginExecute_lost h real.payload real.nowMs with hbegin | hbegin
  · rw [hbegin]
    exact ⟨rfl, rfl⟩
  · rw [hbegin]
    exact ⟨rfl, rfl⟩

/-- **Dry runs are inert** exactly when none of them tears the file, and none gets its plan written
down unless the execution would itself be turned away before its plan or only prepare it; or when
the execution is turned away in any case. -/
theorem inert_iff (file : File) (dryRuns : List Attempt) (real : Attempt)
    (hdry : ∀ a ∈ dryRuns, a.Dry) :
    Inert file dryRuns real
      ↔ (Untorn file dryRuns ∧ (Unmarked file dryRuns ∨ Prepares file real))
        ∨ (¬ Untorn file dryRuns ∧ Refused file real) := by
  by_cases huntorn : Untorn file dryRuns
  · by_cases hunmarked : Unmarked file dryRuns
    · obtain ⟨hok, hsent⟩ := (alike_run hdry huntorn hunmarked).execute real
      exact ⟨fun _ => .inl ⟨huntorn, .inl hunmarked⟩, fun _ => ⟨hok, hsent⟩⟩
    · obtain ⟨hmarked, hnot⟩ := marked_run hdry huntorn hunmarked
      have hiff := execute_marked hmarked hnot real
      constructor
      · intro h
        exact .inl ⟨huntorn, .inr (hiff.1 ⟨h.ok, h.sent⟩)⟩
      · rintro (⟨-, hor⟩ | ⟨htorn, -⟩)
        · rcases hor with hun | hprepares
          · exact absurd hun hunmarked
          · obtain ⟨hok, hsent⟩ := hiff.2 hprepares
            exact ⟨hok, hsent⟩
        · exact absurd huntorn htorn
  · obtain ⟨hok, hsent⟩ := execute_lost (lost_run hdry huntorn) real
    constructor
    · intro h
      refine .inr ⟨huntorn, (refused_iff file real).1 ⟨?_, ?_⟩⟩
      · rw [← h.ok, hok]
      · rw [← h.sent, hsent]
    · rintro (⟨h, -⟩ | ⟨-, hrefused⟩)
      · exact absurd h huntorn
      · obtain ⟨hok', hsent'⟩ := (refused_iff file real).2 hrefused
        exact ⟨hok.trans hok'.symm, hsent.trans hsent'.symm⟩

/-! ## A sample -/

def sampleFile : File := (run step (Service.start .missing) (sampleEvents.take 3)).file

/-- The preview is executed, and each item is answered with a hash and mined. -/
def sampleReal : Attempt where
  payload := samplePayload
  nowMs := 2
  rt := sampleRuntime
  proof := .holds
  sendMode := "public".toList
  answers := fun _ => .answer (some (with0x (List.replicate 64 '2'))) (some (.absent, true))
  doneMs := 3
  save := .written

def sampleDryRun : Attempt :=
  { sampleReal with
    payload := PyDict.literal
      [("preview_id", .text "wipe_1"), ("confirm_text", .text "WITHDRAW EVERYTHING"),
        ("dry_run", .bool true)] }

def sampleMistyped : Attempt :=
  { sampleDryRun with
    payload := PyDict.literal
      [("preview_id", .text "wipe_1"), ("confirm_text", .text "withdraw"),
        ("dry_run", .bool true)] }

theorem inert_sampleMistyped : Inert sampleFile [sampleMistyped] sampleReal := by
  have hbegin : beginExecute sampleFile.load sampleMistyped.payload 2
      = .blocked "confirmation_text_mismatch" := rfl
  refine (inert_iff sampleFile [sampleMistyped] sampleReal ?_).2 (.inl ⟨⟨?_, trivial⟩, .inl
    ⟨?_, trivial⟩⟩)
  · intro a ha
    rw [List.mem_singleton.1 ha]
    rfl
  · rintro ⟨htorn, -⟩
    cases htorn
  · rintro ⟨⟨previewId, dryRun, hplanning⟩, -⟩
    cases hbegin.symm.trans hplanning

/-- **The dry run takes the place of the execution**: one transaction is broadcast without it and
none after it. -/
theorem not_inert_sample : (execute sampleFile sampleReal).sent.length = 1
    ∧ (execute (afterCall sampleFile sampleDryRun) sampleReal).sent = []
    ∧ ¬ ∀ (file : File) (dryRuns : List Attempt) (real : Attempt), (∀ a ∈ dryRuns, a.Dry) →
      Inert file dryRuns real := by
  have hone : (execute sampleFile sampleReal).sent.length = 1 := by decide +kernel
  have hnone : (execute (afterCall sampleFile sampleDryRun) sampleReal).sent = [] := by
    decide +kernel
  refine ⟨hone, hnone, fun hall => ?_⟩
  have hinert := hall sampleFile [sampleDryRun] sampleReal fun a ha => by
    rw [List.mem_singleton.1 ha]
    rfl
  have hsent := hinert.sent
  rw [run_cons, run_nil, hnone] at hsent
  rw [← hsent] at hone
  cases hone

end SovereignCapital.WithdrawAll
