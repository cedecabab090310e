import SovereignCapital.Lib.Runs
import SovereignCapital.WithdrawAll.Refresh
import SovereignCapital.WithdrawAll.Service

/-! # Tracking of broadcast items

A broadcast item is tracked while the last result has it and the service says `submitted`: only
then does a refresh ask for it. Most calls write the status or the result of the service without
looking whether something is still open.
-/

namespace SovereignCapital.WithdrawAll.Tracking

open Bytes Tx Runs

/-! ## Calls -/

/-- Statuses a transaction does not leave. -/
def terminal : TxStatus → Bool
  | .minedSuccess => true
  | .minedReverted => true
  | .dropped => true
  | _ => false

inductive ItemAnswer where
  /-- a step raises, before or after the broadcaster has accepted the item -/
  | raises (accepted : Option Text)
  /-- the broadcaster answers, and the node is asked for the transaction -/
  | answered (txHash : Option Text) (node : NodeAnswer)

/-- What the sends of an execution come to: the transactions that were broadcast, with whether
they were found in a terminal status, and the state that is saved. -/
structure Sends where
  noted : List (Text × Bool)
  saved : Option State

/-- A transaction that was broadcast before. -/
def Sends.note (txHash : Text) (final : Bool) (sends : Sends) : Sends :=
  { sends with noted := (txHash, final) :: sends.noted }

/-- The loop over the items of an execution, with the results of the items before. -/
def sendItems (s : State) (previewId sendMode : Text) (nowMs : Int) (answers : Nat → ItemAnswer) :
    List ResultItem → List Item → Sends
  | results, [] => ⟨[], some (s.executed previewId results nowMs)⟩
  | results, item :: rest =>
    match answers results.length with
    | .raises accepted => ⟨accepted.toList.map fun txHash => (txHash, false), none⟩
    | .answered txHash node =>
      match txHash.filter isTxHash, node with
      | none, _ => ⟨[], some (s.sendFailed previewId results item)⟩
      | some txHash, none => ⟨[(txHash, false)], none⟩
      | some txHash, some (answer, visible) =>
        let tx := assessSubmittedTx answer visible txHash sendMode
        if tx.txStatus = .minedReverted then
          ⟨[(txHash, true)], some (s.receiptReverted previewId results item tx nowMs)⟩
        else
          (sendItems s previewId sendMode nowMs answers
            (results ++ [.submitted item tx]) rest).note txHash (terminal tx.txStatus)

/-- What an `execute` call meets. -/
structure Script where
  payload : PyDict
  nowMs : Int
  /-- nothing where making the plan raises -/
  rt : Option Runtime
  /-- the proof of the owner raises, fails for a reason, or succeeds -/
  proof : Option (Option String)
  sendMode : Text
  answers : Nat → ItemAnswer
  sentMs : Int
  save : Save

/-- What an `execute` call comes to before it sends. -/
inductive Execution where
  | silent
  | writes (s : State)
  | sends (previewId : Text) (items : List Item)
deriving DecidableEq

def executeBegins (s : State) (script : Script) : Execution :=
  match beginExecute s script.payload script.nowMs with
  | .invalid => .silent
  | .replayed _ => .silent
  | .blocked reason => .writes (s.block reason)
  | .planning previewId dryRun =>
    match script.rt with
    | none => .silent
    | some rt =>
      match planned s rt dryRun with
      | .raises => .silent
      | .blocked reason => .writes (s.block reason)
      | .prepared items => .writes (s.prepare previewId items)
      | .proving items =>
        match script.proof with
        | none => .silent
        | some (some reason) => .writes (s.block reason)
        | some none => .sends previewId items

/-- The file, and the broadcast transactions that were not found in a terminal status yet. -/
structure Service where
  file : File
  unsettled : List Text

inductive Call where
  | configure (allowlist : List Text) (payload : PyDict) (save : Save)
  | preview (rt : Option Runtime) (previewId : Text) (nowMs : Int) (save : Save)
  | execute (script : Script)
  | state (node : Node) (nowMs refreshMs : Int) (decaySave refreshSave : Save)

/-- A transaction is broadcast, or found in a terminal status. -/
def settle (unsettled : List Text) (noted : Text × Bool) : List Text :=
  if noted.2 then unsettled.filter (· ≠ noted.1) else noted.1 :: unsettled

def pollFinds (sendMode : Text) (answers : Nat → NodeAnswer) : Nat → List ResultItem → List Text
  | _, [] => []
  | i, item :: rest =>
    if item.refreshable then
      match answers i with
      | none => []
      | some (answer, visible) =>
        let tx := assessSubmittedTx answer visible item.txHash sendMode
        if tx.proofReason = .receiptLookupDegraded then []
        else if terminal tx.txStatus then
          item.txHash :: pollFinds sendMode answers (i + 1) rest
        else pollFinds sendMode answers (i + 1) rest
    else pollFinds sendMode answers (i + 1) rest

def refreshFinds (s : State) (node : Node) (nowMs : Int) : List Text :=
  if refreshTurn s node.readUrl nowMs = .polls then
    pollFinds node.sendMode node.answers 0 s.items
  else []

def Service.sends (s : Service) (script : Script) (previewId : Text) (items : List Item) : Sends :=
  sendItems s.file.load previewId script.sendMode script.sentMs script.answers [] items

def step (s : Service) (call : Call) : Service :=
  match call with
  | .configure allowlist payload save =>
    match configure allowlist s.file.load payload with
    | none => s
    | some s' => { s with file := s.file.save s' save }
  | .preview rt previewId nowMs save =>
    match rt with
    | none => s
    | some rt =>
      let s' := preview s.file.load (plan rt s.file.load) previewId nowMs
      { s with file := s.file.save s' save }
  | .execute script =>
    match executeBegins s.file.load script with
    | .silent => s
    | .writes s' => { s with file := s.file.save s' script.save }
    | .sends previewId items =>
      let sends := s.sends script previewId items
      { file := (sends.saved.map fun s' => s.file.save s' script.save).getD s.file
        unsettled := sends.noted.foldl settle s.unsettled }
  | .state node nowMs refreshMs decaySave refreshSave =>
    { file := refreshState s.file node nowMs refreshMs decaySave refreshSave
      unsettled := s.unsettled.filter
        (· ∉ refreshFinds (s.file.load.decayed nowMs) node refreshMs) }

/-- The service before anything is broadcast. -/
def Service.start (file : File) : Service := ⟨file, []⟩

/-! ## What must hold -/

/-- The service says `submitted`, and the last result has the transaction for the refresh. -/
def Tracks (s : State) (txHash : Text) : Prop :=
  s.lastStatus = .submitted ∧ ∃ item ∈ s.items, item.txHash = txHash ∧ item.refreshable = true

/-- Every transaction that is not found in a terminal status is tracked. -/
def Tracked (s : Service) : Prop := ∀ txHash ∈ s.unsettled, Tracks s.file.load txHash

/-- The broadcaster accepts an item, and the node does not find it reverted. -/
def ItemAnswer.accepts (sendMode : Text) : ItemAnswer → Bool
  | .answered (some txHash) (some (answer, visible)) =>
    isTxHash txHash
      && (assessSubmittedTx answer visible txHash sendMode).txStatus ≠ .minedReverted
  | _ => false

/-- While something is unsettled, nothing but `configure` and a refresh saves, a refresh finds no
item reverted before it has settled everything, and no save is torn. An execution that broadcasts
what is not settled at once begins when nothing is unsettled, has all its items accepted and none
reverted, and is saved. -/
def Meets (s : Service) (call : Call) : Prop :=
  match call with
  | .configure _ _ save => s.unsettled = [] ∨ save ≠ .torn
  | .preview rt _ _ save => s.unsettled = [] ∨ rt.isNone ∨ save = .unopened
  | .execute script =>
    match executeBegins s.file.load script with
    | .silent => True
    | .writes _ => s.unsettled = [] ∨ script.save = .unopened
    | .sends previewId items =>
      let sends := s.sends script previewId items
      ((∀ noted ∈ sends.noted, noted.2 = true)
        ∧ (s.unsettled = [] ∨ sends.saved.isNone ∨ script.save = .unopened))
      ∨ (s.unsettled = [] ∧ script.save = .written
        ∧ ∀ i < items.length, (script.answers i).accepts script.sendMode = true)
  | .state node nowMs refreshMs decaySave refreshSave =>
    let decayed := s.file.load.decayed nowMs
    (∀ txHash ∈ s.unsettled, txHash ∈ refreshFinds decayed node refreshMs)
    ∨ (decaySave ≠ .torn ∧ refreshSave ≠ .torn
      ∧ ∀ items, poll node.sendMode node.answers 0 decayed.items = .items items →
        ∀ item ∈ items, item.txStatus ≠ some .minedReverted)

/-! ## The items of a poll -/

variable {txHash sendMode : Text} {item : ResultItem} {items : List ResultItem} {s s' : State}
  {nowMs : Int}

theorem refreshable_of_assessed {answer : ReceiptAnswer} {visible : Bool}
    (h : terminal (assessSubmittedTx answer visible txHash sendMode).txStatus = false) :
    (assessSubmittedTx answer visible txHash sendMode).txStatus
      ∈ [TxStatus.pending, .sent, .receiptUnavailable] := by
  have hmem := assessSubmittedTx_txStatus answer visible txHash sendMode
  generalize (assessSubmittedTx answer visible txHash sendMode).txStatus = status at h hmem
  cases status <;> simp_all [terminal]

theorem merge_refreshable {answer : ReceiptAnswer} {visible : Bool} (h : item.refreshable = true)
    (hopen : terminal (assessSubmittedTx answer visible item.txHash sendMode).txStatus = false) :
    (item.merge (assessSubmittedTx answer visible item.txHash sendMode)).txHash = item.txHash
      ∧ (item.merge (assessSubmittedTx answer visible item.txHash sendMode)).refreshable = true := by
  obtain ⟨planned, tx, rfl⟩ := ResultItem.submitted_of_refreshable h
  have hitem := ResultItem.refreshable_submitted.1 h
  have hstatus := refreshable_of_assessed hopen
  rw [ResultItem.merge, ResultItem.refreshable_submitted, ResultItem.txHash, ResultItem.txHash, mergeTxProgress]
  split
  · exact ⟨rfl, hitem⟩
  · rw [assessSubmittedTx_txHash, ite_self]
    exact ⟨rfl, hitem.1, hstatus⟩

/-- **What a poll does not settle is still there to be asked for.** -/
theorem poll_tracks {answers : Nat → NodeAnswer} {items' : List ResultItem} {i : Nat}
    (h : poll sendMode answers i items = .items items') (hitem : item ∈ items)
    (hrefreshable : item.refreshable = true) :
    item.txHash ∈ pollFinds sendMode answers i items
      ∨ ∃ item' ∈ items', item'.txHash = item.txHash ∧ item'.refreshable = true := by
  induction items generalizing i items' with
  | nil => cases hitem
  | cons first rest ih =>
    rw [poll] at h
    rw [pollFinds]
    split at h
    · rename_i hfirst
      rw [if_pos hfirst]
      cases hanswer : answers i with
      | none =>
        rw [hanswer] at h
        cases h
      | some answered =>
        obtain ⟨answer, visible⟩ := answered
        simp only [hanswer] at h ⊢
        by_cases hproof : (assessSubmittedTx answer visible first.txHash
            sendMode).proofReason = .receiptLookupDegraded
        · rw [if_pos hproof] at h
          cases h
        · rw [if_neg hproof] at h ⊢
          obtain ⟨rest', hrest, rfl⟩ := Polled.cons_eq_items h
          rcases List.mem_cons.1 hitem with rfl | hitem
          · by_cases hfinal : terminal (assessSubmittedTx answer visible item.txHash
                sendMode).txStatus = true
            · left
              rw [if_pos hfinal]
              exact List.mem_cons_self
            · right
              rw [Bool.not_eq_true] at hfinal
              exact ⟨_, List.mem_cons_self, merge_refreshable hrefreshable hfinal⟩
          · rcases ih hrest hitem with hfound | ⟨item', hmem, hsame⟩
            · left
              split
              · exact List.mem_cons_of_mem _ hfound
              · exact hfound
            · exact .inr ⟨item', List.mem_cons_of_mem _ hmem, hsame⟩
    · rename_i hfirst
      rw [if_neg hfirst]
      obtain ⟨rest', hrest, rfl⟩ := Polled.cons_eq_items h
      rcases List.mem_cons.1 hitem with rfl | hitem
      · exact absurd hrefreshable hfirst
      · rcases ih hrest hitem with hfound | ⟨item', hmem, hsame⟩
        · exact .inl hfound
        · exact .inr ⟨item', List.mem_cons_of_mem _ hmem, hsame⟩

/-! ## Refreshes -/

/-- Without a reverted item and with one that is not final the result stays `submitted`. -/
theorem submittedResult_submitted (hreverted : ∀ item ∈ items, item.txStatus ≠ some .minedReverted)
    (hitem : item ∈ items) (hopen : item.refreshable = true) :
    (submittedResult items).1 = .submitted ∧ (submittedResult items).2.2.items = items := by
  have hnone : items.find? (fun item => item.txStatus = some .minedReverted) = none := by
    rw [List.find?_eq_none]
    intro item hitem
    simpa using hreverted item hitem
  have hnotall : ¬ (items ≠ [] ∧ items.all (fun item => item.txStatus = some .minedSuccess) = true) := by
    rintro ⟨-, hall⟩
    obtain ⟨planned, tx, rfl⟩ := ResultItem.submitted_of_refreshable hopen
    have hsuccess := List.all_eq_true.1 hall _ hitem
    have hstatus := (ResultItem.refreshable_submitted.1 hopen).2
    simp only [ResultItem.txStatus, Option.some.injEq, decide_eq_true_eq] at hsuccess
    rw [hsuccess] at hstatus
    simp at hstatus
  rw [submittedResult, hnone]
  dsimp only
  rw [if_neg hnotall]
  exact ⟨rfl, rfl⟩

/-- A state that differs in the record of its refreshes tracks the same. -/
theorem Tracks.congr (h : Tracks s txHash) (hstatus : s'.lastStatus = s.lastStatus)
    (hresult : s'.lastResult = s.lastResult) : Tracks s' txHash := by
  rw [Tracks, State.items, hstatus, hresult]
  exact h

theorem refreshed_tracks (h : Tracks s txHash)
    (hreverted : ∀ item ∈ items, item.txStatus ≠ some .minedReverted)
    (hitem : ∃ item ∈ items, item.txHash = txHash ∧ item.refreshable = true) :
    Tracks (s.refreshed nowMs items) txHash := by
  obtain ⟨item, hmem, hhash, hopen⟩ := hitem
  obtain ⟨hstatus, hitems⟩ := submittedResult_submitted hreverted hmem hopen
  unfold State.refreshed
  dsimp only
  split
  · refine ⟨hstatus, item, ?_, hhash, hopen⟩
    show item ∈ (submittedResult items).2.2.items
    rw [hitems]
    exact hmem
  · exact h.congr rfl rfl

theorem refreshSubmitted_tracks {node : Node} (h : Tracks s txHash)
    (hsaved : refreshSubmitted s node nowMs = some s') (hnot : txHash ∉ refreshFinds s node nowMs)
    (hreverted : ∀ items, poll node.sendMode node.answers 0 s.items = .items items →
      ∀ item ∈ items, item.txStatus ≠ some .minedReverted) :
    Tracks s' txHash := by
  rw [refreshSubmitted] at hsaved
  split at hsaved
  · dsimp only [setIdleRefreshMetadata] at hsaved
    split at hsaved
    · cases hsaved
      exact h.congr rfl rfl
    · cases hsaved
  · cases hsaved
  · cases hsaved
    exact h.congr rfl rfl
  · rename_i hturn
    rw [refreshFinds, if_pos hturn] at hnot
    split at hsaved
    · cases hsaved
    · cases hsaved
      exact h.congr rfl rfl
    · rename_i items hpoll
      cases hsaved
      apply refreshed_tracks h (hreverted items hpoll)
      obtain ⟨-, item, hmem, rfl, hopen⟩ := h
      exact (poll_tracks hpoll hmem hopen).resolve_left hnot

theorem save_tracks {file : File} {save : Save} (hfile : Tracks file.load txHash)
    (hs : Tracks s txHash) (hsave : save ≠ .torn) : Tracks (file.save s save).load txHash := by
  cases save with
  | written => exact hs
  | unopened => exact hfile
  | torn => exact absurd rfl hsave

theorem refreshState_tracks {file : File} {node : Node} {refreshMs : Int}
    {decaySave refreshSave : Save} (h : Tracks file.load txHash)
    (hnot : txHash ∉ refreshFinds (file.load.decayed nowMs) node refreshMs)
    (hdecay : decaySave ≠ .torn) (hrefresh : refreshSave ≠ .torn)
    (hreverted : ∀ items, poll node.sendMode node.answers 0 (file.load.decayed nowMs).items
      = .items items → ∀ item ∈ items, item.txStatus ≠ some .minedReverted) :
    Tracks (refreshState file node nowMs refreshMs decaySave refreshSave).load txHash := by
  have hdecayed : Tracks (file.load.decayed nowMs) txHash :=
    h.congr (State.lastStatus_decayed _ _) (State.lastResult_decayed _ _)
  have hfile : Tracks (if (decayRefreshFailure file.load.failure nowMs).2 then
      file.save (file.load.decayed nowMs) decaySave else file).load txHash := by
    split
    · exact save_tracks h hdecayed hdecay
    · exact h
  rw [refreshState]
  split
  · exact hfile
  · rename_i s' hsaved
    exact save_tracks hfile (refreshSubmitted_tracks hdecayed hsaved hnot hreverted) hrefresh

/-! ## Sends -/

theorem mem_foldl_settle {noted : List (Text × Bool)} {unsettled : List Text}
    (h : txHash ∈ noted.foldl settle unsettled) : (txHash, false) ∈ noted ∨ txHash ∈ unsettled := by
  induction noted generalizing unsettled with
  | nil => exact .inr h
  | cons first rest ih =>
    rcases ih h with hrest | hfirst
    · exact .inl (List.mem_cons_of_mem _ hrest)
    · obtain ⟨firstHash, final⟩ := first
      unfold settle at hfirst
      split at hfirst
      · exact .inr (List.mem_filter.1 hfirst).1
      · rename_i hfinal
        rcases List.mem_cons.1 hfirst with rfl | hold
        · left
          rw [show final = false by simpa using hfinal]
          exact List.mem_cons_self
        · exact .inr hold

theorem minedSuccess_of_submissionState (h : submissionState items = .single .minedSuccess)
    (hitem : item ∈ items) {status : TxStatus} (hstatus : item.txStatus = some status) :
    status = .minedSuccess := by
  have hmem : status ∈ items.filterMap ResultItem.txStatus :=
    List.mem_filterMap.2 ⟨item, hitem, hstatus⟩
  unfold submissionState at h
  split at h
  · cases h
  · rename_i first rest hstatuses
    rw [hstatuses] at hmem
    split at h
    · rename_i hall
      cases h
      rcases List.mem_cons.1 hmem with rfl | hmem
      · rfl
      · simpa using List.all_eq_true.1 hall status hmem
    · cases h

theorem executed_tracks (s : State) (previewId : Text) {results : List ResultItem} (nowMs : Int)
    (hitem : item ∈ results) (hopen : item.refreshable = true) :
    Tracks (s.executed previewId results nowMs) item.txHash := by
  have hnot : submissionState results ≠ .single .minedSuccess := by
    intro hsuccess
    obtain ⟨planned, tx, rfl⟩ := ResultItem.submitted_of_refreshable hopen
    have hstatus := (ResultItem.refreshable_submitted.1 hopen).2
    rw [minedSuccess_of_submissionState hsuccess hitem rfl] at hstatus
    simp at hstatus
  constructor
  · simp only [State.executed, State.withOutcome, if_neg hnot]
  · exact ⟨item, hitem, rfl, hopen⟩

theorem sendItems_accepted {s : State} {previewId sendMode : Text} {nowMs : Int}
    {answers : Nat → ItemAnswer} {items : List Item} {results : List ResultItem}
    (h : ∀ i < items.length, (answers (results.length + i)).accepts sendMode = true) :
    ∃ results', (sendItems s previewId sendMode nowMs answers results items).saved
        = some (s.executed previewId results' nowMs)
      ∧ results ⊆ results'
      ∧ ∀ txHash,
        (txHash, false) ∈ (sendItems s previewId sendMode nowMs answers results items).noted →
          ∃ item ∈ results', item.txHash = txHash ∧ item.refreshable = true := by
  induction items generalizing results with
  | nil => exact ⟨results, rfl, List.Subset.refl _, nofun⟩
  | cons item rest ih =>
    have hfirst : (answers results.length).accepts sendMode = true := h 0 (Nat.zero_lt_succ _)
    unfold ItemAnswer.accepts at hfirst
    split at hfirst
    · rename_i txHash answer visible hanswer
      rw [Bool.and_eq_true, decide_eq_true_eq] at hfirst
      obtain ⟨hhash, hreverted⟩ := hfirst
      obtain ⟨results', hsaved, hsub, hnoted⟩ :=
        @ih (results ++ [.submitted item (assessSubmittedTx answer visible txHash sendMode)]) <| by
          intro i hi
          rw [List.length_append, List.length_singleton, Nat.add_assoc, Nat.add_comm 1 i]
          exact h (i + 1) (Nat.succ_lt_succ hi)
      refine ⟨results', ?_, fun item hitem => hsub (List.mem_append_left _ hitem), ?_⟩
      · simp only [sendItems, hanswer, Option.filter, hhash, if_true, if_neg hreverted,
          Sends.note]
        exact hsaved
      · intro txHash' hmem
        simp only [sendItems, hanswer, Option.filter, hhash, if_true, if_neg hreverted,
          Sends.note, List.mem_cons] at hmem
        rcases hmem with heq | hmem
        · obtain ⟨rfl, hopen⟩ := Prod.mk.inj heq
          refine ⟨_, hsub (List.mem_append_right _ List.mem_cons_self), ?_, ?_⟩
          · exact assessSubmittedTx_txHash _ _ _ _
          · rw [ResultItem.refreshable_submitted, assessSubmittedTx_txHash]
            exact ⟨hhash, refreshable_of_assessed hopen.symm⟩
        · exact hnoted txHash' hmem
    · cases hfirst

/-! ## Steps -/

theorem configure_tracks {allowlist : List Text} {payload : PyDict} (h : Tracks s txHash)
    (hconfigure : configure allowlist s payload = some s') : Tracks s' txHash := by
  simp only [configure, Option.bind_eq_bind, Option.bind_eq_some_iff, Option.pure_def,
    Option.some.injEq] at hconfigure
  obtain ⟨_, -, _, -, _, -, _, -, _, -, _, -, _, -, rfl⟩ := hconfigure
  exact h.congr rfl rfl

/-- **The step lemma**: what meets the condition keeps everything tracked. -/
theorem tracked_step {s : Service} (h : Tracked s) (call : Call) (hmeets : Meets s call) :
    Tracked (step s call) := by
  intro txHash hmem
  cases call with
  | configure allowlist payload save =>
    simp only [step] at hmem ⊢
    split at hmem
    · exact h txHash hmem
    · rename_i s' hconfigure
      rcases hmeets with hnone | hsave
      · rw [show s.unsettled = [] from hnone] at hmem
        cases hmem
      · exact save_tracks (h txHash hmem) (configure_tracks (h txHash hmem) hconfigure) hsave
  | preview rt previewId nowMs save =>
    cases rt with
    | none => exact h txHash hmem
    | some rt =>
      replace hmem : txHash ∈ s.unsettled := hmem
      rcases hmeets with hnone | hraises | rfl
      · rw [hnone] at hmem
        cases hmem
      · cases hraises
      · exact h txHash hmem
  | execute script =>
    simp only [step] at hmem ⊢
    simp only [Meets] at hmeets
    cases hbegins : executeBegins s.file.load script with
    | silent =>
      rw [hbegins] at hmem
      exact h txHash hmem
    | writes s' =>
      rw [hbegins] at hmem hmeets
      dsimp only at hmem hmeets ⊢
      rcases hmeets with hnone | hsave
      · rw [hnone] at hmem
        cases hmem
      · rw [hsave]
        exact h txHash hmem
    | sends previewId items =>
      rw [hbegins] at hmem hmeets
      dsimp only at hmem hmeets ⊢
      rcases hmeets with ⟨hfinal, hkept⟩ | ⟨hnone, hsave, haccepted⟩
      · -- everything broadcast is final, and the file is as it was
        have hold : txHash ∈ s.unsettled := by
          rcases mem_foldl_settle hmem with hnoted | hold
          · cases hfinal _ hnoted
          · exact hold
        rcases hkept with hnone | hraises | hsave
        · rw [hnone] at hold
          cases hold
        · rw [Option.isNone_iff_eq_none.1 hraises]
          exact h txHash hold
        · rw [hsave]
          cases (s.sends script previewId items).saved <;> exact h txHash hold
      · -- nothing was open, and every item is written down
        rcases mem_foldl_settle hmem with hnoted | hold
        · obtain ⟨results, hsaved, -, hitems⟩ :=
            @sendItems_accepted s.file.load previewId script.sendMode script.sentMs
              script.answers items [] (by simpa using haccepted)
          obtain ⟨item, hitem, rfl, hopen⟩ := hitems txHash hnoted
          rw [Service.sends, hsaved, hsave, Option.map_some, Option.getD_some,
            File.save_written, File.load_saved]
          exact executed_tracks _ _ _ hitem hopen
        · rw [hnone] at hold
          cases hold
  | state node nowMs refreshMs decaySave refreshSave =>
    obtain ⟨hold, hnot⟩ := List.mem_filter.1 hmem
    rw [decide_eq_true_eq] at hnot
    rcases hmeets with hall | ⟨hdecay, hrefresh, hreverted⟩
    · exact absurd (hall txHash hold) hnot
    · exact refreshState_tracks (h txHash hold) hnot hdecay hrefresh hreverted

/-- An execution that begins when nothing is unsettled meets the condition when all its items are
accepted and it is saved. -/
theorem meets_sends {s : Service} {script : Script} {previewId : Text} {items : List Item}
    (hbegins : executeBegins s.file.load script = .sends previewId items)
    (hnone : s.unsettled = []) (hsave : script.save = .written)
    (haccepts : ∀ i < items.length, (script.answers i).accepts script.sendMode = true) :
    Meets s (.execute script) := by
  simp only [Meets, hbegins]
  exact .inr ⟨hnone, hsave, haccepts⟩

theorem tracked_start (file : File) : Tracked (Service.start file) := by
  intro txHash hmem
  cases hmem

/-- **What is broadcast is tracked until it is final** in every state of a run whose calls meet the
condition. -/
theorem tracked_of_meets {file : File} {calls reached : List Call}
    (hmeets : AllSteps step Meets (Service.start file) calls) (hreached : reached <+: calls) :
    Tracked (run step (Service.start file) reached) :=
  @reached_invariant Service Call step Meets Tracked (fun _ call h => tracked_step h call) _
    (tracked_start file) calls reached hmeets hreached

/-! ## A sample -/

def sampleHash : Text := with0x (List.replicate 64 'a')

/-- The preview `wipe_1` is executed: its item is accepted, and is pending. -/
def sampleScript : Script where
  payload := samplePayload
  nowMs := 2
  rt := some sampleRuntime
  proof := some none
  sendMode := "public".toList
  answers := fun _ => .answered (some sampleHash) (some (.absent, true))
  sentMs := 2
  save := .written

def sampleConfigured : Service :=
  step (Service.start .missing) (.configure [] sampleConfig .written)

def samplePreviewed : Service :=
  step sampleConfigured (.preview (some sampleRuntime) "wipe_1".toList 1 .written)

/-- A preview and its execution. -/
def sampleCalls : List Call :=
  [.configure [] sampleConfig .written, .preview (some sampleRuntime) "wipe_1".toList 1 .written,
    .execute sampleScript]

/-- The pending item of the sample is tracked. -/
theorem tracked_sample : Tracked (run step (Service.start .missing) sampleCalls) := by
  have hconfigured : sampleConfigured.unsettled = [] := by decide +kernel
  have hpreviewed : samplePreviewed.unsettled = [] := by decide +kernel
  have hbegins : executeBegins samplePreviewed.file.load sampleScript
      = .sends "wipe_1".toList [⟨sampleAddress, 100, sampleAddress, "backend".toList⟩] := by
    decide +kernel
  have haccepts (i : Nat) : (sampleScript.answers i).accepts sampleScript.sendMode = true := by
    show (ItemAnswer.answered (some sampleHash) (some (.absent, true))).accepts
      "public".toList = true
    decide +kernel
  have hmeets : AllSteps step Meets (Service.start .missing) sampleCalls := by
    rw [sampleCalls, AllSteps, AllSteps, AllSteps, AllSteps, ← sampleConfigured,
      ← samplePreviewed]
    refine ⟨.inl rfl, .inl hconfigured, ?_, trivial⟩
    -- what the sample is has been used, and is not to be computed again
    generalize samplePreviewed = s at hbegins hpreviewed ⊢
    exact meets_sends hbegins hpreviewed rfl fun i _ => haccepts i
  exact tracked_of_meets hmeets (List.prefix_refl _)

/-- The sample, and an execution without a confirmation. -/
def sampleBlocked : List Call := sampleCalls ++ [.execute { sampleScript with payload := Dict.empty }]

/-- **The pending item is dropped by a call that is turned away.** -/
theorem pending_item_dropped :
    ¬ ∀ (file : File) (calls : List Call), Tracked (run step (Service.start file) calls) := by
  intro hall
  have hopen : (run step (Service.start .missing) sampleBlocked).unsettled = [sampleHash] := by
    decide +kernel
  have hblocked : (run step (Service.start .missing) sampleBlocked).file.load.lastStatus
      = .executeBlocked := by decide +kernel
  have hmem : sampleHash ∈ (run step (Service.start .missing) sampleBlocked).unsettled := by
    rw [hopen]
    exact List.mem_singleton_self _
  obtain ⟨hsubmitted, -⟩ := hall .missing sampleBlocked sampleHash hmem
  rw [hblocked] at hsubmitted
  cases hsubmitted

end SovereignCapital.WithdrawAll.Tracking
