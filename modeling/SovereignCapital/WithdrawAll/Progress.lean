import SovereignCapital.WithdrawAll.Tracking

/-! # Progress of the submitted items

What an execution wrote down is polled any number of times, with any answers of the node. From
one poll to a later one an item only moves up in `txStatusRank`, and one that was mined is not
touched again. The status of the service follows the items.
-/

namespace SovereignCapital.WithdrawAll

open Bytes Tx Runs

/-! ## Polls -/

structure Poll where
  node : Node
  nowMs : Int
  refreshMs : Int
  decaySave : Save
  refreshSave : Save

def Poll.call (p : Poll) (file : File) : File :=
  refreshState file p.node p.nowMs p.refreshMs p.decaySave p.refreshSave

/-- Its saves are written, or leave the file as it was. -/
def Poll.Intact (p : Poll) : Prop := p.decaySave ≠ .torn ∧ p.refreshSave ≠ .torn

/-! ## Advancing -/

def ResultItem.item : ResultItem → Item
  | .planned item => item
  | .prepared item _ => item
  | .submitted item _ => item

/-- The transaction was mined, with success or reverted. -/
def ResultItem.mined (item : ResultItem) : Prop :=
  item.txStatus = some .minedSuccess ∨ item.txStatus = some .minedReverted

def ResultItem.rank (item : ResultItem) : Nat := (item.txStatus.map txStatusRank).getD 0

structure ResultItem.Advances (item item' : ResultItem) : Prop where
  same : item'.item = item.item
  rank_le : item.rank ≤ item'.rank
  kept : item.mined → item' = item

theorem ResultItem.Advances.refl (item : ResultItem) : item.Advances item :=
  ⟨rfl, le_rfl, fun _ => rfl⟩

variable {item : ResultItem} {items : List ResultItem} {s s' : State} {file : File} {save : Save}

theorem ResultItem.Advances.trans {item' item'' : ResultItem} (h : item.Advances item')
    (h' : item'.Advances item'') : item.Advances item'' := by
  refine ⟨h'.same.trans h.same, h.rank_le.trans h'.rank_le, fun hmined => ?_⟩
  have heq : item' = item := h.kept hmined
  rw [heq] at h'
  exact h'.kept hmined

theorem rank_le_mergeTxProgress (existing refreshed : SubmittedTxStatus) :
    txStatusRank existing.txStatus ≤
      txStatusRank (mergeTxProgress existing refreshed).txStatus := by
  unfold mergeTxProgress
  split
  · exact le_rfl
  · rename_i hrank
    exact Nat.le_of_not_lt hrank

theorem ResultItem.not_mined_of_refreshable (h : item.refreshable = true) : ¬ item.mined := by
  obtain ⟨planned, tx, rfl⟩ := ResultItem.submitted_of_refreshable h
  have hopen := (ResultItem.refreshable_submitted.1 h).2
  intro hmined
  unfold ResultItem.mined ResultItem.txStatus at hmined
  rcases hmined with hmined | hmined
  · rw [Option.some.inj hmined] at hopen
    simp at hopen
  · rw [Option.some.inj hmined] at hopen
    simp at hopen

/-- The item a poll asks for advances, whatever the answer. -/
theorem ResultItem.advances_merge (h : item.refreshable = true) (refreshed : SubmittedTxStatus) :
    item.Advances (item.merge refreshed) := by
  have hopen := ResultItem.not_mined_of_refreshable h
  obtain ⟨planned, tx, rfl⟩ := ResultItem.submitted_of_refreshable h
  exact ⟨rfl, rank_le_mergeTxProgress tx refreshed, fun hmined => absurd hmined hopen⟩

theorem poll_advances {sendMode : Text} {answers : Nat → NodeAnswer} {items' : List ResultItem}
    {i : Nat} (h : poll sendMode answers i items = .items items') :
    List.Forall₂ ResultItem.Advances items items' := by
  induction items generalizing i items' with
  | nil =>
    cases h
    exact .nil
  | cons item rest ih =>
    unfold poll at h
    split at h
    · rename_i hopen
      split at h
      · cases h
      · dsimp only at h
        split at h
        · cases h
        · obtain ⟨rest', hrest, rfl⟩ := Polled.cons_eq_items h
          exact .cons (ResultItem.advances_merge hopen _) (ih hrest)
    · obtain ⟨rest', hrest, rfl⟩ := Polled.cons_eq_items h
      exact .cons (.refl item) (ih hrest)

/-! ## Agreement of the status -/

/-- The status says `completed` when there is an item and every item was mined with success. -/
def State.Agrees (s : State) : Prop :=
  s.lastStatus = .completed
    ↔ s.items ≠ [] ∧ ∀ item ∈ s.items, item.txStatus = some .minedSuccess

theorem submittedResult_completed_iff (items : List ResultItem) :
    (submittedResult items).1 = .completed
      ↔ items ≠ [] ∧ ∀ item ∈ items, item.txStatus = some .minedSuccess := by
  unfold submittedResult
  dsimp only
  split
  · rename_i item hfind
    have hreverted : item.txStatus = some .minedReverted := by
      simpa using List.find?_some hfind
    constructor
    · intro h
      cases h
    · rintro ⟨-, hall⟩
      rw [hall item (List.mem_of_find?_eq_some hfind)] at hreverted
      cases hreverted
  · split
    · rename_i hall
      rw [List.all_eq_true] at hall
      exact iff_of_true rfl ⟨hall.1, fun item hitem => by simpa using hall.2 item hitem⟩
    · rename_i hall
      constructor
      · intro h
        cases h
      · rintro ⟨hitems, hsuccess⟩
        refine absurd ⟨hitems, ?_⟩ hall
        rw [List.all_eq_true]
        exact fun item hitem => by simpa using hsuccess item hitem

theorem State.items_withItems (s : State) (items : List ResultItem) :
    (s.withItems items).items = items := by
  unfold State.items State.withItems submittedResult
  dsimp only
  split
  · rfl
  · split <;> rfl

theorem State.agrees_withItems (s : State) (items : List ResultItem) :
    (s.withItems items).Agrees := by
  unfold State.Agrees
  rw [State.items_withItems]
  exact submittedResult_completed_iff items

theorem submissionState_submitted {items : List (Item × SubmittedTxStatus)} (hitems : items ≠ [])
    (h : ∀ i ∈ items, i.2.txStatus = .minedSuccess) :
    submissionState (items.map fun i => .submitted i.1 i.2) = .single .minedSuccess := by
  have hstatuses : ∀ items : List (Item × SubmittedTxStatus),
      (∀ i ∈ items, i.2.txStatus = .minedSuccess) →
        (items.map fun i => ResultItem.submitted i.1 i.2).filterMap ResultItem.txStatus
          = List.replicate items.length .minedSuccess := by
    intro items hall
    induction items with
    | nil => rfl
    | cons first rest ih =>
      have hfirst : first.2.txStatus = .minedSuccess := hall first List.mem_cons_self
      have hrest := ih fun i hi => hall i (List.mem_cons_of_mem _ hi)
      simp only [List.map_cons, List.filterMap_cons, ResultItem.txStatus, hfirst, hrest,
        List.length_cons, List.replicate_succ]
  cases items with
  | nil => exact absurd rfl hitems
  | cons first rest =>
    unfold submissionState
    rw [hstatuses _ h, List.length_cons, List.replicate_succ]
    simp

/-- What an execution writes down when its items were accepted. -/
theorem State.agrees_executed (s : State) (previewId : Text)
    (items : List (Item × SubmittedTxStatus)) (nowMs : Int) :
    (s.executed previewId (items.map fun i => .submitted i.1 i.2) nowMs).Agrees := by
  have hstatus : (s.executed previewId (items.map fun i => .submitted i.1 i.2) nowMs).lastStatus
      = .completed
        ↔ submissionState (items.map fun i => .submitted i.1 i.2) = .single .minedSuccess := by
    simp only [State.executed, State.withOutcome]
    split
    · rename_i hsuccess
      exact iff_of_true rfl hsuccess
    · rename_i hother
      exact iff_of_false (fun h => by cases h) hother
  rw [State.Agrees, hstatus]
  change _ ↔ items.map (fun i => ResultItem.submitted i.1 i.2) ≠ []
    ∧ ∀ item ∈ items.map (fun i => ResultItem.submitted i.1 i.2), _
  constructor
  · intro hsuccess
    constructor
    · intro hnone
      rw [hnone] at hsuccess
      cases hsuccess
    · intro item hitem
      obtain ⟨i, -, rfl⟩ := List.mem_map.1 hitem
      have hstatus := Tracking.minedSuccess_of_submissionState hsuccess hitem rfl
      rw [← hstatus]
      rfl
  · rintro ⟨hitems, hsuccess⟩
    refine submissionState_submitted (fun hnone => hitems (by rw [hnone]; rfl)) fun i hi => ?_
    exact Option.some.inj (hsuccess _ (List.mem_map_of_mem hi))

/-! ## One poll -/

structure State.Becomes (s s' : State) : Prop where
  advances : List.Forall₂ ResultItem.Advances s.items s'.items
  agrees : s.Agrees → s'.Agrees

theorem forall₂_advances_refl (items : List ResultItem) :
    List.Forall₂ ResultItem.Advances items items :=
  List.forall₂_same.2 fun item _ => .refl item

theorem forall₂_advances_trans {items' items'' : List ResultItem}
    (h : List.Forall₂ ResultItem.Advances items items')
    (h' : List.Forall₂ ResultItem.Advances items' items'') :
    List.Forall₂ ResultItem.Advances items items'' := by
  induction h generalizing items'' with
  | nil =>
    cases h'
    exact .nil
  | cons hfirst _ ih =>
    cases h' with
    | cons hnext hrest => exact .cons (hfirst.trans hnext) (ih hrest)

theorem State.Becomes.of_eq (hresult : s'.lastResult = s.lastResult)
    (hstatus : s'.lastStatus = s.lastStatus) : s.Becomes s' := by
  have hitems : s'.items = s.items := by rw [State.items, hresult, State.items]
  constructor
  · rw [hitems]
    exact forall₂_advances_refl s.items
  · intro h
    rw [State.Agrees, hitems, hstatus]
    exact h

theorem State.Becomes.trans {s'' : State} (h : s.Becomes s') (h' : s'.Becomes s'') :
    s.Becomes s'' := by
  exact ⟨forall₂_advances_trans h.advances h'.advances,
    fun hagrees => h'.agrees (h.agrees hagrees)⟩

theorem State.becomes_refreshed (nowMs : Int) (h : List.Forall₂ ResultItem.Advances s.items items) :
    s.Becomes (s.refreshed nowMs items) := by
  by_cases hchanged : ((s.items.zip items).any fun pair => itemStatusChanged pair.1 pair.2) = true
  · have hitems : (s.refreshed nowMs items).items = items := by
      simp only [State.refreshed, if_pos hchanged]
      exact State.items_withItems s.clearRefreshFailure items
    constructor
    · rw [hitems]
      exact h
    · intro _
      have hagrees := State.agrees_withItems s.clearRefreshFailure items
      simp only [State.refreshed, if_pos hchanged]
      exact hagrees
  · refine .of_eq ?_ ?_
    · simp only [State.refreshed, if_neg hchanged, State.clearRefreshFailure]
    · simp only [State.refreshed, if_neg hchanged, State.clearRefreshFailure]

theorem becomes_of_refreshSubmitted {node : Node} {nowMs : Int}
    (h : refreshSubmitted s node nowMs = some s') : s.Becomes s' := by
  unfold refreshSubmitted at h
  split at h
  · dsimp only [setIdleRefreshMetadata] at h
    obtain ⟨-, hsome⟩ := Option.ite_none_right_eq_some.1 h
    cases hsome
    exact .of_eq rfl rfl
  · cases h
  · cases h
    exact .of_eq rfl rfl
  · split at h
    · cases h
    · cases h
      exact .of_eq rfl rfl
    · rename_i items hpoll
      cases h
      exact State.becomes_refreshed nowMs (poll_advances hpoll)

def File.decayed (file : File) (nowMs : Int) (save : Save) : File :=
  if (decayRefreshFailure file.load.failure nowMs).2 then file.save (file.load.decayed nowMs) save
  else file

/-- A poll saves at most twice; the second state is made from what was loaded. -/
theorem Poll.call_eq (p : Poll) (file : File) :
    p.call file
      = (refreshSubmitted (file.load.decayed p.nowMs) p.node p.refreshMs).elim
          (file.decayed p.nowMs p.decaySave)
          fun s' => (file.decayed p.nowMs p.decaySave).save s' p.refreshSave := by
  unfold Poll.call refreshState
  dsimp only
  cases refreshSubmitted (file.load.decayed p.nowMs) p.node p.refreshMs with
  | none => rfl
  | some s' => rfl

theorem State.becomes_decayed (s : State) (nowMs : Int) : s.Becomes (s.decayed nowMs) :=
  .of_eq (s.lastResult_decayed nowMs) (s.lastStatus_decayed nowMs)

theorem File.becomes_save {s₀ : State} (hfile : s₀.Becomes file.load) (hs : s₀.Becomes s)
    (hsave : save ≠ .torn) : s₀.Becomes (file.save s save).load := by
  cases save with
  | written => exact hs
  | unopened => exact hfile
  | torn => exact absurd rfl hsave

theorem File.becomes_decayed (file : File) (nowMs : Int) (hsave : save ≠ .torn) :
    file.load.Becomes (file.decayed nowMs save).load := by
  unfold File.decayed
  split
  · exact File.becomes_save (.of_eq rfl rfl) (State.becomes_decayed _ nowMs) hsave
  · exact .of_eq rfl rfl

theorem Poll.becomes_call (file : File) {p : Poll} (h : p.Intact) :
    file.load.Becomes (p.call file).load := by
  have hdecayed := File.becomes_decayed file p.nowMs h.1
  rw [Poll.call_eq]
  cases hsubmitted : refreshSubmitted (file.load.decayed p.nowMs) p.node p.refreshMs with
  | none =>
    rw [Option.elim_none]
    exact hdecayed
  | some s' =>
    have hs' := becomes_of_refreshSubmitted hsubmitted
    rw [Option.elim_some]
    exact File.becomes_save hdecayed ((State.becomes_decayed _ p.nowMs).trans hs') h.2

theorem File.agrees_save (hfile : file.load.Agrees) (hs : s.Agrees) :
    (file.save s save).load.Agrees := by
  cases save with
  | written => exact hs
  | unopened => exact hfile
  | torn =>
    refine iff_of_false (fun h => by cases h) ?_
    rintro ⟨hitems, -⟩
    exact hitems rfl

theorem Poll.agrees_call (p : Poll) (h : file.load.Agrees) : (p.call file).load.Agrees := by
  have hloaded : (file.load.decayed p.nowMs).Agrees := (State.becomes_decayed _ p.nowMs).agrees h
  have hdecayed : (file.decayed p.nowMs p.decaySave).load.Agrees := by
    unfold File.decayed
    split
    · exact File.agrees_save h hloaded
    · exact h
  rw [Poll.call_eq]
  cases hsubmitted : refreshSubmitted (file.load.decayed p.nowMs) p.node p.refreshMs with
  | none =>
    rw [Option.elim_none]
    exact hdecayed
  | some s' =>
    have hs' := (becomes_of_refreshSubmitted hsubmitted).agrees hloaded
    rw [Option.elim_some]
    exact File.agrees_save hdecayed hs'

/-! ## Runs of polls -/

def polled (file : File) (polls : List Poll) : File := run (fun file p => p.call file) file polls

theorem polled_agrees (h : file.load.Agrees) (polls : List Poll) :
    (polled file polls).load.Agrees := by
  induction polls generalizing file with
  | nil => exact h
  | cons p rest ih => exact ih (p.agrees_call h)

theorem polled_advances {polls : List Poll} (h : ∀ p ∈ polls, p.Intact) (file : File) :
    List.Forall₂ ResultItem.Advances file.load.items (polled file polls).load.items := by
  induction polls generalizing file with
  | nil => exact forall₂_advances_refl file.load.items
  | cons p rest ih =>
    have hfirst := (Poll.becomes_call file (h p List.mem_cons_self)).advances
    have hrest := ih (fun q hq => h q (List.mem_cons_of_mem p hq)) (p.call file)
    exact forall₂_advances_trans hfirst hrest

def executedFile (s : State) (previewId : Text) (items : List (Item × SubmittedTxStatus))
    (nowMs : Int) : File :=
  .saved (s.executed previewId (items.map fun i => .submitted i.1 i.2) nowMs)

/-- **Progress.** From any poll to any later one an item keeps or raises its rank and one that was
mined stays exactly as it is, as long as no save leaves a torn file; and at every poll the status
is `completed` exactly when there is an item and every item was mined with success. -/
theorem submitted_items_advance (s : State) (previewId : Text)
    (items : List (Item × SubmittedTxStatus)) (nowMs : Int) (polls later : List Poll) :
    ((∀ p ∈ later, p.Intact) →
      List.Forall₂ ResultItem.Advances
        (polled (executedFile s previewId items nowMs) polls).load.items
        (polled (executedFile s previewId items nowMs) (polls ++ later)).load.items)
    ∧ (polled (executedFile s previewId items nowMs) polls).load.Agrees := by
  constructor
  · intro hintact
    -- the later polls start from the file that the earlier ones leave
    have happend : polled (executedFile s previewId items nowMs) (polls ++ later)
        = polled (polled (executedFile s previewId items nowMs) polls) later :=
      run_append _ polls later
    rw [happend]
    exact polled_advances hintact _
  · have hstart : (executedFile s previewId items nowMs).load.Agrees :=
      State.agrees_executed s previewId items nowMs
    exact polled_agrees hstart polls

def samplePending : Item × SubmittedTxStatus :=
  (⟨sampleAddress, 100, sampleAddress, "backend".toList⟩,
    { txHash := with0x (List.replicate 64 '2')
      txStatus := .pending
      receiptStatus := none
      blockNumber := none
      receipt := none
      proofReason := .txVisible })

def sampleReceipt : Receipt where
  status := .text "0x1".toList
  blockNumber := .text "0x7".toList
  logs := []

/-- A poll whose save is written, and which is told the same of every transaction. -/
def samplePoll (nowMs : Int) (answer : ReceiptAnswer) : Poll where
  node := ⟨true, "public".toList, fun _ => some (answer, false)⟩
  nowMs := nowMs
  refreshMs := nowMs
  decaySave := .written
  refreshSave := .written

theorem samplePoll_intact (nowMs : Int) (answer : ReceiptAnswer) :
    (samplePoll nowMs answer).Intact := by
  constructor
  · intro h
    cases h
  · intro h
    cases h

/-- The transaction is mined at one poll, and its receipt is gone at the next. -/
theorem submitted_items_advance_lost_receipt :
    List.Forall₂ ResultItem.Advances
      (polled (executedFile State.default "wipe_1".toList [samplePending] 0)
        [samplePoll 20000 (.receipt sampleReceipt)]).load.items
      (polled (executedFile State.default "wipe_1".toList [samplePending] 0)
        ([samplePoll 20000 (.receipt sampleReceipt)]
          ++ [samplePoll 40000 .absent])).load.items :=
  (submitted_items_advance State.default "wipe_1".toList [samplePending] 0
    [samplePoll 20000 (.receipt sampleReceipt)] [samplePoll 40000 .absent]).1 (by
      intro p hp
      rw [List.mem_singleton] at hp
      rw [hp]
      exact samplePoll_intact 40000 .absent)

/-- Without any item the status stays `submitted`. -/
theorem no_items_not_completed :
    ¬ ∀ (s : State) (previewId : Text) (items : List (Item × SubmittedTxStatus)) (nowMs : Int)
        (polls : List Poll),
      (polled (executedFile s previewId items nowMs) polls).load.lastStatus = .completed
        ↔ ∀ item ∈ (polled (executedFile s previewId items nowMs) polls).load.items,
          item.txStatus = some .minedSuccess := by
  intro h
  have hcompleted := (h State.default "wipe_1".toList [] 0 [samplePoll 20000 .absent]).2 (by decide)
  revert hcompleted
  decide

end SovereignCapital.WithdrawAll
