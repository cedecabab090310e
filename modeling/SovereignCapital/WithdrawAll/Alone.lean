import SovereignCapital.WithdrawAll.Broadcast

/-! # An execution that no other call interrupts

`execute` from its payload to its response, as a function of the file and of what the call meets:
the runtime, the clock, the proof of the owner, what becomes of each item, and how the save ends.
The service with calls that wait goes the same way when no other call is made meanwhile.
-/

namespace SovereignCapital.WithdrawAll

open Bytes Tx Runs

/-- What becomes of an item: an exception before it is handed over, an exception of the
broadcaster, or an answer. The receipt is missing where an exception leaves its lookup. -/
inductive ItemAnswer where
  | notBuilt
  | noAnswer
  | answer (txHash : Option Text) (receipt : Option (ReceiptAnswer × Bool))

/-- `validate_executor_owner_proof` and the reading of gas and nonce after it. -/
inductive OwnerProof where
  | raises
  | fails (reason : String)
  | holds

structure Attempt where
  payload : PyDict
  nowMs : Int
  rt : Runtime
  proof : OwnerProof
  sendMode : Text
  /-- what becomes of the item at a position of the plan -/
  answers : ℕ → ItemAnswer
  doneMs : Int
  save : Save

/-- What is left of a call: the file, the `ok` of its response or nothing where an exception
leaves it, and the calldata of the transactions it hands to the broadcaster. -/
structure Outcome where
  file : File
  ok : Option Bool
  sent : List Text

/-- `_persist_execute_outcome` and the response; a save that fails is not `ok`. -/
def persisted (file : File) (s : State) (save : Save) (ok : Bool) (sent : List Text) : Outcome where
  file := file.save s save
  ok := some (ok && save == .written)
  sent := sent

def Outcome.after (calldata : Text) (o : Outcome) : Outcome := { o with sent := calldata :: o.sent }

def sendItems (file : File) (s : State) (a : Attempt) (previewId : Text)
    (results : List ResultItem) (item : Item) (rest : List Item) : Outcome :=
  match itemCalldata s item with
  | none => ⟨file, none, []⟩
  | some calldata =>
    match a.answers results.length with
    | .notBuilt => ⟨file, none, []⟩
    | .noAnswer => ⟨file, none, [calldata]⟩
    | .answer txHash receipt =>
      match txHash.filter isTxHash, receipt with
      | none, _ =>
        persisted file (s.sendFailed previewId results item) a.save false [calldata]
      | some _, none => ⟨file, none, [calldata]⟩
      | some txHash, some (answer, visible) =>
        let tx := assessSubmittedTx answer visible txHash a.sendMode
        if tx.txStatus = .minedReverted then
          persisted file (s.receiptReverted previewId results item tx a.doneMs) a.save false
            [calldata]
        else
          match rest with
          | [] =>
            persisted file
              (s.executed previewId (results ++ [.submitted item tx]) a.doneMs) a.save true
              [calldata]
          | next :: rest =>
            (sendItems file s a previewId (results ++ [.submitted item tx]) next
              rest).after calldata

/-- `execute` once its plan is made. -/
def executePlanned (file : File) (s : State) (a : Attempt) (previewId : Text) (dryRun : Bool) :
    Outcome :=
  match planned s a.rt dryRun with
  | .blocked reason => persisted file (s.block reason) a.save false []
  | .prepared items => persisted file (s.prepare previewId items) a.save true []
  | .raises => ⟨file, none, []⟩
  | .proving items =>
    match a.proof, items with
    | .raises, _ => ⟨file, none, []⟩
    | .fails reason, _ => persisted file (s.block reason) a.save false []
    | .holds, [] => persisted file (s.executed previewId [] a.doneMs) a.save true []
    | .holds, item :: rest => sendItems file s a previewId [] item rest

def execute (file : File) (a : Attempt) : Outcome :=
  match beginExecute file.load a.payload a.nowMs with
  | .invalid => ⟨file, some false, []⟩
  | .blocked reason => persisted file (file.load.block reason) a.save false []
  | .replayed result => ⟨file, some result.ok, []⟩
  | .planning previewId dryRun => executePlanned file file.load a previewId dryRun

/-! ## The same call in the service -/

/-- What happens to the call at an item and after it. -/
def Attempt.itemEvents (a : Attempt) (s : State) : ℕ → List Item → List Event
  | _, [] => []
  | i, item :: rest =>
    match itemCalldata s item, a.answers i with
    | none, _ => [.raises 0]
    | some _, .notBuilt => [.raises 0]
    | some _, .noAnswer => [.handOver 0, .raises 0]
    | some _, .answer txHash none => [.handOver 0, .answered 0 txHash a.save, .raises 0]
    | some _, .answer txHash (some (answer, visible)) =>
      .handOver 0 :: .answered 0 txHash a.save ::
        .assessed 0 answer visible a.sendMode a.doneMs a.save :: a.itemEvents s (i + 1) rest

def Attempt.events (a : Attempt) (s : State) : List Event :=
  .beginExecute a.payload a.nowMs a.save :: .planned 0 a.rt a.save ::
    match a.proof with
    | .raises => [.raises 0]
    | .fails reason => [.proved 0 (some reason) a.doneMs a.save]
    | .holds => .proved 0 none a.doneMs a.save :: a.itemEvents s 0 (plan a.rt s).items

def Event.OfCall (k : ℕ) : Event → Prop
  | .planned j _ _ => j = k
  | .proved j _ _ _ => j = k
  | .handOver j => j = k
  | .answered j _ _ => j = k
  | .assessed j _ _ _ _ _ => j = k
  | .raises j => j = k
  | _ => False

def Service.Idle (s : Service) : Prop := s.tasks = [.over] ∨ s.tasks = []

theorem step_idle {s : Service} (hidle : s.Idle) {event : Event} (hevent : event.OfCall 0) :
    step s event = s := by
  obtain ⟨file, tasks, drawn, sent⟩ := s
  rcases hidle with htasks | htasks
  · cases htasks
    cases event <;> first | (cases hevent; rfl) | cases hevent
  · cases htasks
    cases event <;> first | (cases hevent; rfl) | cases hevent

theorem run_idle {s : Service} (hidle : s.Idle) {events : List Event}
    (hevents : ∀ event ∈ events, event.OfCall 0) : run step s events = s := by
  induction events with
  | nil => rfl
  | cons event events ih =>
    rw [run_cons, step_idle hidle (hevents event List.mem_cons_self)]
    exact ih fun e he => hevents e (List.mem_cons_of_mem _ he)

theorem itemEvents_ofCall (a : Attempt) (s : State) (i : ℕ) (items : List Item) :
    ∀ event ∈ a.itemEvents s i items, event.OfCall 0 := by
  induction items generalizing i with
  | nil => simp [Attempt.itemEvents]
  | cons item rest ih =>
    intro event hevent
    unfold Attempt.itemEvents at hevent
    split at hevent <;>
      simp only [List.mem_cons, List.not_mem_nil, or_false] at hevent
    · rw [hevent]
      rfl
    · rw [hevent]
      rfl
    · rcases hevent with rfl | rfl <;> rfl
    · rcases hevent with rfl | rfl | rfl <;> rfl
    · rcases hevent with rfl | rfl | rfl | hevent
      · rfl
      · rfl
      · rfl
      · exact ih _ event hevent

/-- What the service has become of a call: the file, and as many more items handed over. -/
structure Became (s : Service) (o : Outcome) (sent : List (Text × ℕ)) : Prop where
  file : s.file = o.file
  sent : s.sent.length = o.sent.length + sent.length

section

variable {file : File} {s : State} {previewId : Text} {drawn : List Text} {sent : List (Text × ℕ)}
  {results : List ResultItem} {item : Item} {rest : List Item}

theorem step_handOver :
    step ⟨file, [.execute s previewId (.preparing results item rest)], drawn, sent⟩ (.handOver 0)
      = ⟨file, [.execute s previewId (.sending results item rest)], drawn,
          (previewId, results.length) :: sent⟩ :=
  rfl

theorem step_refused {txHash : Option Text} (h : txHash.filter isTxHash = none) (save : Save) :
    step ⟨file, [.execute s previewId (.sending results item rest)], drawn, sent⟩
        (.answered 0 txHash save)
      = ⟨file.save (s.sendFailed previewId results item) save, [.over], drawn, sent⟩ := by
  simp [step, h, Service.close, Service.drop, Service.wait]

theorem step_accepted {txHash : Option Text} {hash : Text}
    (h : txHash.filter isTxHash = some hash) (save : Save) :
    step ⟨file, [.execute s previewId (.sending results item rest)], drawn, sent⟩
        (.answered 0 txHash save)
      = ⟨file, [.execute s previewId (.assessing results item rest hash)], drawn, sent⟩ := by
  simp [step, h, Service.wait]

theorem step_closes {hash sendMode : Text} {answer : ReceiptAnswer} {visible : Bool} {nowMs : Int}
    {s' : State} (h : assessed s previewId results item rest
      (assessSubmittedTx answer visible hash sendMode) nowMs = .closes s') (save : Save) :
    step ⟨file, [.execute s previewId (.assessing results item rest hash)], drawn, sent⟩
        (.assessed 0 answer visible sendMode nowMs save)
      = ⟨file.save s' save, [.over], drawn, sent⟩ := by
  simp [step, h, Service.close, Service.drop, Service.wait]

theorem step_next {hash sendMode : Text} {answer : ReceiptAnswer} {visible : Bool} {nowMs : Int}
    {results' : List ResultItem} {next : Item} {rest' : List Item}
    (h : assessed s previewId results item rest
      (assessSubmittedTx answer visible hash sendMode) nowMs = .preparing results' next rest')
    (save : Save) :
    step ⟨file, [.execute s previewId (.assessing results item rest hash)], drawn, sent⟩
        (.assessed 0 answer visible sendMode nowMs save)
      = ⟨file, [.execute s previewId (.preparing results' next rest')], drawn, sent⟩ := by
  simp [step, h, Service.wait]

end

/-- **The items.** The service hands over what the loop does and saves what it saves. -/
theorem became_sendItems (file : File) (s : State) (a : Attempt) (previewId : Text)
    (drawn : List Text) (results : List ResultItem) (item : Item) (rest : List Item)
    (sent : List (Text × ℕ)) :
    Became (run step ⟨file, [.execute s previewId (.preparing results item rest)], drawn, sent⟩
      (a.itemEvents s results.length (item :: rest)))
      (sendItems file s a previewId results item rest) sent := by
  have hover : ∀ (file : File) (sent : List (Text × ℕ)) (i : ℕ) (items : List Item),
      run step ⟨file, [.over], drawn, sent⟩ (a.itemEvents s i items)
        = ⟨file, [.over], drawn, sent⟩ :=
    fun file sent i items => run_idle (.inl rfl) (itemEvents_ofCall a s i items)
  fun_induction sendItems file s a previewId results item rest generalizing sent with
  | case1 rest results item hcalldata =>
    simp only [Attempt.itemEvents, hcalldata]
    exact ⟨rfl, (Nat.zero_add _).symm⟩
  | case2 rest results item calldata hcalldata hanswer =>
    simp only [Attempt.itemEvents, hcalldata, hanswer]
    exact ⟨rfl, (Nat.zero_add _).symm⟩
  | case3 rest results item calldata hcalldata hanswer =>
    simp only [Attempt.itemEvents, hcalldata, hanswer]
    exact ⟨rfl, Nat.add_comm _ _⟩
  | case4 rest results item calldata hcalldata txHash receipt hanswer hrefused =>
    simp only [Attempt.itemEvents, hcalldata, hanswer]
    cases receipt with
    | none =>
      simp only [run_cons, step_handOver, step_refused hrefused]
      exact ⟨rfl, Nat.add_comm _ _⟩
    | some r =>
      simp only [run_cons, step_handOver, step_refused hrefused]
      have hlate : Event.OfCall 0 (.assessed 0 r.1 r.2 a.sendMode a.doneMs a.save) := rfl
      rw [step_idle (.inl rfl) hlate, hover]
      exact ⟨rfl, Nat.add_comm _ _⟩
  | case5 rest results item calldata hcalldata txHash hash haccepted hanswer =>
    simp only [Attempt.itemEvents, hcalldata, hanswer, run_cons, step_handOver,
      step_accepted haccepted]
    exact ⟨rfl, Nat.add_comm _ _⟩
  | case6 rest results item calldata hcalldata txHash hash answer visible haccepted tx hreverted
      hanswer =>
      have hcloses : assessed s previewId results item rest tx a.doneMs
          = .closes (s.receiptReverted previewId results item tx a.doneMs) := if_pos hreverted
      simp only [Attempt.itemEvents, hcalldata, hanswer, run_cons, step_handOver,
        step_accepted haccepted, step_closes hcloses, hover]
      exact ⟨rfl, Nat.add_comm _ _⟩
  | case7 results item calldata hcalldata txHash hash answer visible haccepted tx hreverted
      hanswer =>
      have hcloses : assessed s previewId results item [] tx a.doneMs
          = .closes (s.executed previewId (results ++ [.submitted item tx]) a.doneMs) :=
        if_neg hreverted
      simp only [Attempt.itemEvents, hcalldata, hanswer, run_cons, step_handOver,
        step_accepted haccepted, step_closes hcloses]
      exact ⟨rfl, Nat.add_comm _ _⟩
  | case8 results item calldata hcalldata txHash hash answer visible haccepted tx hreverted
      next rest hanswer ih =>
      have hnext : assessed s previewId results item (next :: rest) tx a.doneMs
          = .preparing (results ++ [.submitted item tx]) next rest := if_neg hreverted
      have hitems : a.itemEvents s results.length (item :: next :: rest)
          = .handOver 0 :: .answered 0 txHash a.save ::
            .assessed 0 answer visible a.sendMode a.doneMs a.save ::
              a.itemEvents s (results.length + 1) (next :: rest) := by
        rw [Attempt.itemEvents, hcalldata, hanswer]
      have hrest := ih ((previewId, results.length) :: sent)
      rw [List.length_append, List.length_singleton] at hrest
      rw [hitems, run_cons, step_handOver, run_cons, step_accepted haccepted, run_cons,
        step_next hnext]
      refine ⟨hrest.file, ?_⟩
      have hlength := hrest.sent
      rw [List.length_cons] at hlength
      simp only [Outcome.after, List.length_cons]
      omega

theorem items_ne_nil_of_ok {rt : Runtime} {s : State} (h : (plan rt s).reasonCode = "ok") :
    (plan rt s).items ≠ [] := by
  intro hnil
  unfold plan at h hnil
  dsimp only at h hnil
  rw [hnil] at h
  by_cases hreason : blockReason rt s = "ok"
  · rw [if_pos ⟨hreason, rfl⟩] at h
    exact absurd h (by decide)
  · rw [if_neg fun hand => hreason hand.1] at h
    exact hreason h

theorem planned_proving {s : State} {rt : Runtime} {dryRun : Bool} {items : List Item}
    (h : planned s rt dryRun = .proving items) :
    items = (plan rt s).items ∧ items ≠ [] := by
  unfold planned at h
  dsimp only at h
  split at h
  · cases h
  split at h
  · cases h
  rename_i hreason
  split at h
  · split at h <;> cases h
  split at h
  · cases h
  split at h
  · cases h
  · cases h
  split at h
  · cases h
  split at h
  · cases h
  split at h
  · cases h
  cases h
  exact ⟨rfl, items_ne_nil_of_ok (not_not.1 hreason)⟩

theorem step_planned (file : File) (s : State) (rt : Runtime) (previewId : Text) (dryRun : Bool)
    (drawn : List Text) (save : Save) :
    step ⟨file, [.execute s previewId (.planning dryRun)], drawn, []⟩ (.planned 0 rt save)
      = match planned s rt dryRun with
        | .blocked reason => ⟨file.save (s.block reason) save, [.over], drawn, []⟩
        | .prepared items => ⟨file.save (s.prepare previewId items) save, [.over], drawn, []⟩
        | .raises => ⟨file, [.over], drawn, []⟩
        | .proving items => ⟨file, [.execute s previewId (.proving items)], drawn, []⟩ := by
  simp only [step, List.getElem?_cons_zero]
  cases planned s rt dryRun <;> rfl

theorem events_tail_ofCall (a : Attempt) (s : State) :
    ∀ event ∈ (a.events s).tail, event.OfCall 0 := by
  unfold Attempt.events
  cases a.proof with
  | raises => simp [Event.OfCall]
  | fails reason => simp [Event.OfCall]
  | holds =>
    simp only [List.tail_cons, List.mem_cons]
    rintro event (rfl | rfl | hevent)
    · rfl
    · rfl
    · exact itemEvents_ofCall a s 0 _ event hevent

theorem became_executePlanned (file : File) (s : State) (a : Attempt) (previewId : Text)
    (dryRun : Bool) (drawn : List Text) :
    Became (run step ⟨file, [.execute s previewId (.planning dryRun)], drawn, []⟩
      (a.events s).tail) (executePlanned file s a previewId dryRun) [] := by
  have hover : ∀ file : File, run step ⟨file, [.over], drawn, []⟩ (a.events s).tail.tail
      = ⟨file, [.over], drawn, []⟩ :=
    fun file => run_idle (.inl rfl) fun event hevent =>
      events_tail_ofCall a s event (List.mem_of_mem_tail hevent)
  have htail : (a.events s).tail = .planned 0 a.rt a.save :: (a.events s).tail.tail := rfl
  rw [htail, run_cons, step_planned]
  unfold executePlanned
  cases hplanned : planned s a.rt dryRun with
  | blocked reason =>
    dsimp only
    rw [hover]
    exact ⟨rfl, rfl⟩
  | prepared items =>
    dsimp only
    rw [hover]
    exact ⟨rfl, rfl⟩
  | raises =>
    dsimp only
    rw [hover]
    exact ⟨rfl, rfl⟩
  | proving items =>
    obtain ⟨hitems, hne⟩ := planned_proving hplanned
    unfold Attempt.events
    dsimp only [List.tail_cons]
    cases a.proof with
    | raises => exact ⟨rfl, rfl⟩
    | fails reason => exact ⟨rfl, rfl⟩
    | holds =>
      cases items with
      | nil => exact absurd rfl hne
      | cons item rest =>
        rw [← hitems]
        exact became_sendItems file s a previewId drawn [] item rest []

/-- **The service goes the same way** when no other call is made meanwhile. -/
theorem became_execute (file : File) (a : Attempt) :
    Became (run step (Service.start file) (a.events file.load)) (execute file a) [] := by
  have hlate := events_tail_ofCall a file.load
  have hevents : a.events file.load
      = .beginExecute a.payload a.nowMs a.save :: (a.events file.load).tail := rfl
  rw [hevents, run_cons]
  unfold execute
  simp only [step, Service.start]
  cases hbegin : beginExecute file.load a.payload a.nowMs with
  | invalid =>
    dsimp only
    rw [run_idle (.inr rfl) hlate]
    exact ⟨rfl, rfl⟩
  | blocked reason =>
    dsimp only
    rw [run_idle (.inr rfl) hlate]
    exact ⟨rfl, rfl⟩
  | replayed result =>
    dsimp only
    rw [run_idle (.inr rfl) hlate]
    exact ⟨rfl, rfl⟩
  | planning previewId dryRun =>
    exact became_executePlanned file file.load a previewId dryRun _

end SovereignCapital.WithdrawAll
