import SovereignCapital.Receipt.Loop

/-! # Every submitted hash is tracked

A submitted hash should at all times be in exactly one place: in the queue, with the worker,
recorded, or pending with the mark of exhausted retries. Several ways out of the loop leave it
in none (no read endpoint, a full queue, an exception after the pop or of a class that is not
handled), and a hash can be put back twice. `submissions_tracked_iff` has the exact condition.
-/

namespace SovereignCapital.Receipt

open Runs

/-! ## The places of a hash -/

def exhausted (s : LoopState) (txHash : String) : Bool :=
  ((s.pending.getD txHash Dict.empty).get "_receipt_retry_exhausted").truthy

def places (s : LoopState) (txHash : String) : Nat :=
  s.queue.count txHash + s.processing.toList.count txHash + s.recorded.count txHash
    + (exhausted s txHash).toNat

def Tracked (s : LoopState) : Prop := ∀ txHash ∈ s.submitted, places s txHash = 1

/-! ## The condition -/

/-- The hash is in the queue, with the worker or recorded. -/
def Held (s : LoopState) (txHash : String) : Prop :=
  txHash ∈ s.queue ∨ s.processing = some txHash ∨ txHash ∈ s.recorded

/-- A submission is stored and finds room in the queue, its hash is new or given up; or it
changes nothing about a hash that has its place. -/
def SubmissionTracked (config : LoopConfig) (s : LoopState) (e : Execution) : Prop :=
  e.submits = true →
    match e.stored with
    | none => e.txHash ∈ s.submitted
    | some _ => if s.hasRoom config then ¬ Held s e.txHash else Held s e.txHash

/-- Nothing is raised between the pop and the record of the settlement or of the gap, but for
what a step of the finalization passes over. -/
def RecordsOutcome (pass : Pass) : Prop :=
  outcomeRaises pass = none ∧ pass.replay ≠ some .other ∧ pass.truthHealth ≠ some .other
    ∧ ∃ truthOk, pass.outcomeTruth = .ok truthOk
      ∧ (if truthOk then pass.settlement else pass.truthGap) ≠ some .other

/-- A pass that keeps its hash: there is an endpoint; what is raised before the pop is of the
handled classes, and not when a session is closed whose hash went back to the queue; and what
has a receipt is recorded. -/
def PassTracked (config : LoopConfig) (s : LoopState) (pass : Pass) (txHash : String) : Prop :=
  match awaitReceipt pass with
  | .noEndpoint => False
  | .unavailable =>
    ∀ text, pass.closing = some (.safe text) →
      ¬ Retries config s false (s.pending.getD txHash Dict.empty)
  | .raised e _ => e ≠ .other
  | .received _ _ => config.service = true ∧ RecordsOutcome pass

def StepTracked (config : LoopConfig) (s : LoopState) : LoopEvent → Prop
  | .record e => SubmissionTracked config s e
  | .finish pass => ∀ txHash, s.processing = some txHash → PassTracked config s pass txHash
  | _ => True

/-! ## The invariant -/

/-- What holds between events: the hashes that are anywhere were submitted, those that wait are
pending, and the pending records are records of submissions. -/
structure LoopInv (s : LoopState) : Prop where
  tracked : Tracked s
  known : ∀ txHash, places s txHash ≠ 0 → txHash ∈ s.submitted
  waiting : ∀ txHash, txHash ∈ s.queue ∨ s.processing = some txHash →
    ∃ pending, s.pending.get? txHash = some pending
  submissions : ∀ txHash pending, s.pending.get? txHash = some pending → submitTsS pending = 0

theorem held_iff (s : LoopState) (txHash : String) :
    Held s txHash ↔ 0 < s.queue.count txHash + s.processing.toList.count txHash
      + s.recorded.count txHash := by
  unfold Held
  rw [← List.count_pos_iff (l := s.queue), ← List.count_pos_iff (l := s.recorded)]
  cases s.processing with
  | none => simp
  | some tx =>
    by_cases htx : tx = txHash
    · simp [htx]
    · simp [htx]

variable {s s' : LoopState} {txHash : String} {pending : PyDict}

theorem exhausted_congr (h : s'.pending.get? txHash = s.pending.get? txHash) :
    exhausted s' txHash = exhausted s txHash := by
  unfold exhausted Dict.getD
  rw [h]

theorem exhausted_of_get? (h : s.pending.get? txHash = some pending) :
    exhausted s txHash = (pending.get "_receipt_retry_exhausted").truthy := by
  unfold exhausted Dict.getD
  rw [h]
  rfl

theorem exhausted_of_get?_none (h : s.pending.get? txHash = none) : exhausted s txHash = false := by
  unfold exhausted Dict.getD
  rw [h]
  rfl

/-! ## A pass -/

/-- What a pass does to its hash: it puts it back into the queue, records it, and leaves it
pending or not. -/
structure PassResult (s s' : LoopState) (txHash : String) (again recorded : Nat) : Prop where
  queue : s'.queue = s.queue ++ List.replicate again txHash
  recorded : s'.recorded = s.recorded ++ List.replicate recorded txHash
  processing : s'.processing = none
  submitted : s'.submitted = s.submitted
  others : ∀ tx, tx ≠ txHash → s'.pending.get? tx = s.pending.get? tx
  own : ∀ pending, s'.pending.get? txHash = some pending → submitTsS pending = 0
  waiting : again ≠ 0 → ∃ pending, s'.pending.get? txHash = some pending

theorem PassResult.dead {again recorded : Nat} (h : PassResult s s' txHash again recorded) :
    PassResult s { s' with alive := false } txHash again recorded :=
  ⟨h.queue, h.recorded, h.processing, h.submitted, h.others, h.own, h.waiting⟩

theorem handle_result {config : LoopConfig} {s s₀ : LoopState} {txHash : String} {again : Nat}
    {pending : PyDict} (h : PassResult s₀ s txHash again 0)
    (hpending : s.pending.get? txHash = some pending) (nowMs : Int) (error : String)
    (receiptSeen : Bool) :
    ∃ pending', Marked pending pending' (!decide (Retries config s receiptSeen pending))
      ∧ (handleReceiptLoopFailure config nowMs txHash error receiptSeen false s).pending.get? txHash
        = some pending'
      ∧ PassResult s₀ (handleReceiptLoopFailure config nowMs txHash error receiptSeen false s)
        txHash (again + if Retries config s receiptSeen pending then 1 else 0) 0 := by
  obtain ⟨pending', hmarked, heq⟩ :=
    @handleReceiptLoopFailure_eq config _ _ _ hpending nowMs error receiptSeen
  refine ⟨pending', hmarked, ?_, ?_⟩
  · rw [heq]
    exact Dict.get?_set_self _ _ _
  · rw [heq]
    constructor
    · show s.queue ++ _ = _
      rw [h.queue, List.append_assoc, List.replicate_add]
      split <;> rfl
    · exact h.recorded
    · exact h.processing
    · exact h.submitted
    · intro tx htx
      rw [Dict.get?_set_of_ne _ _ htx, h.others tx htx]
    · intro p hp
      cases (Dict.get?_set_self _ _ _).symm.trans hp
      rw [hmarked.same.ts, h.own pending hpending]
    · intro _
      exact ⟨pending', Dict.get?_set_self _ _ _⟩

theorem afterRaise_popped {config : LoopConfig} {pass : Pass} {s s' : LoopState}
    {txHash : String} {again recorded : Nat} (h : PassResult s s' txHash again recorded)
    (raised : Option Raised) :
    PassResult s (afterRaise config pass txHash true true raised s') txHash again recorded
      ∧ (afterRaise config pass txHash true true raised s').pending = s'.pending := by
  match raised with
  | none => exact ⟨h, rfl⟩
  | some (.safe text) => exact ⟨h, rfl⟩
  | some .other => exact ⟨h.dead, rfl⟩

theorem finalizeReceipt_result {pass : Pass} {s s' : LoopState} {txHash : String}
    (h : PassResult s s' txHash 0 0) (truthOk : Bool) :
    ∃ recorded, PassResult s (finalizeReceipt pass truthOk txHash s').1 txHash 0 recorded
      ∧ (finalizeReceipt pass truthOk txHash s').1.pending = s'.pending
      ∧ (recorded = 1 ↔ pass.replay ≠ some .other ∧ pass.truthHealth ≠ some .other
        ∧ (if truthOk then pass.settlement else pass.truthGap) ≠ some .other) := by
  unfold finalizeReceipt
  by_cases hreplay : pass.replay = some .other
  · exact ⟨0, by simpa [hreplay] using h, by simp [hreplay], by simp [hreplay]⟩
  by_cases hhealth : pass.truthHealth = some .other
  · exact ⟨0, by simpa [hreplay, hhealth] using h, by simp [hreplay, hhealth],
      by simp [hhealth]⟩
  by_cases hsettle : (if truthOk then pass.settlement else pass.truthGap) = some .other
  · simp only [if_neg hreplay, if_neg hhealth, if_pos hsettle]
    exact ⟨0, h, trivial, by simp [hsettle]⟩
  · simp only [if_neg hreplay, if_neg hhealth, if_neg hsettle]
    refine ⟨1, ?_, trivial, ?_⟩
    · exact ⟨h.queue, by simp [h.recorded], h.processing, h.submitted, h.others, h.own, h.waiting⟩
    · exact ⟨fun _ => ⟨hreplay, hhealth, hsettle⟩, fun _ => rfl⟩

theorem settlePending_result {config : LoopConfig} {s s' : LoopState} {txHash : String}
    {pending : PyDict} (h : PassResult s s' txHash 0 0)
    (hpending : s'.pending.get? txHash = some pending) (pass : Pass) (decoded : PyDict) :
    ∃ recorded, PassResult s (settlePending config pass txHash decoded s').1 txHash 0 recorded
      ∧ (settlePending config pass txHash decoded s').1.pending.get? txHash = none
      ∧ (recorded = 1 ↔ config.service = true ∧ RecordsOutcome pass) := by
  have hts : submitTsS pending = 0 := h.own pending hpending
  -- The pop.
  have hout : (s'.pending.erase txHash).get? txHash = none := by
    rw [Dict.get?_erase, if_pos rfl]
  have hpop : PassResult s { s' with pending := s'.pending.erase txHash } txHash 0 0 := by
    refine ⟨h.queue, h.recorded, h.processing, h.submitted, ?_, ?_, fun h => absurd rfl h⟩
    · intro tx htx
      rw [Dict.get?_erase, if_neg htx, h.others tx htx]
    · intro p hp
      cases hout.symm.trans hp
  unfold settlePending
  rw [hpending, Option.getD_some]
  by_cases hservice : config.service = false
  · simp only [if_pos hservice]
    exact ⟨0, hpop, hout, by simp [hservice]⟩
  · simp only [if_neg hservice, hts, lt_irrefl, false_and, if_false]
    obtain ⟨reserved, spent, log, hbudget⟩ := updateRealizedGasBudget_eq pass.day
      (pendingFields pending).gasEstWei decoded { s' with pending := s'.pending.erase txHash }
    rw [hbudget]
    have hbooked : PassResult s (LoopState.withBudget { s' with
        pending := s'.pending.erase txHash } reserved spent pass.day log) txHash 0 0 :=
      ⟨hpop.queue, hpop.recorded, hpop.processing, hpop.submitted, hpop.others, hpop.own,
        hpop.waiting⟩
    rw [Bool.not_eq_false] at hservice
    unfold RecordsOutcome
    cases htruth : pass.outcomeTruth with
    | error e => exact ⟨0, hbooked, hout, by simp⟩
    | ok truthOk =>
      cases hraises : outcomeRaises pass with
      | some e => exact ⟨0, hbooked, hout, by simp⟩
      | none =>
        obtain ⟨recorded, hresult, hmap, hiff⟩ := @finalizeReceipt_result pass _ _ _
          hbooked truthOk
        refine ⟨recorded, hresult, ?_, ?_⟩
        · show (finalizeReceipt pass truthOk txHash _).1.pending.get? txHash = none
          rw [hmap]
          exact hout
        · rw [hiff]
          simp [hservice]

/-- A record that is not tried again after one failure is not tried again after the next. -/
theorem Retries.of_marked {config : LoopConfig} {receiptSeen : Bool} {pending' : PyDict}
    {exhausted : Bool} (hmarked : Marked pending pending' exhausted) (hqueue : s'.queue = s.queue)
    (h : Retries config s' receiptSeen pending') : Retries config s receiptSeen pending := by
  obtain ⟨⟨hunseen, hcount⟩, hroom⟩ := h
  refine ⟨⟨hunseen, ?_⟩, ?_⟩
  · rw [hmarked.count] at hcount
    omega
  · unfold LoopState.hasRoom at hroom ⊢
    rwa [hqueue] at hroom

theorem unavailable_result {config : LoopConfig} {s s₀ : LoopState} {txHash : String}
    {pending : PyDict} (h : PassResult s₀ s txHash 0 0)
    (hpending : s.pending.get? txHash = some pending) (pass : Pass) :
    ∃ again, PassResult s₀ (afterRaise config pass txHash false false pass.closing
        (handleReceiptLoopFailure config pass.nowMs txHash "receipt_unavailable" false false s))
        txHash again 0
      ∧ (again + (exhausted (afterRaise config pass txHash false false pass.closing
          (handleReceiptLoopFailure config pass.nowMs txHash "receipt_unavailable" false false s))
          txHash).toNat = 1
        ↔ ∀ text, pass.closing = some (.safe text) → ¬ Retries config s false pending) := by
  obtain ⟨pending', hmarked, hpending', hresult⟩ := @handle_result config _ _ _ _ _ h hpending
    pass.nowMs "receipt_unavailable" false
  have hmark := (exhausted_of_get? hpending').trans hmarked.exhausted
  generalize handleReceiptLoopFailure config pass.nowMs txHash "receipt_unavailable" false false s
    = s₁ at *
  cases hclosing : pass.closing with
  | none =>
    refine ⟨_, hresult, ?_⟩
    simp only [afterRaise, hmark]
    by_cases hretries : Retries config s false pending <;> simp [hretries]
  | some raised =>
    cases raised with
    | other =>
      refine ⟨_, hresult.dead, ?_⟩
      have hdead : exhausted { s₁ with alive := false } txHash = exhausted s₁ txHash := rfl
      simp only [afterRaise, hdead, hmark]
      by_cases hretries : Retries config s false pending <;> simp [hretries]
    | safe text =>
      obtain ⟨pending'', hmarked', hpending'', hresult'⟩ :=
        @handle_result config _ _ _ _ _ hresult hpending' pass.nowMs text false
      refine ⟨_, hresult', ?_⟩
      simp only [afterRaise, (exhausted_of_get? hpending'').trans hmarked'.exhausted]
      by_cases hretries : Retries config s false pending
      · -- The hash is in the queue already: it is there twice now, or marked as well.
        by_cases hretries' : Retries config s₁ false pending' <;> simp [hretries, hretries']
      · have hqueue : s₁.queue = s.queue := by
          rw [hresult.queue, h.queue]
          simp [hretries]
        have hretries' : ¬ Retries config s₁ false pending' :=
          fun hagain => hretries (hagain.of_marked hmarked hqueue)
        simp [hretries, hretries']

theorem LoopInv.taken (hinv : LoopInv s) (htx : s.processing = some txHash) :
    txHash ∈ s.submitted ∧ s.queue.count txHash = 0 ∧ s.recorded.count txHash = 0
      ∧ exhausted s txHash = false := by
  have hplaces : places s txHash = s.queue.count txHash + 1 + s.recorded.count txHash
      + (exhausted s txHash).toNat := by
    rw [places, htx]
    simp
  have hsubmitted : txHash ∈ s.submitted := hinv.known txHash (by omega)
  have hone := hinv.tracked txHash hsubmitted
  refine ⟨hsubmitted, by omega, by omega, ?_⟩
  rw [← Bool.toNat_eq_zero]
  omega

theorem passResult_start (hinv : LoopInv s) (txHash : String) :
    PassResult s { s with processing := none } txHash 0 0 where
  queue := by simp
  recorded := by simp
  processing := rfl
  submitted := rfl
  others _ _ := rfl
  own := hinv.submissions txHash
  waiting h := absurd rfl h

/-- **A pass** leaves its hash in exactly one place if and only if it is tracked. -/
theorem finishPass_result {config : LoopConfig} {s : LoopState} {txHash : String}
    (hinv : LoopInv s) (htx : s.processing = some txHash) (pass : Pass) :
    ∃ again recorded, PassResult s (finishPass config pass txHash s) txHash again recorded
      ∧ (again + recorded + (exhausted (finishPass config pass txHash s) txHash).toNat = 1
        ↔ PassTracked config s pass txHash) := by
  have hstart := passResult_start hinv txHash
  obtain ⟨pending, hpending⟩ := hinv.waiting txHash (.inr htx)
  have hunmarked := (hinv.taken htx).2.2.2
  have hgetD : s.pending.getD txHash Dict.empty = pending := by
    rw [Dict.getD, hpending]
    rfl
  unfold finishPass PassTracked
  cases awaitReceipt pass with
  | noEndpoint =>
    refine ⟨0, 0, hstart, ?_⟩
    have hsame : exhausted { s with processing := none } txHash = exhausted s txHash := rfl
    simp [hsame, hunmarked]
  | unavailable =>
    obtain ⟨again, hresult, hiff⟩ := @unavailable_result config _ _ _ _ hstart hpending pass
    refine ⟨again, 0, hresult, ?_⟩
    rw [hgetD]
    exact hiff
  | raised e receiptSeen =>
    cases e with
    | other =>
      refine ⟨0, 0, hstart.dead, ?_⟩
      have hsame : exhausted { s with processing := none, alive := false } txHash
          = exhausted s txHash := rfl
      simp [afterRaise, hsame, hunmarked]
    | safe text =>
      obtain ⟨pending', hmarked, hpending', hresult⟩ := @handle_result config _ _ _ _ _ hstart
        hpending pass.nowMs text receiptSeen
      have hmark := (exhausted_of_get? hpending').trans hmarked.exhausted
      refine ⟨_, 0, hresult, ?_⟩
      simp only [afterRaise, hmark]
      by_cases hretries : Retries config { s with processing := none } receiptSeen pending
      · simp [hretries]
      · simp [hretries]
  | received status decoded =>
    obtain ⟨recorded, hresult, hout, hiff⟩ := @settlePending_result config _ _ _ _ hstart
      hpending pass decoded
    obtain ⟨hafter, hmap⟩ := @afterRaise_popped config pass _ _ _ _ _ hresult
      (settlePending config pass txHash decoded { s with processing := none }).2
    refine ⟨0, recorded, hafter, ?_⟩
    have hnone := exhausted_of_get?_none (hmap ▸ hout)
    simp only [hnone, Bool.toNat_false, Nat.zero_add, Nat.add_zero]
    exact hiff

/-! ## One event -/

structure Touches (s s' : LoopState) (txHash : String) : Prop where
  queue : ∀ tx, tx ≠ txHash → s'.queue.count tx = s.queue.count tx
  processing : ∀ tx, tx ≠ txHash → s'.processing.toList.count tx = s.processing.toList.count tx
  recorded : ∀ tx, tx ≠ txHash → s'.recorded.count tx = s.recorded.count tx
  pending : ∀ tx, tx ≠ txHash → s'.pending.get? tx = s.pending.get? tx
  submitted : ∀ tx, tx ∈ s'.submitted ↔ tx ∈ s.submitted ∨ tx = txHash
  own : ∀ pending, s'.pending.get? txHash = some pending → submitTsS pending = 0
  waiting : txHash ∈ s'.queue ∨ s'.processing = some txHash →
    ∃ pending, s'.pending.get? txHash = some pending

theorem Touches.places (h : Touches s s' txHash) {tx : String} (htx : tx ≠ txHash) :
    places s' tx = places s tx := by
  unfold Receipt.places
  rw [h.queue tx htx, h.processing tx htx, h.recorded tx htx, exhausted_congr (h.pending tx htx)]

theorem Touches.tracked_iff (hinv : LoopInv s) (h : Touches s s' txHash) :
    Tracked s' ↔ Receipt.places s' txHash = 1 := by
  constructor
  · intro htracked
    exact htracked txHash ((h.submitted txHash).2 (.inr rfl))
  · intro hone tx hsubmitted
    by_cases htx : tx = txHash
    · rw [htx, hone]
    · rw [h.places htx]
      rcases (h.submitted tx).1 hsubmitted with hold | hnew
      · exact hinv.tracked tx hold
      · exact absurd hnew htx

theorem Touches.inv (hinv : LoopInv s) (h : Touches s s' txHash)
    (hone : Receipt.places s' txHash = 1) : LoopInv s' := by
  refine ⟨(h.tracked_iff hinv).2 hone, ?_, ?_, ?_⟩
  · intro tx hplaces
    by_cases htx : tx = txHash
    · exact (h.submitted tx).2 (.inr htx)
    · rw [h.places htx] at hplaces
      exact (h.submitted tx).2 (.inl (hinv.known tx hplaces))
  · intro tx hwaiting
    by_cases htx : tx = txHash
    · subst htx
      exact h.waiting hwaiting
    · rw [h.pending tx htx]
      apply hinv.waiting tx
      rcases hwaiting with hqueue | hprocessing
      · left
        rw [← List.count_pos_iff, ← h.queue tx htx]
        exact List.count_pos_iff.2 hqueue
      · right
        have hcount := h.processing tx htx
        rw [hprocessing] at hcount
        cases hworker : s.processing with
        | none => simp [hworker] at hcount
        | some tx' =>
          by_cases htx' : tx' = tx
          · rw [htx']
          · simp [hworker, htx'] at hcount
  · intro tx pending hpending
    by_cases htx : tx = txHash
    · subst htx
      exact h.own pending hpending
    · rw [h.pending tx htx] at hpending
      exact hinv.submissions tx pending hpending

theorem PassResult.touches {again recorded : Nat} (hinv : LoopInv s)
    (htx : s.processing = some txHash) (h : PassResult s s' txHash again recorded) :
    Touches s s' txHash ∧ places s' txHash = again + recorded + (exhausted s' txHash).toNat := by
  obtain ⟨hsubmitted, hqueue, hrecorded, _⟩ := hinv.taken htx
  constructor
  · constructor
    · intro tx hne
      simp [h.queue, List.count_replicate, Ne.symm hne]
    · intro tx hne
      simp [h.processing, htx, Ne.symm hne]
    · intro tx hne
      simp [h.recorded, List.count_replicate, Ne.symm hne]
    · exact h.others
    · intro tx
      rw [h.submitted]
      constructor
      · exact .inl
      · rintro (hold | rfl)
        · exact hold
        · exact hsubmitted
    · exact h.own
    · intro hwaiting
      apply h.waiting
      rintro rfl
      rcases hwaiting with hmem | hprocessing
      · rw [h.queue] at hmem
        simp only [List.replicate_zero, List.append_nil] at hmem
        exact absurd (List.count_pos_iff.2 hmem) (by omega)
      · rw [h.processing] at hprocessing
        cases hprocessing
  · rw [places, h.queue, h.recorded, h.processing]
    simp [hqueue, hrecorded]

theorem take_touches {config : LoopConfig} {s : LoopState} (hinv : LoopInv s) :
    loopStep config s .take = s
      ∨ ∃ txHash, Touches s (loopStep config s .take) txHash
        ∧ places (loopStep config s .take) txHash = 1 := by
  simp only [loopStep]
  split
  · rename_i txHash queue _ hworker hqueue
    have hmem : txHash ∈ s.queue := by
      rw [hqueue]
      exact List.mem_cons_self
    have hsubmitted : txHash ∈ s.submitted := by
      apply hinv.known
      have := List.count_pos_iff.2 hmem
      unfold places
      omega
    refine .inr ⟨txHash, ?_, ?_⟩
    · constructor
      · intro tx hne
        rw [hqueue]
        simp [Ne.symm hne]
      · intro tx hne
        simp [hworker, Ne.symm hne]
      · exact fun _ _ => rfl
      · exact fun _ _ => rfl
      · intro tx
        constructor
        · exact .inl
        · rintro (hold | rfl)
          · exact hold
          · exact hsubmitted
      · exact hinv.submissions txHash
      · exact fun _ => hinv.waiting txHash (.inl hmem)
    · have hone := hinv.tracked txHash hsubmitted
      have hmark : exhausted { s with processing := some txHash, queue := queue } txHash
          = exhausted s txHash := rfl
      unfold places at hone ⊢
      rw [hqueue, hworker] at hone
      simp only [hmark, List.count_cons_self, Option.toList_none, List.count_nil,
        Option.toList_some] at hone ⊢
      omega
  · exact .inl rfl

theorem store_touches (s : LoopState) {e : Execution} (hrecord : Stored e pending) (reserved : Int)
    (added : List String) (hadded : ∀ tx ∈ added, tx = e.txHash) :
    Touches s (storedState s e.txHash pending reserved added) e.txHash := by
  constructor
  · intro tx hne
    have hcount : added.count tx = 0 := List.count_eq_zero.2 fun hmem => hne (hadded tx hmem)
    simp [storedState, List.count_append, hcount]
  · exact fun _ _ => rfl
  · exact fun _ _ => rfl
  · intro tx hne
    exact Dict.get?_set_of_ne _ _ hne
  · intro tx
    simp [storedState]
  · intro p hp
    cases (Dict.get?_set_self _ _ _).symm.trans hp
    exact hrecord.ts
  · exact fun _ => ⟨pending, Dict.get?_set_self _ _ _⟩

/-- A stored record is not marked: its hash is only where it is held. -/
theorem store_places (s : LoopState) {e : Execution} (hrecord : Stored e pending) (reserved : Int)
    (added : List String) :
    places (storedState s e.txHash pending reserved added) e.txHash
      = s.queue.count e.txHash + added.count e.txHash + s.processing.toList.count e.txHash
        + s.recorded.count e.txHash := by
  have hmark : exhausted (storedState s e.txHash pending reserved added) e.txHash = false := by
    rw [exhausted_of_get? (Dict.get?_set_self _ _ _)]
    exact hrecord.unmarked
  rw [places, hmark]
  simp [storedState, List.count_append]

theorem record_touches {config : LoopConfig} {s : LoopState} (hinv : LoopInv s) (e : Execution) :
    (recordExecution config e s = s ∧ SubmissionTracked config s e)
      ∨ Touches s (recordExecution config e s) e.txHash
        ∧ (places (recordExecution config e s) e.txHash = 1 ↔ SubmissionTracked config s e) := by
  unfold SubmissionTracked
  cases hstored : e.stored with
  | none =>
    rw [recordExecution_of_none config s hstored]
    by_cases hsubmits : e.submits = true
    · right
      simp only [hsubmits, if_true, forall_const]
      constructor
      · refine ⟨fun _ _ => rfl, fun _ _ => rfl, fun _ _ => rfl, fun _ _ => rfl, ?_,
          hinv.submissions _, hinv.waiting _⟩
        intro tx
        simp
      · have hplaces : places { s with submitted := s.submitted ++ [e.txHash] } e.txHash
            = places s e.txHash := rfl
        rw [hplaces]
        constructor
        · intro hone
          exact hinv.known _ (by omega)
        · exact hinv.tracked _
    · left
      simp [hsubmits]
  | some pending =>
    obtain ⟨hsubmits, hrecord⟩ := e.stored_eq_some hstored
    rw [recordExecution_of_some config s hstored]
    right
    refine ⟨store_touches s hrecord _ _ ?_, ?_⟩
    · intro tx htx
      split at htx
      · exact List.mem_singleton.1 htx
      · cases htx
    · rw [store_places s hrecord]
      simp only [hsubmits, forall_const]
      split
      · rw [held_iff, List.count_singleton_self]
        omega
      · rw [held_iff, List.count_nil]
        constructor
        · omega
        · intro hpos
          -- A hash that is held was submitted, so that it is in one place already.
          have hone := hinv.tracked e.txHash (hinv.known _ (by unfold places; omega))
          unfold places at hone
          omega

/-! ## Runs -/

/-- **One event** keeps every submitted hash in exactly one place if and only if it is tracked. -/
theorem loopStep_tracked {config : LoopConfig} (hinv : LoopInv s) (event : LoopEvent) :
    (StepTracked config s event → LoopInv (loopStep config s event))
      ∧ (Tracked (loopStep config s event) → StepTracked config s event) := by
  cases event with
  | record e =>
    rcases @record_touches config _ hinv e with ⟨hsame, htracked⟩ | ⟨htouches, hiff⟩
    · constructor
      · intro _
        rwa [loopStep, hsame]
      · exact fun _ => htracked
    · constructor
      · intro htracked
        exact htouches.inv hinv (hiff.2 htracked)
      · intro hafter
        exact hiff.1 ((htouches.tracked_iff hinv).1 hafter)
  | take =>
    refine ⟨fun _ => ?_, fun _ => trivial⟩
    rcases @take_touches config _ hinv with hsame | ⟨txHash, htouches, hone⟩
    · rwa [hsame]
    · exact htouches.inv hinv hone
  | finish pass =>
    cases hworker : s.processing with
    | none => simpa [loopStep, StepTracked, hworker] using hinv
    | some txHash =>
      obtain ⟨again, recorded, hresult, hiff⟩ :=
        @finishPass_result config _ _ hinv hworker pass
      obtain ⟨htouches, hplaces⟩ := hresult.touches hinv hworker
      simp only [loopStep, StepTracked, hworker, Option.some.injEq, forall_eq']
      rw [← hplaces] at hiff
      constructor
      · intro htracked
        exact htouches.inv hinv (hiff.2 htracked)
      · intro hafter
        exact hiff.1 ((htouches.tracked_iff hinv).1 hafter)
  | start => exact ⟨fun _ => ⟨hinv.tracked, hinv.known, hinv.waiting, hinv.submissions⟩,
      fun _ => trivial⟩
  | remaining day =>
    refine ⟨fun _ => ?_, fun _ => trivial⟩
    obtain ⟨reserved, spent, hreset⟩ := resetBudgetDayIfNeeded_eq day s
    have hstate : loopStep config s (.remaining day)
        = s.withBudget reserved spent day s.gasLog := by
      show (gasBudgetRemainingWei config day s).1 = _
      unfold gasBudgetRemainingWei
      rw [hreset]
      dsimp only
      split <;> rfl
    rw [hstate]
    exact ⟨hinv.tracked, hinv.known, hinv.waiting, hinv.submissions⟩

theorem initial_loopInv (day : Nat) : LoopInv (LoopState.initial day) where
  tracked _ h := absurd h List.not_mem_nil
  known _ h := absurd rfl h
  waiting _ h := by simp [LoopState.initial] at h
  submissions _ _ h := by cases h

/-- **When no submitted hash is lost**: in every state of a run every submitted hash is in
exactly one place, if and only if every event of the run is tracked. -/
theorem submissions_tracked_iff (config : LoopConfig) (day : Nat) (events : List LoopEvent) :
    (∀ reached, reached <+: events →
        Tracked (run (loopStep config) (LoopState.initial day) reached))
      ↔ AllSteps (loopStep config) (StepTracked config) (LoopState.initial day) events :=
  @reached_iff _ _ (loopStep config) (fun _ _ => True) (StepTracked config) LoopInv Tracked
    (fun _ hinv => hinv.tracked)
    (fun _ event hinv _ => (loopStep_tracked hinv event).1)
    (fun _ event hinv _ => (loopStep_tracked hinv event).2)
    _ (initial_loopInv day) _ (allSteps_of_forall (fun _ _ => trivial) _ _)

/-- The worker passes over the hash when there is no endpoint: it is pending without a mark and
nowhere else. -/
theorem submission_lost :
    ¬ Tracked (run (loopStep sampleLoop) (LoopState.initial 0)
        [.record sampleExecution, .take, .finish passWithoutEndpoint]) := by
  intro htracked
  exact absurd (htracked "0x1" (by decide +kernel)) (by decide +kernel)

end SovereignCapital.Receipt
