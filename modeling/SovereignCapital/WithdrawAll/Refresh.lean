import SovereignCapital.WithdrawAll.State

/-! # Refresh of the submitted result

`state` asks the node for the transactions of the last result that are not mined yet, under one
status of the service, and writes down what it is told.
-/

namespace SovereignCapital.WithdrawAll

open Bytes Tx

/-! ## Failures -/

def stateRefreshTtlMs : Int := 10 * 1000

def refreshFailureDecayIntervalMs : Int := 60 * 1000

def normalizeRefreshFailureReason (reasonCode : String) : String :=
  let normalized := String.ofList (pyLower (pyStrip reasonCode.toList))
  if normalized ∈ ["read_rpc_unavailable", "refresh_read_rpc_missing"] then
    "refresh_read_rpc_missing"
  else if normalized ∈ ["receipt_lookup_degraded", "refresh_receipt_lookup_degraded"] then
    "refresh_receipt_lookup_degraded"
  else normalized

/-- `_apply_refresh_failure`: the same failure again counts on. -/
def applyRefreshFailure (failure : RefreshFailure) (tsMs : Int) (reasonCode : String) :
    RefreshFailure :=
  let reason := normalizeRefreshFailureReason reasonCode
  let previous := normalizeRefreshFailureReason failure.reasonCode
  { tsMs := tsMs
    reasonCode := reason
    count :=
      if reason ≠ "" ∧ reason = previous ∧ 0 < failure.count then failure.count + 1
      else if reason ≠ "" then 1 else 0 }

def RefreshFailure.cleared : RefreshFailure := ⟨0, "", 0⟩

/-- `_decay_refresh_failure`, and whether there is something to save. -/
def decayRefreshFailure (failure : RefreshFailure) (nowMs : Int) : RefreshFailure × Bool :=
  let reason := normalizeRefreshFailureReason failure.reasonCode
  if reason = "" ∨ failure.count ≤ 0 ∨ failure.tsMs ≤ 0 then
    if failure.count ≠ 0 ∨ reason ≠ "" ∨ failure.tsMs ≠ 0 then (.cleared, true)
    else (failure, false)
  else
    let steps := max 0 (nowMs - failure.tsMs) / refreshFailureDecayIntervalMs
    if steps ≤ 0 then (failure, false)
    else
      let applied := min failure.count steps
      if failure.count - applied ≤ 0 then (.cleared, true)
      else
        ({ failure with
            count := failure.count - applied
            tsMs := failure.tsMs + applied * refreshFailureDecayIntervalMs }, true)

/-- A failure that time decays; the others are cleared at once, or clear. -/
def RefreshFailure.Decays (failure : RefreshFailure) : Prop :=
  normalizeRefreshFailureReason failure.reasonCode ≠ "" ∧ 0 < failure.count ∧ 0 < failure.tsMs

/-- What a number of intervals leaves of a failure. -/
def RefreshFailure.after (failure : RefreshFailure) (steps : Int) : RefreshFailure :=
  if failure.count ≤ steps then .cleared
  else
    { failure with
      count := failure.count - steps
      tsMs := failure.tsMs + steps * refreshFailureDecayIntervalMs }

/-- The intervals that have passed since a failure. -/
def RefreshFailure.steps (failure : RefreshFailure) (nowMs : Int) : Int :=
  max 0 (nowMs - failure.tsMs) / refreshFailureDecayIntervalMs

theorem interval_pos : 0 < refreshFailureDecayIntervalMs := by decide

theorem RefreshFailure.steps_nonneg (failure : RefreshFailure) (nowMs : Int) :
    0 ≤ failure.steps nowMs :=
  Int.ediv_nonneg (le_max_left _ _) interval_pos.le

theorem RefreshFailure.steps_mono (failure : RefreshFailure) {t1 t2 : Int} (h : t1 ≤ t2) :
    failure.steps t1 ≤ failure.steps t2 := by
  unfold RefreshFailure.steps
  exact Int.ediv_le_ediv interval_pos (max_le_max_left 0 (by omega))

/-- Intervals that are taken off are not counted again. -/
theorem RefreshFailure.steps_after {failure : RefreshFailure} {t1 t2 : Int} (h : t1 ≤ t2)
    (hleft : ¬failure.count ≤ failure.steps t1) :
    (failure.after (failure.steps t1)).steps t2 = failure.steps t2 - failure.steps t1 := by
  have hnonneg := Int.mul_nonneg (failure.steps_nonneg t1) interval_pos.le
  have hpassed : failure.steps t1 * refreshFailureDecayIntervalMs ≤ max 0 (t1 - failure.tsMs) :=
    Int.ediv_mul_le _ interval_pos.ne'
  have hmove : max 0 (t2 - (failure.tsMs + failure.steps t1 * refreshFailureDecayIntervalMs))
      = max 0 (t2 - failure.tsMs) + -failure.steps t1 * refreshFailureDecayIntervalMs := by
    rw [Int.neg_mul]
    generalize failure.steps t1 * refreshFailureDecayIntervalMs = passed at hnonneg hpassed
    omega
  rw [RefreshFailure.after, if_neg hleft]
  show max 0 (t2 - (failure.tsMs + _)) / _ = _
  rw [hmove, Int.add_mul_ediv_right _ _ interval_pos.ne', ← sub_eq_add_neg]
  rfl

theorem RefreshFailure.after_after {failure : RefreshFailure} {taken : Int} (steps : Int)
    (hleft : ¬failure.count ≤ taken) :
    (failure.after taken).after (steps - taken) = failure.after steps := by
  rw [RefreshFailure.after, RefreshFailure.after, RefreshFailure.after, if_neg hleft]
  by_cases hgone : failure.count ≤ steps
  · rw [if_pos hgone, if_pos (Int.sub_le_sub_right hgone _)]
  · rw [if_neg hgone, if_neg (by show ¬failure.count - taken ≤ steps - taken; omega), Int.sub_sub,
      Int.add_assoc, ← Int.add_mul, add_sub_cancel]

theorem decayRefreshFailure_of_decays {failure : RefreshFailure} (h : failure.Decays)
    (nowMs : Int) :
    (decayRefreshFailure failure nowMs).1 = failure.after (failure.steps nowMs) := by
  obtain ⟨hreason, hcount, hts⟩ := h
  have hactive : ¬(normalizeRefreshFailureReason failure.reasonCode = "" ∨ failure.count ≤ 0
      ∨ failure.tsMs ≤ 0) :=
    not_or.2 ⟨hreason, not_or.2 ⟨not_le.2 hcount, not_le.2 hts⟩⟩
  have hnonneg := failure.steps_nonneg nowMs
  rw [decayRefreshFailure, if_neg hactive, RefreshFailure.after]
  rw [RefreshFailure.steps] at hnonneg ⊢
  generalize max 0 (nowMs - failure.tsMs) / refreshFailureDecayIntervalMs = steps at hnonneg ⊢
  by_cases hnone : steps ≤ 0
  · obtain rfl : steps = 0 := le_antisymm hnone hnonneg
    rw [if_pos le_rfl, if_neg (not_le.2 hcount), Int.sub_zero, Int.zero_mul, Int.add_zero]
  · rw [if_neg hnone]
    by_cases hgone : failure.count ≤ steps
    · rw [min_eq_left hgone, if_pos (Int.sub_self _).le, if_pos hgone]
    · rw [min_eq_right (not_le.1 hgone).le, if_neg (by omega), if_neg hgone]

theorem decayRefreshFailure_of_not_decays {failure : RefreshFailure} (h : ¬failure.Decays)
    (nowMs : Int) : (decayRefreshFailure failure nowMs).1
      = if failure.count ≠ 0 ∨ normalizeRefreshFailureReason failure.reasonCode ≠ ""
          ∨ failure.tsMs ≠ 0 then .cleared else failure := by
  have hidle : normalizeRefreshFailureReason failure.reasonCode = "" ∨ failure.count ≤ 0
      ∨ failure.tsMs ≤ 0 := by
    by_contra hnot
    exact h ⟨fun heq => hnot (.inl heq), not_le.1 fun hle => hnot (.inr (.inl hle)),
      not_le.1 fun hle => hnot (.inr (.inr hle))⟩
  rw [decayRefreshFailure, if_pos hidle]
  split
  · rfl
  · rfl

theorem decayRefreshFailure_cleared (nowMs : Int) :
    (decayRefreshFailure .cleared nowMs).1 = .cleared := by
  have hclear : ¬RefreshFailure.cleared.Decays := fun h => absurd h.2.1 (by decide)
  rw [decayRefreshFailure_of_not_decays hclear, ite_self]

/-- Polling a failure in between does not change how it decays. -/
theorem decayRefreshFailure_polled (failure : RefreshFailure) (t1 t2 : Int) (h : t1 ≤ t2) :
    (decayRefreshFailure (decayRefreshFailure failure t1).1 t2).1
      = (decayRefreshFailure failure t2).1 := by
  by_cases hdecays : failure.Decays
  · rw [decayRefreshFailure_of_decays hdecays t1, decayRefreshFailure_of_decays hdecays t2]
    by_cases hgone : failure.count ≤ failure.steps t1
    · rw [RefreshFailure.after, if_pos hgone, decayRefreshFailure_cleared, RefreshFailure.after,
        if_pos (hgone.trans (failure.steps_mono h))]
    · -- what is left decays on from the moved time stamp
      have hleft : (failure.after (failure.steps t1)).Decays := by
        have hnonneg := Int.mul_nonneg (failure.steps_nonneg t1) interval_pos.le
        rw [RefreshFailure.after, if_neg hgone]
        exact ⟨hdecays.1, Int.sub_pos_of_lt (not_le.1 hgone),
          Int.add_pos_of_pos_of_nonneg hdecays.2.2 hnonneg⟩
      rw [decayRefreshFailure_of_decays hleft, RefreshFailure.steps_after h hgone,
        RefreshFailure.after_after _ hgone]
  · rw [decayRefreshFailure_of_not_decays hdecays t1]
    by_cases hset : failure.count ≠ 0 ∨ normalizeRefreshFailureReason failure.reasonCode ≠ ""
        ∨ failure.tsMs ≠ 0
    · rw [if_pos hset, decayRefreshFailure_cleared, decayRefreshFailure_of_not_decays hdecays,
        if_pos hset]
    · rw [if_neg hset]

/-- Three failures, polled after one interval and a half and again after two and a half. -/
theorem decayRefreshFailure_polled_twice :
    (decayRefreshFailure (decayRefreshFailure ⟨1000, "refresh_read_rpc_missing", 3⟩ 91000).1
      151000).1 = (decayRefreshFailure ⟨1000, "refresh_read_rpc_missing", 3⟩ 151000).1 :=
  decayRefreshFailure_polled _ _ _ (by decide)

/-- `_set_idle_refresh_metadata`, and whether it changes anything. -/
def setIdleRefreshMetadata (s : State) (reasonCode : String) : State × Bool :=
  let s' := { s with refresh := ⟨0, .idle, reasonCode⟩, failure := .cleared }
  (s', s.refresh ≠ s'.refresh ∨ 0 < s.failure.count ∨ 0 < s.failure.tsMs
    ∨ s.failure.reasonCode ≠ "")

/-! ## Items -/

/-- The refresh asks for a transaction with a hash and a status that is not final. -/
def ResultItem.refreshable (item : ResultItem) : Bool :=
  isTxHash item.txHash
    && item.txStatus ∈ [some TxStatus.pending, some .sent, some .receiptUnavailable]

def txStatusRank : TxStatus → Nat
  | .receiptUnavailable => 1
  | .sent => 2
  | .pending => 3
  | .minedReverted => 4
  | .minedSuccess => 4
  | .dropped => 0
  | .unknown => 0

/-- `_merge_tx_progress`: a status that ranks lower is dropped. -/
def mergeTxProgress (existing refreshed : SubmittedTxStatus) : SubmittedTxStatus :=
  if txStatusRank refreshed.txStatus < txStatusRank existing.txStatus then existing
  else
    { txHash := if refreshed.txHash = [] then existing.txHash else refreshed.txHash
      txStatus := refreshed.txStatus
      receiptStatus := refreshed.receiptStatus.or existing.receiptStatus
      blockNumber := refreshed.blockNumber.or existing.blockNumber
      receipt := refreshed.receipt.or existing.receipt
      proofReason := refreshed.proofReason }

def ResultItem.merge (item : ResultItem) (refreshed : SubmittedTxStatus) : ResultItem :=
  match item with
  | .submitted item tx => .submitted item (mergeTxProgress tx refreshed)
  | item => item

def itemStatusChanged (previous current : ResultItem) : Bool :=
  match previous, current with
  | .submitted _ tx, .submitted _ tx' =>
    decide ({ tx with txHash := [] } ≠ { tx' with txHash := [] })
  | _, _ => false

/-- What the node says about the transaction of an item: of its receipt, and whether it shows the
transaction; nothing where the lookup raises. -/
abbrev NodeAnswer := Option (ReceiptAnswer × Bool)

inductive Polled where
  | raises
  /-- a lookup failed -/
  | degraded
  | items (items : List ResultItem)

def Polled.cons (item : ResultItem) : Polled → Polled
  | .items rest => .items (item :: rest)
  | polled => polled

/-- The loop over the items; each item has its own answer. -/
def poll (sendMode : Text) (answers : Nat → NodeAnswer) : Nat → List ResultItem → Polled
  | _, [] => .items []
  | i, item :: rest =>
    if item.refreshable then
      match answers i with
      | none => .raises
      | some (answer, visible) =>
        let refreshed := assessSubmittedTx answer visible item.txHash sendMode
        if refreshed.proofReason = .receiptLookupDegraded then .degraded
        else (poll sendMode answers (i + 1) rest).cons (item.merge refreshed)
    else (poll sendMode answers (i + 1) rest).cons item

theorem Polled.cons_eq_items {item : ResultItem} {polled : Polled} {items : List ResultItem}
    (h : polled.cons item = .items items) :
    ∃ rest, polled = .items rest ∧ items = item :: rest := by
  cases polled with
  | items rest =>
    cases h
    exact ⟨rest, rfl, rfl⟩
  | raises => cases h
  | degraded => cases h

theorem ResultItem.refreshable_submitted {item : Item} {tx : SubmittedTxStatus} :
    (ResultItem.submitted item tx).refreshable = true
      ↔ isTxHash tx.txHash = true
        ∧ tx.txStatus ∈ [TxStatus.pending, .sent, .receiptUnavailable] := by
  simp [ResultItem.refreshable, ResultItem.txHash, ResultItem.txStatus]

theorem ResultItem.submitted_of_refreshable {item : ResultItem} (h : item.refreshable = true) :
    ∃ planned tx, item = .submitted planned tx := by
  cases item with
  | submitted planned tx => exact ⟨planned, tx, rfl⟩
  | planned item => simp [ResultItem.refreshable, ResultItem.txStatus] at h
  | prepared item calldata => simp [ResultItem.refreshable, ResultItem.txStatus] at h

/-! ## The result -/

/-- `_submitted_result_status`: the statuses of the items make the status of the result. -/
def submittedResult (items : List ResultItem) : Status × String × Result :=
  let result := fun ok status reasonCode state failedItem =>
    { ok := ok, status := some status, reasonCode := reasonCode, submissionState := state,
      failedItem := failedItem, items := items : Result }
  match items.find? fun item => item.txStatus = some .minedReverted with
  | some item =>
    (.executeFailed, "receipt_reverted",
      result false .executeFailed "receipt_reverted" none (some item))
  | none =>
    if items ≠ [] ∧ items.all (fun item => item.txStatus = some .minedSuccess) then
      (.completed, "ok", result true .completed "" none none)
    else (.submitted, "ok", result true .submitted "" (some (submissionState items)) none)

def State.withItems (s : State) (items : List ResultItem) : State :=
  let (status, reasonCode, result) := submittedResult items
  { s with
    lastStatus := status
    lastReasonCode := reasonCode
    lastResult := some result
    lastExecutedResult :=
      if s.lastExecutedPreviewId = [] then s.lastExecutedResult else some result }

/-- What a refresh reads besides the state. -/
structure Node where
  readUrl : Bool
  sendMode : Text
  answers : Nat → NodeAnswer

/-- What a refresh comes to before it asks the node. -/
inductive Turn where
  | idle (reasonCode : String)
  | cooldown
  | noNode
  | polls
deriving DecidableEq

def refreshTurn (s : State) (readUrl : Bool) (nowMs : Int) : Turn :=
  if s.lastStatus ≠ .submitted then .idle "not_submitted"
  else if s.items = [] then .idle "no_items"
  else if !s.items.any ResultItem.refreshable then .idle "no_refreshable_transactions"
  else if s.refresh.tsMs ≠ 0 ∧ nowMs - s.refresh.tsMs < stateRefreshTtlMs then .cooldown
  else if !readUrl then .noNode
  else .polls

def State.refreshFailed (s : State) (nowMs : Int) (reasonCode : String) : State :=
  { s with
    refresh := ⟨nowMs, .skipped, reasonCode⟩
    failure := applyRefreshFailure s.failure nowMs reasonCode }

def State.refreshed (s : State) (nowMs : Int) (items : List ResultItem) : State :=
  let changed := (s.items.zip items).any fun pair => itemStatusChanged pair.1 pair.2
  let s' := if changed then s.clearRefreshFailure.withItems items else s.clearRefreshFailure
  { s' with
    refresh :=
      ⟨nowMs, .refreshed, if changed then "refreshed_updated" else "refreshed_no_change"⟩ }

/-- `_refresh_submitted_result_progress`: the state that is saved, nothing where there is none. -/
def refreshSubmitted (s : State) (node : Node) (nowMs : Int) : Option State :=
  match refreshTurn s node.readUrl nowMs with
  | .idle reasonCode =>
    let (s', changed) := setIdleRefreshMetadata s reasonCode
    if changed then some s' else none
  | .cooldown => none
  | .noNode => some (s.refreshFailed nowMs "refresh_read_rpc_missing")
  | .polls =>
    match poll node.sendMode node.answers 0 s.items with
    | .raises => none
    | .degraded => some (s.refreshFailed nowMs "refresh_receipt_lookup_degraded")
    | .items items => some (s.refreshed nowMs items)

/-- `state` up to its refresh: the failure has decayed. -/
def State.decayed (s : State) (nowMs : Int) : State :=
  { s with failure := (decayRefreshFailure s.failure nowMs).1 }

theorem State.lastStatus_decayed (s : State) (nowMs : Int) :
    (s.decayed nowMs).lastStatus = s.lastStatus := by
  rw [State.decayed]

theorem State.lastResult_decayed (s : State) (nowMs : Int) :
    (s.decayed nowMs).lastResult = s.lastResult := by
  rw [State.decayed]

/-- `state`: the failure decays and the result is refreshed, each with its own save. -/
def refreshState (file : File) (node : Node) (nowMs refreshMs : Int)
    (decaySave refreshSave : Save) : File :=
  let s := file.load.decayed nowMs
  let file :=
    if (decayRefreshFailure file.load.failure nowMs).2 then file.save s decaySave else file
  match refreshSubmitted s node refreshMs with
  | none => file
  | some s' => file.save s' refreshSave

end SovereignCapital.WithdrawAll
