import SovereignCapital.Lib.Runs
import SovereignCapital.Receipt.Submission

/-! # The receipt loop

A submitted execution is stored in the pending map, its gas estimate is reserved and its hash
goes to the queue (`record_execution`). One worker takes the hashes from the queue, waits for
the receipt, pops the pending record, books the gas and settles (`_receipt_loop`). The day of
the gas budget is reset where it is read.

Between taking a hash and the receipt the worker waits, and submissions and readings of the
budget may come in between; from the pop on it does not. So one pass of the loop is two
events: `take`, and `finish` with everything the outside answers in the pass.
-/

namespace SovereignCapital.Receipt

open Bytes

/-! ## State -/

structure LoopConfig where
  /-- `VICTOR_RECEIPT_QUEUE_MAX`; a queue without a positive size is unbounded -/
  queueMax : Int
  /-- the runtime has a receipt service -/
  service : Bool
  /-- `cfg.execution.daily_gas_budget_wei` -/
  dailyGasBudgetWei : PyValue

/-- The runtime as the loop, the submissions and the budget see it. A day is its number. -/
structure LoopState where
  pending : Dict String PyDict
  queue : List String
  /-- the hash the worker has taken -/
  processing : Option String
  alive : Bool
  pendingGasEstWei : Int
  gasSpentTodayWei : Int
  budgetDay : Nat
  /-- history: the hashes of all submitted executions -/
  submitted : List String
  /-- history: the hashes settled or written down as a settlement or truth failure -/
  recorded : List String
  /-- history: the gas of the receipts with the day it was booked on -/
  gasLog : List (Nat × Int)

def LoopState.initial (day : Nat) : LoopState where
  pending := Dict.empty
  queue := []
  processing := none
  alive := true
  pendingGasEstWei := 0
  gasSpentTodayWei := 0
  budgetDay := day
  submitted := []
  recorded := []
  gasLog := []

/-- `put_nowait` does not raise. -/
def LoopState.hasRoom (config : LoopConfig) (s : LoopState) : Prop :=
  config.queueMax ≤ 0 ∨ (s.queue.length : Int) < config.queueMax

instance (config : LoopConfig) (s : LoopState) : Decidable (s.hasRoom config) :=
  inferInstanceAs (Decidable (_ ∨ _))

/-! ## Submission -/

/-- An execution as `record_execution` gets it. -/
structure Execution where
  submitted : Bool
  ok : Bool
  dryRun : Bool
  input : SubmissionInput
  /-- the log entry and the P&L row before the pending record are made without raising -/
  logged : Bool

def Execution.txHash (e : Execution) : String := textOf e.input.txHash (.text "")

def Execution.submits (e : Execution) : Bool := e.submitted && !e.dryRun && e.txHash != ""

/-- The record that is stored; nothing where `record_execution` stores none. -/
def Execution.stored (e : Execution) : Option PyDict :=
  if e.logged && e.submitted && e.ok && !e.dryRun && e.txHash != "" then
    buildPendingSubmission e.input
  else none

/-- `int(_safe_int(pending.get("gas_est_wei") or 0))`. -/
def reservedGas (pending : PyDict) : Int :=
  ((pending.get "gas_est_wei").orElse (.int 0)).safeInt

/-- `record_execution`. A full queue is passed over. -/
def recordExecution (config : LoopConfig) (e : Execution) (s : LoopState) : LoopState :=
  let s :=
    if e.submits then { s with submitted := s.submitted ++ [e.txHash] } else s
  match e.stored with
  | none => s
  | some pending =>
    let s :=
      { s with
        pending := s.pending.set e.txHash pending
        pendingGasEstWei := s.pendingGasEstWei + reservedGas pending }
    if s.hasRoom config then { s with queue := s.queue ++ [e.txHash] } else s

def storedState (s : LoopState) (txHash : String) (pending : PyDict) (reserved : Int)
    (added : List String) : LoopState :=
  { s with
    submitted := s.submitted ++ [txHash]
    pending := s.pending.set txHash pending
    pendingGasEstWei := reserved
    queue := s.queue ++ added }

variable {e : Execution} {pending pending' : PyDict}

theorem recordExecution_of_none (config : LoopConfig) (s : LoopState) (h : e.stored = none) :
    recordExecution config e s
      = if e.submits then { s with submitted := s.submitted ++ [e.txHash] } else s := by
  unfold recordExecution
  rw [h]

/-! ## Budget -/

def resetBudgetDayIfNeeded (day : Nat) (s : LoopState) : LoopState :=
  if day ≠ s.budgetDay then
    { s with budgetDay := day, gasSpentTodayWei := 0, pendingGasEstWei := 0 }
  else s

def LoopConfig.dailyBudget (config : LoopConfig) : Int :=
  (config.dailyGasBudgetWei.orElse (.text "0")).int?.getD 0

def gasBudgetRemainingWei (config : LoopConfig) (day : Nat) (s : LoopState) : LoopState × Int :=
  let s := resetBudgetDayIfNeeded day s
  if config.dailyBudget ≤ 0 then (s, 10 ^ 30)
  else (s, max 0 (config.dailyBudget - (s.gasSpentTodayWei + s.pendingGasEstWei)))

def realizedGas (decoded : PyDict) : Option Int :=
  (PyValue.text ((decoded.get "realized_gas_cost_wei").orElse (.text "0")).str).int?

/-- `update_realized_gas_budget`. A cost that does not read is not booked. -/
def updateRealizedGasBudget (day : Nat) (gasEstWei : Int) (decoded : PyDict) (s : LoopState) :
    LoopState :=
  let s := resetBudgetDayIfNeeded day s
  let s := { s with pendingGasEstWei := max 0 (s.pendingGasEstWei - gasEstWei) }
  match realizedGas decoded with
  | none => s
  | some realGas =>
    if 0 < realGas then
      { s with
        gasSpentTodayWei := s.gasSpentTodayWei + realGas
        gasLog := s.gasLog ++ [(day, realGas)] }
    else s

/-! ## One pass of the loop -/

/-- An exception: of the classes the loop handles, or of another one. -/
inductive Raised where
  | safe (text : String)
  | other
deriving DecidableEq

inductive ReceiptAnswer where
  | unavailable
  /-- something that is not a dictionary -/
  | malformed
  | receipt (r : PyDict)

structure Pass where
  nowMs : Int
  day : Nat
  /-- `best_read()` -/
  readUrl : Except Raised String
  /-- the connection and `wait_for_receipt` -/
  answer : Except Raised ReceiptAnswer
  /-- closing the session after a receipt was unavailable -/
  closing : Option Raised
  /-- the rest of the session after a receipt, up to its closing: the decoded receipt -/
  updateReceipt : Except Raised PyDict
  /-- `record_submit_to_receipt_latency` -/
  latency : Option Raised
  /-- `settled_outcome_truth`, whether it is ok -/
  outcomeTruth : Except Raised Bool
  tradeOutcome : Option Raised
  rewardTrace : Option Raised
  captureOutcome : Option Raised
  decisionLearning : Option Raised
  rewardAudit : Option Raised
  /-- the finalization, step by step -/
  replay : Option Raised
  truthHealth : Option Raised
  truthGap : Option Raised
  settlement : Option Raised
  /-- what is raised once the settlement or the gap is recorded -/
  followThrough : Option Raised

/-- The numbers of the receipt are read; nothing where `int(.., 16)` raises. -/
def hexInt : PyValue → Option Int
  | .text s => pyInt 16 (if s = "" then "0x0" else s).toList
  | _ => some 0

/-- The status of a receipt; an empty text raises. -/
def receiptStatus (r : PyDict) : Option Int :=
  match r.get "status" with
  | .text s => pyInt 16 s.toList
  | _ => some 0

/-- The part of the pass before the pop. -/
inductive Awaited where
  | noEndpoint
  | unavailable
  | raised (e : Raised) (receiptSeen : Bool)
  | received (status : Int) (decoded : PyDict)

def badNumber : Raised := .safe "invalid literal for int() with base 16"

def awaitReceipt (pass : Pass) : Awaited :=
  match pass.readUrl with
  | .error e => .raised e false
  | .ok "" => .noEndpoint
  | .ok _ =>
    match pass.answer with
    | .error e => .raised e false
    | .ok .unavailable => .unavailable
    | .ok .malformed => .raised (.safe "object has no attribute 'get'") true
    | .ok (.receipt r) =>
      match hexInt (r.get "gasUsed"),
        hexInt ((r.get "effectiveGasPrice").orElse ((r.get "gasPrice").orElse (.text "0x0"))),
        hexInt (r.get "blockNumber") with
      | some _, some _, some _ =>
        match pass.updateReceipt, receiptStatus r with
        | .error e, _ => .raised e true
        | .ok _, none => .raised badNumber true
        | .ok decoded, some status => .received status decoded
      | _, _, _ => .raised badNumber true

/-! ### Failures -/

def receiptRetryCount (pending : PyDict) : Int := max 0 (readInt pending "_receipt_retry_count" 0)

def receiptRetryLimit : Int := 3

/-- The record with the marks of a failure that may be tried again. -/
def retryingRecord (nowMs : Int) (error : String) (receiptSeen : Bool) (pending : PyDict) :
    PyDict :=
  ((((((pending.set "_receipt_retry_count" (.int (receiptRetryCount pending + 1))).set
    "_receipt_retry_last_error" (.text error)).set
    "_receipt_retry_last_error_ts_ms" (.int nowMs)).set
    "_receipt_retry_receipt_seen" (.bool receiptSeen)).set
    "_receipt_retry_exhausted" (.bool false)).set
    "_receipt_retry_state" (.text "retrying"))

def exhaustedRecord (receiptSeen : Bool) (pending : PyDict) : PyDict :=
  (pending.set "_receipt_retry_exhausted" (.bool true)).set "_receipt_retry_state"
    (.text (if receiptSeen then "awaiting_manual_recovery" else "retry_exhausted"))

/-- The failure of this record is tried again when the queue has room. -/
def shouldRetry (receiptSeen : Bool) (pending : PyDict) : Prop :=
  receiptSeen = false ∧ receiptRetryCount pending + 1 < receiptRetryLimit

instance (receiptSeen : Bool) (pending : PyDict) : Decidable (shouldRetry receiptSeen pending) :=
  inferInstanceAs (Decidable (_ ∧ _))

def handleReceiptLoopFailure (config : LoopConfig) (nowMs : Int) (txHash error : String)
    (receiptSeen pendingPopped : Bool) (s : LoopState) : LoopState :=
  if pendingPopped then s
  else
    match s.pending.get? txHash with
    | none => s
    | some pending =>
      let record := retryingRecord nowMs error receiptSeen pending
      if shouldRetry receiptSeen pending then
        if s.hasRoom config then
          { s with pending := s.pending.set txHash record, queue := s.queue ++ [txHash] }
        else
          { s with
            pending := s.pending.set txHash
              (exhaustedRecord receiptSeen
                (record.set "_receipt_retry_last_error" (.text "receipt_retry_queue_full"))) }
      else { s with pending := s.pending.set txHash (exhaustedRecord receiptSeen record) }

/-! ### Settlement -/

/-- `_safe_finalize_receipt_side_effects`. A step that raises a handled exception is written
down and passed over, the settlement and the gap too; another exception ends it. -/
def finalizeReceipt (pass : Pass) (truthOk : Bool) (txHash : String) (s : LoopState) :
    LoopState × Option Raised :=
  if pass.replay = some .other then (s, some .other)
  else if pass.truthHealth = some .other then (s, some .other)
  else if (if truthOk then pass.settlement else pass.truthGap) = some .other then (s, some .other)
  else ({ s with recorded := s.recorded ++ [txHash] }, pass.followThrough)

/-- What is raised between the booking of the gas and the finalization. -/
def outcomeRaises (pass : Pass) : Option Raised :=
  pass.tradeOutcome.or (pass.rewardTrace.or (pass.captureOutcome.or
    (pass.decisionLearning.or pass.rewardAudit)))

def settlePending (config : LoopConfig) (pass : Pass) (txHash : String) (decoded : PyDict)
    (s : LoopState) : LoopState × Option Raised :=
  let pending := (s.pending.get? txHash).getD Dict.empty
  let s := { s with pending := s.pending.erase txHash }
  if config.service = false then (s, pass.rewardTrace)
  else if 0 < submitTsS pending ∧ pass.latency ≠ none then (s, pass.latency)
  else
    let s := updateRealizedGasBudget pass.day (pendingFields pending).gasEstWei decoded s
    match pass.outcomeTruth, outcomeRaises pass with
    | .error e, _ => (s, some e)
    | .ok _, some e => (s, some e)
    | .ok truthOk, none => finalizeReceipt pass truthOk txHash s

/-- The end of a pass: an exception that is not handled ends the worker. -/
def afterRaise (config : LoopConfig) (pass : Pass) (txHash : String)
    (receiptSeen pendingPopped : Bool) (raised : Option Raised) (s : LoopState) : LoopState :=
  match raised with
  | none => s
  | some (.safe text) =>
    handleReceiptLoopFailure config pass.nowMs txHash text receiptSeen pendingPopped s
  | some .other => { s with alive := false }

/-- The pass of a taken hash from `best_read` to the end. -/
def finishPass (config : LoopConfig) (pass : Pass) (txHash : String) (s : LoopState) :
    LoopState :=
  let s := { s with processing := none }
  match awaitReceipt pass with
  | .noEndpoint => s
  | .unavailable =>
    afterRaise config pass txHash false false pass.closing
      (handleReceiptLoopFailure config pass.nowMs txHash "receipt_unavailable" false false s)
  | .raised e receiptSeen => afterRaise config pass txHash receiptSeen false (some e) s
  | .received _ decoded =>
    let (s, raised) := settlePending config pass txHash decoded s
    afterRaise config pass txHash true true raised s

/-! ## Events -/

inductive LoopEvent where
  /-- an execution is recorded -/
  | record (e : Execution)
  /-- the worker takes the next hash -/
  | take
  /-- the worker ends its pass -/
  | finish (pass : Pass)
  /-- the runtime is started: a worker that ended runs again -/
  | start
  /-- the remaining budget is read -/
  | remaining (day : Nat)

def loopStep (config : LoopConfig) (s : LoopState) : LoopEvent → LoopState
  | .record e => recordExecution config e s
  | .take =>
    match s.alive, s.processing, s.queue with
    | true, none, txHash :: queue => { s with processing := some txHash, queue := queue }
    | _, _, _ => s
  | .finish pass =>
    match s.processing with
    | none => s
    | some txHash => finishPass config pass txHash s
  | .start => { s with alive := true }
  | .remaining day => (gasBudgetRemainingWei config day s).1

/-! ## The budget and the places of the hashes -/

def LoopState.withBudget (s : LoopState) (reserved spent : Int) (day : Nat)
    (log : List (Nat × Int)) : LoopState :=
  { s with
    pendingGasEstWei := reserved
    gasSpentTodayWei := spent
    budgetDay := day
    gasLog := log }

theorem resetBudgetDayIfNeeded_eq (day : Nat) (s : LoopState) :
    ∃ reserved spent, resetBudgetDayIfNeeded day s = s.withBudget reserved spent day s.gasLog := by
  unfold resetBudgetDayIfNeeded
  split
  · exact ⟨_, _, rfl⟩
  · rename_i hday
    rw [not_not] at hday
    exact ⟨s.pendingGasEstWei, s.gasSpentTodayWei, by rw [hday]; rfl⟩

theorem updateRealizedGasBudget_eq (day : Nat) (gasEstWei : Int) (decoded : PyDict)
    (s : LoopState) :
    ∃ reserved spent log, updateRealizedGasBudget day gasEstWei decoded s
      = s.withBudget reserved spent day log := by
  obtain ⟨reserved, spent, hreset⟩ := resetBudgetDayIfNeeded_eq day s
  unfold updateRealizedGasBudget
  simp only [hreset]
  split
  · exact ⟨_, _, _, rfl⟩
  · split <;> exact ⟨_, _, _, rfl⟩

/-! ## The records of the pending map -/

/-- The marks of a failure leave the record of the submission as it is. -/
structure SameSubmission (pending pending' : PyDict) : Prop where
  ts : submitTsS pending' = submitTsS pending
  gasEstWei : (pendingFields pending').gasEstWei = (pendingFields pending).gasEstWei

theorem SameSubmission.of_get (hts : pending'.get "ts" = pending.get "ts")
    (hgas : pending'.get "gas_est_wei" = pending.get "gas_est_wei") :
    SameSubmission pending pending' := by
  constructor
  · rw [submitTsS, submitTsS, readInt, readInt, hts]
  · show readInt pending' _ _ = readInt pending _ _
    rw [readInt, readInt, hgas]

theorem SameSubmission.trans {pending'' : PyDict} (h : SameSubmission pending pending')
    (h' : SameSubmission pending' pending'') : SameSubmission pending pending'' :=
  ⟨h'.ts.trans h.ts, h'.gasEstWei.trans h.gasEstWei⟩

/-- A record that is stored: it has no submission time and no mark, and its gas estimate is
the one that is reserved. -/
structure Stored (e : Execution) (pending : PyDict) : Prop where
  ts : submitTsS pending = 0
  unmarked : (pending.get "_receipt_retry_exhausted").truthy = false
  gasEstWei : (pendingFields pending).gasEstWei = e.input.gasEstimate.safeInt
  reserved : reservedGas pending = e.input.gasEstimate.safeInt

theorem Execution.stored_eq_some (h : e.stored = some pending) :
    e.submits = true ∧ Stored e pending := by
  unfold Execution.stored at h
  split at h
  · rename_i hflags
    simp only [Bool.and_eq_true] at hflags
    obtain ⟨⟨⟨⟨_, hsubmitted⟩, _⟩, hlive⟩, hhash⟩ := hflags
    obtain ⟨_, _, _, _, hwritten⟩ := buildPendingSubmission_eq_some h
    refine ⟨by simp [Execution.submits, hsubmitted, hlive, hhash], ?_⟩
    constructor
    · exact (submitToReceiptMs_eq_zero h 0).1
    · unfold buildPendingSubmission at h
      split at h
      · rw [← Option.some.inj h]
        simp [PyDict.literal, PyDict.get, Dict.getD, Dict.get?_set, PyValue.truthy]
      · cases h
    · exact readInt_int hwritten.gasEstWei
    · rw [reservedGas, hwritten.gasEstWei]
      by_cases hzero : e.input.gasEstimate.safeInt = 0
      · rw [PyValue.orElse_of_falsy _ (by simp [PyValue.truthy, hzero]), PyValue.safeInt_int, hzero]
      · rw [PyValue.orElse_of_truthy _ (by simp [PyValue.truthy, hzero]), PyValue.safeInt_int]
  · cases h

theorem recordExecution_of_some (config : LoopConfig) (s : LoopState)
    (h : e.stored = some pending) :
    recordExecution config e s
      = storedState s e.txHash pending (s.pendingGasEstWei + reservedGas pending)
        (if s.hasRoom config then [e.txHash] else []) := by
  unfold recordExecution
  rw [h, (e.stored_eq_some h).1, if_pos rfl]
  by_cases hroom : s.hasRoom config
  · rw [if_pos hroom]
    refine (if_pos ?_).trans rfl
    exact hroom
  · rw [if_neg hroom, storedState, List.append_nil]
    refine (if_neg ?_).trans rfl
    exact hroom

/-- What a failure leaves of a record: it stays for another try, or is marked as exhausted. -/
structure Marked (pending pending' : PyDict) (exhausted : Bool) : Prop where
  same : SameSubmission pending pending'
  count : receiptRetryCount pending' = receiptRetryCount pending + 1
  exhausted : (pending'.get "_receipt_retry_exhausted").truthy = exhausted

theorem receiptRetryCount_nonneg (pending : PyDict) : 0 ≤ receiptRetryCount pending :=
  le_max_left _ _

theorem retryingRecord_marked (nowMs : Int) (error : String) (receiptSeen : Bool)
    (pending : PyDict) :
    Marked pending (retryingRecord nowMs error receiptSeen pending) false := by
  have hcount := receiptRetryCount_nonneg pending
  constructor
  · apply SameSubmission.of_get <;> simp [retryingRecord, PyDict.get, Dict.getD_set]
  · rw [receiptRetryCount, @readInt_int _ _ (receiptRetryCount pending + 1)
      (by simp [retryingRecord, PyDict.get, Dict.getD_set])]
    omega
  · simp [retryingRecord, PyDict.get, Dict.getD_set, PyValue.truthy]

theorem Marked.lastError {exhausted : Bool} (h : Marked pending pending' exhausted)
    (error : String) :
    Marked pending (pending'.set "_receipt_retry_last_error" (.text error)) exhausted := by
  constructor
  · apply h.same.trans
    apply SameSubmission.of_get <;> simp [PyDict.get, Dict.getD_set]
  · rw [← h.count, receiptRetryCount, receiptRetryCount, readInt, readInt]
    simp [PyDict.get, Dict.getD_set]
  · simpa [PyDict.get, Dict.getD_set] using h.exhausted

theorem Marked.exhaust {exhausted : Bool} (h : Marked pending pending' exhausted)
    (receiptSeen : Bool) : Marked pending (exhaustedRecord receiptSeen pending') true := by
  constructor
  · apply h.same.trans
    apply SameSubmission.of_get <;> simp [exhaustedRecord, PyDict.get, Dict.getD_set]
  · rw [← h.count, receiptRetryCount, receiptRetryCount, readInt, readInt]
    simp [exhaustedRecord, PyDict.get, Dict.getD_set]
  · simp [exhaustedRecord, PyDict.get, Dict.getD_set, PyValue.truthy]

/-- The failure of this record puts its hash back into the queue. -/
def Retries (config : LoopConfig) (s : LoopState) (receiptSeen : Bool) (pending : PyDict) : Prop :=
  shouldRetry receiptSeen pending ∧ s.hasRoom config

instance (config : LoopConfig) (s : LoopState) (receiptSeen : Bool) (pending : PyDict) :
    Decidable (Retries config s receiptSeen pending) := inferInstanceAs (Decidable (_ ∧ _))

/-- **What the failure handler does** to a hash that is pending: it goes back to the queue, or
its record is marked as exhausted. -/
theorem handleReceiptLoopFailure_eq {config : LoopConfig} {s : LoopState} {txHash : String}
    {pending : PyDict} (h : s.pending.get? txHash = some pending) (nowMs : Int) (error : String)
    (receiptSeen : Bool) :
    ∃ pending', Marked pending pending' (!decide (Retries config s receiptSeen pending))
      ∧ handleReceiptLoopFailure config nowMs txHash error receiptSeen false s
        = { s with
            pending := s.pending.set txHash pending'
            queue := s.queue ++ if Retries config s receiptSeen pending then [txHash] else [] } := by
  have hmarked := retryingRecord_marked nowMs error receiptSeen pending
  unfold handleReceiptLoopFailure Retries
  simp only [Bool.false_eq_true, if_false, h]
  by_cases hretry : shouldRetry receiptSeen pending
  · by_cases hroom : s.hasRoom config
    · exact ⟨_, by simpa [hretry, hroom] using hmarked, by simp [hretry, hroom]⟩
    · refine ⟨_, ?_, by simp only [hretry, hroom, and_false, if_true, if_false,
        List.append_nil]; rfl⟩
      simpa [hroom] using (hmarked.lastError _).exhaust receiptSeen
  · refine ⟨_, ?_, by simp only [hretry, false_and, if_false, List.append_nil]; rfl⟩
    simpa [hretry] using hmarked.exhaust receiptSeen

/-! ## The passes of the worker -/

/-- How often a failure can still put the hash of a record back into the queue. -/
def chances (_ : String) (pending : PyDict) : Nat :=
  (receiptRetryLimit - 1 - receiptRetryCount pending).toNat

/-- The passes that are due: the hashes of the queue, and those that failures can put there. -/
def passesDue (s : LoopState) : Nat := s.queue.length + s.pending.sumBy chances

/-- The worker takes a hash. -/
def takes (s : LoopState) : LoopEvent → Bool
  | .take => s.alive && s.processing.isNone && !s.queue.isEmpty
  | _ => false

/-- How many hashes the worker takes in a run. -/
def passes (config : LoopConfig) : LoopState → List LoopEvent → Nat
  | _, [] => 0
  | s, event :: events =>
    (takes s event).toNat + passes config (loopStep config s event) events

/-- No more passes are due, for the same submissions. -/
structure NoMoreDue (s s' : LoopState) : Prop where
  due : passesDue s' ≤ passesDue s
  submitted : s'.submitted = s.submitted

theorem NoMoreDue.trans {s s' s'' : LoopState} (h : NoMoreDue s s') (h' : NoMoreDue s' s'') :
    NoMoreDue s s'' :=
  ⟨h'.due.trans h.due, h'.submitted.trans h.submitted⟩

theorem NoMoreDue.of_eq {s s' : LoopState} (hqueue : s'.queue = s.queue)
    (hpending : s'.pending = s.pending) (hsubmitted : s'.submitted = s.submitted) :
    NoMoreDue s s' :=
  ⟨by rw [passesDue, passesDue, hqueue, hpending], hsubmitted⟩

theorem handle_noMoreDue (config : LoopConfig) (nowMs : Int) (txHash error : String)
    (receiptSeen pendingPopped : Bool) (s : LoopState) :
    NoMoreDue s
      (handleReceiptLoopFailure config nowMs txHash error receiptSeen pendingPopped s) := by
  cases pendingPopped with
  | true => exact .of_eq rfl rfl rfl
  | false =>
    cases hpending : s.pending.get? txHash with
    | none =>
      unfold handleReceiptLoopFailure
      simp only [hpending, Bool.false_eq_true, if_false]
      exact .of_eq rfl rfl rfl
    | some pending =>
      obtain ⟨pending', hmarked, heq⟩ :=
        @handleReceiptLoopFailure_eq config _ _ _ hpending nowMs error receiptSeen
      have hset := Dict.sumBy_set chances s.pending txHash pending'
      rw [Dict.weightAt_of_get? hpending] at hset
      have hcount := hmarked.count
      rw [heq]
      refine ⟨?_, rfl⟩
      -- the hash goes back only while the record has a chance left, which it loses
      simp only [passesDue, List.length_append]
      unfold chances at hset
      split
      · rename_i hretries
        have hlimit := hretries.1.2
        rw [List.length_singleton]
        unfold chances receiptRetryLimit at *
        omega
      · rw [List.length_nil]
        unfold chances
        omega

theorem afterRaise_noMoreDue (config : LoopConfig) (pass : Pass) (txHash : String)
    (receiptSeen pendingPopped : Bool) (raised : Option Raised) (s : LoopState) :
    NoMoreDue s (afterRaise config pass txHash receiptSeen pendingPopped raised s) := by
  match raised with
  | none => exact .of_eq rfl rfl rfl
  | some (.safe text) => exact handle_noMoreDue config pass.nowMs txHash text _ _ s
  | some .other => exact .of_eq rfl rfl rfl

theorem finalizeReceipt_noMoreDue (pass : Pass) (truthOk : Bool) (txHash : String)
    (s : LoopState) : NoMoreDue s (finalizeReceipt pass truthOk txHash s).1 := by
  unfold finalizeReceipt
  by_cases hreplay : pass.replay = some .other
  · rw [if_pos hreplay]
    exact .of_eq rfl rfl rfl
  rw [if_neg hreplay]
  by_cases hhealth : pass.truthHealth = some .other
  · rw [if_pos hhealth]
    exact .of_eq rfl rfl rfl
  rw [if_neg hhealth]
  by_cases hsettle : (if truthOk then pass.settlement else pass.truthGap) = some .other
  · rw [if_pos hsettle]
    exact .of_eq rfl rfl rfl
  · rw [if_neg hsettle]
    exact .of_eq rfl rfl rfl

theorem settlePending_noMoreDue (config : LoopConfig) (pass : Pass) (txHash : String)
    (decoded : PyDict) (s : LoopState) :
    NoMoreDue s (settlePending config pass txHash decoded s).1 := by
  have hpop : NoMoreDue s { s with pending := s.pending.erase txHash } := by
    have herase := Dict.sumBy_erase chances s.pending txHash
    exact ⟨by simp only [passesDue]; omega, rfl⟩
  have hbook : ∀ (day : Nat) (gasEstWei : Int) (s : LoopState),
      NoMoreDue s (updateRealizedGasBudget day gasEstWei decoded s) := by
    intro day gasEstWei s
    obtain ⟨reserved, spent, log, hbudget⟩ := updateRealizedGasBudget_eq day gasEstWei decoded s
    rw [hbudget]
    exact .of_eq rfl rfl rfl
  refine hpop.trans ?_
  unfold settlePending
  dsimp only
  split
  · exact .of_eq rfl rfl rfl
  split
  · exact .of_eq rfl rfl rfl
  split
  · exact hbook ..
  · exact hbook ..
  · exact (hbook ..).trans (finalizeReceipt_noMoreDue ..)

theorem finishPass_noMoreDue (config : LoopConfig) (pass : Pass) (txHash : String)
    (s : LoopState) : NoMoreDue s (finishPass config pass txHash s) := by
  have hidle : NoMoreDue s { s with processing := none } := .of_eq rfl rfl rfl
  refine hidle.trans ?_
  unfold finishPass
  dsimp only
  split
  · exact .of_eq rfl rfl rfl
  · exact (handle_noMoreDue ..).trans (afterRaise_noMoreDue ..)
  · exact afterRaise_noMoreDue ..
  · exact (settlePending_noMoreDue ..).trans (afterRaise_noMoreDue ..)

theorem chances_le (txHash : String) (pending : PyDict) : chances txHash pending ≤ 2 := by
  have hcount := receiptRetryCount_nonneg pending
  unfold chances receiptRetryLimit
  omega

/-- **One event.** A pass is one that was due, and a submission makes three more of them due at
most. -/
theorem passesDue_step (config : LoopConfig) (s : LoopState) (event : LoopEvent) :
    (takes s event).toNat + passesDue (loopStep config s event) + 3 * s.submitted.length
      ≤ passesDue s + 3 * (loopStep config s event).submitted.length := by
  have hrest : ∀ s' : LoopState, NoMoreDue s s' →
      0 + passesDue s' + 3 * s.submitted.length ≤ passesDue s + 3 * s'.submitted.length := by
    intro s' h
    have hdue := h.due
    rw [h.submitted]
    omega
  cases event with
  | record e =>
    cases hstored : e.stored with
    | none =>
      simp only [loopStep, recordExecution_of_none config s hstored, takes, passesDue]
      split
      · simp only [List.length_append, Bool.toNat_false]
        omega
      · simp
    | some pending =>
      have hset := Dict.sumBy_set chances s.pending e.txHash pending
      have hchances := chances_le e.txHash pending
      simp only [loopStep, recordExecution_of_some config s hstored, takes, passesDue, storedState,
        List.length_append, List.length_singleton, Bool.toNat_false]
      split
      · rw [List.length_singleton]
        omega
      · rw [List.length_nil]
        omega
  | take =>
    obtain ⟨pending, queue, processing, alive, reserved, spent, day, submitted, recorded, log⟩ := s
    cases alive <;> cases processing <;> cases queue <;> simp [loopStep, takes, passesDue]
    omega
  | finish pass =>
    simp only [loopStep, takes, Bool.toNat_false]
    split
    · exact hrest s (.of_eq rfl rfl rfl)
    · exact hrest _ (finishPass_noMoreDue ..)
  | start => exact hrest _ (.of_eq rfl rfl rfl)
  | remaining day =>
    obtain ⟨reserved, spent, hreset⟩ := resetBudgetDayIfNeeded_eq day s
    simp only [loopStep, takes, gasBudgetRemainingWei, hreset, Bool.toNat_false]
    split
    · exact hrest _ (.of_eq rfl rfl rfl)
    · exact hrest _ (.of_eq rfl rfl rfl)

/-- **Three passes a submission.** Whatever the endpoints answer and whatever is raised, the worker
takes no more hashes in a run than three times the submissions of it. -/
theorem passes_le_submissions (config : LoopConfig) (day : Nat) (events : List LoopEvent) :
    passes config (LoopState.initial day) events
      ≤ 3 * (Runs.run (loopStep config) (LoopState.initial day) events).submitted.length := by
  have hrun : ∀ (events : List LoopEvent) (s : LoopState),
      passes config s events + passesDue (Runs.run (loopStep config) s events)
          + 3 * s.submitted.length
        ≤ passesDue s + 3 * (Runs.run (loopStep config) s events).submitted.length := by
    intro events
    induction events with
    | nil => intro s; simp [passes]
    | cons event events ih =>
      intro s
      have hstep := passesDue_step config s event
      have hlater := ih (loopStep config s event)
      rw [passes, Runs.run_cons]
      omega
  have hstart := hrun events (LoopState.initial day)
  have hnone : passesDue (LoopState.initial day) = 0 := rfl
  rw [hnone, zero_add] at hstart
  omega

/-! ## A trade -/

/-- The trade of `sampleSubmission`, submitted. -/
def sampleExecution : Execution where
  submitted := true
  ok := true
  dryRun := false
  input := sampleSubmission
  logged := true

/-- A runtime with its receipt service, the default queue and a budget of 50000 wei. -/
def sampleLoop : LoopConfig where
  queueMax := 20
  service := true
  dailyGasBudgetWei := .int 50000

def passWithoutEndpoint : Pass where
  nowMs := 1735689660000
  day := 0
  readUrl := .ok ""
  answer := .ok .unavailable
  closing := none
  updateReceipt := .ok Dict.empty
  latency := none
  outcomeTruth := .ok true
  tradeOutcome := none
  rewardTrace := none
  captureOutcome := none
  decisionLearning := none
  rewardAudit := none
  replay := none
  truthHealth := none
  truthGap := none
  settlement := none
  followThrough := none

end SovereignCapital.Receipt
