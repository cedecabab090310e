import SovereignCapital.Lib.PyValue

/-! # The record of a submission

`_build_pending_submission` writes a submitted execution down, and the receipt path reads it
when the receipt comes: `submit_to_receipt_ms`, the receipt loop and its finalization. Writer
and readers share nothing but the keys of a dictionary.

`round_trips_iff` says when the values that are read are the recorded ones. The submission
time is written under `submit_ts_s` and read under `ts`, so that it never comes back, and
the first action of the policy, index 0, is lost to an `or`.
-/

namespace SovereignCapital.Receipt

/-! ## The writer -/

/-- What `_build_pending_submission` reads: of the result, its plan, the metadata of the
opportunity with their nested dictionaries, and the clock. -/
structure SubmissionInput where
  txHash : PyValue
  nowS : Int
  latencyMs : Int
  mode : String
  plan : PyDict
  terminalProfitability : PyDict
  postMutationProfitability : PyDict
  metadata : PyDict
  safety : PyDict
  brain : PyDict
  capture : PyDict
  captureMetadata : PyDict
  envelope : PyDict
  endpoint : PyDict
  oppRouteId : PyValue
  expectedProfitRaw : PyValue
  /-- the amount of the first leg; nothing where a route without legs raises -/
  legAmountIn : Option PyValue

/-- `str(v or w or "")`. -/
def textOf (v w : PyValue) : String := (v.orElse (w.orElse (.text ""))).str

/-- The amount the record is given; nothing where finding it raises. -/
def SubmissionInput.amountIn (i : SubmissionInput) : Option PyValue :=
  if (i.plan.get "amount_in").truthy then some (i.plan.get "amount_in")
  else i.legAmountIn.map fun amount => amount.orElse (.text "0")

def SubmissionInput.gasEstimate (i : SubmissionInput) : PyValue :=
  (i.plan.get "gas_cost").orElse
    ((i.captureMetadata.get "gas_cost_wei").orElse
      ((i.safety.get "gas_cost_wei").orElse (.int 0)))

def SubmissionInput.expectedAfter (i : SubmissionInput) : PyValue :=
  (i.terminalProfitability.get "profit_after_costs_wei").orElse
    ((i.postMutationProfitability.get "profit_after_costs_wei").orElse
      ((i.plan.get "profit_after_costs").orElse
        ((i.safety.get "profit_after_costs_wei").orElse
          (i.expectedProfitRaw.orElse (.text "0")))))

def SubmissionInput.rlAction (i : SubmissionInput) : PyValue :=
  (i.brain.get "action_index").orElse ((i.brain.get "rl_action_index").orElse (.int (-1)))

def SubmissionInput.modeText (i : SubmissionInput) : String :=
  if i.mode = "" then "manual" else i.mode

def SubmissionInput.strategyFamily (i : SubmissionInput) : PyValue :=
  (i.metadata.get "strategy_family").orElse (.text "flashloan_atomic")

/-- `_build_pending_submission`; nothing where it raises. The nested dictionaries it copies are
not read by the functions below and left out. -/
def buildPendingSubmission (i : SubmissionInput) : Option PyDict :=
  match i.amountIn, i.rlAction.int? with
  | some amountIn, some rlAction =>
    some (PyDict.literal
      [("tx_hash", .text (textOf i.txHash (.text ""))),
        ("submit_ts_s", .int i.nowS),
        ("expected_after", .text i.expectedAfter.str),
        ("amount_in", .text amountIn.str),
        ("latency_ms", .int i.latencyMs),
        ("mode", .text i.modeText),
        ("route_id", .text (textOf i.oppRouteId (i.plan.get "route_id"))),
        ("rl_state", .text (textOf (i.brain.get "state") (i.brain.get "rl_state"))),
        ("rl_action", .int rlAction),
        ("aqe_action", .text (textOf (i.brain.get "aqe_action") (.text ""))),
        ("gas_est_wei", .int i.gasEstimate.safeInt),
        ("capture_lane",
          .text (textOf (i.capture.get "lane") (i.metadata.get "execution_lane"))),
        ("capture_relay", .text (textOf (i.capture.get "relay_hint") (i.endpoint.get "relay"))),
        ("route_family",
          .text (textOf (i.envelope.get "route_family") (i.metadata.get "route_family"))),
        ("strategy_family", .text i.strategyFamily.str)])
  | _, _ => none

/-! ## The readers -/

/-- `int(pending.get(key) or default)`, the default where it raises. -/
def readInt (pending : PyDict) (key : String) (default : Int) : Int :=
  ((pending.get key).orElse (.int default)).int?.getD default

/-- `str(pending.get(key) or default)`. -/
def readText (pending : PyDict) (key default : String) : String :=
  ((pending.get key).orElse (.text default)).str

/-- The submission time as `submit_to_receipt_ms` reads it. -/
def submitTsS (pending : PyDict) : Int := readInt pending "ts" 0

def submitToReceiptMs (nowMs : Int) (pending : PyDict) : Int :=
  if submitTsS pending ≤ 0 then 0 else max 0 (nowMs - submitTsS pending * 1000)

/-- The fields the receipt loop and its finalization read. -/
structure PendingFields where
  expectedAfter : Int
  amountIn : Int
  latencyMs : Int
  mode : String
  routeId : String
  rlState : String
  rlAction : Int
  aqeAction : String
  gasEstWei : Int
  captureLane : String
  captureRelay : String
  routeFamily : String
  strategyFamily : String
deriving DecidableEq

def pendingFields (pending : PyDict) : PendingFields where
  expectedAfter := readInt pending "expected_after" 0
  amountIn := readInt pending "amount_in" 0
  latencyMs := readInt pending "latency_ms" 0
  mode := readText pending "mode" "auto"
  routeId := readText pending "route_id" ""
  rlState := readText pending "rl_state" ""
  rlAction := readInt pending "rl_action" (-1)
  aqeAction := readText pending "aqe_action" ""
  gasEstWei := readInt pending "gas_est_wei" 0
  captureLane := readText pending "capture_lane" ""
  captureRelay := readText pending "capture_relay" ""
  routeFamily := readText pending "route_family" ""
  strategyFamily :=
    ((pending.get "strategy_family").orElse
      ((pending.get "route_family").orElse (.text ""))).str

/-! ## What was recorded -/

/-- The action of the policy: the first of the two keys that has an integer. -/
def SubmissionInput.recordedAction (i : SubmissionInput) : Int :=
  ((i.brain.get "action_index").int?.or (i.brain.get "rl_action_index").int?).getD (-1)

structure RoundTrips (i : SubmissionInput) (nowMs : Int) (pending : PyDict) : Prop where
  submitted : submitTsS pending = i.nowS
  latency : submitToReceiptMs nowMs pending = max 0 (nowMs - i.nowS * 1000)
  rlState : (pendingFields pending).rlState
    = textOf (i.brain.get "state") (i.brain.get "rl_state")
  rlAction : (pendingFields pending).rlAction = i.recordedAction
  amountIn : ∀ amount, i.amountIn = some amount →
    (pendingFields pending).amountIn = amount.int?.getD 0
  gasEstWei : (pendingFields pending).gasEstWei = i.gasEstimate.safeInt
  mode : (pendingFields pending).mode = i.modeText
  routeId : (pendingFields pending).routeId = textOf i.oppRouteId (i.plan.get "route_id")
  routeFamily : (pendingFields pending).routeFamily
    = textOf (i.envelope.get "route_family") (i.metadata.get "route_family")
  strategyFamily : (pendingFields pending).strategyFamily = i.strategyFamily.str

/-! ## Reading a key back -/

variable {pending : PyDict} {i : SubmissionInput}

theorem readText_text {key default s : String} (h : pending.get key = .text s)
    (hdefault : s = "" → default = "") : readText pending key default = s := by
  rw [readText, h]
  by_cases hs : s = ""
  · rw [PyValue.orElse_of_falsy _ (by simp [PyValue.truthy, hs]), PyValue.str, hdefault hs, hs]
  · rw [PyValue.orElse_of_truthy _ (by simp [PyValue.truthy, hs]), PyValue.str]

theorem readInt_int {pending : PyDict} {key : String} {n : Int} (h : pending.get key = .int n) :
    readInt pending key 0 = n := by
  rw [readInt, h]
  by_cases hn : n = 0
  · rw [PyValue.orElse_of_falsy _ (by simp [PyValue.truthy, hn])]
    exact hn.symm
  · rw [PyValue.orElse_of_truthy _ (by simp [PyValue.truthy, hn])]
    rfl

/-- The default -1 takes the place of zero. -/
theorem readInt_neg_one {key : String} {n : Int} (h : pending.get key = .int n) :
    readInt pending key (-1) = if n = 0 then -1 else n := by
  rw [readInt, h]
  by_cases hn : n = 0
  · rw [PyValue.orElse_of_falsy _ (by simp [PyValue.truthy, hn]), if_pos hn]
    rfl
  · rw [PyValue.orElse_of_truthy _ (by simp [PyValue.truthy, hn]), if_neg hn]
    rfl

/-- The keys of the record that are read, and the one that is not there. -/
structure Written (i : SubmissionInput) (amount : PyValue) (action : Int) (pending : PyDict) :
    Prop where
  ts : pending.get "ts" = .none
  amountIn : pending.get "amount_in" = .text amount.str
  mode : pending.get "mode" = .text i.modeText
  routeId : pending.get "route_id" = .text (textOf i.oppRouteId (i.plan.get "route_id"))
  rlState : pending.get "rl_state"
    = .text (textOf (i.brain.get "state") (i.brain.get "rl_state"))
  rlAction : pending.get "rl_action" = .int action
  gasEstWei : pending.get "gas_est_wei" = .int i.gasEstimate.safeInt
  routeFamily : pending.get "route_family"
    = .text (textOf (i.envelope.get "route_family") (i.metadata.get "route_family"))
  strategyFamily : pending.get "strategy_family" = .text i.strategyFamily.str

theorem buildPendingSubmission_eq_some (h : buildPendingSubmission i = some pending) :
    ∃ amount action, i.amountIn = some amount ∧ i.rlAction.int? = some action
      ∧ Written i amount action pending := by
  unfold buildPendingSubmission at h
  split at h
  · rename_i amount action hamount haction
    refine ⟨amount, action, hamount, haction, ?_⟩
    rw [← Option.some.inj h]
    constructor <;> simp [PyDict.literal, PyDict.get, Dict.getD, Dict.get?_set]
  · cases h

/-! ## The round trip -/

theorem read_action_iff {action : Int} (h : i.rlAction.int? = some action) :
    (if action = 0 then -1 else action) = i.recordedAction ↔ i.recordedAction ≠ 0 := by
  have hread : ∀ n : Int, (if n = 0 then -1 else n) = n ↔ n ≠ 0 := by
    intro n
    split <;> omega
  have hnever : (if action = 0 then -1 else action) ≠ 0 := by
    split <;> omega
  unfold SubmissionInput.rlAction at h
  unfold SubmissionInput.recordedAction
  cases hfirst : (i.brain.get "action_index").truthy with
  | true =>
    rw [PyValue.orElse_of_truthy _ hfirst] at h
    rw [h]
    exact hread action
  | false =>
    rw [PyValue.orElse_of_falsy _ hfirst] at h
    cases hvalue : (i.brain.get "action_index").int? with
    | some n =>
      -- A falsy integer is 0, and 0 is never read.
      have hzero := PyValue.int?_of_falsy hfirst hvalue
      subst hzero
      simpa using hnever
    | none =>
      simp only [Option.none_or]
      cases hsecond : (i.brain.get "rl_action_index").truthy with
      | true =>
        rw [PyValue.orElse_of_truthy _ hsecond] at h
        rw [h]
        exact hread action
      | false =>
        rw [PyValue.orElse_of_falsy _ hsecond] at h
        have haction : action = -1 := (Option.some.inj h).symm
        subst haction
        cases hvalue' : (i.brain.get "rl_action_index").int? with
        | none => simp
        | some n =>
          have hzero := PyValue.int?_of_falsy hsecond hvalue'
          subst hzero
          simp

/-- The latency is never measured: the key it is measured from is not in the record. -/
theorem submitToReceiptMs_eq_zero (h : buildPendingSubmission i = some pending) (nowMs : Int) :
    submitTsS pending = 0 ∧ submitToReceiptMs nowMs pending = 0 := by
  obtain ⟨_, _, _, _, hwritten⟩ := buildPendingSubmission_eq_some h
  have hzero : submitTsS pending = 0 := by
    rw [submitTsS, readInt, hwritten.ts]
    rfl
  exact ⟨hzero, by rw [submitToReceiptMs, if_pos hzero.le]⟩

/-- **When the record round trips**: the submission and the receipt are at the epoch, the
action is not the first one, and the amount reads the same from its text. -/
theorem round_trips_iff (i : SubmissionInput) (nowMs : Int) {pending : PyDict}
    (h : buildPendingSubmission i = some pending) :
    RoundTrips i nowMs pending
      ↔ i.nowS = 0 ∧ nowMs ≤ 0 ∧ i.recordedAction ≠ 0
        ∧ ∀ amount, i.amountIn = some amount → amount.safeInt = amount.int?.getD 0 := by
  obtain ⟨hts, hlatency⟩ := submitToReceiptMs_eq_zero h nowMs
  obtain ⟨amount, action, hamount, haction, hwritten⟩ := buildPendingSubmission_eq_some h
  have hread : (pendingFields pending).rlAction = if action = 0 then -1 else action :=
    readInt_neg_one hwritten.rlAction
  have hamountRead : (pendingFields pending).amountIn = amount.safeInt := by
    show readInt pending "amount_in" 0 = _
    rw [readInt, hwritten.amountIn]
    by_cases hempty : amount.str = ""
    · rw [PyValue.orElse_of_falsy _ (by simp [PyValue.truthy, hempty]), PyValue.safeInt, hempty]
      rfl
    · rw [PyValue.orElse_of_truthy _ (by simp [PyValue.truthy, hempty]), PyValue.int?_text_str]
  constructor
  · intro hround
    refine ⟨?_, ?_, ?_, ?_⟩
    · rw [← hround.submitted, hts]
    · have hmeasured := hround.latency
      rw [hlatency, ← hround.submitted, hts] at hmeasured
      omega
    · rw [← read_action_iff haction, ← hread]
      exact hround.rlAction
    · intro amount' hamount'
      have hsame := hround.amountIn amount' hamount'
      rw [hamountRead] at hsame
      rw [hamount] at hamount'
      cases hamount'
      exact hsame
  · rintro ⟨hepoch, hnow, hnotFirst, hsurvives⟩
    constructor
    · rw [hts, hepoch]
    · rw [hlatency, hepoch]
      omega
    · exact readText_text hwritten.rlState fun _ => rfl
    · rw [hread, read_action_iff haction]
      exact hnotFirst
    · intro amount' hamount'
      rw [hamountRead, ← hsurvives amount' hamount']
      rw [hamount] at hamount'
      cases hamount'
      rfl
    · exact readInt_int hwritten.gasEstWei
    · apply readText_text hwritten.mode
      intro hempty
      unfold SubmissionInput.modeText at hempty
      split at hempty
      · exact absurd hempty (by decide)
      · contradiction
    · exact readText_text hwritten.routeId fun _ => rfl
    · exact readText_text hwritten.routeFamily fun _ => rfl
    · have htruthy : i.strategyFamily.str ≠ "" := by
        apply PyValue.str_ne_empty
        unfold SubmissionInput.strategyFamily PyValue.orElse
        split
        · assumption
        · rfl
      show ((pending.get "strategy_family").orElse _).str = _
      rw [hwritten.strategyFamily, PyValue.orElse_of_truthy _ (by simp [PyValue.truthy, htruthy])]
      rfl

/-- A trade of the policy's action 3, submitted on the first of January 2025. -/
def sampleSubmission : SubmissionInput where
  txHash := .text "0x1"
  nowS := 1735689600
  latencyMs := 20
  mode := "auto"
  plan := PyDict.literal [("amount_in", .text "1000"), ("gas_cost", .text "21000")]
  terminalProfitability := Dict.empty
  postMutationProfitability := Dict.empty
  metadata := Dict.empty
  safety := Dict.empty
  brain := PyDict.literal [("state", .text "s1"), ("action_index", .int 3)]
  capture := Dict.empty
  captureMetadata := Dict.empty
  envelope := Dict.empty
  endpoint := Dict.empty
  oppRouteId := .text "route-1"
  expectedProfitRaw := .text "7"
  legAmountIn := some (.text "1000")

def firstAction : SubmissionInput :=
  { sampleSubmission with
    brain := PyDict.literal [("state", .text "s1"), ("action_index", .int 0)] }

/-- Neither record comes back: no latency is measured a minute later, and the action 0 is read
as no action. -/
theorem sampleSubmission_lost :
    (∃ pending, buildPendingSubmission sampleSubmission = some pending
      ∧ ¬ RoundTrips sampleSubmission 1735689660000 pending)
    ∧ ∃ pending, buildPendingSubmission firstAction = some pending
      ∧ (pendingFields pending).rlAction ≠ firstAction.recordedAction := by
  constructor
  · refine ⟨_, rfl, fun h => ?_⟩
    exact absurd h.submitted (by decide +kernel)
  · exact ⟨_, rfl, by decide +kernel⟩

/-- At the epoch the trade of action 3 round trips. -/
theorem round_trips_iff_epoch :
    ∃ pending, buildPendingSubmission { sampleSubmission with nowS := 0 } = some pending
      ∧ RoundTrips { sampleSubmission with nowS := 0 } 0 pending := by
  refine ⟨_, rfl, (round_trips_iff { sampleSubmission with nowS := 0 } 0 rfl).2
    ⟨rfl, le_refl _, by decide +kernel, ?_⟩⟩
  intro amount hamount
  have hsample : ({ sampleSubmission with nowS := 0 } : SubmissionInput).amountIn
      = some (.text "1000") := rfl
  cases hsample.symm.trans hamount
  decide +kernel

end SovereignCapital.Receipt
