import SovereignCapital.Omar.Learner
import SovereignCapital.Lib.Runs

/-! # The gate before the learner

`validate_learning_transition` of `learning_integrity.py`: it compares the record of a decision
with the outcome of its settlement and names the first thing that is missing or different.
-/

namespace SovereignCapital.Omar

open Bytes PyRaise

/-! ## Readings -/

def text (v : PyTree) : String :=
  String.ofList (pyStrip (v.orElse (.leaf (.text ""))).str.toList)

def lower (s : String) : String := String.ofList (pyLower s.toList)

/-- `_text(a or b or …)`. -/
def textOf (values : List PyTree) : String := text (PyMap.firstTruthy values (.leaf .none))

/-- `_dict(d.get(k))`. -/
def nested (d : PyMap) (k : String) : PyMap := (PyMap.get d k).mapping

/-- `float(v)` of a number that `_finite_number` accepts. -/
def finiteNumber (v : PyTree) : Option ℚ :=
  match v with
  | .leaf (.bool _) => none
  | v =>
    match v.float with
    | .ok (.finite x) => some x
    | _ => none

def canonicalSettlementSources : List String :=
  ["canonical_outcome_ledger", "phase2_canonical_outcome_ledger"]

def pendingSizingId (p : PyMap) : String :=
  let lineage := nested p "canonical_lineage"
  let direct := textOf [PyMap.get p "sizing_id", PyMap.get lineage "sizing_id"]
  if direct ≠ "" then direct
  else
    let details := nested (nested p "capital_admission") "details"
    text (PyMap.get (nested (nested details "institutionalSizing") "sizing") "sizing_id")

/-! ## The gate -/

/-- `row.get(field) or lineage.get(field)`, as a text. -/
def attributed (row : PyMap) (field : String) : String :=
  textOf [PyMap.get row field, PyMap.get (nested row "canonical_lineage") field]

/-- `capital`: the mapping under `capital_authority`, or the context itself. -/
def capitalAuthority (p : PyMap) : PyMap :=
  let context := nested p "context"
  let capital := nested context "capital_authority"
  if capital.isEmpty then context else capital

/-- A status or a freshness that says nothing. -/
def unavailable (s : String) : Bool := decide (lower s ∈ ["", "unknown", "unavailable"])

/-- `row.get("settlement_verified", row.get("truth_verified", …))`. -/
def settlementVerified (row : PyMap) : Bool :=
  (PyMap.firstFlag row ["settlement_verified", "truth_verified", "outcome_truth_verified"]).getD
    false

/-- The difference that the expectation error has to be. -/
def surprise (p row : PyMap) : Option ℚ := do
  let expected ← finiteNumber (PyMap.get p "expected_net_usd")
  let realized ← finiteNumber (PyMap.get row "realized_net_usd")
  return realized - expected

/-- The checks in their order, each with the reason it gives. A comparison of two numbers comes
after the checks that both are finite. -/
def integrityChecks (p row : PyMap) (decisionId : String) : List (Bool × String) :=
  let did := text (.leaf (.text decisionId))
  let correlation := text (PyMap.get p "correlation_id")
  let action := text (PyMap.get p "action")
  let capital := capitalAuthority p
  [(decide (did = ""), "missing_decision_id"),
    (decide (action = ""), "missing_decision_action"),
    (decide (text (PyMap.get p "state_key") = ""), "missing_learning_state_key"),
    (decide (lower (text (PyMap.get row "status")) ≠ "settled"), "outcome_not_canonically_settled"),
    (decide (attributed row "decision_id" ≠ did), "decision_lineage_mismatch"),
    (decide (correlation = "" ∨ attributed row "correlation_id" ≠ correlation),
      "correlation_lineage_mismatch"),
    (decide (attributed row "action" ≠ action), "action_attribution_mismatch")]
    ++ ["execution_id", "outcome_id", "sizing_id", "opportunity_id", "route_id"].map
      (fun field => (decide (attributed row field = ""), "missing_" ++ field))
    ++ [(decide (pendingSizingId p ≠ "" ∧ pendingSizingId p ≠ attributed row "sizing_id"),
        "sizing_lineage_mismatch"),
      (decide (text (PyMap.get p "opportunity_id") ≠ attributed row "opportunity_id"),
        "opportunity_lineage_mismatch"),
      (decide (text (PyMap.get p "route_id") ≠ attributed row "route_id"),
        "route_attribution_mismatch"),
      (!settlementVerified row, "settlement_unverified"),
      (decide (text (PyMap.get row "source") ∉ canonicalSettlementSources),
        "noncanonical_learning_source"),
      ((finiteNumber (PyMap.get p "expected_net_usd")).isNone, "missing_or_invalid_expected_net"),
      ((finiteNumber (PyMap.get row "realized_net_usd")).isNone, "missing_or_invalid_realized_net"),
      ((finiteNumber (PyMap.get row "expected_net_usd")).isNone,
        "missing_or_invalid_settlement_expected_net"),
      (decide (finiteNumber (PyMap.get row "expected_net_usd")
          ≠ finiteNumber (PyMap.get p "expected_net_usd")), "expected_net_attribution_mismatch"),
      ((finiteNumber (PyMap.get row "expectation_error")).isNone,
        "missing_or_invalid_expectation_error"),
      (decide (finiteNumber (PyMap.get row "expectation_error") ≠ surprise p row),
        "expectation_error_mismatch"),
      (decide (text (PyMap.get capital "capital_authority_source") ≠ "capital_engine_state"),
        "capital_authority_not_canonical"),
      (unavailable (text (PyMap.get capital "capital_authority_status")),
        "capital_authority_unavailable"),
      (unavailable (text (PyMap.get capital "capital_authority_freshness")),
        "capital_authority_freshness_unknown")]

/-- `validate_learning_transition`: the reason it rejects with; nothing where it allows. -/
def validateLearningTransition (p row : PyMap) (decisionId : String) : Option String :=
  ((integrityChecks p row decisionId).find? Prod.fst).map Prod.snd

/-! ## What is allowed -/

/-- The authority over the capital was canonical and there when the decision was made. -/
structure CapitalAvailable (p : PyMap) : Prop where
  source : text (PyMap.get (capitalAuthority p) "capital_authority_source") = "capital_engine_state"
  status : unavailable (text (PyMap.get (capitalAuthority p) "capital_authority_status")) = false
  freshness :
    unavailable (text (PyMap.get (capitalAuthority p) "capital_authority_freshness")) = false

/-- What the gate makes sure of. -/
structure Allowed (p row : PyMap) (decisionId : String) : Prop where
  decisionNamed : text (.leaf (.text decisionId)) ≠ ""
  actionNamed : text (PyMap.get p "action") ≠ ""
  stateKey : text (PyMap.get p "state_key") ≠ ""
  status : lower (text (PyMap.get row "status")) = "settled"
  decision : attributed row "decision_id" = text (.leaf (.text decisionId))
  correlationNamed : text (PyMap.get p "correlation_id") ≠ ""
  correlation : attributed row "correlation_id" = text (PyMap.get p "correlation_id")
  action : attributed row "action" = text (PyMap.get p "action")
  execution : attributed row "execution_id" ≠ ""
  outcome : attributed row "outcome_id" ≠ ""
  sizingNamed : attributed row "sizing_id" ≠ ""
  sizing : pendingSizingId p ≠ "" → attributed row "sizing_id" = pendingSizingId p
  opportunity : attributed row "opportunity_id" = text (PyMap.get p "opportunity_id")
  route : attributed row "route_id" = text (PyMap.get p "route_id")
  verified : settlementVerified row = true
  source : text (PyMap.get row "source") ∈ canonicalSettlementSources
  expectedNet : ∃ x, finiteNumber (PyMap.get p "expected_net_usd") = some x ∧
    finiteNumber (PyMap.get row "expected_net_usd") = some x
  realizedNet : ∃ x, finiteNumber (PyMap.get row "realized_net_usd") = some x
  capital : CapitalAvailable p

theorem allowed_of_validate {p row : PyMap} {decisionId : String}
    (h : validateLearningTransition p row decisionId = none) : Allowed p row decisionId := by
  rw [validateLearningTransition, Option.map_eq_none_iff, List.find?_eq_none] at h
  simp only [integrityChecks, List.map_cons, List.map_nil, List.cons_append, List.nil_append,
    List.forall_mem_cons, Bool.not_eq_true, decide_eq_false_iff_not, not_or, ne_eq, not_not]
    at h
  obtain ⟨hdid, haction, hstate, hstatus, hdecision, ⟨hcorrelation, hcorrelation'⟩, haction', hexec,
    hout, hsize, hopp, hroute, hsizing, hopp', hroute', hverified, hsource, hexpected, hrealized,
    hexpected', hsame, -, -, hauthority, havailable, hfresh, -⟩ := h
  have hexpectedNet : ∃ x, finiteNumber (PyMap.get p "expected_net_usd") = some x ∧
      finiteNumber (PyMap.get row "expected_net_usd") = some x := by
    cases hx : finiteNumber (PyMap.get p "expected_net_usd") with
    | none =>
      rw [hx] at hexpected
      cases hexpected
    | some x => exact ⟨x, rfl, hsame.trans hx⟩
  have hrealizedNet : ∃ x, finiteNumber (PyMap.get row "realized_net_usd") = some x := by
    cases hx : finiteNumber (PyMap.get row "realized_net_usd") with
    | none =>
      rw [hx] at hrealized
      cases hrealized
    | some x => exact ⟨x, rfl⟩
  have hsizingSame : pendingSizingId p ≠ "" → attributed row "sizing_id" = pendingSizingId p := by
    intro hne
    by_contra hdiff
    exact hsizing ⟨hne, fun heq => hdiff heq.symm⟩
  exact
    { decisionNamed := hdid, actionNamed := haction, stateKey := hstate, status := hstatus
      decision := hdecision, correlationNamed := hcorrelation, correlation := hcorrelation'
      action := haction', execution := hexec, outcome := hout, sizingNamed := hsize
      sizing := hsizingSame, opportunity := hopp'.symm, route := hroute'.symm
      verified := by simpa using hverified, source := hsource, expectedNet := hexpectedNet
      realizedNet := hrealizedNet, capital := ⟨hauthority, havailable, hfresh⟩ }

end SovereignCapital.Omar

/-! # The runtime of OMAR

`OmarRuntime` of `runtime.py`: a decision leaves a snapshot, the outcome of its settlement is put
together from the record that the call brings and from the snapshot, and what passes the gate is
learned.
-/

namespace SovereignCapital.Omar

open Bytes PyRaise Runs

/-! ## State and calls -/

/-- A row of `_pending_decisions`. -/
structure Snapshot where
  decisionId : String
  correlationId : String
  opportunityId : String
  routeId : String
  action : String
  stateKey : String
  context : PyMap
  metadata : PyMap
  tsMs : Int
  /-- `None` where the row has no such key -/
  expectedNetUsd : PyTree

/-- `v is None`. -/
def isNone : PyTree → Bool
  | .leaf .none => true
  | _ => false

def words (s : String) : PyTree := .leaf (.text s)

/-- The row as the dictionary that the gate reads. -/
def Snapshot.row (s : Snapshot) : PyMap :=
  [("decision_id", words s.decisionId), ("correlation_id", words s.correlationId),
    ("opportunity_id", words s.opportunityId), ("route_id", words s.routeId),
    ("action", words s.action), ("state_key", words s.stateKey), ("context", record s.context),
    ("metadata", record s.metadata),
    ("canonical_lineage", record
      [("decision_id", words s.decisionId), ("correlation_id", words s.correlationId)]),
    ("ts_ms", .leaf (.int s.tsMs))]
    ++ if isNone s.expectedNetUsd then [] else [("expected_net_usd", s.expectedNetUsd)]

/-- `OmarRuntime`. -/
structure OmarState where
  pending : Dict String Snapshot
  learner : Learner

/-- The arguments of `observe_decision`. -/
structure DecisionCall where
  decisionId : String
  opportunityId : String
  routeId : String
  action : String
  stateKey : String
  context : PyMap
  metadata : PyMap
  expectedNetUsd : PyTree
  /-- the items that `_prior_canonical_outcome_context` adds to the context -/
  prior : PyMap
  nowMs : Int

/-- The arguments of `observe_outcome`. -/
structure OutcomeCall where
  decisionId : String
  ok : Bool
  realizedNetUsd : PyTree
  expectedNetUsd : PyTree
  amountInWei : PyTree
  gasCostUsd : PyTree
  slippageBps : PyTree
  latencyMs : PyTree
  routeId : String
  txHash : String
  outcomeTruthVerified : Bool
  metadata : PyMap

/-! ## `observe_decision` -/

/-- `v.get`: what is no dictionary has none. -/
def asDict : PyTree → Except PyError PyMap
  | .dict items _ => .ok items
  | _ => .error .attribute

def DecisionCall.snapshot (d : DecisionCall) : Except PyError Snapshot := do
  let lineage ← asDict ((PyMap.get d.metadata "canonical_lineage").orElse emptyDict)
  let context := d.prior ++ d.context
  return {
    decisionId := d.decisionId
    correlationId :=
      textOf [PyMap.get lineage "correlation_id", PyMap.get d.metadata "correlation_id"]
    opportunityId := d.opportunityId
    routeId := d.routeId
    action := d.action
    stateKey := d.stateKey
    context := context
    metadata := d.metadata
    tsMs := d.nowMs
    expectedNetUsd :=
      if isNone d.expectedNetUsd then
        (PyMap.get? d.metadata "expected_net_usd").getD (PyMap.get context "expected_net_usd")
      else d.expectedNetUsd }

/-- Over 512 rows the 64 oldest go. -/
def evictOldest (pending : Dict String Snapshot) : Dict String Snapshot :=
  if 512 < pending.entries.length then
    ((pending.entries.insertionSort fun a b => a.2.tsMs ≤ b.2.tsMs).take 64).foldl
      (fun d e => d.erase e.1) pending
  else pending

/-- `enabled` and `real_learning_enabled`, without which there is no learner. -/
def OmarConfig.learns (cfg : OmarConfig) : Bool := cfg.enabled && cfg.realLearningEnabled

def observeDecision (cfg : OmarConfig) (st : OmarState) (d : DecisionCall) :
    Except PyError OmarState :=
  if cfg.learns then do
    let snapshot ← d.snapshot
    return { st with pending := evictOldest (st.pending.set d.decisionId snapshot) }
  else .ok st

/-! ## `observe_outcome` -/

/-- The settlement record that a call brings, with its canonical lineage. -/
structure Evidence where
  settlement : PyMap
  lineage : PyMap

def OutcomeCall.evidence (c : OutcomeCall) : Except PyError Evidence := do
  let settlement := (PyMap.get c.metadata "settlement").orElse emptyDict
  let lineage := (PyMap.get c.metadata "canonical_lineage").orElse emptyDict
  let _ ← PyRaise.dict settlement
  let settlement ← asDict settlement
  let lineage ← asDict lineage
  return ⟨settlement, lineage⟩

/-- `expectation_error`, where both numbers are finite. -/
def expectationError (pending : PyMap) (realized : PyTree) : PyMap :=
  match (PyMap.get pending "expected_net_usd").float, realized.float with
  | .ok (.finite expected), .ok (.finite realized) =>
    [("expectation_error", floating (realized - expected))]
  | _, _ => []

/-- The record with what it lacks taken from the call and from the pending row. -/
def completed (c : OutcomeCall) (e : Evidence) (pending : PyMap) : PyMap :=
  let s := PyMap.get e.settlement
  let l := PyMap.get e.lineage
  let p := PyMap.get pending
  let named := fun values => words (textOf values)
  [("realized_net_usd",
        if isNone c.realizedNetUsd then s "realized_net_usd" else c.realizedNetUsd),
      ("expected_net_usd",
        if isNone c.expectedNetUsd then
          (PyMap.get? e.settlement "expected_net_usd").getD (p "expected_net_usd")
        else c.expectedNetUsd),
      ("status", named [s "status", PyMap.get c.metadata "status"]),
      ("source", named [s "source", PyMap.get c.metadata "source"]),
      ("decision_id", named [s "decision_id", l "decision_id", words c.decisionId]),
      ("correlation_id", named [s "correlation_id", l "correlation_id", p "correlation_id"]),
      ("opportunity_id", named [s "opportunity_id", p "opportunity_id"]),
      ("action", named [s "action", p "action"]),
      ("route_id", named [s "route_id", words c.routeId, p "route_id"]),
      ("truth_verified", .leaf (.bool
        ((PyMap.firstFlag e.settlement ["truth_verified", "outcome_truth_verified"]).getD
          c.outcomeTruthVerified))),
      ("settlement_verified", .leaf (.bool
        ((PyMap.firstFlag e.settlement ["settlement_verified", "truth_verified"]).getD
          c.outcomeTruthVerified))),
      ("execution_id", named [s "execution_id"]),
      ("outcome_id", named [s "outcome_id"]),
      ("sizing_id", named [s "sizing_id"]),
      ("canonical_lineage", record
        [("decision_id", named [l "decision_id", s "decision_id", words c.decisionId]),
          ("correlation_id", named [l "correlation_id", s "correlation_id", p "correlation_id"])])]
    ++ e.settlement

def rebuiltOutcome (c : OutcomeCall) (e : Evidence) (pending : PyMap) : PyMap :=
  let outcome := completed c e pending
  expectationError pending (PyMap.get outcome "realized_net_usd") ++ outcome

/-- `reward`; an infinite penalty is the worst reward. -/
def rewardOf (ok : Bool) (realized error : ℚ) (slippage latency : PyFloat) : ℚ :=
  match slippage.clipped, latency.clipped with
  | .finite s, .finite l =>
    let reward := realized - 25 / 100 * max 0 (-error) - s * (1 / 100) - l * (1 / 10000)
    clipReward (if ok then reward else reward - 1)
  | _, _ => -50

/-- What the learner is told. -/
structure Lesson where
  stateKey : String
  action : String
  expected : ℚ
  realized : ℚ
  reward : ℚ

/-- The conversions before the learner is told; the last four are for its event log. -/
def lessonOf (c : OutcomeCall) (pending outcome : PyMap) : Except PyError Lesson := do
  let expected ← readFinite (PyMap.get pending "expected_net_usd")
  let realized ← readFinite (PyMap.get outcome "realized_net_usd")
  let slippage ← PyRaise.float ((PyMap.get outcome "slippage_bps").orElse (floating 0))
  let latency ← PyRaise.float ((PyMap.get outcome "latency_ms").orElse (floating 0))
  let _ ← readInt c.amountInWei
  let _ ← PyRaise.float (c.gasCostUsd.orElse (floating 0))
  let _ ← PyRaise.float (c.slippageBps.orElse (floating 0))
  let _ ← readInt (c.latencyMs.orElse (.leaf (.int 0)))
  return {
    stateKey := ((PyMap.get pending "state_key").orElse (words "")).str
    action := ((PyMap.get pending "action").orElse (words "")).str
    expected := expected
    realized := realized
    reward := rewardOf c.ok realized (realized - expected) slippage latency }

/-- What the call reports once the learner was told. -/
structure LearnedReport where
  result : LearnResult
  decisionId : String
  expectedNetUsd : ℚ
  realizedNetUsd : ℚ
  expectationError : ℚ
  source : String
  executionId : String
  outcomeId : String
  sizingId : String
  opportunityId : String
  routeId : String
  strategyFamily : String
  latencyMs : Int
  slippageBps : PyFloat
  gasCostUsd : PyFloat

/-- The conversions after the learner was told. -/
def learnedReport (c : OutcomeCall) (pending outcome : PyMap) (lesson : Lesson)
    (result : LearnResult) : Except PyError LearnedReport := do
  let shown := fun key => ((PyMap.get outcome key).orElse (words "")).str
  let latency ← readInt
    ((PyMap.get outcome "latency_ms").orElse (c.latencyMs.orElse (.leaf (.int 0))))
  let slippage ← PyRaise.float
    ((PyMap.get outcome "slippage_bps").orElse (c.slippageBps.orElse (floating 0)))
  let gas ← PyRaise.float
    ((PyMap.get outcome "gas_cost_usd").orElse (c.gasCostUsd.orElse (floating 0)))
  return {
    result := result
    decisionId := c.decisionId
    expectedNetUsd := lesson.expected
    realizedNetUsd := lesson.realized
    expectationError := lesson.realized - lesson.expected
    source := shown "source"
    executionId := shown "execution_id"
    outcomeId := shown "outcome_id"
    sizingId := shown "sizing_id"
    opportunityId := shown "opportunity_id"
    routeId := shown "route_id"
    strategyFamily := (PyMap.firstTruthy [PyMap.get outcome "strategy_family",
      PyMap.get (nested pending "context") "strategy_family"] (words "")).str
    latencyMs := latency
    slippageBps := slippage
    gasCostUsd := gas }

/-- What `observe_outcome` returns. -/
inductive OutcomeReport where
  | disabled
  | rejected (reason decisionId : String)
  | told (report : LearnedReport)

/-- `report["learned"]`: true as soon as the learner was told, whatever it answered. -/
def OutcomeReport.learned : OutcomeReport → Bool
  | .told _ => true
  | _ => false

def OmarState.pendingRow (st : OmarState) (decisionId : String) : PyMap :=
  ((st.pending.get? decisionId).map Snapshot.row).getD []

/-- `observe_outcome`: the state after it, and what it returns. -/
def observeOutcome (cfg : OmarConfig) (st : OmarState) (c : OutcomeCall) :
    OmarState × Except PyError OutcomeReport :=
  if cfg.learns then
    match c.evidence with
    | .error e => (st, .error e)
    | .ok evidence =>
      let pending := st.pendingRow c.decisionId
      let outcome := rebuiltOutcome c evidence pending
      match validateLearningTransition pending outcome c.decisionId with
      | some reason => (st, .ok (.rejected reason c.decisionId))
      | none =>
        match lessonOf c pending outcome with
        | .error e => (st, .error e)
        | .ok lesson =>
          match st.learner.observe cfg lesson.stateKey lesson.action lesson.reward with
          | (learner, .error e) => ({ st with learner := learner }, .error e)
          | (learner, .ok result) =>
            match learnedReport c pending outcome lesson result with
            | .error e => ({ st with learner := learner }, .error e)
            | .ok report =>
              ({ pending := st.pending.erase c.decisionId, learner := learner },
                .ok (.told report))
  else (st, .ok .disabled)

/-! ## Runs -/

inductive Call where
  | decision (d : DecisionCall)
  | outcome (c : OutcomeCall)

/-- One call; `observe_decision` that raises leaves everything as it is. -/
def step (cfg : OmarConfig) (st : OmarState) : Call → OmarState
  | .decision d => (observeDecision cfg st d).toOption.getD st
  | .outcome c => (observeOutcome cfg st c).1

/-- A runtime that was just started: its learner may come from a file. -/
def started (learner : Learner) : OmarState := ⟨.empty, learner⟩

end SovereignCapital.Omar
