import SovereignCapital.Omar.Runtime
import SovereignCapital.Receipt.Submission
import SovereignCapital.Lib.Sha256

/-! # From a submission to the capital writer

`_build_pending_submission` with the dictionaries it copies, and what
`OmarReceiptFacade.synchronize_settlement_accounting` makes of the record: a copy with every
identity filled in, and the lineage that it leaves on the runtime for the capital writer.
-/

namespace SovereignCapital.ClosedLoop

open PyRaise Omar

/-! ## The pending record -/

/-- A value as the readers of single values see it: what has values inside is an object. -/
def single : PyTree → PyValue
  | .leaf v => v
  | .inf negative => .object true ⟨if negative then "-inf" else "inf", by split <;> decide⟩
  | .nan => .object true ⟨"nan", by decide⟩
  | .list items repr => .object (!items.isEmpty) repr
  | .dict items repr => .object (!items.isEmpty) repr

def singles (d : PyMap) : PyDict := ofItems (d.map fun e => (e.1, single e.2))

/-- A submitted trade: what `_build_pending_submission` reads of the result, of the opportunity and
of the clock. The opportunity's id is not among it. -/
structure Submission where
  txHash : PyTree
  nowS : Int
  latencyMs : Int
  mode : String
  /-- `result.plan` -/
  plan : PyMap
  /-- `opp.meta` -/
  info : PyMap
  oppRouteId : PyTree
  expectedProfitRaw : PyTree
  /-- the amount of the first leg; nothing where a route without legs raises -/
  legAmountIn : Option PyTree

/-- `dict(plan.get(k) or {})` where that is a dictionary, else `dict(meta.get(k') or {})`. -/
def Submission.copied (t : Submission) (k k' : String) : Option PyMap :=
  if (PyMap.get t.plan k).isMapping then some (nested t.plan k)
  else (PyRaise.dict ((PyMap.get t.info k').orElse emptyDict)).toOption

/-- What the record is built from besides the dictionaries it copies. -/
def Submission.input (t : Submission) (postMutation : PyMap) : Receipt.SubmissionInput :=
  let capture := nested t.info "capture"
  let captureMetadata := nested capture "metadata"
  { txHash := single t.txHash
    nowS := t.nowS
    latencyMs := t.latencyMs
    mode := t.mode
    plan := singles t.plan
    terminalProfitability :=
      singles (nested (nested t.plan "terminalProfitabilityAuthority") "profitability")
    postMutationProfitability := singles (nested postMutation "profitability")
    metadata := singles t.info
    safety := singles (nested t.info "safety")
    brain := singles (nested t.info "brain")
    capture := singles capture
    captureMetadata := singles captureMetadata
    envelope := singles (nested captureMetadata "envelope")
    endpoint := singles (nested captureMetadata "endpoint_selection")
    oppRouteId := single t.oppRouteId
    expectedProfitRaw := single t.expectedProfitRaw
    legAmountIn := t.legAmountIn.map single }

/-- `[]`. -/
def emptyList : PyTree := .list [] ⟨"[]", by decide⟩

/-- `_build_pending_submission`; nothing where it raises. -/
def pendingSubmission (t : Submission) : Option PyMap := do
  let capitalAdmission ← t.copied "capitalAdmission" "capital_admission"
  let postMutation ← t.copied "postMutationRevalidation" "post_mutation_revalidation"
  let values ← Receipt.buildPendingSubmission (t.input postMutation)
  return (values.entries.map fun e => (e.1, .leaf e.2))
    ++ [("capture_meta", record (nested t.info "capture")),
      ("pending_context", record (nested t.info "pending_context")),
      ("tokens", emptyList), ("venues", emptyList), ("pairs", emptyList),
      ("terminal_profitability_authority",
        record (nested t.plan "terminalProfitabilityAuthority")),
      ("capital_admission", record capitalAdmission),
      ("post_mutation_revalidation", record postMutation)]

/-! ## The facade -/

/-- The dictionaries of a pending record that identities are looked up in. -/
structure Sources where
  source : PyMap
  context : PyMap
  executionLineage : PyMap
  canonicalLineage : PyMap
  brain : PyMap

def sourcesOf (pending : PyMap) : Sources :=
  let context := nested pending "pending_context"
  { source := pending
    context := context
    executionLineage := nested context "execution_lineage"
    canonicalLineage := nested pending "canonical_lineage"
    brain := nested pending "brain" }

/-- An identity under its name in the record and in `brain`, and its name in the lineages. -/
def Sources.identity (s : Sources) (name lineageName : String) : String :=
  textOf [PyMap.get s.source name, PyMap.get s.canonicalLineage lineageName,
    PyMap.get s.executionLineage lineageName, PyMap.get s.brain name]

def Sources.decisionId (s : Sources) : String := s.identity "canonical_decision_id" "decision_id"

def Sources.correlationId (s : Sources) : String := s.identity "correlation_id" "correlation_id"

def Sources.sizingId (s : Sources) : String := s.identity "sizing_id" "sizing_id"

def Sources.executionId (s : Sources) : String := s.identity "execution_id" "execution_id"

/-- `opportunity_id`: only the record itself is asked. -/
def Sources.opportunityId (s : Sources) : String := text (PyMap.get s.source "opportunity_id")

/-- `route_id`: only the record itself is asked. -/
def Sources.routeId (s : Sources) : String := text (PyMap.get s.source "route_id")

def Sources.action (s : Sources) : String :=
  let action := textOf [PyMap.get s.source "action", PyMap.get s.brain "omar_action",
    PyMap.get s.brain "aqe_action"]
  if action = "" then text (PyMap.get s.context "action") else action

def Sources.strategyId (s : Sources) : String :=
  textOf [PyMap.get s.source "strategy_id", PyMap.get s.canonicalLineage "strategy_id",
    PyMap.get s.context "strategy_id", PyMap.get s.brain "strategy_id"]

def Sources.identities (s : Sources) (txHash : String) : PyMap :=
  [("decision_id", words s.decisionId), ("correlation_id", words s.correlationId),
    ("sizing_id", words s.sizingId), ("execution_id", words s.executionId),
    ("receipt_id", words (text (words txHash))), ("opportunity_id", words s.opportunityId),
    ("route_id", words s.routeId), ("action", words s.action),
    ("strategy_id", words s.strategyId)]

/-- `canonical`: the identities over the lineage of the record, over its outcome id. -/
def Sources.canonical (s : Sources) (txHash : String) : PyMap :=
  s.identities txHash ++ s.canonicalLineage
    ++ [("outcome_id", words (text (PyMap.get s.source "outcome_id")))]

/-- The expected net of the record, or of its context where the record has none. -/
def Sources.expectedNet (s : Sources) : PyTree :=
  let own := PyMap.get s.source "expected_net_usd"
  if own.blank then
    let other := PyMap.get s.context "expected_net_usd"
    if other.blank then own else other
  else own

/-- `_dict(source.get(k) or context.get(k))`. -/
def Sources.dictionary (s : Sources) (k : String) : PyTree :=
  record (PyMap.firstTruthy [PyMap.get s.source k] (PyMap.get s.context k)).mapping

def Sources.operatorIntent (s : Sources) (txHash : String) : PyTree :=
  let own := [PyMap.get s.source "operator_intent",
    PyMap.get (s.canonical txHash) "operator_intent"]
  record (PyMap.firstTruthy own (PyMap.get s.context "operator_intent")).mapping

def Sources.intentFingerprint (s : Sources) (txHash : String) : PyTree :=
  words (textOf [PyMap.get s.source "intent_fingerprint",
    PyMap.get (s.canonical txHash) "intent_fingerprint", PyMap.get s.context "intent_fingerprint"])

/-- The part that the record and the lineage on the runtime share. -/
def Sources.economics (s : Sources) (txHash : String) : PyMap :=
  [("capital_demand", s.dictionary "capital_demand"),
    ("capital_authority", s.dictionary "capital_authority"),
    ("internal_prime_authority", s.dictionary "internal_prime_authority"),
    ("prime_economics", s.dictionary "prime_economics"),
    ("operator_intent", s.operatorIntent txHash),
    ("intent_fingerprint", s.intentFingerprint txHash)]

/-- The record that the facade passes on. -/
def carriedPending (pending : PyMap) (txHash : String) : PyMap :=
  let s := sourcesOf pending
  s.economics txHash
    ++ (if s.expectedNet.blank then [] else [("expected_net_usd", s.expectedNet)])
    ++ [("canonical_decision_id", words s.decisionId), ("correlation_id", words s.correlationId),
      ("sizing_id", words s.sizingId), ("execution_id", words s.executionId),
      ("opportunity_id", words s.opportunityId), ("route_id", words s.routeId),
      ("action", words s.action), ("strategy_id", words s.strategyId),
      ("canonical_lineage", record (s.canonical txHash))]
    ++ pending

/-- `runtime._canonical_settlement_lineage`. -/
def settlementLineage (pending : PyMap) (txHash : String) : PyMap :=
  let s := sourcesOf pending
  s.economics txHash
    ++ [("canonical_lineage", record (s.canonical txHash)),
      ("expected_net_usd", PyMap.get (carriedPending pending txHash) "expected_net_usd"),
      ("latency_ms", PyMap.get pending "latency_ms"),
      ("slippage_bps", PyMap.get pending "slippage_bps")]
    ++ s.canonical txHash

end SovereignCapital.ClosedLoop

/-! # From the capital writer to the learner

`_annotate_settlement_payload` writes the lineage of a settlement into its ledger row,
`canonical_settled_outcome` reads the row back, and `_observe_settled_outcome` compares what it
reads with the pending record before it tells the learner.
-/

namespace SovereignCapital.ClosedLoop

open Bytes PyRaise Omar

/-! ## The writer -/

/-- The arguments of `_annotate_settlement_payload` besides the payload. -/
structure SettlementArgs where
  receiptId : String
  status : Int
  amountIn : Int
  submitToReceiptMs : Int
  routeId : String
  gasCostWei : Int
  realizedAfterUsd : PyFloat
  netRealizedUsd : PyFloat
  borrowing : PyMap
  outcomeTruthVerified : Bool

/-- The identities of a settlement, as the writer finds them. -/
structure Identities where
  decisionId : String
  correlationId : String
  sizingId : String
  executionId : String
  opportunityId : String
  routeId : String
  action : String

/-- `_text(context.get(k) or lineage.get(k))`. -/
def inContext (context : PyMap) (k : String) : String :=
  textOf [PyMap.get context k, PyMap.get (nested context "canonical_lineage") k]

def identitiesOf (context : PyMap) (routeId : String) : Identities where
  decisionId := inContext context "decision_id"
  correlationId := inContext context "correlation_id"
  sizingId := inContext context "sizing_id"
  executionId := inContext context "execution_id"
  opportunityId := inContext context "opportunity_id"
  routeId := textOf [PyMap.get context "route_id", words routeId,
    PyMap.get (nested context "canonical_lineage") "route_id"]
  action := inContext context "action"

/-- `_outcome_id` of a lineage without an outcome id. -/
def outcomeIdOf (i : Identities) (receiptId : String) : String :=
  let ids := [i.decisionId, i.correlationId, i.sizingId, i.executionId, i.opportunityId, i.routeId,
    i.action]
  let canonical := ['|'].intercalate (ids.map String.toList)
  let body := canonical ++ '|' :: (text (words receiptId)).toList
  String.ofList
    ("outcome_".toList ++ (toHex (Sha256.sha256 (encodeUtf8 body))).take 24)

/-- `outcome_id`: only a verified settlement is given one. -/
def settledOutcomeId (context : PyMap) (a : SettlementArgs) : String :=
  let existing := text (PyMap.get context "outcome_id")
  if existing = "" ∧ a.outcomeTruthVerified then
    outcomeIdOf (identitiesOf context a.routeId) a.receiptId
  else existing

def requiredIdentities (context : PyMap) (a : SettlementArgs) : List (String × String) :=
  let i := identitiesOf context a.routeId
  [("decision_id", i.decisionId), ("correlation_id", i.correlationId), ("sizing_id", i.sizingId),
    ("execution_id", i.executionId), ("receipt_id", text (words a.receiptId)),
    ("outcome_id", settledOutcomeId context a), ("opportunity_id", i.opportunityId),
    ("route_id", i.routeId), ("action", i.action)]

def missingIdentities (context : PyMap) (a : SettlementArgs) : List String :=
  ((requiredIdentities context a).filter fun e => text (words e.2) = "").map Prod.fst

/-- The checks of a verified settlement; the expectation error where they pass. -/
def verifiedEconomics (context : PyMap) (a : SettlementArgs) : Except String ℚ :=
  match (PyMap.get context "expected_net_usd").float, a.netRealizedUsd with
  | .error _, _ => .error "canonical_settlement_economics_invalid"
  | .ok (.finite expected), .finite realized =>
    if missingIdentities context a = [] then .ok (realized - expected)
    else
      .error ("canonical_settlement_lineage_incomplete:"
        ++ ",".intercalate (missingIdentities context a))
  | .ok _, _ => .error "canonical_settlement_economics_nonfinite"

/-- A float as a value; its text is not read. -/
def floatValue : PyFloat → PyTree
  | .finite x => floating x
  | .inf negative => .inf negative
  | .nan => .nan

/-- `_dict(context.get(k))`, as a value. -/
def dictIn (context : PyMap) (k : String) : PyTree := record (nested context k)

/-- `metadata.update({...})`. -/
def settlementMetadata (context metadata : PyMap) (a : SettlementArgs) (error : PyTree)
    (latency : Int) : PyMap :=
  let i := identitiesOf context a.routeId
  let outcomeId := settledOutcomeId context a
  let strategyId := inContext context "strategy_id"
  let receiptId := text (words a.receiptId)
  let lineage : PyMap :=
    [("receipt_id", words receiptId), ("outcome_id", words outcomeId),
      ("strategy_id", words strategyId)]
      ++ nested context "canonical_lineage"
      ++ [("decision_id", words i.decisionId), ("correlation_id", words i.correlationId),
        ("sizing_id", words i.sizingId), ("execution_id", words i.executionId),
        ("opportunity_id", words i.opportunityId), ("route_id", words i.routeId),
        ("action", words i.action)]
  [("canonical_decision_id", words i.decisionId), ("decision_id", words i.decisionId),
    ("correlation_id", words i.correlationId), ("sizing_id", words i.sizingId),
    ("execution_id", words i.executionId), ("receipt_id", words receiptId),
    ("outcome_id", words outcomeId), ("opportunity_id", words i.opportunityId),
    ("route_id", words i.routeId), ("action", words i.action), ("strategy_id", words strategyId),
    ("canonical_lineage", record lineage),
    ("execution_lineage", dictIn context "execution_lineage"),
    ("expected_net_usd", PyMap.get context "expected_net_usd"),
    ("realized_net_usd", floatValue a.netRealizedUsd), ("expectation_error", error),
    ("gas_cost_wei", .leaf (.int a.gasCostWei)),
    ("gas_cost_usd", PyMap.get metadata "gas_cost_usd"),
    ("slippage_bps", PyMap.get context "slippage_bps"), ("latency_ms", .leaf (.int latency)),
    ("prime_economics", dictIn context "prime_economics"),
    ("borrowing_economics", record a.borrowing),
    ("capital_demand", dictIn context "capital_demand"),
    ("capital_authority", dictIn context "capital_authority"),
    ("internal_prime_authority", dictIn context "internal_prime_authority"),
    ("settlement_verified", .leaf (.bool a.outcomeTruthVerified)),
    ("truth_verified", .leaf (.bool a.outcomeTruthVerified)),
    ("settlement_status", words (if a.status = 1 then "settled" else "failed")),
    ("amount_in_wei", .leaf (.int a.amountIn)),
    ("net_realized_usd", floatValue a.netRealizedUsd),
    ("realized_after_gas_usd", floatValue a.realizedAfterUsd)]
    ++ metadata

/-- `_annotate_settlement_payload`; the error is the text of the exception. `context` is the
lineage on the runtime. -/
def annotateSettlementPayload (context payload : PyMap) (a : SettlementArgs) :
    Except String PyMap := do
  let error ← if a.outcomeTruthVerified then (verifiedEconomics context a).map floating
    else .ok (.leaf .none)
  let latency ←
    match ((PyMap.get context "latency_ms").orElse (.leaf (.int a.submitToReceiptMs))).int with
    | .ok latency => .ok latency
    | .error _ => .error "latency_ms"
  return ("metadata",
    record (settlementMetadata context (nested payload "metadata") a error latency)) :: payload

/-! ## The reader -/

/-- `first`: the value of the first key that is there and not an empty text. -/
def firstSet (metadata : PyMap) (keys : List String) (default : PyTree) : PyTree :=
  match keys.find? fun k => !(PyMap.get metadata k).blank with
  | some k => PyMap.get metadata k
  | none => default

/-- `a or b`, of two values. -/
def eitherOf (v w : PyTree) : PyTree := PyMap.firstTruthy [v] w

def normalize (row : PyMap) : PyMap :=
  let metadata := nested row "metadata"
  let lineage := PyMap.get (nested metadata "canonical_lineage")
  let execution := PyMap.get (nested metadata "execution_lineage")
  let own := PyMap.get metadata
  let first := fun keys => firstSet metadata keys (.leaf .none)
  let firstText := fun keys default => words (text (firstSet metadata keys default))
  let shown := fun values => words (textOf values)
  [("status", words "settled"), ("source", words "phase2_canonical_outcome_ledger"),
    ("transaction_id", words (text (PyMap.get row "transaction_id"))),
    ("tx_hash", shown [PyMap.get row "receipt_id", own "tx_hash", own "txHash"]),
    ("receipt_id", shown [own "receipt_id", PyMap.get row "receipt_id"]),
    ("decision_id", firstText ["canonical_decision_id", "decision_id"]
      (eitherOf (lineage "decision_id") (execution "decision_id"))),
    ("correlation_id", firstText ["correlation_id"]
      (eitherOf (lineage "correlation_id") (execution "correlation_id"))),
    ("execution_id", firstText ["execution_id"]
      (eitherOf (lineage "execution_id") (execution "execution_id"))),
    ("outcome_id", firstText ["outcome_id"] (lineage "outcome_id")),
    ("sizing_id", firstText ["sizing_id"]
      (eitherOf (lineage "sizing_id") (execution "sizing_id"))),
    ("opportunity_id", firstText ["opportunity_id", "opportunityId"] (lineage "opportunity_id")),
    ("route_id", firstText ["route_id", "routeId"] (lineage "route_id")),
    ("action", firstText ["action", "aqe_action"] (lineage "action")),
    ("strategy_id", firstText ["strategy_id", "strategyId"] (lineage "strategy_id")),
    ("strategy_family", firstText ["strategy_family", "strategyFamily", "family"] (.leaf .none)),
    ("ok", .leaf (.bool (firstSet metadata ["ok"] (.leaf (.bool true))).truthy)),
    ("expected_net_usd", first ["expected_net_usd", "expectedNetUsd"]),
    ("realized_net_usd", first ["realized_net_usd", "realizedNetUsd"]),
    ("amount_in_wei", first ["amount_in_wei", "amountInWei"]),
    ("gas_cost_usd", first ["gas_cost_usd", "gasCostUsd"]),
    ("gas_cost_wei", first ["gas_cost_wei", "gasCostWei"]),
    ("slippage_bps", first ["slippage_bps", "slippageBps"]),
    ("latency_ms", first ["latency_ms", "latencyMs"]),
    ("borrow_cost_usd", first ["borrow_cost_usd", "borrowCostUsd"]),
    ("prime_economics",
      record (eitherOf (own "prime_economics") (own "borrowing_economics")).mapping),
    ("capital_demand", record (eitherOf (own "capital_demand") (own "capitalDemand")).mapping),
    ("capital_authority",
      record (eitherOf (own "capital_authority") (own "capitalAuthority")).mapping),
    ("internal_prime_authority",
      record (eitherOf (own "internal_prime_authority") (own "internalPrimeAuthority")).mapping),
    ("truth_verified", .leaf (.bool
      (first ["truth_verified", "outcome_truth_verified", "verified"]).truthy)),
    ("settlement_verified", .leaf (.bool (first
      ["settlement_verified", "truth_verified", "outcome_truth_verified", "verified"]).truthy)),
    ("canonical_lineage", record
      [("decision_id", shown [lineage "decision_id", execution "decision_id",
          own "canonical_decision_id", own "decision_id"]),
        ("correlation_id", shown [lineage "correlation_id", execution "correlation_id",
          own "correlation_id"]),
        ("sizing_id", shown [lineage "sizing_id", execution "sizing_id", own "sizing_id"]),
        ("execution_id", shown [lineage "execution_id", execution "execution_id",
          own "execution_id"]),
        ("receipt_id", shown [lineage "receipt_id", own "receipt_id",
          PyMap.get row "receipt_id"]),
        ("outcome_id", shown [lineage "outcome_id", own "outcome_id"]),
        ("opportunity_id", shown [lineage "opportunity_id", own "opportunity_id",
          own "opportunityId"]),
        ("route_id", shown [lineage "route_id", own "route_id", own "routeId"]),
        ("action", shown [lineage "action", own "action", own "aqe_action"]),
        ("strategy_id", shown [lineage "strategy_id", own "strategy_id", own "strategyId"])]),
    ("metadata", record metadata), ("ledger_transaction", record row)]

/-- The keys of `canonical_settled_outcome`; an empty one is not compared. -/
structure OutcomeKeys where
  txHash : String
  decisionId : String
  correlationId : String
  opportunityId : String
  executionId : String

def OutcomeKeys.matches (keys : OutcomeKeys) (outcome : PyMap) : Bool :=
  let agrees := fun (key : String) (field : String) =>
    decide (key = "" ∨ (PyMap.get outcome field).str = text (words key))
  agrees keys.txHash "tx_hash" && agrees keys.decisionId "decision_id"
    && agrees keys.correlationId "correlation_id" && agrees keys.opportunityId "opportunity_id"
    && agrees keys.executionId "execution_id"

def ledgerTime (outcome : PyMap) : Except PyError Int :=
  readInt ((PyMap.get (nested outcome "ledger_transaction") "ts_ms").orElse (.leaf (.int 0)))

/-- `canonical_settled_outcome` over the transactions of the ledger: the latest one that
matches. -/
def canonicalSettledOutcome (transactions : List PyMap) (keys : OutcomeKeys) :
    Except PyError (Option PyMap) := do
  let rows := transactions.filter fun row => text (PyMap.get row "tx_type") = "receipt_settlement"
  let found := (rows.map normalize).filter keys.matches
  let timed ← found.mapM fun outcome => (ledgerTime outcome).map fun ts => (ts, outcome)
  return ((timed.insertionSort fun a b => b.1 ≤ a.1).head?).map Prod.snd

/-! ## The observer -/

structure PendingIdentities where
  decisionId : String
  correlationId : String
  executionId : String
  sizingId : String
  opportunityId : String
  routeId : String
  action : String
  strategyId : String

/-- `_text(p.get(k) or pending_lineage.get(k'))`. -/
def inPending (pending : PyMap) (k k' : String) : String :=
  textOf [PyMap.get pending k, PyMap.get (nested pending "canonical_lineage") k']

def pendingIdentities (pending : PyMap) : PendingIdentities where
  decisionId := inPending pending "canonical_decision_id" "decision_id"
  correlationId := inPending pending "correlation_id" "correlation_id"
  executionId := inPending pending "execution_id" "execution_id"
  sizingId := inPending pending "sizing_id" "sizing_id"
  opportunityId := inPending pending "opportunity_id" "opportunity_id"
  routeId := inPending pending "route_id" "route_id"
  action := inPending pending "action" "action"
  strategyId := textOf [PyMap.get pending "strategy_id",
    PyMap.get (nested pending "canonical_lineage") "strategy_id",
    PyMap.get (nested pending "context") "strategy_id"]

def comparisons (pending outcome : PyMap) : List (String × String × String) :=
  let p := pendingIdentities pending
  [("decision", p.decisionId, attributed outcome "decision_id"),
    ("correlation", p.correlationId, attributed outcome "correlation_id"),
    ("execution", p.executionId, attributed outcome "execution_id"),
    ("sizing", p.sizingId, attributed outcome "sizing_id"),
    ("opportunity", p.opportunityId, attributed outcome "opportunity_id"),
    ("route", p.routeId, attributed outcome "route_id"),
    ("action", p.action, attributed outcome "action"),
    ("strategy", p.strategyId,
      textOf [PyMap.get outcome "strategy_id",
        PyMap.get (nested outcome "canonical_lineage") "strategy_id",
        PyMap.get (nested outcome "metadata") "strategy_id"])]

def outcomeReceiptId (outcome : PyMap) : String :=
  textOf [PyMap.get outcome "receipt_id",
    PyMap.get (nested outcome "canonical_lineage") "receipt_id", PyMap.get outcome "tx_hash"]

/-- Why `_observe_settled_outcome` does not tell the learner; nothing where it does. -/
def observeRejection (omarEnabled : Bool) (pending outcome : PyMap) : Option String :=
  let p := pendingIdentities pending
  if lower (text (PyMap.get outcome "status")) ≠ "settled" then some "outcome_not_settled"
  else if !omarEnabled then some "omar_disabled"
  else if p.decisionId = "" ∨ p.correlationId = "" then some "canonical_lineage_missing"
  else
    match (comparisons pending outcome).find? fun e => e.2.1 ≠ "" ∧ e.2.2 ≠ e.2.1 with
    | some (name, _) => some (name ++ "_lineage_mismatch")
    | none =>
      if p.executionId = "" ∨ p.sizingId = "" ∨ p.opportunityId = "" ∨ p.routeId = ""
          ∨ p.action = "" ∨ attributed outcome "outcome_id" = ""
          ∨ outcomeReceiptId outcome = "" then
        some "canonical_lineage_incomplete"
      else none

end SovereignCapital.ClosedLoop
