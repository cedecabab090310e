import SovereignCapital.ClosedLoop.Settle
import SovereignCapital.Lineage.Identity
import SovereignCapital.Omar.Attribution

/-! # The loop that does not close

The pending record of a submission has no place for the opportunity, and it names the decision
only inside its context. The facade finds the decision there, but not the opportunity, so that the
capital writer rejects every verified settlement; the observer looks at the record alone and finds
no decision.
-/

namespace SovereignCapital.ClosedLoop

open Bytes PyRaise Omar

/-! ## The property -/

structure Trade where
  opportunityId : String
  action : String
  expectedNetUsd : ℚ
  submission : Submission
  /-- `decision.metadata` -/
  decisionMetadata : PyMap
  /-- the ledger transaction that the writer annotates -/
  payload : PyMap
  args : SettlementArgs

def Trade.lineage (t : Trade) : PyMap := nested t.submission.info "canonical_lineage"

/-- `canonical_lineage` and the lineages made from it name these. -/
def lineageNames : List String := ["decision_id", "correlation_id", "sizing_id", "execution_id"]

/-- `brain` and the metadata of the decision name these. -/
def canonicalNames : List String :=
  ["canonical_decision_id", "correlation_id", "sizing_id", "execution_id"]

/-- The trade is identified wherever an identity is attached: in `brain`, in the canonical
lineage, in the context of the submission and in the metadata of the decision. Its action and its
expected net are there as well, and its receipt is verified in USD. -/
structure Identified (t : Trade) : Prop where
  opportunity : text (words t.opportunityId) ≠ ""
  route : text t.submission.oppRouteId ≠ ""
  brain : ∀ k ∈ canonicalNames, text (PyMap.get (nested t.submission.info "brain") k) ≠ ""
  lineage : ∀ k ∈ lineageNames, text (PyMap.get t.lineage k) ≠ ""
  context : ∀ k ∈ lineageNames, text (PyMap.get
    (nested (nested t.submission.info "pending_context") "execution_lineage") k) ≠ ""
  decision : ∀ k ∈ canonicalNames, text (PyMap.get t.decisionMetadata k) ≠ ""
  action : text (words t.action) ≠ "" ∧
    ∀ d ∈ [t.decisionMetadata, nested t.submission.info "pending_context"],
      PyMap.get d "action" = words t.action
  brainAction : PyMap.get (nested t.submission.info "brain") "omar_action" = words t.action
  expectedNet : ∀ d ∈ [t.decisionMetadata, nested t.submission.info "pending_context",
    t.submission.info], finiteNumber (PyMap.get d "expected_net_usd") = some t.expectedNetUsd
  transaction : PyMap.get t.payload "tx_type" = words "receipt_settlement" ∧
    PyMap.get t.payload "receipt_id" = words t.args.receiptId
  receipt : text (words t.args.receiptId) ≠ ""
  verified : t.args.outcomeTruthVerified = true
  realizedNet : ∃ x, t.args.netRealizedUsd = .finite x

/-- What `_safe_finalize_receipt_side_effects` asks the ledger for. -/
def finalizeKeys (pending : PyMap) (txHash : String) : OutcomeKeys where
  txHash := txHash
  decisionId := ((PyMap.get pending "canonical_decision_id").orElse (words "")).str
  correlationId := ((PyMap.get pending "correlation_id").orElse (words "")).str
  opportunityId := ((PyMap.get pending "opportunity_id").orElse (words "")).str
  executionId := (sourcesOf pending).executionId

structure CarriesSame (t : Trade) (outcome : PyMap) : Prop where
  lineage : ∀ k ∈ lineageNames, text (PyMap.get outcome k) = text (PyMap.get t.lineage k)
  opportunity : text (PyMap.get outcome "opportunity_id") = text (words t.opportunityId)
  route : text (PyMap.get outcome "route_id") = text t.submission.oppRouteId
  action : text (PyMap.get outcome "action") = text (words t.action)
  expectedNet : finiteNumber (PyMap.get outcome "expected_net_usd") = some t.expectedNetUsd
  realizedNet : PyMap.get outcome "realized_net_usd" = floatValue t.args.netRealizedUsd

/-- The pending record, carried to the writer, gives a row that the writer accepts, that is read
back as the trade's own, and that the observer does not reject for the same record. The ledger has
no other settlement of the receipt. -/
def ClosesLoop (t : Trade) : Prop :=
  ∃ pending row, pendingSubmission t.submission = some pending ∧
    annotateSettlementPayload (settlementLineage pending t.args.receiptId) t.payload t.args
      = .ok row ∧
    ∀ others : List PyMap, (∀ other ∈ others,
        (PyMap.get (normalize other) "tx_hash").str ≠ text (words t.args.receiptId)) →
      ∃ outcome, canonicalSettledOutcome (others ++ [row])
          (finalizeKeys pending t.args.receiptId) = .ok (some outcome) ∧
        CarriesSame t outcome ∧ observeRejection true pending outcome = none

/-! ## What the pending record names -/

def pendingKeys : List String :=
  ["tx_hash", "submit_ts_s", "expected_after", "amount_in", "latency_ms", "mode", "route_id",
    "rl_state", "rl_action", "aqe_action", "gas_est_wei", "capture_lane", "capture_relay",
    "route_family", "strategy_family", "capture_meta", "pending_context", "tokens", "venues",
    "pairs", "terminal_profitability_authority", "capital_admission",
    "post_mutation_revalidation"]

theorem get?_values {i : Receipt.SubmissionInput} {values : PyDict}
    (h : Receipt.buildPendingSubmission i = some values) {k : String}
    (hk : k ∉ pendingKeys.take 15) : values.get? k = none := by
  unfold Receipt.buildPendingSubmission at h
  split at h
  · obtain rfl := Option.some.inj h
    exact PyDict.get?_literal_of_notMem hk
  · cases h

theorem pendingSubmission_cases {t : Submission} {pending : PyMap}
    (h : pendingSubmission t = some pending) :
    ∃ i values capitalAdmission postMutation, Receipt.buildPendingSubmission i = some values ∧
      pending = (values.entries.map fun e => (e.1, .leaf e.2))
        ++ [("capture_meta", record (nested t.info "capture")),
          ("pending_context", record (nested t.info "pending_context")),
          ("tokens", emptyList), ("venues", emptyList), ("pairs", emptyList),
          ("terminal_profitability_authority",
            record (nested t.plan "terminalProfitabilityAuthority")),
          ("capital_admission", record capitalAdmission),
          ("post_mutation_revalidation", record postMutation)] := by
  unfold pendingSubmission at h
  obtain ⟨capitalAdmission, -, h⟩ := Option.bind_eq_some_iff.1 h
  obtain ⟨postMutation, -, h⟩ := Option.bind_eq_some_iff.1 h
  obtain ⟨values, hvalues, h⟩ := Option.bind_eq_some_iff.1 h
  exact ⟨_, values, capitalAdmission, postMutation, hvalues, (Option.some.inj h).symm⟩

theorem pending_get {t : Submission} {pending : PyMap} (h : pendingSubmission t = some pending)
    {k : String} (hk : k ∉ pendingKeys) : PyMap.get pending k = .leaf .none := by
  obtain ⟨i, values, capitalAdmission, postMutation, hvalues, rfl⟩ := pendingSubmission_cases h
  have hnone := get?_values hvalues fun hmem => hk (List.mem_of_mem_take hmem)
  simp only [pendingKeys, List.mem_cons, List.not_mem_nil, or_false, not_or] at hk
  rw [PyMap.get, PyMap.get?, List.lookup_append, lookup_entries, hnone]
  simp [List.lookup_cons, hk, beq_false_of_ne]

theorem pending_context {t : Submission} {pending : PyMap}
    (h : pendingSubmission t = some pending) :
    nested pending "pending_context" = nested t.info "pending_context" := by
  obtain ⟨i, values, capitalAdmission, postMutation, hvalues, rfl⟩ := pendingSubmission_cases h
  have hnone := @get?_values _ _ hvalues "pending_context" (by decide)
  have hget : PyMap.get? ((values.entries.map fun e => (e.1, PyTree.leaf e.2))
      ++ [("capture_meta", record (nested t.info "capture")),
        ("pending_context", record (nested t.info "pending_context")),
        ("tokens", emptyList), ("venues", emptyList), ("pairs", emptyList),
        ("terminal_profitability_authority",
          record (nested t.plan "terminalProfitabilityAuthority")),
        ("capital_admission", record capitalAdmission),
        ("post_mutation_revalidation", record postMutation)]) "pending_context"
      = some (record (nested t.info "pending_context")) := by
    rw [PyMap.get?, List.lookup_append, lookup_entries, hnone]
    rfl
  rw [nested, PyMap.get, hget]
  rfl

/-! ## What the facade finds -/

section Facade

variable {t : Submission} {pending : PyMap}

/-- The sources of the facade for a record of a submission: only the context says anything. -/
theorem sources_pending (h : pendingSubmission t = some pending) :
    (sourcesOf pending).canonicalLineage = [] ∧ (sourcesOf pending).brain = [] ∧
      (sourcesOf pending).executionLineage
        = nested (nested t.info "pending_context") "execution_lineage" := by
  have hlineage : nested pending "canonical_lineage" = [] := by
    rw [nested, pending_get h (by decide)]
    rfl
  have hbrain : nested pending "brain" = [] := by
    rw [nested, pending_get h (by decide)]
    rfl
  exact ⟨hlineage, hbrain, congrArg (fun d => nested d "execution_lineage") (pending_context h)⟩

/-- The record has no opportunity, and the facade asks nothing else for one. -/
theorem opportunityId_pending (h : pendingSubmission t = some pending) :
    (sourcesOf pending).opportunityId = "" := by
  rw [Sources.opportunityId, sourcesOf, pending_get h (by decide), text_none]

end Facade

/-! ## The two joints -/

section Joints

variable {t : Submission} {pending : PyMap}

theorem missing_opportunity (h : pendingSubmission t = some pending) (txHash : String)
    (a : SettlementArgs) :
    "opportunity_id" ∈ missingIdentities (settlementLineage pending txHash) a := by
  have hcontext : PyMap.get (settlementLineage pending txHash) "opportunity_id"
      = words (sourcesOf pending).opportunityId := rfl
  have hlineage : PyMap.get (nested (settlementLineage pending txHash) "canonical_lineage")
      "opportunity_id" = words (sourcesOf pending).opportunityId := rfl
  have hempty : inContext (settlementLineage pending txHash) "opportunity_id" = "" := by
    rw [inContext, hcontext, hlineage, opportunityId_pending h]
    decide +kernel
  have hrequired : ("opportunity_id", inContext (settlementLineage pending txHash)
      "opportunity_id") ∈ requiredIdentities (settlementLineage pending txHash) a := by
    simp [requiredIdentities, identitiesOf]
  refine List.mem_map.2 ⟨_, List.mem_filter.2 ⟨hrequired, ?_⟩, rfl⟩
  rw [hempty]
  decide +kernel

theorem annotate_rejects (h : pendingSubmission t = some pending) (txHash : String)
    (payload : PyMap) {a : SettlementArgs} (hverified : a.outcomeTruthVerified = true) :
    ∃ message, annotateSettlementPayload (settlementLineage pending txHash) payload a
      = .error message := by
  have hmissing := missing_opportunity h txHash a
  have hne : missingIdentities (settlementLineage pending txHash) a ≠ [] :=
    List.ne_nil_of_mem hmissing
  have heconomics : ∃ message,
      verifiedEconomics (settlementLineage pending txHash) a = .error message := by
    unfold verifiedEconomics
    split
    · exact ⟨_, rfl⟩
    · rw [if_neg hne]
      exact ⟨_, rfl⟩
    · exact ⟨_, rfl⟩
  obtain ⟨message, hmessage⟩ := heconomics
  refine ⟨message, ?_⟩
  unfold annotateSettlementPayload
  rw [if_pos hverified, hmessage]
  rfl

/-- The observer finds no decision in the record of a submitted trade. -/
theorem observe_rejects (h : pendingSubmission t = some pending) {outcome : PyMap}
    (hsettled : lower (text (PyMap.get outcome "status")) = "settled") :
    observeRejection true pending outcome = some "canonical_lineage_missing" := by
  have hlineage : nested pending "canonical_lineage" = [] := (sources_pending h).1
  have hdecision : inPending pending "canonical_decision_id" "decision_id" = "" := by
    rw [inPending, pending_get h (by decide), hlineage]
    decide +kernel
  unfold observeRejection
  dsimp only
  rw [if_neg (not_not_intro hsettled), if_neg (by decide), if_pos (.inl hdecision)]

end Joints

theorem normalize_settled (row : PyMap) :
    lower (text (PyMap.get (normalize row) "status")) = "settled" := by
  have hstatus : PyMap.get (normalize row) "status" = words "settled" := rfl
  rw [hstatus]
  decide +kernel

theorem outcome_of_ok {transactions : List PyMap} {keys : OutcomeKeys} {outcome : PyMap}
    (h : canonicalSettledOutcome transactions keys = .ok (some outcome)) :
    ∃ row ∈ transactions, outcome = normalize row := by
  unfold canonicalSettledOutcome at h
  obtain ⟨timed, htimed, h⟩ := Guarded.bind_ok_iff.1 h
  have hhead := Except.ok.inj h
  obtain ⟨⟨ts, _⟩, hfirst, rfl⟩ := Option.map_eq_some_iff.1 hhead
  have hmem := List.mem_of_mem_head? hfirst
  rw [List.mem_insertionSort] at hmem
  -- what was timed was found
  have hfound : ∀ (found : List PyMap) (timed : List (Int × PyMap)),
      (found.mapM fun outcome => (ledgerTime outcome).map fun ts => (ts, outcome)) = .ok timed →
        ∀ e ∈ timed, e.2 ∈ found := by
    intro found
    induction found with
    | nil =>
      intro timed hok e he
      obtain rfl := Except.ok.inj hok
      cases he
    | cons first found ih =>
      intro timed hok e he
      rw [List.mapM_cons] at hok
      obtain ⟨e', he', hok⟩ := Guarded.bind_ok_iff.1 hok
      obtain ⟨rest, hrest, hok⟩ := Guarded.bind_ok_iff.1 hok
      obtain rfl := Except.ok.inj hok
      rcases List.mem_cons.1 he with rfl | he
      · obtain ⟨ts', -, rfl⟩ := Guarded.map_ok_iff.1 he'
        exact List.mem_cons_self
      · exact List.mem_cons_of_mem _ (ih rest hrest e he)
  have hin := (List.mem_filter.1 (hfound _ timed htimed _ hmem)).1
  obtain ⟨row, hrow, hnormal⟩ := List.mem_map.1 hin
  exact ⟨row, (List.mem_filter.1 hrow).1, hnormal.symm⟩

theorem observe_rejects_read {t : Submission} {pending : PyMap}
    (h : pendingSubmission t = some pending) {transactions : List PyMap} {keys : OutcomeKeys}
    {outcome : PyMap}
    (houtcome : canonicalSettledOutcome transactions keys = .ok (some outcome)) :
    observeRejection true pending outcome = some "canonical_lineage_missing" := by
  obtain ⟨row, -, rfl⟩ := outcome_of_ok houtcome
  exact observe_rejects h (normalize_settled row)

theorem not_closesLoop (t : Trade) : ¬ ClosesLoop t := by
  rintro ⟨pending, row, hpending, -, hclosed⟩
  obtain ⟨outcome, houtcome, -, haccepted⟩ := hclosed [] (by simp)
  rw [observe_rejects_read hpending houtcome] at haccepted
  cases haccepted

/-- **The loop never closes.** Whatever the trade, the writer rejects its verified settlement, and
no settlement of the ledger passes the observer for its record. -/
theorem closesLoop_never (t : Trade) :
    ¬ ClosesLoop t ∧ ∀ pending, pendingSubmission t.submission = some pending →
      (t.args.outcomeTruthVerified = true → ∃ message,
        annotateSettlementPayload (settlementLineage pending t.args.receiptId) t.payload t.args
          = .error message) ∧
      ∀ transactions keys outcome,
        canonicalSettledOutcome transactions keys = .ok (some outcome) →
          observeRejection true pending outcome = some "canonical_lineage_missing" := by
  refine ⟨not_closesLoop t, fun pending hpending => ⟨annotate_rejects hpending _ _, ?_⟩⟩
  intro transactions keys outcome houtcome
  exact observe_rejects_read hpending houtcome

/-! ## A trade that is identified everywhere -/

def sampleIdentities (decision : String) : PyMap :=
  [(decision, words "decision-1"), ("correlation_id", words "corr-1"),
    ("sizing_id", words "sizing-1"), ("execution_id", words "execution-1")]

def sampleEconomics : PyMap := [("action", words "EXECUTE"), ("expected_net_usd", floating 12)]

def sampleTrade : Trade where
  opportunityId := "opp-1"
  action := "EXECUTE"
  expectedNetUsd := 12
  submission :=
    { txHash := words "0xabc"
      nowS := 0
      latencyMs := 44
      mode := "auto"
      plan := [("amount_in", words "100")]
      info :=
        [("brain", record (("omar_action", words "EXECUTE")
            :: sampleIdentities "canonical_decision_id")),
          ("canonical_lineage", record (sampleIdentities "decision_id")),
          ("sizing_id", words "sizing-1"),
          ("pending_context", record
            (("execution_lineage", record (sampleIdentities "decision_id")) :: sampleEconomics)),
          ("expected_net_usd", floating 12)]
      oppRouteId := words "route-1"
      expectedProfitRaw := words "17"
      legAmountIn := none }
  decisionMetadata := sampleIdentities "canonical_decision_id" ++ sampleEconomics
  payload := [("tx_type", words "receipt_settlement"), ("receipt_id", words "0xabc")]
  args :=
    { receiptId := "0xabc"
      status := 1
      amountIn := 100
      submitToReceiptMs := 81
      routeId := "route-1"
      gasCostWei := 9
      realizedAfterUsd := .finite 13
      netRealizedUsd := .finite 12
      borrowing := []
      outcomeTruthVerified := true }

theorem identified_sampleTrade : Identified sampleTrade where
  opportunity := by decide +kernel
  route := by decide +kernel
  brain := by decide +kernel
  lineage := by decide +kernel
  context := by decide +kernel
  decision := by decide +kernel
  action := by
    refine ⟨by decide +kernel, fun d hd => ?_⟩
    simp only [List.mem_cons, List.not_mem_nil, or_false] at hd
    rcases hd with rfl | rfl <;> rfl
  brainAction := rfl
  expectedNet := by
    intro d hd
    simp only [List.mem_cons, List.not_mem_nil, or_false] at hd
    rcases hd with rfl | rfl | rfl <;> rfl
  transaction := ⟨rfl, rfl⟩
  receipt := by decide +kernel
  verified := rfl
  realizedNet := ⟨12, rfl⟩

theorem not_closesLoop_identified : ¬ ∀ t, Identified t → ClosesLoop t := fun hall =>
  not_closesLoop sampleTrade (hall sampleTrade identified_sampleTrade)

end SovereignCapital.ClosedLoop
