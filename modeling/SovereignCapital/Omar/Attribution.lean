import SovereignCapital.Lib.Guarded
import SovereignCapital.Omar.Runtime

/-! # Who attributes an outcome

The gate compares the snapshot of a decision with an outcome that was completed from that same
snapshot. A field that the settlement record carries itself is compared as it stands; one that it
lacks agrees with the snapshot because it was taken from it.
-/

namespace SovereignCapital.Omar

open Bytes PyRaise

/-! ## Texts -/

theorem text_words (s : String) : text (words s) = String.ofList (pyStrip s.toList) := by
  unfold text words PyTree.orElse
  by_cases hs : s = ""
  · subst hs
    rfl
  · have htruthy : (PyTree.leaf (.text s)).truthy = true := by
      simp [PyTree.truthy, PyValue.truthy, hs]
    rw [if_pos htruthy]
    rfl

@[simp] theorem text_words_text (v : PyTree) : text (words (text v)) = text v := by
  rw [text_words]
  unfold text
  rw [String.toList_ofList, pyStrip_pyStrip]

@[simp] theorem text_none : text (.leaf .none) = "" := by decide +kernel

theorem textOf_cons (v : PyTree) (values : List PyTree) :
    textOf (v :: values) = if v.truthy then text v else textOf values := by
  unfold textOf PyMap.firstTruthy
  rw [List.foldr_cons]
  by_cases hv : v.truthy = true
  · rw [PyTree.orElse_of_truthy _ hv, if_pos hv]
  · rw [PyTree.orElse_of_falsy _ (by simpa using hv), if_neg hv]

@[simp] theorem textOf_nil : textOf [] = "" := text_none

theorem text_of_falsy {v : PyTree} (h : v.truthy = false) : text v = "" := by
  rw [text, PyTree.orElse_of_falsy _ h]
  decide +kernel

theorem textOf_singleton (v : PyTree) : textOf [v] = text v := by
  rw [textOf_cons, textOf_nil]
  split
  · rfl
  · rename_i h
    exact (text_of_falsy (by simpa using h)).symm

theorem textOf_of_truthy {v : PyTree} (h : v.truthy = true) (values : List PyTree) :
    textOf (v :: values) = text v := by
  rw [textOf_cons, if_pos h]

@[simp] theorem text_words_textOf (values : List PyTree) :
    text (words (textOf values)) = textOf values := text_words_text _

theorem truthy_words (s : String) : (words s).truthy = decide (s ≠ "") := by
  by_cases hs : s = "" <;> simp [words, PyTree.truthy, PyValue.truthy, hs]

theorem textOf_words_pair (values values' : List PyTree) :
    textOf [words (textOf values), words (textOf values')]
      = if textOf values = "" then textOf values' else textOf values := by
  rw [textOf_cons, truthy_words, textOf_singleton, text_words_textOf, text_words_textOf]
  by_cases h : textOf values = ""
  · simp [h]
  · simp [h]

/-- Where one of two values is there, a third one is not looked at. -/
theorem textOf_pair_cases {v w : PyTree} (h : v.truthy = true ∨ w.truthy = true) (u : PyTree) :
    textOf [v, w, u] = text v ∨ textOf [v, w, u] = text w := by
  by_cases hv : v.truthy = true
  · exact .inl (textOf_of_truthy hv _)
  · rw [textOf_cons, if_neg hv]
    exact .inr (textOf_of_truthy (h.resolve_left hv) _)

/-! ## The rebuilt outcome -/

section Rebuilt

variable (c : OutcomeCall) (e : Evidence) (pending : PyMap)

theorem get?_rebuilt {k : String} (hk : k ≠ "expectation_error") :
    PyMap.get? (rebuiltOutcome c e pending) k = PyMap.get? (completed c e pending) k := by
  unfold rebuiltOutcome expectationError PyMap.get?
  dsimp only
  split
  · rw [List.cons_append, List.lookup_cons, beq_false_of_ne hk]
    rfl
  · rfl

theorem get_rebuilt {k : String} (hk : k ≠ "expectation_error") :
    PyMap.get (rebuiltOutcome c e pending) k = PyMap.get (completed c e pending) k := by
  rw [PyMap.get, get?_rebuilt c e pending hk, PyMap.get]

theorem nested_rebuilt {k : String} (hk : k ≠ "expectation_error") :
    nested (rebuiltOutcome c e pending) k = nested (completed c e pending) k := by
  rw [nested, get_rebuilt c e pending hk, nested]

theorem attributed_own {k : String} (hk : k ≠ "expectation_error") {values : List PyTree}
    (hfield : PyMap.get (completed c e pending) k = words (textOf values))
    (hlineage : PyMap.get (nested (completed c e pending) "canonical_lineage") k = .leaf .none) :
    attributed (rebuiltOutcome c e pending) k = textOf values := by
  rw [attributed, get_rebuilt c e pending hk, nested_rebuilt c e pending (by decide), hfield,
    hlineage, textOf_cons, textOf_singleton, text_none, truthy_words, text_words_textOf]
  by_cases h : textOf values = ""
  · simp [h]
  · simp [h]

theorem attributed_action : attributed (rebuiltOutcome c e pending) "action"
    = textOf [PyMap.get e.settlement "action", PyMap.get pending "action"] :=
  attributed_own c e pending (by decide) rfl rfl

theorem attributed_opportunity : attributed (rebuiltOutcome c e pending) "opportunity_id"
    = textOf [PyMap.get e.settlement "opportunity_id", PyMap.get pending "opportunity_id"] :=
  attributed_own c e pending (by decide) rfl rfl

theorem attributed_route : attributed (rebuiltOutcome c e pending) "route_id"
    = textOf [PyMap.get e.settlement "route_id", words c.routeId, PyMap.get pending "route_id"] :=
  attributed_own c e pending (by decide) rfl rfl

theorem attributed_execution : attributed (rebuiltOutcome c e pending) "execution_id"
    = textOf [PyMap.get e.settlement "execution_id"] :=
  attributed_own c e pending (by decide) rfl rfl

theorem attributed_outcome : attributed (rebuiltOutcome c e pending) "outcome_id"
    = textOf [PyMap.get e.settlement "outcome_id"] :=
  attributed_own c e pending (by decide) rfl rfl

/-- A field that the settlement and its lineage name, with the lineage first in the second
place. -/
theorem attributed_either {k : String} (hk : k ≠ "expectation_error") {fallback : PyTree}
    (hfield : PyMap.get (completed c e pending) k
      = words (textOf [PyMap.get e.settlement k, PyMap.get e.lineage k, fallback]))
    (hlineage : PyMap.get (nested (completed c e pending) "canonical_lineage") k
      = words (textOf [PyMap.get e.lineage k, PyMap.get e.settlement k, fallback]))
    (hcarried : (PyMap.get e.settlement k).truthy = true ∨ (PyMap.get e.lineage k).truthy = true) :
    attributed (rebuiltOutcome c e pending) k = text (PyMap.get e.settlement k) ∨
      attributed (rebuiltOutcome c e pending) k = text (PyMap.get e.lineage k) := by
  rw [attributed, get_rebuilt c e pending hk, nested_rebuilt c e pending (by decide), hfield,
    hlineage, textOf_words_pair]
  split
  · exact (textOf_pair_cases hcarried.symm fallback).symm
  · exact textOf_pair_cases hcarried fallback

end Rebuilt

/-! ## What the record names itself -/

def OutcomeCall.saysSettled (c : OutcomeCall) (e : Evidence) : Prop :=
  lower (textOf [PyMap.get e.settlement "status", PyMap.get c.metadata "status"]) = "settled"

/-- The flags that verify a settlement. -/
def Evidence.verified (e : Evidence) : Option Bool :=
  PyMap.firstFlag e.settlement ["settlement_verified", "truth_verified"]

/-- The settlement record is settled, verified and from a canonical source, and it names what the
snapshot names: its decision and correlation in its own field or in its lineage, everything else
in its own field. -/
structure Attributed (e : Evidence) (s : Snapshot) : Prop where
  status : lower (text (PyMap.get e.settlement "status")) = "settled"
  verified : e.verified = some true
  source : text (PyMap.get e.settlement "source") ∈ canonicalSettlementSources
  decision : text (PyMap.get e.settlement "decision_id") = text (words s.decisionId) ∨
    text (PyMap.get e.lineage "decision_id") = text (words s.decisionId)
  correlation : text (PyMap.get e.settlement "correlation_id") = text (words s.correlationId) ∨
    text (PyMap.get e.lineage "correlation_id") = text (words s.correlationId)
  action : text (PyMap.get e.settlement "action") = text (words s.action)
  opportunity : text (PyMap.get e.settlement "opportunity_id") = text (words s.opportunityId)
  route : text (PyMap.get e.settlement "route_id") = text (words s.routeId)
  sizing : pendingSizingId s.row ≠ "" →
    text (PyMap.get e.settlement "sizing_id") = pendingSizingId s.row
  execution : text (PyMap.get e.settlement "execution_id") ≠ ""
  outcome : text (PyMap.get e.settlement "outcome_id") ≠ ""
  expectedNet : ∃ x, finiteNumber s.expectedNetUsd = some x ∧
    finiteNumber (PyMap.get e.settlement "expected_net_usd") = some x
  capital : CapitalAvailable s.row

/-- The settlement record leaves nothing to the call or to the snapshot: what the gate compares is
there, and the expected net that is passed beside it is its own. -/
structure Carries (c : OutcomeCall) (e : Evidence) : Prop where
  status : (PyMap.get e.settlement "status").truthy = true
  source : (PyMap.get e.settlement "source").truthy = true
  verified : e.verified.isSome = true
  decision : (PyMap.get e.settlement "decision_id").truthy = true ∨
    (PyMap.get e.lineage "decision_id").truthy = true
  correlation : (PyMap.get e.settlement "correlation_id").truthy = true ∨
    (PyMap.get e.lineage "correlation_id").truthy = true
  action : (PyMap.get e.settlement "action").truthy = true
  opportunity : (PyMap.get e.settlement "opportunity_id").truthy = true
  route : (PyMap.get e.settlement "route_id").truthy = true
  expectedNet : ∃ v, PyMap.get? e.settlement "expected_net_usd" = some v ∧
    (isNone c.expectedNetUsd = true ∨ finiteNumber c.expectedNetUsd = finiteNumber v)

theorem row_expectedNetUsd (s : Snapshot) :
    PyMap.get s.row "expected_net_usd" = s.expectedNetUsd := by
  unfold Snapshot.row
  split
  · rename_i hnone
    have hleaf : s.expectedNetUsd = .leaf .none := by
      revert hnone
      generalize s.expectedNetUsd = v
      unfold isNone
      split
      · exact fun _ => rfl
      · exact fun h => nomatch h
    rw [hleaf]
    rfl
  · rfl

theorem pendingSizingId_row (s : Snapshot) : pendingSizingId s.row = "" := by
  have hdirect : PyMap.get s.row "sizing_id" = .leaf .none := by
    unfold Snapshot.row
    split <;> rfl
  have hlineage : PyMap.get (nested s.row "canonical_lineage") "sizing_id" = .leaf .none := rfl
  have hadmission : nested s.row "capital_admission" = [] := by
    unfold Snapshot.row
    split <;> rfl
  unfold pendingSizingId
  simp only [hdirect, hlineage, hadmission, textOf_cons, textOf_nil, text_none, ite_self]
  exact if_neg (not_not_intro rfl)

theorem expectedNet_rebuilt {c : OutcomeCall} {e : Evidence} (hcarries : Carries c e)
    (pending : PyMap) :
    finiteNumber (PyMap.get (rebuiltOutcome c e pending) "expected_net_usd")
      = finiteNumber (PyMap.get e.settlement "expected_net_usd") := by
  obtain ⟨v, hv, hsame⟩ := hcarries.expectedNet
  have hcompleted : PyMap.get (completed c e pending) "expected_net_usd"
      = if isNone c.expectedNetUsd then
          (PyMap.get? e.settlement "expected_net_usd").getD (PyMap.get pending "expected_net_usd")
        else c.expectedNetUsd := rfl
  have hcarried : PyMap.get e.settlement "expected_net_usd" = v := by
    rw [PyMap.get, hv]
    rfl
  rw [get_rebuilt c e pending (by decide), hcompleted, hcarried, hv]
  split
  · rfl
  · rename_i hsome
    exact hsame.resolve_left hsome

/-- What passes the gate is attributed by the record itself, where the record carries its own
attribution. -/
theorem attributed_of_allowed {c : OutcomeCall} {e : Evidence} {s : Snapshot}
    (h : Allowed s.row (rebuiltOutcome c e s.row) c.decisionId)
    (hid : s.decisionId = c.decisionId) (hcarries : Carries c e) : Attributed e s := by
  have hget := fun {k : String} (hk : k ≠ "expectation_error") => get_rebuilt c e s.row hk
  have hstatus : text (PyMap.get (rebuiltOutcome c e s.row) "status")
      = text (PyMap.get e.settlement "status") := by
    rw [hget (by decide)]
    exact (text_words_textOf _).trans (textOf_of_truthy hcarries.status _)
  have hsource : text (PyMap.get (rebuiltOutcome c e s.row) "source")
      = text (PyMap.get e.settlement "source") := by
    rw [hget (by decide)]
    exact (text_words_textOf _).trans (textOf_of_truthy hcarries.source _)
  have hverified : settlementVerified (rebuiltOutcome c e s.row)
      = e.verified.getD c.outcomeTruthVerified := by
    unfold settlementVerified PyMap.firstFlag
    rw [List.findSome?_cons, get?_rebuilt c e s.row (by decide)]
    rfl
  constructor
  · rw [← hstatus]
    exact h.status
  · obtain ⟨b, hb⟩ := Option.isSome_iff_exists.1 hcarries.verified
    have htrue := h.verified
    rw [hverified, hb] at htrue
    rw [hb]
    exact congrArg some htrue
  · rw [← hsource]
    exact h.source
  · rw [hid, words, ← h.decision]
    have hcases := attributed_either c e s.row (by decide) rfl rfl hcarries.decision
    exact hcases.imp Eq.symm Eq.symm
  · have hrow : text (PyMap.get s.row "correlation_id") = text (words s.correlationId) := rfl
    rw [← hrow, ← h.correlation]
    have hcases := attributed_either c e s.row (by decide) rfl rfl hcarries.correlation
    exact hcases.imp Eq.symm Eq.symm
  · rw [← textOf_of_truthy hcarries.action, ← attributed_action]
    exact h.action
  · rw [← textOf_of_truthy hcarries.opportunity, ← attributed_opportunity]
    exact h.opportunity
  · rw [← textOf_of_truthy hcarries.route, ← attributed_route]
    exact h.route
  · intro hne
    exact absurd (pendingSizingId_row s) hne
  · rw [← textOf_singleton, ← attributed_execution]
    exact h.execution
  · rw [← textOf_singleton, ← attributed_outcome]
    exact h.outcome
  · obtain ⟨x, hpending, hrow⟩ := h.expectedNet
    rw [row_expectedNetUsd] at hpending
    rw [expectedNet_rebuilt hcarries] at hrow
    exact ⟨x, hpending, hrow⟩
  · exact h.capital

end SovereignCapital.Omar
