import SovereignCapital.Lib.Winner
import SovereignCapital.Selection.Gates

/-! # Selection is fail-closed

The candidate that is selected passed the gates and has the highest after-fee profit of those that
did, in whatever order the runtimes come.
-/

namespace SovereignCapital.Selection

open Profitability

/-! ## The winner -/

/-- `int(after_fee_usd_micro or 0)` -/
def afterFee (e : RuntimeOpportunityEvidence) : Int := e.afterFeeUsdMicro.getD 0

variable {e : RuntimeOpportunityEvidence} {runtimes : List (String × Runtime)}

theorem Scored.afterFee_le {e' : RuntimeOpportunityEvidence} (he : Scored e) (he' : Scored e')
    (hle : e.selectionScore ≤ e'.selectionScore) : afterFee e ≤ afterFee e' := by
  obtain ⟨n, rest, hn, hscore⟩ := he
  obtain ⟨n', rest', hn', hscore'⟩ := he'
  rw [hscore, hscore'] at hle
  change (toLex (1, toLex (n, rest)) : ℤ ×ₗ ℤ ×ₗ ℤ ×ₗ ℤ ×ₗ ℤ ×ₗ String)
    ≤ toLex (1, toLex (n', rest')) at hle
  rw [Prod.Lex.toLex_le_toLex] at hle
  rcases hle with hlt | ⟨-, hle⟩
  · exact absurd hlt (lt_irrefl 1)
  · rw [Prod.Lex.toLex_le_toLex] at hle
    simp only [afterFee, hn, hn', Option.getD_some]
    rcases hle with hlt | ⟨heq, -⟩
    · exact hlt.le
    · exact heq.le

theorem mem_eligible (he : e ∈ (allEvidence runtimes).filter RuntimeOpportunityEvidence.eligible) :
    LetThrough runtimes e ∧ Scored e :=
  allEvidence_eligible (List.mem_filter.1 he).1 (List.mem_filter.1 he).2

/-- The winner is eligible, and nobody who is has a higher profit. -/
theorem selectedOf_best (h : selectedOf (allEvidence runtimes) = some e) :
    LetThrough runtimes e
      ∧ ∀ e' ∈ allEvidence runtimes, e'.eligible = true → afterFee e' ≤ afterFee e := by
  refine ⟨(mem_eligible (List.argmax_mem h)).1, fun e' he' heligible => ?_⟩
  exact Winner.quantity_le
    (fun x hx y hy hle => (mem_eligible hx).2.afterFee_le (mem_eligible hy).2 hle) h e'
    (List.mem_filter.2 ⟨he', heligible⟩)

theorem allEvidence_perm {runtimes' : List (String × Runtime)} (h : runtimes.Perm runtimes') :
    (allEvidence runtimes).Perm (allEvidence runtimes') :=
  h.flatMap_right _

/-- The order of the runtimes does not change the winner's profit. -/
theorem afterFee_of_perm {runtimes' : List (String × Runtime)} (h : runtimes.Perm runtimes') :
    (selectedOf (allEvidence runtimes)).map afterFee
      = (selectedOf (allEvidence runtimes')).map afterFee := by
  have hscore := Winner.score_of_perm RuntimeOpportunityEvidence.selectionScore
    ((allEvidence_perm h).filter RuntimeOpportunityEvidence.eligible)
  change (selectedOf _).map _ = (selectedOf _).map _ at hscore
  cases hwinner : selectedOf (allEvidence runtimes) with
  | none =>
    rw [hwinner] at hscore
    rw [Option.map_eq_none_iff.1 hscore.symm]
  | some e =>
    rw [hwinner] at hscore
    obtain ⟨e', hwinner', heq⟩ := Option.map_eq_some_iff.1 hscore.symm
    rw [hwinner']
    have he := (mem_eligible (List.argmax_mem hwinner)).2
    have he' := (mem_eligible (List.argmax_mem hwinner')).2
    exact congrArg some (le_antisymm (he.afterFee_le he' heq.ge) (he'.afterFee_le he heq.le))

theorem select_cases {externalDiscovery : PyTree} {result : SelectionResult}
    (h : select runtimes externalDiscovery = .ok result) :
    (runtimes.any fun item => isCancelled (runtimeEvidence item.1 item.2)) = false
      ∧ ∃ rows, discoveryRows externalDiscovery = .ok rows
        ∧ result.selected = selectedOf (allEvidence runtimes)
        ∧ result.candidates = allEvidence runtimes := by
  unfold select at h
  split at h
  · cases h
  · rename_i hcancelled
    obtain ⟨rows, hrows, h⟩ := Guarded.bind_ok_iff.1 h
    obtain rfl := Except.ok.inj h
    exact ⟨by simpa using hcancelled, rows, hrows, rfl, rfl⟩

/-- **Fail-closed and optimal.** Whatever the runtimes, their summaries and their opportunities
are: the selected candidate passed every gate on what it and its runtime have shown, no candidate
that passes has a higher after-fee profit, one is selected if any passes, and another order of
the runtimes selects a candidate with the same after-fee profit. -/
theorem select_failClosed {runtimes : List (String × Runtime)} {externalDiscovery : PyTree}
    {result : SelectionResult} (h : select runtimes externalDiscovery = .ok result) :
    (∀ e, result.selected = some e → e ∈ result.candidates ∧ e.eligible = true
        ∧ LetThrough runtimes e
        ∧ ∀ e' ∈ result.candidates, e'.eligible = true → afterFee e' ≤ afterFee e)
      ∧ (∀ e ∈ result.candidates, e.eligible = true → result.selected ≠ none)
      ∧ ∀ runtimes', runtimes.Perm runtimes' →
        ∃ result', select runtimes' externalDiscovery = .ok result'
          ∧ result'.selected.map afterFee = result.selected.map afterFee := by
  obtain ⟨hcancelled, rows, hrows, hselected, hcandidates⟩ := select_cases h
  rw [hselected, hcandidates]
  refine ⟨fun e he => ?_, fun e he heligible => ?_, fun runtimes' hperm => ?_⟩
  · have hmem := List.mem_filter.1 (List.argmax_mem he)
    exact ⟨hmem.1, hmem.2, selectedOf_best he⟩
  · obtain ⟨e', he'⟩ := Winner.exists_of_mem RuntimeOpportunityEvidence.selectionScore
      (List.mem_filter.2 ⟨he, heligible⟩)
    exact fun hnone => Option.some_ne_none e' (he'.symm.trans hnone)
  · rw [hperm.any_eq] at hcancelled
    have hok : ∃ result', select runtimes' externalDiscovery = .ok result' := by
      unfold select
      rw [hcancelled, hrows]
      exact ⟨_, rfl⟩
    obtain ⟨result', hresult'⟩ := hok
    obtain ⟨-, rows', -, hselected', -⟩ := select_cases hresult'
    refine ⟨result', hresult', ?_⟩
    rw [hselected']
    exact (afterFee_of_perm hperm).symm

/-! ## A run -/

def record (items : PyMap) : PyTree := .dict items ⟨"{...}", by decide⟩

/-- A candidate without an admission verdict, with figures of liquidity that cannot be read. -/
def bareMetadata : PyMap :=
  [("profitability", record [("revalidated", .leaf (.bool true)), ("valid", .leaf (.bool true)),
      ("profit_after_costs_wei", .leaf (.text "5")),
      ("profit_after_costs_usd_micro", .leaf (.int 7))]),
    ("capital_admission", record [("details", record [("institutionalSizing", record
      [("sizing", record [("capital_authority_available", .leaf (.bool true)),
        ("requested_notional_usd", .leaf (.text "n/a"))])])])]),
    ("execution_capture", record [("execution_ready", .leaf (.bool true)),
      ("route_capacity_usd", .leaf (.text "unknown"))])]

def bareCandidate : Opportunity :=
  { attr := fun name => .ok (if name = "meta" then some (record bareMetadata) else none)
    legTokens := .ok [.leaf (.text "0xTokenIn")] }

def bareRuntimes : List (String × Runtime) :=
  [("base", {
      opportunities := .ok [bareCandidate]
      summary := .late
      tokenUniverse := .ok (.leaf .none) }),
    ("ethereum", {
      opportunities := .ok [bareCandidate]
      summary := .returned (record
        [("auto_trade_gate", record [("allowed", .leaf (.bool true))]),
          ("auto_trade_recovery", record [("ready", .leaf (.bool true))])])
      tokenUniverse := .ok (.list [.leaf (.text "0xtokenin")] ⟨"[...]", by decide⟩) })]

theorem bareRuntimes_selected :
    ∃ result e, select bareRuntimes (.leaf .none) = .ok result ∧ result.selected = some e
      ∧ e.liquidityCapacityUsd = none ∧ e.requiredNotionalUsd = none := by
  have hrun : ((select bareRuntimes (.leaf .none)).toOption.bind SelectionResult.selected).map
      (fun e => (e.liquidityCapacityUsd, e.requiredNotionalUsd)) = some (none, none) := by
    decide +kernel
  obtain ⟨e, he, hnone⟩ := Option.map_eq_some_iff.1 hrun
  obtain ⟨result, hresult, hselected⟩ := Option.bind_eq_some_iff.1 he
  exact ⟨result, e, Guarded.toOption_eq_some.1 hresult, hselected, (Prod.mk.inj hnone).1,
    (Prod.mk.inj hnone).2⟩

theorem select_failClosed_bare :
    ∃ result e, select bareRuntimes (.leaf .none) = .ok result ∧ result.selected = some e
      ∧ LetThrough bareRuntimes e := by
  obtain ⟨result, e, h, he, -⟩ := bareRuntimes_selected
  exact ⟨result, e, h, he, ((select_failClosed h).1 e he).2.2.1⟩

/-- A candidate is selected whose admission verdict and flash loan are missing and whose capacity
and notional cannot be read. -/
theorem optional_inputs :
    admissionFlag bareMetadata = none ∧ flashloanFlag bareMetadata = none
      ∧ bareCandidate.rawMeta = .ok bareMetadata
      ∧ ∃ result e, select bareRuntimes (.leaf .none) = .ok result ∧ result.selected = some e
        ∧ e.liquidityCapacityUsd = none ∧ e.requiredNotionalUsd = none :=
  ⟨rfl, rfl, rfl, bareRuntimes_selected⟩

end SovereignCapital.Selection
