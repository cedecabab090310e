import SovereignCapital.Lib.Guarded
import SovereignCapital.Profitability.State

/-! # After-fee truth

`inspect_profit_after_costs_truth`: the figures of the scan must be there, readable and equal; a
profitability contract is heard instead of them where there is one.
-/

namespace SovereignCapital.Profitability

structure ProfitAfterCostsTruth where
  valueWei : Int
  verified : Bool
  positive : Bool
  reasonCode : String
  metaPresent : Bool
  safetyPresent : Bool
  metaValueWei : Option Int
  safetyValueWei : Option Int
  contractPresent : Bool
  stale : Bool
  revalidated : Bool

def parseProfitValue (value : PyTree) : Option Int :=
  Bytes.pyInt 10 (value.orElse (.leaf (.text "0"))).str.toList

def unverified (reasonCode : String) (metaPresent safetyPresent : Bool)
    (metaValue safetyValue : Option Int) : ProfitAfterCostsTruth :=
  { valueWei := 0
    verified := false
    positive := false
    reasonCode := reasonCode
    metaPresent := metaPresent
    safetyPresent := safetyPresent
    metaValueWei := metaValue
    safetyValueWei := safetyValue
    contractPresent := false
    stale := false
    revalidated := false }

def legacyTruth (metadata : PyMap) : ProfitAfterCostsTruth :=
  let safety := (metadata.get "safety").mapping
  let metaField := metadata.get? "profit_after_costs"
  let safetyField := safety.get? "profit_after_costs_wei"
  let metaPresent := metaField.isSome
  let safetyPresent := safetyField.isSome
  if metaPresent = false ∧ safetyPresent = false then
    unverified "profit_after_costs_unavailable" false false none none
  else
    let metaValue := metaField.bind parseProfitValue
    let safetyValue := safetyField.bind parseProfitValue
    if (metaPresent = true ∧ metaValue = none) ∨ (safetyPresent = true ∧ safetyValue = none) then
      unverified "profit_after_costs_invalid" metaPresent safetyPresent metaValue safetyValue
    else if metaPresent = true ∧ safetyPresent = true ∧ metaValue ≠ safetyValue then
      unverified "profit_after_costs_mismatch" true true metaValue safetyValue
    else
      let valueWei := (if metaPresent then metaValue else safetyValue).getD 0
      { valueWei := max 0 valueWei
        verified := true
        positive := decide (0 < valueWei)
        reasonCode := if 0 < valueWei then "ok" else "profit_after_costs_not_positive"
        metaPresent := metaPresent
        safetyPresent := safetyPresent
        metaValueWei := metaValue
        safetyValueWei := safetyValue
        contractPresent := false
        stale := false
        revalidated := false }

def canonicalContractPresent (metadata : PyMap) : Bool :=
  !(metadata.get "profitability").mapping.isEmpty
    || !(metadata.get "post_mutation_revalidation").mapping.isEmpty
    || !(metadata.get "profitability_continuity").mapping.isEmpty
    || (metadata.get "safety").mapping.flag "revalidated" false

def contractTruth (legacy : ProfitAfterCostsTruth) (view : ProfitabilityView) :
    ProfitAfterCostsTruth :=
  let verified := view.valid && !view.stale && (view.revalidated || view.authoritative)
  let positive := verified && decide (0 < view.profitAfterCostsWeiInt)
  { valueWei := if verified then max 0 view.profitAfterCostsWeiInt else 0
    verified := verified
    positive := positive
    reasonCode :=
      if view.reason ≠ "" then view.reason
      else if positive then "ok" else "profitability_contract_not_positive"
    metaPresent := legacy.metaPresent
    safetyPresent := legacy.safetyPresent
    metaValueWei := legacy.metaValueWei
    safetyValueWei := legacy.safetyValueWei
    contractPresent := true
    stale := view.stale
    revalidated := view.revalidated || view.authoritative }

def inspectProfitAfterCostsTruth (opp : Opportunity) : Except Raised ProfitAfterCostsTruth := do
  let metadata ← opp.rawMeta
  let legacy := legacyTruth metadata
  if canonicalContractPresent metadata then
    let view ← profitabilityStateView opp
    return contractTruth legacy view
  else return legacy

/-! ## What a verified truth rests on -/

theorem inspect_cases {opp : Opportunity} {truth : ProfitAfterCostsTruth}
    (h : inspectProfitAfterCostsTruth opp = .ok truth) :
    ∃ metadata, opp.rawMeta = .ok metadata
      ∧ (canonicalContractPresent metadata = false ∧ truth = legacyTruth metadata
        ∨ canonicalContractPresent metadata = true ∧ ∃ view,
          profitabilityStateView opp = .ok view
            ∧ truth = contractTruth (legacyTruth metadata) view) := by
  unfold inspectProfitAfterCostsTruth at h
  obtain ⟨metadata, hmeta, h⟩ := Guarded.bind_ok_iff.1 h
  refine ⟨metadata, hmeta, ?_⟩
  by_cases hcontract : canonicalContractPresent metadata = true
  · rw [if_pos hcontract] at h
    obtain ⟨view, hview, h⟩ := Guarded.bind_ok_iff.1 h
    exact Or.inr ⟨hcontract, view, hview, (Except.ok.inj h).symm⟩
  · rw [if_neg hcontract] at h
    exact Or.inl ⟨by simpa using hcontract, (Except.ok.inj h).symm⟩

theorem legacyTruth_reasonCode (metadata : PyMap) : (legacyTruth metadata).reasonCode ≠ "" := by
  unfold legacyTruth
  dsimp only
  split_ifs <;> simp [unverified]

theorem contractTruth_reasonCode (legacy : ProfitAfterCostsTruth) (view : ProfitabilityView) :
    (contractTruth legacy view).reasonCode ≠ "" := by
  simp only [contractTruth]
  split_ifs with hreason
  · exact hreason
  · simp
  · simp

theorem reasonCode_ne_empty {opp : Opportunity} {truth : ProfitAfterCostsTruth}
    (h : inspectProfitAfterCostsTruth opp = .ok truth) : truth.reasonCode ≠ "" := by
  obtain ⟨metadata, -, ⟨-, rfl⟩ | ⟨-, view, -, rfl⟩⟩ := inspect_cases h
  · exact legacyTruth_reasonCode metadata
  · exact contractTruth_reasonCode _ _

def ScanFigure (metadata : PyMap) (value : Int) : Prop :=
  let safety := (metadata.get "safety").mapping
  (∀ field, metadata.get? "profit_after_costs" = some field → parseProfitValue field = some value)
    ∧ (∀ field, safety.get? "profit_after_costs_wei" = some field →
      parseProfitValue field = some value)
    ∧ ((metadata.get? "profit_after_costs").isSome = true
      ∨ (safety.get? "profit_after_costs_wei").isSome = true)

theorem scanFigure_of_positive {metadata : PyMap}
    (h : (legacyTruth metadata).positive = true) :
    ∃ value, 0 < value ∧ ScanFigure metadata value := by
  unfold ScanFigure
  unfold legacyTruth at h
  dsimp only at h ⊢
  generalize metadata.get? "profit_after_costs" = metaField at h ⊢
  generalize (metadata.get "safety").mapping.get? "profit_after_costs_wei" = safetyField at h ⊢
  cases metaField with
  | none =>
    cases safetyField with
    | none => simp [unverified] at h
    | some field =>
      cases hvalue : parseProfitValue field with
      | none => simp [hvalue, unverified] at h
      | some value =>
        refine ⟨value, by simpa [hvalue] using h, ?_⟩
        simp [hvalue]
  | some metaField =>
    cases hvalue : parseProfitValue metaField with
    | none => simp [hvalue, unverified] at h
    | some value =>
      cases safetyField with
      | none =>
        refine ⟨value, by simpa [hvalue] using h, ?_⟩
        simp [hvalue]
      | some field =>
        cases hvalue' : parseProfitValue field with
        | none => simp [hvalue', unverified] at h
        | some value' =>
          by_cases hsame : value = value'
          · subst hsame
            refine ⟨value, by simpa [hvalue, hvalue'] using h, ?_⟩
            simp [hvalue, hvalue']
          · simp [hvalue, hvalue', hsame, unverified] at h

/-- The profit of a contract that is valid, current and revalidated. -/
def ContractFigure (view : ProfitabilityView) : Prop :=
  view.valid = true ∧ view.stale = false ∧ (view.revalidated = true ∨ view.authoritative = true)
    ∧ 0 < view.profitAfterCostsWeiInt

theorem contractFigure_of_positive {legacy : ProfitAfterCostsTruth} {view : ProfitabilityView}
    (h : (contractTruth legacy view).positive = true) : ContractFigure view := by
  simpa [contractTruth, ContractFigure, and_assoc] using h

/-- **Fail-closed truth.** A positive profit is that of the contract where there is one, and else
that of figures of the scan that can be read and agree. -/
theorem figure_of_positive {opp : Opportunity} {truth : ProfitAfterCostsTruth}
    (h : inspectProfitAfterCostsTruth opp = .ok truth) (hpositive : truth.positive = true) :
    ∃ metadata, opp.rawMeta = .ok metadata
      ∧ (canonicalContractPresent metadata = false
          ∧ (∃ value, 0 < value ∧ ScanFigure metadata value)
        ∨ canonicalContractPresent metadata = true
          ∧ ∃ view, profitabilityStateView opp = .ok view ∧ ContractFigure view) := by
  obtain ⟨metadata, hmeta, ⟨hcontract, rfl⟩ | ⟨hcontract, view, hview, rfl⟩⟩ := inspect_cases h
  · exact ⟨metadata, hmeta, Or.inl ⟨hcontract, scanFigure_of_positive hpositive⟩⟩
  · exact ⟨metadata, hmeta, Or.inr ⟨hcontract, view, hview, contractFigure_of_positive hpositive⟩⟩

end SovereignCapital.Profitability
