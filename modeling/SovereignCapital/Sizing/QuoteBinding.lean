import SovereignCapital.Lib.Sha256
import SovereignCapital.Sizing.Conservative
import SovereignCapital.Sizing.Kernel
import SovereignCapital.Sizing.Record

/-! # Sizing and the final quote

`calculate_institutional_size` with its id: the id is a digest of the contract and of the size in
dollars, before a quote binds the size to raw units. The text of a float is a parameter.
-/

namespace SovereignCapital.Sizing

open Bytes Decimal Guarded JsonTree

/-- What a calculation raises: `ValueError` with its message, or an overflow. -/
inductive SizingError where
  | value (message : String)
  | overflow
deriving DecidableEq

structure QuotedDecision where
  sizingId : Text
  approvedNotionalUsd : ℚ
  approvedBorrowAmountRaw : Option ℤ
  constraintsApplied : List String
  downsizeReasons : List String
  capitalUtilization : ℚ
  executionNotionalUsd : Option ℚ
  quoteId : Option String

section

variable (floatText : ℚ → Word)

/-! ## The id -/

/-- The bytes that `_fingerprint` hashes. -/
def fingerprintPreimage (c : SizingRecord) (size : ℚ) (constraints : List String) : List Byte :=
  encodeUtf8 (record
    [("contract", c.toDict), ("approved_notional_usd", .word (floatText (pyRound 8 size))),
      ("constraints_applied", .array (constraints.map textJson))]).dumps

def fingerprint (c : SizingRecord) (size : ℚ) (constraints : List String) : Text :=
  "size-".toList
    ++ (toHex (Sha256.sha256 (fingerprintPreimage floatText c size constraints))).take 24

/-! ## The size in dollars -/

/-- `approved`, `canonical_constraints` and `downsize_reasons`. -/
structure CanonicalSize where
  size : ℚ
  constraints : List String
  downsizeReasons : List String

def canonicalSize (c : InstitutionalSizingContract) (requested : ℚ) : CanonicalSize :=
  if requested ≤ 0 then ⟨0, ["requested_notional"], ["requested_notional_non_positive"]⟩
  else
    let collected := ("requested_notional", requested) :: caps requested c
    { size := approved requested c
      constraints := collected.map Prod.fst ++ ["p_success_validated", "margin_validated"]
      downsizeReasons := (collected.filter fun cap =>
        decide (cap.2 < requested - 1 / 10 ^ 9)).map Prod.fst }

def capitalUtilization (c : InstitutionalSizingContract) (size : ℚ) : ℚ :=
  match c.capital.deployableUsd with
  | some deployable => if 0 < deployable then size / deployable else 0
  | none => 0

/-! ## Raw units -/

structure QuoteBinding where
  rawUnits : ℤ
  /-- the cap in raw units binds -/
  capped : Bool
  executionNotionalUsd : ℚ
  quoteId : Option String

def floatValue (x : ℚ) : PyTree :=
  .leaf (.float x ⟨String.ofList (floatText x).text, fun h => (floatText x).nonempty (by
    have htext := congrArg String.toList h
    rwa [String.toList_ofList] at htext)⟩)

/-- What the conversion raises becomes a `ValueError`, an overflow stays. -/
def quoteError : QuoteUnitError → SizingError
  | .sizing reason => .value ("final_quote_invalid:" ++ reason)
  | .overflow => .overflow

def bindQuote (c : SizingRecord) (size : ℚ) (finalQuote : PyTree) :
    Except SizingError QuoteBinding := do
  let quote := quoteContextFromMapping finalQuote
  let errors ← (quoteValidationErrors quote).mapError fun _ => SizingError.overflow
  ensure (errors = []) (SizingError.value ("final_quote_invalid:" ++ ",".intercalate errors))
  let decimals ← quote.assetDecimals.int.mapError fun _ => SizingError.overflow
  let units ← (usdNotionalToRawUnits (floatValue floatText size) quote.assetPriceUsd
    (.leaf (.int decimals))).mapError quoteError
  let maxRaw := c.maxBorrowAmountWei
  let capped := decide (0 < maxRaw ∧ maxRaw < units)
  let rawUnits := if capped then maxRaw else units
  let rawFloat ← require (Double.ofInt rawUnits) SizingError.overflow
  let price ← require (match quote.assetPriceUsd.float with
    | .ok (.finite price) => some price
    | _ => none) SizingError.overflow
  let quoteId := ((finalQuote.mapping.get "quote_id").orElse (.leaf (.text ""))).str
  return {
    rawUnits := rawUnits
    capped := capped
    executionNotionalUsd := rawFloat / 10 ^ decimals.toNat * price
    quoteId := if quoteId = "" then none else some quoteId }

/-! ## The calculation -/

def decisionOf (c : SizingRecord) (canonical : CanonicalSize) (utilization : ℚ)
    (binding : Option QuoteBinding) : QuotedDecision :=
  let rawCap := if binding.any QuoteBinding.capped then ["max_borrow_amount_raw"] else []
  { sizingId := fingerprint floatText c canonical.size canonical.constraints
    approvedNotionalUsd := pyRound 8 canonical.size
    approvedBorrowAmountRaw := binding.map QuoteBinding.rawUnits
    constraintsApplied := canonical.constraints ++ rawCap
    downsizeReasons := canonical.downsizeReasons ++ rawCap
    capitalUtilization := pyRound 8 utilization
    executionNotionalUsd := binding.map fun b => pyRound 8 b.executionNotionalUsd
    quoteId := binding.bind QuoteBinding.quoteId }

def bindOptional (c : SizingRecord) (size : ℚ) :
    Option PyTree → Except SizingError (Option QuoteBinding)
  | none => .ok none
  | some quote => (bindQuote floatText c size quote).map some

/-- `calculate_institutional_size`. -/
def calculate (c : SizingRecord) (finalQuote : Option PyTree) : Except SizingError QuotedDecision :=
  match c.validate, c.contract.requestedNotionalUsd with
  | [], .finite requested =>
    let canonical := canonicalSize c.contract requested
    if requested ≤ 0 then .ok (decisionOf floatText c canonical 0 none)
    else (bindOptional floatText c canonical.size finalQuote).map
      (decisionOf floatText c canonical (capitalUtilization c.contract canonical.size))
  | errors, _ =>
    .error (.value ("institutional_sizing_contract_invalid:" ++ ",".intercalate errors))

theorem decision_of_calculate {c : SizingRecord} {finalQuote : Option PyTree} {d : QuotedDecision}
    (h : calculate floatText c finalQuote = .ok d) :
    ∃ requested utilization binding, c.contract.requestedNotionalUsd = .finite requested
      ∧ d = decisionOf floatText c (canonicalSize c.contract requested) utilization binding := by
  unfold calculate at h
  split at h
  · rename_i requested _ hrequested
    dsimp only at h
    split at h
    · cases h
      exact ⟨requested, 0, none, hrequested, rfl⟩
    · obtain ⟨binding, -, rfl⟩ := map_ok_iff.1 h
      exact ⟨requested, _, binding, hrequested, rfl⟩
  · cases h

theorem validate_contract {c : SizingRecord} (h : c.validate = []) : validate c.contract = [] := by
  simp only [SizingRecord.validate, List.append_eq_nil_iff] at h
  simp only [validate, List.append_eq_nil_iff]
  tauto

/-- **Without a quote** the decision is that of the kernel. -/
theorem calculateInstitutionalSize_of_calculate {c : SizingRecord} {d : QuotedDecision}
    (h : calculate floatText c none = .ok d) :
    calculateInstitutionalSize c.contract = .ok
      { approvedNotionalUsd := d.approvedNotionalUsd
        constraintsApplied := d.constraintsApplied
        downsizeReasons := d.downsizeReasons
        capitalUtilization := d.capitalUtilization } := by
  unfold calculate at h
  split at h
  · rename_i requested hvalid hrequested
    have hcontract := validate_contract hvalid
    dsimp only at h
    unfold calculateInstitutionalSize
    rw [hrequested]
    dsimp only
    rw [if_neg (not_not.2 hcontract)]
    by_cases hnonpos : requested ≤ 0
    · rw [if_pos hnonpos] at h ⊢
      cases h
      have hzero : pyRound 8 (0 : ℚ) = 0 := by decide +kernel
      simp only [decisionOf, canonicalSize, if_pos hnonpos, hzero, Option.any_none,
        Bool.false_eq_true, if_false, List.append_nil]
    · rw [if_neg hnonpos] at h ⊢
      obtain ⟨binding, hbinding, rfl⟩ := map_ok_iff.1 h
      cases hbinding
      simp only [decisionOf, canonicalSize, if_neg hnonpos, Option.any_none, Bool.false_eq_true,
        if_false, List.append_nil]
      rfl
  · cases h

theorem contract_of_preimage {c c' : SizingRecord} {size size' : ℚ}
    {constraints constraints' : List String}
    (h : fingerprintPreimage floatText c size constraints
      = fingerprintPreimage floatText c' size' constraints') : c = c' := by
  have hjson := dumps_injective (CanonicalJson.encodeUtf8_injective h)
  have hnodup : ∀ j k l : JsonTree, ([("contract", j), ("approved_notional_usd", k),
      ("constraints_applied", l)].map Prod.fst).Nodup := by
    intro j k l
    simp only [List.map_cons, List.map_nil]
    decide +kernel
  have hfields := record_injective (by simp only [List.map_cons, List.map_nil]) (hnodup _ _ _)
    hjson
  simp only [List.cons.injEq, Prod.mk.injEq, true_and, and_true] at hfields
  exact SizingRecord.toDict_injective hfields.1

end

/-! ## A contract with two quotes -/

def floatOf (x : ℚ) (text : Word) (reads : PyFloat.ofText text.text = some (.finite x)) :
    FloatText := ⟨x, text, reads⟩

def zeroFloat : FloatText :=
  floatOf 0 ⟨"0.0".toList, List.cons_ne_nil _ _, wordChars rfl⟩ (by decide +kernel)

def oneFloat : FloatText :=
  floatOf 1 ⟨"1.0".toList, List.cons_ne_nil _ _, wordChars rfl⟩ (by decide +kernel)

def sampleContract : SizingRecord where
  contractVersion := "institutional_sizing_v1"
  strategyFamily := "dex_arb"
  capitalSource := "wallet"
  requestedNotionalUsd := ⟨.finite 1, oneFloat.text, oneFloat.reads⟩
  targetNotionalUsd := none
  baseBorrowAmountWei := 0
  maxBorrowAmountWei := 0
  liquidity := ⟨none, none, none, zeroFloat, zeroFloat, zeroFloat, none, none⟩
  execution := ⟨none, none, zeroFloat, oneFloat, oneFloat, oneFloat, oneFloat, false⟩
  economics := ⟨oneFloat, some oneFloat, zeroFloat, zeroFloat, zeroFloat, zeroFloat, zeroFloat,
    zeroFloat, zeroFloat, some oneFloat, some zeroFloat⟩
  capital := ⟨"capital_engine_state", "ok", "fresh", "", some oneFloat, some oneFloat, none, none,
    zeroFloat, false, none, zeroFloat, zeroFloat, zeroFloat, none⟩
  wealthGoal := ⟨zeroFloat, zeroFloat, zeroFloat, oneFloat, zeroFloat, zeroFloat, 30, "active",
    "balanced", oneFloat⟩
  governance := ⟨true, "admitted", "dex_arb", "wallet", false, true, false, false, false, false,
    oneFloat, oneFloat⟩
  settlement := ⟨false, "", "", "", "", none, none⟩
  metadata := .object []

def sampleText (_ : ℚ) : Word := ⟨"0.7".toList, List.cons_ne_nil _ _, wordChars rfl⟩

end SovereignCapital.Sizing
