import SovereignCapital.Profitability.Revalidate

/-! # Units of a revalidated profit

An authoritative state has the amounts of the opportunity and a profit after costs in the token that
is borrowed. The gas cost in that token is one of three: given, inherited, or the native one where
the token is the wrapped native token.
-/

namespace SovereignCapital.Profitability

open Execute Guarded PyRaise

/-! ## The gas cost in the borrowed token -/

/-- A conversion in the metadata that is for the same token, amounts and native gas cost. -/
structure Inherited (opp : RoutedOpportunity) (amountIn amountOut gasCost gas : ℤ) : Prop where
  available :
    isTrue ((opp.nested "profitability").get "gas_cost_conversion_available") = true
  token : normalToken ((opp.nested "profitability").get "gas_cost_profit_token_address")
    = opp.profitToken
  nonneg : 0 ≤ gas
  amountIn_eq : intOrZero ((opp.nested "profitability").get "amount_in_wei") = some amountIn
  amountOut_eq : intOrZero ((opp.nested "profitability").get "amount_out_wei") = some amountOut
  gasCost_eq : intOrZero ((opp.nested "profitability").get "gas_cost_wei") = some gasCost
  gas_eq : opp.inheritedGas = some gas

variable {opp : RoutedOpportunity} {amountIn amountOut gasCost gas : ℤ} {call : RevalidationCall}
  {f : Figures}

theorem inheritedConversion_eq_some_iff :
    opp.inheritedConversion amountIn amountOut gasCost = some gas
      ↔ Inherited opp amountIn amountOut gasCost gas := by
  unfold RoutedOpportunity.inheritedConversion
  simp only [Option.filter_eq_some_iff, Bool.and_eq_true, decide_eq_true_eq]
  constructor
  · rintro ⟨hgas, ⟨⟨⟨⟨havailable, htoken⟩, hnonneg⟩, hin⟩, hout⟩, hcost⟩
    exact ⟨havailable, htoken, hnonneg, hin, hout, hcost, hgas⟩
  · rintro ⟨havailable, htoken, hnonneg, hin, hout, hcost, hgas⟩
    exact ⟨hgas, ⟨⟨⟨⟨havailable, htoken⟩, hnonneg⟩, hin⟩, hout⟩, hcost⟩

inductive GasInBorrowToken (opp : RoutedOpportunity) (call : RevalidationCall)
    (amountIn amountOut gasCost : ℤ) : ℤ → Prop
  | explicit {v : PyTree} {gas : ℤ} (given : call.gasCostInProfitTokenWei = some v)
      (reads : v.int = .ok gas) (nonneg : 0 ≤ gas) :
      GasInBorrowToken opp call amountIn amountOut gasCost gas
  | inherited {gas : ℤ} (omitted : call.gasCostInProfitTokenWei = none)
      (same : Inherited opp amountIn amountOut gasCost gas) :
      GasInBorrowToken opp call amountIn amountOut gasCost gas
  | native (omitted : call.gasCostInProfitTokenWei = none)
      (alone : ∀ gas, ¬ Inherited opp amountIn amountOut gasCost gas)
      (known : opp.profitToken ≠ "") (wrapped : opp.profitToken = normalToken call.config.weth) :
      GasInBorrowToken opp call amountIn amountOut gasCost gasCost

theorem nativeGasUnitsMatch_iff {config : Config} :
    opp.nativeGasUnitsMatch config = true
      ↔ opp.profitToken ≠ "" ∧ opp.profitToken = normalToken config.weth := by
  unfold RoutedOpportunity.nativeGasUnitsMatch
  simp only [Bool.and_eq_true, bne_iff_ne, beq_iff_eq]
  constructor
  · rintro ⟨⟨hknown, -⟩, heq⟩
    exact ⟨hknown, heq⟩
  · rintro ⟨hknown, heq⟩
    refine ⟨⟨hknown, ?_⟩, heq⟩
    rw [← heq]
    exact hknown

theorem explicitConversion_eq_some_iff {v : PyTree} :
    explicitConversion v = some gas ↔ v.int = .ok gas ∧ 0 ≤ gas := by
  unfold explicitConversion
  rw [Option.filter_eq_some_iff, toOption_eq_some, decide_eq_true_eq]

/-- **The gas cost that is resolved** is one of the three. -/
theorem convertedGas_eq_some_iff :
    opp.convertedGas call amountIn amountOut gasCost = some gas
      ↔ GasInBorrowToken opp call amountIn amountOut gasCost gas := by
  unfold RoutedOpportunity.convertedGas
  cases hgiven : call.gasCostInProfitTokenWei with
  | some v =>
    dsimp only
    rw [explicitConversion_eq_some_iff]
    constructor
    · rintro ⟨hreads, hnonneg⟩
      exact .explicit hgiven hreads hnonneg
    · intro h
      cases h with
      | explicit given reads nonneg =>
        cases hgiven.symm.trans given
        exact ⟨reads, nonneg⟩
      | inherited omitted same => cases hgiven.symm.trans omitted
      | native omitted alone known wrapped => cases hgiven.symm.trans omitted
  | none =>
    dsimp only
    cases hinherited : opp.inheritedConversion amountIn amountOut gasCost with
    | some gas' =>
      have hsame := inheritedConversion_eq_some_iff.1 hinherited
      dsimp only
      constructor
      · intro h
        cases h
        exact .inherited hgiven hsame
      · intro h
        cases h with
        | explicit given reads nonneg => cases hgiven.symm.trans given
        | inherited omitted same =>
          rw [← hinherited]
          exact inheritedConversion_eq_some_iff.2 same
        | native omitted alone known wrapped => exact absurd hsame (alone gas')
    | none =>
      have halone : ∀ gas', ¬ Inherited opp amountIn amountOut gasCost gas' := by
        intro gas' hsame
        rw [inheritedConversion_eq_some_iff.2 hsame] at hinherited
        cases hinherited
      dsimp only
      rw [Option.ite_none_right_eq_some, nativeGasUnitsMatch_iff]
      constructor
      · rintro ⟨⟨hknown, hwrapped⟩, heq⟩
        cases heq
        exact .native hgiven halone hknown hwrapped
      · intro h
        cases h with
        | explicit given reads nonneg => cases hgiven.symm.trans given
        | inherited omitted same => exact absurd same (halone gas)
        | native omitted alone known wrapped => exact ⟨⟨known, wrapped⟩, rfl⟩

theorem GasInBorrowToken.nonneg (hgas : 0 ≤ gasCost)
    (h : GasInBorrowToken opp call amountIn amountOut gasCost gas) : 0 ≤ gas := by
  cases h with
  | explicit given reads nonneg => exact nonneg
  | inherited omitted same => exact same.nonneg
  | native omitted alone known wrapped => exact hgas

/-! ## Authority -/

/-- The values a revalidation starts from are those of the opportunity. -/
theorem figures_of_ok {A : FloatArithmetic} (h : figures A opp call = .ok f) :
    f.amountIn = opp.amountInWei ∧ f.amountOut = call.quotedAmountOutWei.getD opp.amountOutWei
      ∧ opp.inferGasCostWei call.gasCostWei = .ok f.gasCost
      ∧ f.converted = opp.convertedGas call f.amountIn f.amountOut f.gasCost
      ∧ f.continuity = opp.nested "profitability_continuity" := by
  obtain ⟨expected, -, h⟩ := bind_ok_iff.1 h
  obtain ⟨gasCost, hgasCost, h⟩ := bind_ok_iff.1 h
  cases h
  exact ⟨rfl, rfl, hgasCost, rfl, rfl⟩

/-- A revalidation writes three items of the metadata. -/
theorem written_other (opp : RoutedOpportunity) (state : ProfitabilityState)
    (safety : Option PyMap) {k : String} (hsafety : k ≠ "safety")
    (hprofitability : k ≠ "profitability") (hunit : k ≠ "unit_econ") :
    PyMap.get (writtenMetadata opp state safety) k = opp.metadata.get k := by
  unfold writtenMetadata PyMap.get
  dsimp only
  rw [get?_put, if_neg hunit, get?_put, if_neg hprofitability]
  cases safety with
  | none => rfl
  | some items => rw [Option.elim_some, get?_put, if_neg hsafety]

theorem valid_of_authoritative {v : Verdict} (h : (stateOf opp call f v).authoritative = true) :
    v.valid = true := by
  simp only [ProfitabilityState.authoritative, stateOf, Bool.and_eq_true] at h
  exact h.1.2

theorem judge_of_valid (h : (judge call f).valid = true) :
    0 < f.amountIn ∧ 0 < f.amountOut ∧ 0 < f.gasCost ∧ ∃ converted, f.converted = some converted
      ∧ (check call f converted).ok = true
      ∧ (judge call f).profitAfterCosts = some (check call f converted).profitAfterCostsWei
      ∧ (judge call f).flashloanFee = (check call f converted).flashloanFeeWei
      ∧ (judge call f).gasCost = f.gasCost := by
  unfold judge at h ⊢
  split at h
  · cases h
  · split at h
    · cases h
    · split at h
      · cases h
      · split at h
        · cases h
        · -- only the branch of the check makes a valid verdict
          rename_i hcontinuous hamounts hgas _ converted hconverted
          rw [if_neg hcontinuous, if_neg hamounts, if_neg hgas, hconverted]
          rw [not_or, not_le, not_le] at hamounts
          exact ⟨hamounts.1, hamounts.2, not_le.1 hgas, converted, rfl, h, rfl, rfl, rfl⟩

theorem check_report {amount out minAbs minBps feeBps converted : ℤ}
    (h : (checkProfitAndRepay amount out minAbs minBps feeBps converted).ok = true) :
    (checkProfitAndRepay amount out minAbs minBps feeBps converted).profitAfterCostsWei
        = out - amount - computeFlashloanFee amount feeBps - max 0 converted
      ∧ (checkProfitAndRepay amount out minAbs minBps feeBps converted).flashloanFeeWei
        = computeFlashloanFee amount feeBps := by
  unfold checkProfitAndRepay at h ⊢
  dsimp only at h ⊢
  split at h
  · cases h
  · split at h
    · cases h
    · split at h
      · cases h
      · split at h
        · cases h
        · rename_i hrepays hpositive habs hbps
          rw [if_neg hrepays, if_neg hpositive, if_neg habs, if_neg hbps]
          exact ⟨rfl, rfl⟩

/-- **An authoritative state is sound in its units**: its amounts are those of the opportunity, they
repay the loan with its fee, and its profit is after the fee and the gas in the borrowed token. -/
theorem revalidate_unit_sound {A : FloatArithmetic} {opp opp' : RoutedOpportunity}
    {call : RevalidationCall} {state : ProfitabilityState}
    (h : revalidate A opp call = .ok (state, opp')) (hauthoritative : state.authoritative = true) :
    ∃ gasCost gas fee : ℤ, opp.inferGasCostWei call.gasCostWei = .ok gasCost ∧ 0 < gasCost
      ∧ fee = computeFlashloanFee opp.amountInWei call.feeBps
      ∧ GasInBorrowToken opp call opp.amountInWei
        (call.quotedAmountOutWei.getD opp.amountOutWei) gasCost gas
      ∧ state.amountInWei = opp.amountInWei
      ∧ state.amountOutWei = call.quotedAmountOutWei.getD opp.amountOutWei
      ∧ state.gasCostWei = gasCost ∧ state.gasCostProfitTokenWei = some gas
      ∧ state.flashloanFeeWei = max 0 fee
      ∧ state.amountInWei + fee ≤ state.amountOutWei
      ∧ state.profitAfterCostsWei
        = some (state.amountOutWei - state.amountInWei - fee - gas)
      ∧ Profitable state.amountInWei state.amountOutWei fee gas call.config.minProfitAbs
        call.config.minProfitBps := by
  obtain ⟨f, hf, h⟩ := bind_ok_iff.1 h
  cases h
  obtain ⟨hamountIn, hamountOut, hgasCost, hresolved, -⟩ := figures_of_ok hf
  obtain ⟨hin, hout, hpos, gas, hconverted, hok, hprofit, hfee, hcost⟩ :=
    judge_of_valid (valid_of_authoritative hauthoritative)
  have hgas := convertedGas_eq_some_iff.1 (hresolved.symm.trans hconverted)
  have hnonneg := hgas.nonneg hpos.le
  obtain ⟨hreported, hreportedFee⟩ := check_report hok
  have hprofitable := (checkProfitAndRepay_ok_iff hin).1 hok
  -- the check clamps the gas cost at zero, which it is not below
  rw [max_eq_right hnonneg] at hreported hprofitable
  rw [← hamountIn, ← hamountOut]
  refine ⟨f.gasCost, gas, _, hgasCost, hpos, rfl, hgas, max_eq_right hin.le, max_eq_right hout.le,
    ?_, hconverted, ?_, ?_, ?_, ?_⟩
  · simp only [stateOf, hcost]
    exact max_eq_right hpos.le
  · simp only [stateOf, hfee]
    exact congrArg _ hreportedFee
  · simp only [stateOf, max_eq_right hin.le, max_eq_right hout.le]
    exact hprofitable.1
  · simp only [stateOf, max_eq_right hin.le, max_eq_right hout.le]
    rw [hprofit]
    exact congrArg some hreported
  · simp only [stateOf, max_eq_right hin.le, max_eq_right hout.le]
    exact hprofitable

/-! ## A stablecoin that is borrowed -/

def sampleConfig : Config := ⟨textTree "0xWETH", 5, 200000, 1000, 10⟩

/-- A million units of a stablecoin for one percent more. -/
def stableSample : RoutedOpportunity where
  legs := [⟨textTree "0xUSDC", textTree "1000000", textTree "1020000"⟩]
  minOuts := [textTree "1020000"]
  routeId := textTree "r1"
  expectedProfitRaw := textTree "20000"
  expectedProfitUsd := .leaf .none
  metadata := []

/-- The call with a conversion of a milliether into five thousand units. -/
def stableCall : RevalidationCall :=
  ⟨sampleConfig, "scan", "engine", some (10 ^ 15), none, some (.leaf (.int 5000)), none⟩

/-- The profit is fourteen and a half thousand units. -/
theorem revalidate_unit_sound_stable :
    ∃ state opp', revalidate .exact stableSample stableCall = .ok (state, opp')
      ∧ state.profitAfterCostsWei = some 14500
      ∧ Profitable 1000000 1020000 500 5000 1000 10 := by
  have hstate : ((revalidate .exact stableSample stableCall).toOption.map fun r =>
      (r.1.authoritative, r.1.profitAfterCostsWei, r.1.amountInWei, r.1.amountOutWei,
        r.1.gasCostProfitTokenWei))
      = some (true, some 14500, 1000000, 1020000, some 5000) := by decide +kernel
  obtain ⟨⟨state, opp'⟩, hresult, hfields⟩ := Option.map_eq_some_iff.1 hstate
  simp only [Prod.mk.injEq] at hfields
  obtain ⟨hauthoritative, hprofit, hin, hout, hgas⟩ := hfields
  have hok := toOption_eq_some.1 hresult
  obtain ⟨gasCost, gas, fee, -, -, hfee, -, -, -, -, hgas', -, -, -, hprofitable⟩ :=
    revalidate_unit_sound hok hauthoritative
  rw [hgas] at hgas'
  cases hgas'
  have hfee' : fee = 500 := by rw [hfee]; decide +kernel
  rw [hin, hout, hfee'] at hprofitable
  exact ⟨state, opp', hok, hprofit, hprofitable⟩

end SovereignCapital.Profitability
