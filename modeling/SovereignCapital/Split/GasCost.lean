import SovereignCapital.Split.Optimal

/-! # The gas cost of a split

`_split_cost_totals` charges the shared overhead once, the gas of each route beyond it, the highest
gas price and the highest conversion of the parts. What `_normalize_candidate` checks of a candidate
makes that cost grow with every part, and cover what was observed for a single one.

* `split_cost_grows` : monotone, conservative, and independent of the order.
-/

namespace SovereignCapital.Split

/-! ## Costs of a part -/

def Normalized (part : Candidate) : Prop := ∃ raw chainId, normalizeCandidate raw chainId = some part

/-- The gas of a route beyond the shared overhead. -/
def routeUnits (row : Candidate) : ℤ :=
  max 0 (row.gasUnitsEstimate - sharedExecutionOverheadGasUnits)

structure CostsOk (part : Candidate) : Prop where
  price_pos : 0 < part.gasPriceEffectiveWei
  l1_nonneg : 0 ≤ part.baseL1FeeWei
  conversion_pos : 0 < part.gasTokenPerNativeWei
  /-- the gas at the rounded price is worth at least what was observed -/
  covered : (part.gasCostProfitTokenWei : ℚ)
    ≤ (part.gasUnitsEstimate * part.gasPriceEffectiveWei + part.baseL1FeeWei : ℤ)
      * part.gasTokenPerNativeWei

theorem le_mul_priceUp {cost units : ℤ} (hunits : 0 < units) :
    cost ≤ units * max 1 ((cost + units - 1) / units) := by
  have hdiv := Int.lt_ediv_add_one_mul_self (cost + units - 1) hunits
  have hup : cost ≤ units * ((cost + units - 1) / units) := by
    rw [add_mul, one_mul, mul_comm] at hdiv
    omega
  exact hup.trans (mul_le_mul_of_nonneg_left (le_max_right _ _) hunits.le)

theorem Normalized.costsOk {part : Candidate} (h : Normalized part) : CostsOk part := by
  obtain ⟨raw, chainId, hpart⟩ := h
  obtain ⟨values, -, hpart⟩ := Option.bind_eq_some_iff.1 hpart
  by_cases hadmissible : raw.routeId ≠ "" ∧ CostsAdmissible raw values chainId
  · rw [dif_pos hadmissible] at hpart
    obtain ⟨identity, -, rfl⟩ := Option.map_eq_some_iff.1 hpart
    have hcosts := hadmissible.2
    have hunits : 0 < values.gasUnits := lt_trans (by decide) hcosts.units
    have hnative : (0 : ℚ) < values.nativeCost := by exact_mod_cast hcosts.native_pos
    have htoken : (0 : ℚ) < values.gasToken := by exact_mod_cast hcosts.gasToken_pos
    refine ⟨lt_of_lt_of_le one_pos (le_max_left _ _), hcosts.l1_nonneg, div_pos htoken hnative, ?_⟩
    have hle : values.nativeCost ≤ values.gasUnits
        * max 1 ((values.l2Gas + values.gasUnits - 1) / values.gasUnits) + values.l1Fee := by
      rw [hcosts.native_eq]
      exact add_le_add_left (le_mul_priceUp hunits) _
    calc (values.gasToken : ℚ) = values.nativeCost * (values.gasToken / values.nativeCost) := by
          field_simp
      _ ≤ _ := mul_le_mul_of_nonneg_right (by exact_mod_cast hle) (div_pos htoken hnative).le
  · rw [dif_neg hadmissible] at hpart
    cases hpart

/-! ## Sums and maxima -/

theorem total_nonneg_of {quantity : Candidate → ℤ} {parts : List Candidate}
    (h : ∀ row ∈ parts, 0 ≤ quantity row) : 0 ≤ total quantity parts := by
  apply List.sum_nonneg
  intro value hvalue
  obtain ⟨row, hrow, rfl⟩ := List.mem_map.1 hvalue
  exact h row hrow

section Greatest

variable {α : Type} [LinearOrder α] [Zero α] {quantity : Candidate → α} {parts : List Candidate}

theorem le_greatest {row : Candidate} (h : row ∈ parts) : quantity row ≤ greatest quantity parts := by
  have hmem := List.mem_map_of_mem (f := quantity) h
  cases hmax : (parts.map quantity).max? with
  | none =>
    rw [List.max?_eq_none_iff] at hmax
    rw [hmax] at hmem
    cases hmem
  | some m =>
    rw [greatest, hmax, Option.getD_some]
    exact (List.max?_eq_some_iff.1 hmax).2 _ hmem

/-- The greatest of no values is zero, that of some values is one of them. -/
theorem greatest_cases (quantity : Candidate → α) (parts : List Candidate) : (parts = [] ∧ greatest quantity parts = 0)
    ∨ ∃ row ∈ parts, greatest quantity parts = quantity row := by
  cases hmax : (parts.map quantity).max? with
  | none =>
    rw [List.max?_eq_none_iff, List.map_eq_nil_iff] at hmax
    exact Or.inl ⟨hmax, by rw [hmax]; rfl⟩
  | some m =>
    obtain ⟨row, hrow, hm⟩ := List.mem_map.1 (List.max?_eq_some_iff.1 hmax).1
    exact Or.inr ⟨row, hrow, by rw [greatest, hmax, Option.getD_some, hm]⟩

theorem greatest_nonneg (h : ∀ row ∈ parts, 0 ≤ quantity row) : 0 ≤ greatest quantity parts := by
  rcases greatest_cases quantity parts with ⟨-, hzero⟩ | ⟨row, hrow, hgreatest⟩
  · exact hzero.ge
  · exact hgreatest ▸ h row hrow

theorem greatest_le_cons (part : Candidate) (h : 0 ≤ quantity part) :
    greatest quantity parts ≤ greatest quantity (part :: parts) := by
  rcases greatest_cases quantity parts with ⟨-, hzero⟩ | ⟨row, hrow, hgreatest⟩
  · rw [hzero]
    exact h.trans (le_greatest List.mem_cons_self)
  · rw [hgreatest]
    exact le_greatest (List.mem_cons_of_mem _ hrow)

theorem greatest_singleton (part : Candidate) : greatest quantity [part] = quantity part := rfl

end Greatest

/-! ## Costs of a split -/

theorem add_sub_one_ediv (n : ℤ) {d : ℤ} (hd : 0 < d) : (n + d - 1) / d = ⌈(n : ℚ) / d⌉ := by
  have hlow := Int.ediv_mul_le (n + d - 1) hd.ne'
  have hhigh := Int.lt_ediv_add_one_mul_self (n + d - 1) hd
  generalize (n + d - 1) / d = q at hlow hhigh
  have hpos : (0 : ℚ) < d := by exact_mod_cast hd
  have hbelow : (q - 1) * d < n := by
    rw [sub_mul, one_mul]
    omega
  have habove : n ≤ q * d := by
    rw [add_mul, one_mul] at hhigh
    omega
  rw [eq_comm, Int.ceil_eq_iff]
  constructor
  · rw [lt_div_iff₀ hpos]
    exact_mod_cast hbelow
  · rw [div_le_iff₀ hpos]
    exact_mod_cast habove

theorem gasTokenCost_eq (parts : List Candidate) :
    (splitCostTotals parts).gasTokenCost
      = ⌈((splitCostTotals parts).nativeCost : ℚ) * greatest Candidate.gasTokenPerNativeWei parts⌉ := by
  have hceil : ∀ (cost : ℤ) (conversion : ℚ),
      (cost * conversion.num + conversion.den - 1) / conversion.den
        = ⌈(cost : ℚ) * conversion⌉ := by
    intro cost conversion
    rw [add_sub_one_ediv _ (by exact_mod_cast conversion.den_pos), Int.cast_mul, mul_div_assoc,
      Int.cast_natCast, Rat.num_div_den]
  exact hceil _ _

/-- One cost is at most another: in gas, in the native token and in the profit token. -/
structure CostLe (a b : CostTotals) : Prop where
  l2Units : a.l2Units ≤ b.l2Units
  l2Cost : a.l2Cost ≤ b.l2Cost
  l1Cost : a.l1Cost ≤ b.l1Cost
  nativeCost : a.nativeCost ≤ b.nativeCost
  gasTokenCost : a.gasTokenCost ≤ b.gasTokenCost

theorem l2Units_eq (parts : List Candidate) :
    (splitCostTotals parts).l2Units = sharedExecutionOverheadGasUnits + total routeUnits parts
      + max 0 ((parts.length : ℤ) - 1) * extraSplitRouteGasUnits := rfl

theorem nativeCost_eq (parts : List Candidate) :
    (splitCostTotals parts).nativeCost
      = (splitCostTotals parts).l2Units * greatest Candidate.gasPriceEffectiveWei parts
        + total Candidate.baseL1FeeWei parts := rfl

theorem l2Units_nonneg (parts : List Candidate) : 0 ≤ (splitCostTotals parts).l2Units := by
  have hroutes : 0 ≤ total routeUnits parts := total_nonneg_of fun row _ => le_max_left _ _
  have hextra : 0 ≤ max 0 ((parts.length : ℤ) - 1) * extraSplitRouteGasUnits :=
    mul_nonneg (le_max_left _ _) (by decide)
  rw [l2Units_eq, sharedExecutionOverheadGasUnits]
  omega

theorem l2Units_le_cons (part : Candidate) (parts : List Candidate) :
    (splitCostTotals parts).l2Units ≤ (splitCostTotals (part :: parts)).l2Units := by
  have hroute : 0 ≤ routeUnits part := le_max_left _ _
  have hextra : max 0 ((parts.length : ℤ) - 1) * extraSplitRouteGasUnits
      ≤ max 0 (((part :: parts).length : ℤ) - 1) * extraSplitRouteGasUnits := by
    apply mul_le_mul_of_nonneg_right _ (by decide)
    rw [List.length_cons]
    push_cast
    omega
  rw [l2Units_eq, l2Units_eq, total_cons]
  omega

/-- **One more part.** -/
theorem cost_le_cons {part : Candidate} {parts : List Candidate}
    (h : ∀ row ∈ part :: parts, CostsOk row) :
    CostLe (splitCostTotals parts) (splitCostTotals (part :: parts)) := by
  have hpart := h part List.mem_cons_self
  have hparts : ∀ row ∈ parts, CostsOk row := fun row hrow => h row (List.mem_cons_of_mem _ hrow)
  have hunits := l2Units_le_cons part parts
  have hprice : greatest Candidate.gasPriceEffectiveWei parts
      ≤ greatest Candidate.gasPriceEffectiveWei (part :: parts) :=
    greatest_le_cons part hpart.price_pos.le
  have hprice_nonneg : 0 ≤ greatest Candidate.gasPriceEffectiveWei parts :=
    greatest_nonneg fun row hrow => (hparts row hrow).price_pos.le
  have hl2 : (splitCostTotals parts).l2Cost ≤ (splitCostTotals (part :: parts)).l2Cost :=
    mul_le_mul hunits hprice hprice_nonneg (l2Units_nonneg _)
  have hl2_nonneg : 0 ≤ (splitCostTotals parts).l2Cost :=
    mul_nonneg (l2Units_nonneg _) hprice_nonneg
  have hl1 : (splitCostTotals parts).l1Cost ≤ (splitCostTotals (part :: parts)).l1Cost := by
    show total Candidate.baseL1FeeWei parts ≤ total Candidate.baseL1FeeWei (part :: parts)
    rw [total_cons]
    have hfee := hpart.l1_nonneg
    omega
  have hl1_nonneg : 0 ≤ (splitCostTotals parts).l1Cost :=
    total_nonneg_of fun row hrow => (hparts row hrow).l1_nonneg
  have hnative : (splitCostTotals parts).nativeCost ≤ (splitCostTotals (part :: parts)).nativeCost :=
    add_le_add hl2 hl1
  have hnative_nonneg : 0 ≤ (splitCostTotals parts).nativeCost := add_nonneg hl2_nonneg hl1_nonneg
  refine ⟨hunits, hl2, hl1, hnative, ?_⟩
  have hconversion : greatest Candidate.gasTokenPerNativeWei parts
      ≤ greatest Candidate.gasTokenPerNativeWei (part :: parts) :=
    greatest_le_cons part hpart.conversion_pos.le
  have hconversion_nonneg : 0 ≤ greatest Candidate.gasTokenPerNativeWei parts :=
    greatest_nonneg fun row hrow => (hparts row hrow).conversion_pos.le
  rw [gasTokenCost_eq, gasTokenCost_eq]
  apply Int.ceil_mono
  have hfrom : (0 : ℚ) ≤ (splitCostTotals (part :: parts)).nativeCost := by
    exact_mod_cast hnative_nonneg.trans hnative
  exact mul_le_mul (by exact_mod_cast hnative) hconversion hconversion_nonneg hfrom

theorem observed_le_cost {part : Candidate} (h : CostsOk part) :
    part.gasCostProfitTokenWei ≤ (splitCostTotals [part]).gasTokenCost := by
  have hnative : (splitCostTotals [part]).nativeCost
      = (sharedExecutionOverheadGasUnits + routeUnits part) * part.gasPriceEffectiveWei
        + part.baseL1FeeWei := by
    have hnone : ∀ quantity, total quantity [] = 0 := fun _ => rfl
    have hextra : max 0 ((([part] : List Candidate).length : ℤ) - 1) = 0 := rfl
    rw [nativeCost_eq, l2Units_eq, total_cons, total_cons, hnone, hnone, hextra, zero_mul, add_zero,
      add_zero, add_zero, greatest_singleton]
  have hunits : part.gasUnitsEstimate ≤ sharedExecutionOverheadGasUnits + routeUnits part := by
    unfold routeUnits
    omega
  have hle : part.gasUnitsEstimate * part.gasPriceEffectiveWei + part.baseL1FeeWei
      ≤ (splitCostTotals [part]).nativeCost := by
    rw [hnative]
    exact add_le_add_left (mul_le_mul_of_nonneg_right hunits h.price_pos.le) _
  have hcost : (part.gasCostProfitTokenWei : ℚ)
      ≤ (splitCostTotals [part]).nativeCost * part.gasTokenPerNativeWei :=
    h.covered.trans (mul_le_mul_of_nonneg_right (by exact_mod_cast hle) h.conversion_pos.le)
  rw [gasTokenCost_eq]
  exact_mod_cast hcost.trans (Int.le_ceil _)

theorem splitCostTotals_perm {parts parts' : List Candidate} (h : parts.Perm parts') :
    splitCostTotals parts = splitCostTotals parts' := by
  unfold splitCostTotals
  rw [h.length_eq, greatest_perm Candidate.gasPriceEffectiveWei h,
    greatest_perm Candidate.gasTokenPerNativeWei h]
  simp only [fun quantity => total_perm quantity h]

/-- **Gas costs of splits.** A split with one more part costs at least what it cost without, a
single part at least what was observed for its route, and the cost of a split does not depend on
the order of its parts. -/
theorem split_cost_grows {part : Candidate} {parts : List Candidate}
    (h : ∀ row ∈ part :: parts, Normalized row) :
    CostLe (splitCostTotals parts) (splitCostTotals (part :: parts))
      ∧ part.gasCostProfitTokenWei ≤ (splitCostTotals [part]).gasTokenCost
      ∧ ∀ parts' : List Candidate, parts'.Perm (part :: parts) →
        splitCostTotals parts' = splitCostTotals (part :: parts) := by
  have hcosts : ∀ row ∈ part :: parts, CostsOk row := fun row hrow => (h row hrow).costsOk
  exact ⟨cost_le_cons hcosts, observed_le_cost (hcosts part List.mem_cons_self),
    fun parts' hperm => splitCostTotals_perm hperm⟩

def curveCycle (routeId venue1 venue2 : String) : RawCandidate where
  routeId := routeId
  amountIn := some 1000
  grossProfitWei := some 90
  flashloanFeeWei := some 1
  gasCostProfitTokenWei := some 7
  gasCostWei := some 2000000
  gasCostL2Wei := some 1900000
  gasUnitsEstimate := some 450000
  baseL1FeeWei := some 100000
  baseL1FeeStatus := "exact_calldata"
  repaymentValid := true
  revalidated := false
  authoritative := false
  valid := true
  legs :=
    [⟨"curve", venue1, "usdc", "dai", some 1000, "0x01", ""⟩,
      ⟨"curve", venue2, "dai", "usdc", some 1040, "0x01", ""⟩]

theorem split_cost_grows_two : ∃ first second,
    normalizeCandidate (curveCycle "a" "p" "q") 8453 = some first
      ∧ normalizeCandidate (curveCycle "b" "r" "s") 8453 = some second
      ∧ CostLe (splitCostTotals [first]) (splitCostTotals [second, first]) := by
  have hfirst : (normalizeCandidate (curveCycle "a" "p" "q") 8453).isSome = true := by decide +kernel
  have hsecond : (normalizeCandidate (curveCycle "b" "r" "s") 8453).isSome = true := by
    decide +kernel
  obtain ⟨first, hfirst⟩ := Option.isSome_iff_exists.1 hfirst
  obtain ⟨second, hsecond⟩ := Option.isSome_iff_exists.1 hsecond
  refine ⟨first, second, hfirst, hsecond, (split_cost_grows ?_).1⟩
  intro row hrow
  rcases List.mem_cons.1 hrow with rfl | hrow
  · exact ⟨_, _, hsecond⟩
  · rw [List.mem_singleton.1 hrow]
    exact ⟨_, _, hfirst⟩

end SovereignCapital.Split
