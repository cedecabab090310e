import SovereignCapital.Execute.ProfitGate

/-! # The amount an attempt borrows

The multipliers of a decision scale the base amount, and the cap of the configuration bounds the
scaled amount. Both are only reached where the multiplier is not one and the caller passed a cache:
the other attempts borrow the base amount. The sizing is written for an arithmetic; Python's is that
of doubles, the exact one is that of rationals.
-/

namespace SovereignCapital.Execute

open Double Guarded

/-! ## Sizing in an arithmetic -/

/-- The constant, the product and the conversion that the sizing uses. -/
structure Arithmetic where
  tenth : ℚ
  mul : ℚ → ℚ → ℚ
  /-- `float(n)`; nothing on an overflow -/
  ofInt : Int → Option ℚ

namespace Arithmetic

def doubles : Arithmetic := ⟨nearest (1 / 10), Double.mul, Double.ofInt⟩

def exact : Arithmetic := ⟨1 / 10, (· * ·), fun n => some n⟩

def notionalMult (arith : Arithmetic) (size borrow : ℚ) : ℚ :=
  max arith.tenth (arith.mul size borrow)

def targetAmount (arith : Arithmetic) (cap base : Int) (mult : ℚ) : Option Int :=
  (arith.ofInt base).map fun x =>
    let target := max 1 (trunc (arith.mul x mult))
    if 0 < cap then min target cap else target

def sizeOpportunity (arith : Arithmetic) (config : ExecConfig) (answers : Answers)
    (opp : Opportunity) (decision : Option Decision) : Except Halt (Int × Opportunity) := do
  let base ← require opp.amountInBase .raised
  let (size, borrow) := multipliers opp decision
  let mult := arith.notionalMult size borrow
  if mult ≠ 1 ∧ 0 < base then
    let target ← require (arith.targetAmount config.borrowCap base mult) .raised
    if answers.cache then
      let quoted ← requoteOpportunity answers.quote opp target
      let opp ← require quoted (.stopped "requote_failed")
      .ok (target, opp)
    else .ok (base, opp)
  else .ok (base, opp)

end Arithmetic

/-! ## An attempt up to its calldata -/

structure Built where
  amountIn : Int
  planned : Opportunity
  observed : FeeObservation
  maxFee : Int
  prio : Int
  call : Option ExecuteCall

/-- `try_execute_opportunity` up to the calldata. -/
def buildUp (arith : Arithmetic) (config : ExecConfig) (answers : Answers) (opp : Opportunity)
    (decision : Option Decision) (forceDryRun : Bool) : Except Halt Built := do
  let dryRun := config.dryRun || forceDryRun
  ensure (¬ (1 ≤ config.maxSubmitPerBlock ∧ answers.lastSubmittedBlock = answers.currentBlock))
    (.stopped "throttled_one_tx_per_block")
  let (amountIn, opp) ← arith.sizeOpportunity config answers opp decision
  let opp ← applyDecisionPlan decision opp
  ensure (0 < amountIn ∧ 0 < amountOut opp) (.stopped "invalid_amounts")
  ensure (dryRun = true ∨ answers.ethAccount = true ∨ config.executorAddress = "")
    (.stopped "missing_eth_account_dependency")
  let observed ← answers.feeObservation
  ensure (observed.feeBps.isSome ∨ dryRun = true ∨ observed.reason = "provider_address_missing")
    (.stopped "flashloan_fee_unavailable")
  answers.profitabilityGate
  let (maxFee, prio) ← answers.suggestGas
  let call ← prepareCalldata config answers opp (providerHint config decision) amountIn
  .ok ⟨amountIn, opp, observed, maxFee, prio, call⟩

/-! ## The amount -/

/-- `max(0.10, size_mult * borrow_mult)`, exactly. -/
def scale (opp : Opportunity) (decision : Option Decision) : ℚ :=
  max (1 / 10) ((multipliers opp decision).1 * (multipliers opp decision).2)

structure WithinSize (config : ExecConfig) (opp : Opportunity) (decision : Option Decision)
    (amount : Int) : Prop where
  cap : 0 < config.borrowCap → amount ≤ config.borrowCap
  scaled : ∀ base, opp.amountInBase = some base →
    amount ≤ max 1 ⌊(base : ℚ) * scale opp decision⌋

def Rescaled (answers : Answers) (opp : Opportunity) (decision : Option Decision) : Prop :=
  answers.cache = true ∧ scale opp decision ≠ 1

/-- The base amount itself is under the cap and the multipliers. -/
def BaseFits (config : ExecConfig) (opp : Opportunity) (decision : Option Decision) : Prop :=
  ∀ base, opp.amountInBase = some base →
    (0 < config.borrowCap → base ≤ config.borrowCap) ∧ (1 ≤ scale opp decision ∨ base = 1)

theorem scale_pos (opp : Opportunity) (decision : Option Decision) : 0 < scale opp decision :=
  lt_of_lt_of_le (by norm_num) (le_max_left _ _)

/-- `int` of what is not negative rounds down. -/
theorem trunc_of_nonneg {x : ℚ} (h : 0 ≤ x) : trunc x = ⌊x⌋ := if_pos h

theorem amount_of_sizeOpportunity {config : ExecConfig} {answers : Answers}
    {opp sized : Opportunity} {decision : Option Decision} {amountIn : Int}
    (h : Arithmetic.exact.sizeOpportunity config answers opp decision = .ok (amountIn, sized))
    (hpos : 0 < amountIn) :
    ∃ base, opp.amountInBase = some base ∧ 0 < base
      ∧ ((Rescaled answers opp decision
          ∧ amountIn = if 0 < config.borrowCap
            then min (max 1 ⌊(base : ℚ) * scale opp decision⌋) config.borrowCap
            else max 1 ⌊(base : ℚ) * scale opp decision⌋)
        ∨ (¬ Rescaled answers opp decision ∧ amountIn = base)) := by
  simp only [Arithmetic.sizeOpportunity, bind_ok_iff, require_eq_ok] at h
  obtain ⟨base, hbase, h⟩ := h
  have hmult : Arithmetic.exact.notionalMult (multipliers opp decision).1
      (multipliers opp decision).2 = scale opp decision := rfl
  rw [hmult] at h
  refine ⟨base, hbase, ?_⟩
  by_cases hsize : scale opp decision ≠ 1 ∧ 0 < base
  · obtain ⟨hne, hbasePos⟩ := hsize
    rw [if_pos ⟨hne, hbasePos⟩] at h
    simp only [bind_ok_iff, require_eq_ok] at h
    obtain ⟨target, htarget, h⟩ := h
    refine ⟨hbasePos, ?_⟩
    cases hcache : answers.cache with
    | true =>
      simp only [hcache, if_true, bind_ok_iff, require_eq_ok, Except.ok.injEq, Prod.mk.injEq] at h
      obtain ⟨_, -, _, -, rfl, -⟩ := h
      refine .inl ⟨⟨hcache, hne⟩, ?_⟩
      have hnonneg : 0 ≤ (base : ℚ) * scale opp decision :=
        mul_nonneg (by exact_mod_cast hbasePos.le) (scale_pos _ _).le
      have htrunc := trunc_of_nonneg hnonneg
      cases htarget
      show (if 0 < config.borrowCap then min (max 1 (trunc ((base : ℚ) * scale opp decision)))
        config.borrowCap else max 1 (trunc ((base : ℚ) * scale opp decision))) = _
      rw [htrunc]
    | false =>
      simp only [hcache, Bool.false_eq_true, if_false, Except.ok.injEq, Prod.mk.injEq] at h
      exact .inr ⟨fun hscaled => absurd (hcache.symm.trans hscaled.1) Bool.false_ne_true, h.1.symm⟩
  · rw [if_neg hsize] at h
    obtain ⟨rfl, -⟩ := Prod.mk.inj (Except.ok.inj h)
    exact ⟨hpos, .inr ⟨fun hscaled => hsize ⟨hscaled.2, hpos⟩, rfl⟩⟩

theorem buildUp_spec {arith : Arithmetic} {config : ExecConfig} {answers : Answers}
    {opp : Opportunity} {decision : Option Decision} {forceDryRun : Bool} {b : Built}
    {call : ExecuteCall} (h : buildUp arith config answers opp decision forceDryRun = .ok b)
    (hcall : b.call = some call) :
    (∃ sized, arith.sizeOpportunity config answers opp decision = .ok (b.amountIn, sized))
      ∧ 0 < b.amountIn ∧ (call.amountBorrow.val : Int) = b.amountIn := by
  unfold buildUp at h
  simp only [bind_ok_iff, ensure_eq_ok, exists_and_left, exists_const, Prod.exists] at h
  obtain ⟨-, amountIn, sized, hsizing, planned, -, hpositive, -, observed, -, -, _, -, maxFee, prio,
    -, built, hprepare, h⟩ := h
  cases h
  dsimp only at hcall
  rw [hcall] at hprepare
  exact ⟨⟨sized, hsizing⟩, hpositive.1, (prepareCalldata_spec hprepare).1⟩

/-- A base amount is not more than its scaled amount where it is not scaled down, or is one. -/
theorem le_scaled_iff {base : Int} (hbase : 0 < base) (opp : Opportunity)
    (decision : Option Decision) :
    base ≤ max 1 ⌊(base : ℚ) * scale opp decision⌋ ↔ 1 ≤ scale opp decision ∨ base = 1 := by
  have hbase' : (0 : ℚ) < base := by exact_mod_cast hbase
  rw [le_max_iff, Int.le_floor]
  constructor
  · rintro (hone | hle)
    · exact .inr (by omega)
    · refine .inl ?_
      have hle' : (base : ℚ) * 1 ≤ base * scale opp decision := by rwa [mul_one]
      exact le_of_mul_le_mul_left hle' hbase'
  · rintro (hscale | hone)
    · refine .inr ?_
      calc (base : ℚ) = base * 1 := (mul_one _).symm
        _ ≤ base * scale opp decision := mul_le_mul_of_nonneg_left hscale hbase'.le
    · exact .inl hone.le

/-- **The borrowed amount keeps to the cap and to the multipliers** exactly where it is scaled, or
where the base amount keeps to them. -/
theorem withinSize_iff {config : ExecConfig} {answers : Answers} {opp : Opportunity}
    {decision : Option Decision} {forceDryRun : Bool} {b : Built} {call : ExecuteCall}
    (h : buildUp .exact config answers opp decision forceDryRun = .ok b)
    (hcall : b.call = some call) :
    WithinSize config opp decision call.amountBorrow.val
      ↔ Rescaled answers opp decision ∨ BaseFits config opp decision := by
  obtain ⟨⟨sized, hsizing⟩, hpos, hamount⟩ := buildUp_spec h hcall
  obtain ⟨base, hbase, hbasePos, hcases⟩ := amount_of_sizeOpportunity hsizing hpos
  rw [hamount]
  rcases hcases with ⟨hscaled, heq⟩ | ⟨hplain, heq⟩
  · refine ⟨fun _ => .inl hscaled, fun _ => ⟨fun hcap => ?_, fun base' hbase' => ?_⟩⟩
    · rw [heq, if_pos hcap]
      exact min_le_right _ _
    · cases hbase.symm.trans hbase'
      rw [heq]
      split
      · exact min_le_left _ _
      · exact le_refl _
  · rw [heq]
    constructor
    · intro hwithin
      refine .inr fun base' hbase' => ?_
      cases hbase.symm.trans hbase'
      exact ⟨hwithin.cap, (le_scaled_iff hbasePos opp decision).1 (hwithin.scaled base hbase)⟩
    · rintro (hscaled | hfits)
      · exact absurd hscaled hplain
      · refine ⟨(hfits base hbase).1, fun base' hbase' => ?_⟩
        cases hbase.symm.trans hbase'
        exact (le_scaled_iff hbasePos opp decision).2 (hfits base hbase).2

/-! ## Attempts without a cache or with a multiplier of one -/

def plainOpportunity : Opportunity := { sampleOpportunity with minOuts := ["900000"] }

/-- The same with a decision of half its size. -/
def halvedOpportunity : Opportunity := { plainOpportunity with brain := ⟨some (1 / 2), some 1⟩ }

/-- At its full size and without a cap the route is borrowed as it was scanned. -/
theorem withinSize_plain : ∃ b call,
    buildUp .exact sampleConfig sampleAnswers plainOpportunity none false = .ok b
      ∧ b.call = some call
      ∧ WithinSize sampleConfig plainOpportunity none call.amountBorrow.val := by
  have hbuilt : ((buildUp .exact sampleConfig sampleAnswers plainOpportunity none
      false).toOption.bind Built.call).isSome = true := by decide +kernel
  obtain ⟨call, hcall⟩ := Option.isSome_iff_exists.1 hbuilt
  obtain ⟨b, hb, hbcall⟩ := Option.bind_eq_some_iff.1 hcall
  refine ⟨b, call, toOption_eq_some.1 hb, hbcall, ?_⟩
  refine (withinSize_iff (toOption_eq_some.1 hb) hbcall).2 (.inr fun base hbase => ?_)
  have hscale : scale plainOpportunity none = 1 := by decide +kernel
  exact ⟨fun hcap => absurd hcap (by decide +kernel), .inl hscale.ge⟩

/-- **A decision to halve the size is executed at full size** when there is no cache, and a base
amount over the cap is borrowed when there is nothing to scale. -/
theorem not_withinSize : (∃ b call,
    buildUp .exact sampleConfig { sampleAnswers with cache := false } halvedOpportunity none false
        = .ok b
      ∧ b.call = some call
      ∧ ¬ WithinSize sampleConfig halvedOpportunity none call.amountBorrow.val)
    ∧ ∃ b call,
      buildUp .exact { sampleConfig with maxBorrowAmount := "500000" } sampleAnswers
          plainOpportunity none false = .ok b
        ∧ b.call = some call
        ∧ ¬ WithinSize { sampleConfig with maxBorrowAmount := "500000" } plainOpportunity none
          call.amountBorrow.val := by
  constructor
  · have hbuilt : ((buildUp .exact sampleConfig { sampleAnswers with cache := false }
        halvedOpportunity none false).toOption.bind Built.call).map
          (fun call => call.amountBorrow.val) = some 1000000 := by decide +kernel
    obtain ⟨call, hcall, hamount⟩ := Option.map_eq_some_iff.1 hbuilt
    obtain ⟨b, hb, hbcall⟩ := Option.bind_eq_some_iff.1 hcall
    refine ⟨b, call, toOption_eq_some.1 hb, hbcall, fun hwithin => ?_⟩
    have hscale : scale halvedOpportunity none = 1 / 2 := by decide +kernel
    have hle := hwithin.scaled 1000000 (by decide +kernel)
    rw [hamount, hscale] at hle
    norm_num at hle
  · have hbuilt : ((buildUp .exact { sampleConfig with maxBorrowAmount := "500000" } sampleAnswers
        plainOpportunity none false).toOption.bind Built.call).map
          (fun call => call.amountBorrow.val) = some 1000000 := by decide +kernel
    obtain ⟨call, hcall, hamount⟩ := Option.map_eq_some_iff.1 hbuilt
    obtain ⟨b, hb, hbcall⟩ := Option.bind_eq_some_iff.1 hcall
    refine ⟨b, call, toOption_eq_some.1 hb, hbcall, fun hwithin => ?_⟩
    have hcap : ExecConfig.borrowCap { sampleConfig with maxBorrowAmount := "500000" } = 500000 := by
      decide +kernel
    have hle := hwithin.cap (by rw [hcap]; decide)
    rw [hamount, hcap] at hle
    exact absurd hle (by decide)

end SovereignCapital.Execute
