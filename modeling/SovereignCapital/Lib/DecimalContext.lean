import Mathlib.Data.Int.Log
import SovereignCapital.Lib.Decimal

/-! # The default context of the decimal module

An operation keeps 28 significant digits of its exact value, halves to the even neighbour. An
exponent that is too large raises, one that is too small loses digits.
-/

namespace PyDecimal

open Decimal

/-! ## The context -/

def prec : ℤ := 28

def emax : ℤ := 999999

def etiny : ℤ := -1000026

def keptExponent (x : ℚ) : ℤ := max (Int.log 10 |x| - (prec - 1)) etiny

/-- The number without the digits that are lost. -/
def rounded (x : ℚ) : ℚ := roundHalfEven (x / 10 ^ keptExponent x) * 10 ^ keptExponent x

/-- The result of an operation whose exact value is `x`; nothing on overflow. -/
def fit (x : ℚ) : Option ℚ :=
  if emax < Int.log 10 |rounded x| then none else some (rounded x)

/-! ## Logarithms -/

theorem ten_zpow_pos (k : ℤ) : (0 : ℚ) < 10 ^ k := zpow_pos (by norm_num) k

variable {x : ℚ}

/-- The exponent of the first digit. -/
theorem log_eq_iff (hx : 0 < x) (k : ℤ) :
    Int.log 10 x = k ↔ (10 : ℚ) ^ k ≤ x ∧ x < 10 ^ (k + 1) := by
  have hten : 1 < 10 := by norm_num
  constructor
  · rintro rfl
    exact ⟨by exact_mod_cast Int.zpow_log_le_self hten hx,
      by exact_mod_cast Int.lt_zpow_succ_log_self hten x⟩
  · rintro ⟨hlo, hhi⟩
    have hle : k ≤ Int.log 10 x := (Int.zpow_le_iff_le_log hten hx).1 (by exact_mod_cast hlo)
    have hlt : Int.log 10 x < k + 1 := (Int.lt_zpow_iff_log_lt hten hx).1 (by exact_mod_cast hhi)
    omega

theorem le_log_iff (hx : 0 < x) (k : ℤ) : k ≤ Int.log 10 x ↔ (10 : ℚ) ^ k ≤ x := by
  have h := Int.zpow_le_iff_le_log (b := 10) (by norm_num) hx (x := k)
  exact_mod_cast h.symm

/-- Scaling by a power of ten moves the exponents. -/
theorem log_mul_zpow (hx : 0 < x) (d : ℤ) : Int.log 10 (x * 10 ^ d) = Int.log 10 x + d := by
  have hten := ten_zpow_pos d
  obtain ⟨hlo, hhi⟩ := (log_eq_iff hx _).1 rfl
  rw [log_eq_iff (mul_pos hx hten)]
  constructor
  · rw [zpow_add₀ (by norm_num)]
    exact mul_le_mul_of_nonneg_right hlo hten.le
  · rw [show Int.log 10 x + d + 1 = Int.log 10 x + 1 + d by ring, zpow_add₀ (by norm_num)]
    exact mul_lt_mul_of_pos_right hhi hten

/-! ## Rounding to the context -/

/-- A number that ends in front of the digits that are lost. -/
theorem rounded_of_multiple {j : ℤ} (h : x = j * 10 ^ keptExponent x) : rounded x = x := by
  have hdiv : x / 10 ^ keptExponent x = j := by
    rw [div_eq_iff (ten_zpow_pos _).ne']
    exact h
  rw [rounded, hdiv, roundHalfEven_intCast]
  exact h.symm

/-- A number of at most 28 digits is kept. -/
theorem rounded_coefficient {m e : ℤ} (hm : 0 ≤ m) (hdigits : m ≤ 10 ^ 28) (he : etiny ≤ e) :
    rounded (m * 10 ^ e) = m * 10 ^ e := by
  rcases eq_or_lt_of_le hm with hzero | hpos
  · rw [← hzero, Int.cast_zero, zero_mul]
    exact rounded_of_multiple (j := 0) (by rw [Int.cast_zero, zero_mul])
  have hx : (0 : ℚ) < m * 10 ^ e := mul_pos (by exact_mod_cast hpos) (ten_zpow_pos e)
  rcases eq_or_lt_of_le hdigits with hcarry | hfew
  · have hpow : (m : ℚ) * 10 ^ e = 10 ^ (28 + e) := by
      rw [hcarry, zpow_add₀ (by norm_num)]
      norm_num
    have hlog : Int.log 10 ((m : ℚ) * 10 ^ e) = 28 + e := by
      rw [log_eq_iff hx, hpow]
      exact ⟨le_rfl, zpow_lt_zpow_right₀ (by norm_num) (by omega)⟩
    have hkept : keptExponent ((m : ℚ) * 10 ^ e) = e + 1 := by
      rw [keptExponent, abs_of_pos hx, hlog]
      unfold prec
      omega
    refine rounded_of_multiple (j := 10 ^ 27) ?_
    rw [hkept, hpow, show 28 + e = 27 + (e + 1) by ring, zpow_add₀ (by norm_num)]
    norm_num
  · have hlog : Int.log 10 ((m : ℚ) * 10 ^ e) < 28 + e := by
      rw [← not_le, le_log_iff hx, not_le, zpow_add₀ (by norm_num)]
      refine mul_lt_mul_of_pos_right ?_ (ten_zpow_pos e)
      exact_mod_cast hfew
    have hkept : keptExponent ((m : ℚ) * 10 ^ e) ≤ e := by
      rw [keptExponent, abs_of_pos hx]
      unfold prec
      omega
    obtain ⟨n, hn⟩ := Int.eq_ofNat_of_zero_le (sub_nonneg.2 hkept)
    refine rounded_of_multiple (j := m * 10 ^ n) ?_
    push_cast
    rw [mul_assoc, ← zpow_natCast, ← zpow_add₀ (by norm_num)]
    congr 2
    omega

theorem exists_coefficient (hx : 0 ≤ x) :
    ∃ m : ℤ, 0 ≤ m ∧ m ≤ 10 ^ 28 ∧ rounded x = m * 10 ^ keptExponent x := by
  refine ⟨roundHalfEven (x / 10 ^ keptExponent x), ?_, ?_, rfl⟩
  · have hmono := roundHalfEven_mono (div_nonneg hx (ten_zpow_pos (keptExponent x)).le)
    rwa [← Int.cast_zero, roundHalfEven_intCast] at hmono
  · have hle : x / 10 ^ keptExponent x ≤ ((10 ^ 28 : ℤ) : ℚ) := by
      rw [div_le_iff₀ (ten_zpow_pos _)]
      rcases eq_or_lt_of_le hx with hzero | hpos
      · rw [← hzero]
        exact mul_nonneg (by norm_num) (ten_zpow_pos _).le
      have hhi := ((log_eq_iff hpos _).1 rfl).2
      have hkept : Int.log 10 x + 1 ≤ 28 + keptExponent x := by
        rw [keptExponent, abs_of_pos hpos]
        unfold prec
        omega
      calc x ≤ 10 ^ (Int.log 10 x + 1) := hhi.le
        _ ≤ 10 ^ (28 + keptExponent x) := zpow_le_zpow_right₀ (by norm_num) hkept
        _ = ((10 ^ 28 : ℤ) : ℚ) * 10 ^ keptExponent x := by
            rw [zpow_add₀ (by norm_num)]
            norm_num
    have hmono := roundHalfEven_mono hle
    rwa [roundHalfEven_intCast] at hmono

theorem rounded_nonneg (hx : 0 ≤ x) : 0 ≤ rounded x := by
  obtain ⟨m, hm, -, heq⟩ := exists_coefficient hx
  rw [heq]
  have hm' : (0 : ℚ) ≤ m := by exact_mod_cast hm
  exact mul_nonneg hm' (ten_zpow_pos _).le

/-- Scaling up by a power of ten loses nothing. -/
theorem rounded_rounded_mul (hx : 0 ≤ x) (d : ℕ) :
    rounded (rounded x * 10 ^ d) = rounded x * 10 ^ d := by
  obtain ⟨m, hm, hdigits, heq⟩ := exists_coefficient hx
  have hkept : etiny ≤ keptExponent x + d := by
    have := le_max_right (Int.log 10 |x| - (prec - 1)) etiny
    unfold keptExponent
    omega
  have hscaled : rounded x * 10 ^ d = m * 10 ^ (keptExponent x + d) := by
    rw [heq, zpow_add₀ (by norm_num), zpow_natCast]
    ring
  rw [hscaled]
  exact rounded_coefficient hm hdigits hkept

/-! ## Rounding before a floor -/

/-- What the 28th digit of a number counts. -/
def lastUnit (x : ℚ) : ℚ := 10 ^ (Int.log 10 x - 27)

/-- The 28 digits do not reach the next whole number, and hold the whole number itself. -/
def FloorKept (x : ℚ) : Prop :=
  if x < 10 ^ 28 then
    lastUnit x / 2 < ⌊x⌋ + 1 - x ∨ lastUnit x = 1 ∧ x = ⌊x⌋ + 1 / 2 ∧ Even ⌊x⌋
  else ∃ m : ℤ, (⌊x⌋ : ℚ) = m * lastUnit x

theorem roundHalfEven_lt_iff (z : ℚ) (n : ℤ) :
    roundHalfEven z < n ↔ z < n - 1 / 2 ∨ z = n - 1 / 2 ∧ Odd n := by
  have hlo := Int.floor_le z
  have hhi := Int.lt_floor_add_one z
  simp only [roundHalfEven]
  rcases lt_trichotomy (⌊z⌋ + 1) n with hlt | heq | hgt
  · have htwo : ⌊z⌋ + 2 ≤ n := by omega
    have hn : (⌊z⌋ : ℚ) + 2 ≤ n := by exact_mod_cast htwo
    refine iff_of_true ?_ (Or.inl (by linarith))
    split
    · omega
    · split
      · omega
      · split <;> omega
  · subst heq
    push_cast
    rcases lt_trichotomy (z - ⌊z⌋) (1 / 2) with h | h | h
    · rw [if_pos h]
      exact iff_of_true (by omega) (Or.inl (by linarith))
    · rw [if_neg h.not_lt, if_neg h.not_gt]
      have hodd : Odd (⌊z⌋ + 1) ↔ ⌊z⌋ % 2 = 0 := by
        rw [Int.odd_iff]
        omega
      rw [hodd]
      split
      · rename_i heven
        exact iff_of_true (by omega) (Or.inr ⟨by linarith, heven⟩)
      · rename_i hne
        refine iff_of_false (by omega) ?_
        rintro (hlt | ⟨-, heven⟩)
        · linarith
        · exact hne heven
    · rw [if_neg (by linarith), if_pos h]
      refine iff_of_false (by omega) ?_
      rintro (hlt | ⟨heq, -⟩)
      · linarith
      · linarith
  · have hn : (n : ℚ) ≤ ⌊z⌋ := by exact_mod_cast Int.lt_add_one_iff.1 hgt
    refine iff_of_false ?_ ?_
    · split
      · omega
      · split
        · omega
        · split <;> omega
    · rintro (hlt | ⟨heq, -⟩)
      · linarith
      · linarith

/-- Below `10 ^ 28` the digits that are kept have decimals. -/
theorem floor_rounded_small_iff {c : ℕ} :
    ⌊(roundHalfEven (x * 10 ^ c) : ℚ) / 10 ^ c⌋ = ⌊x⌋
      ↔ 1 / 10 ^ c / 2 < ⌊x⌋ + 1 - x ∨ c = 0 ∧ x = ⌊x⌋ + 1 / 2 ∧ Even ⌊x⌋ := by
  have hc := pow_ten_pos c
  have hlow : ((⌊x⌋ * 10 ^ c : ℤ) : ℚ) ≤ roundHalfEven (x * 10 ^ c) := by
    have hle : ((⌊x⌋ * 10 ^ c : ℤ) : ℚ) ≤ x * 10 ^ c := by
      push_cast
      exact mul_le_mul_of_nonneg_right (Int.floor_le x) hc.le
    have hmono := roundHalfEven_mono hle
    rw [roundHalfEven_intCast] at hmono
    exact_mod_cast hmono
  have hupper : ⌊(roundHalfEven (x * 10 ^ c) : ℚ) / 10 ^ c⌋ = ⌊x⌋
      ↔ roundHalfEven (x * 10 ^ c) < (⌊x⌋ + 1) * 10 ^ c := by
    rw [Int.floor_eq_iff, le_div_iff₀ hc, div_lt_iff₀ hc]
    constructor
    · rintro ⟨-, h⟩
      exact_mod_cast h
    · intro h
      exact ⟨by exact_mod_cast hlow, by exact_mod_cast h⟩
  have hodd : Odd ((⌊x⌋ + 1) * 10 ^ c) ↔ c = 0 ∧ Even ⌊x⌋ := by
    have hten : ¬ Odd (10 : ℤ) := by decide
    have hnext : Odd (⌊x⌋ + 1) ↔ Even ⌊x⌋ := by
      rw [← Int.not_even_iff_odd, Int.even_add_one, not_not]
    rw [Int.odd_mul, Int.odd_pow, hnext]
    tauto
  rw [hupper, roundHalfEven_lt_iff, hodd]
  push_cast
  have hmul : 1 / 10 ^ c / 2 < (⌊x⌋ : ℚ) + 1 - x ↔ x * 10 ^ c < (⌊x⌋ + 1) * 10 ^ c - 1 / 2 := by
    rw [div_div, div_lt_iff₀ (by positivity)]
    constructor <;> intro h <;> linarith
  rw [hmul]
  refine or_congr_right ?_
  constructor
  · rintro ⟨htie, rfl, heven⟩
    rw [pow_zero, mul_one, mul_one] at htie
    exact ⟨rfl, by linarith, heven⟩
  · rintro ⟨rfl, htie, heven⟩
    rw [pow_zero, mul_one, mul_one]
    exact ⟨by linarith, rfl, heven⟩

/-- From `10 ^ 28` on they count in tens at least. -/
theorem floor_rounded_large_iff {n : ℕ} (hn : n ≠ 0) :
    ⌊(roundHalfEven (x / 10 ^ n) : ℚ) * 10 ^ n⌋ = ⌊x⌋ ↔ ∃ m : ℤ, (⌊x⌋ : ℚ) = m * 10 ^ n := by
  have hpos := pow_ten_pos n
  have hint : (roundHalfEven (x / 10 ^ n) : ℚ) * 10 ^ n
      = ((roundHalfEven (x / 10 ^ n) * 10 ^ n : ℤ) : ℚ) := by
    push_cast
    rfl
  rw [hint, Int.floor_intCast]
  constructor
  · intro h
    exact ⟨roundHalfEven (x / 10 ^ n), by rw [← h]; push_cast; rfl⟩
  · rintro ⟨m, hm⟩
    -- the fraction of `x / 10 ^ n` is below a tenth
    have hone : (1 : ℚ) / 10 ^ n ≤ 1 / 10 := by
      have hten : (10 : ℚ) ^ 1 ≤ 10 ^ n :=
        pow_le_pow_right₀ (by norm_num) (Nat.one_le_iff_ne_zero.2 hn)
      exact one_div_le_one_div_of_le (by norm_num) (by rwa [pow_one] at hten)
    have hlo : (m : ℚ) ≤ x / 10 ^ n := by
      rw [le_div_iff₀ hpos, ← hm]
      exact Int.floor_le x
    have hhi : x / 10 ^ n < m + 1 / 10 ^ n := by
      rw [div_lt_iff₀ hpos, add_mul, ← hm, one_div_mul_cancel hpos.ne']
      exact Int.lt_floor_add_one x
    have hfloor : ⌊x / 10 ^ n⌋ = m := by
      rw [Int.floor_eq_iff]
      exact ⟨hlo, by linarith⟩
    have hround : roundHalfEven (x / 10 ^ n) = m := by
      simp only [roundHalfEven, hfloor]
      rw [if_pos (by linarith)]
    rw [hround]
    exact_mod_cast hm.symm

theorem floor_digits_iff (hx : 0 < x) :
    ⌊(roundHalfEven (x / lastUnit x) : ℚ) * lastUnit x⌋ = ⌊x⌋ ↔ FloorKept x := by
  unfold FloorKept
  split
  · rename_i hsmall
    have hlog : Int.log 10 x ≤ 27 := by
      have h : ¬ 28 ≤ Int.log 10 x := by
        rw [le_log_iff hx, not_le]
        exact_mod_cast hsmall
      omega
    obtain ⟨c, hc⟩ := Int.eq_ofNat_of_zero_le (sub_nonneg.2 hlog)
    have hunit : lastUnit x = 1 / 10 ^ c := by
      rw [lastUnit, show Int.log 10 x - 27 = -(c : ℤ) by omega, zpow_neg, zpow_natCast, one_div]
    have hone : lastUnit x = 1 ↔ c = 0 := by
      rw [hunit, div_eq_one_iff_eq (pow_ten_pos c).ne', eq_comm]
      constructor
      · intro h
        by_contra hc0
        have hten := (pow_eq_one_iff_of_nonneg (by norm_num) hc0).1 h
        norm_num at hten
      · rintro rfl
        rw [pow_zero]
    rw [hunit] at hone ⊢
    rw [div_div_eq_mul_div, div_one, mul_one_div, floor_rounded_small_iff, hone]
  · rename_i hlarge
    have hlog : 28 ≤ Int.log 10 x := by
      rw [le_log_iff hx]
      exact_mod_cast not_lt.1 hlarge
    obtain ⟨n, hn⟩ := Int.eq_ofNat_of_zero_le (show 0 ≤ Int.log 10 x - 27 by omega)
    have hunit : lastUnit x = 10 ^ n := by
      rw [lastUnit, hn]
      exact zpow_natCast _ n
    rw [hunit]
    exact floor_rounded_large_iff (by omega)

theorem floorKept_of_tiny (hx : 0 < x) (hsmall : x ≤ 1 / 10) : FloorKept x := by
  have hunit : lastUnit x ≤ x := by
    have hlo := ((log_eq_iff hx _).1 rfl).1
    have hle : lastUnit x ≤ 10 ^ Int.log 10 x :=
      zpow_le_zpow_right₀ (by norm_num) (by omega)
    exact hle.trans hlo
  have hfloor : ⌊x⌋ = 0 := by
    rw [Int.floor_eq_zero_iff]
    exact ⟨hx.le, by linarith⟩
  unfold FloorKept
  rw [if_pos (by linarith), hfloor, Int.cast_zero]
  exact Or.inl (by linarith)

/-- A whole number of at most 28 digits. -/
theorem floorKept_of_natCast {k : ℕ} (hk : k < 10 ^ 28) : FloorKept k := by
  have hsmall : (k : ℚ) < 10 ^ 28 := by exact_mod_cast hk
  have hunit : lastUnit k ≤ 1 := by
    refine zpow_le_one_of_nonpos₀ (by norm_num) ?_
    rcases Nat.eq_zero_or_pos k with rfl | hpos
    · rw [Nat.cast_zero, Int.log_zero_right]
      norm_num
    · have hpos' : (0 : ℚ) < k := by exact_mod_cast hpos
      have hlog : ¬ 28 ≤ Int.log 10 (k : ℚ) := by
        rw [le_log_iff hpos', not_le]
        exact_mod_cast hsmall
      omega
  unfold FloorKept
  rw [if_pos hsmall, Int.floor_natCast]
  exact Or.inl (by push_cast; linarith)

/-- A number so small that it loses digits is small after the rounding too. -/
theorem rounded_le_of_subnormal (hx : 0 < x) (hlog : Int.log 10 x - 27 < etiny) :
    x ≤ 10 ^ (etiny + 27) ∧ rounded x ≤ 10 ^ (etiny + 27) := by
  have hle : x ≤ 10 ^ (etiny + 27) := by
    have hhi := ((log_eq_iff hx _).1 rfl).2
    exact hhi.le.trans (zpow_le_zpow_right₀ (by norm_num) (by omega))
  have hkept : keptExponent x = etiny := by
    rw [keptExponent, abs_of_pos hx]
    unfold prec
    omega
  have hdiv : x / 10 ^ etiny ≤ ((10 ^ 27 : ℤ) : ℚ) := by
    rw [div_le_iff₀ (ten_zpow_pos _)]
    rw [zpow_add₀ (by norm_num)] at hle
    push_cast
    rw [mul_comm]
    exact_mod_cast hle
  have hround : roundHalfEven (x / 10 ^ etiny) ≤ 10 ^ 27 := by
    have hmono := roundHalfEven_mono hdiv
    rwa [roundHalfEven_intCast] at hmono
  refine ⟨hle, ?_⟩
  rw [rounded, hkept, zpow_add₀ (by norm_num), mul_comm]
  refine mul_le_mul_of_nonneg_left ?_ (ten_zpow_pos _).le
  exact_mod_cast hround

/-- **A quotient that is rounded and then scaled.** -/
theorem floor_rounded_mul_iff {q : ℚ} (hq : 0 < q) {d : ℕ} (hd : d ≤ 255) :
    ⌊rounded q * 10 ^ d⌋ = ⌊q * 10 ^ d⌋ ↔ FloorKept (q * 10 ^ d) := by
  have hx : 0 < q * 10 ^ d := mul_pos hq (pow_ten_pos d)
  by_cases hlog : Int.log 10 q - 27 < etiny
  · obtain ⟨hle, hrounded⟩ := rounded_le_of_subnormal hq hlog
    have hscale : (10 : ℚ) ^ (etiny + 27) * 10 ^ d ≤ 1 / 10 := by
      rw [← zpow_natCast, ← zpow_add₀ (by norm_num), one_div, ← zpow_neg_one]
      refine zpow_le_zpow_right₀ (by norm_num) ?_
      unfold etiny
      omega
    have htiny : q * 10 ^ d ≤ 1 / 10 :=
      (mul_le_mul_of_nonneg_right hle (pow_ten_pos d).le).trans hscale
    have htiny' : rounded q * 10 ^ d ≤ 1 / 10 :=
      (mul_le_mul_of_nonneg_right hrounded (pow_ten_pos d).le).trans hscale
    have hnonneg : 0 ≤ rounded q * 10 ^ d :=
      mul_nonneg (rounded_nonneg hq.le) (pow_ten_pos d).le
    refine iff_of_true ?_ (floorKept_of_tiny hx htiny)
    rw [Int.floor_eq_zero_iff.2 ⟨hx.le, by linarith⟩,
      Int.floor_eq_zero_iff.2 ⟨hnonneg, by linarith⟩]
  · have hkept : keptExponent q = Int.log 10 q - 27 := by
      rw [keptExponent, abs_of_pos hq]
      unfold prec
      omega
    have hunit : lastUnit (q * 10 ^ d) = 10 ^ keptExponent q * 10 ^ d := by
      rw [lastUnit, ← zpow_natCast, log_mul_zpow hq, hkept, ← zpow_add₀ (by norm_num)]
      congr 1
      ring
    have hdiv : q * 10 ^ d / lastUnit (q * 10 ^ d) = q / 10 ^ keptExponent q := by
      rw [hunit, mul_div_mul_right _ _ (pow_ten_pos d).ne']
    have hscaled : rounded q * 10 ^ d
        = roundHalfEven (q * 10 ^ d / lastUnit (q * 10 ^ d)) * lastUnit (q * 10 ^ d) := by
      rw [hdiv, hunit, rounded, mul_assoc]
    rw [hscaled]
    exact floor_digits_iff hx

theorem rounded_zero : rounded 0 = 0 :=
  rounded_of_multiple (j := 0) (by rw [Int.cast_zero, zero_mul])

/-- The exponent of a number that is not small is that of its whole part. -/
theorem log_le_of_floor_eq {y : ℚ} (hy : 0 ≤ y) (hfloor : ⌊x⌋ = ⌊y⌋) {k : ℕ}
    (h : Int.log 10 x ≤ k) :
    Int.log 10 y ≤ k := by
  rcases eq_or_lt_of_le hy with hzero | hpos
  · rw [← hzero, Int.log_zero_right]
    omega
  by_contra hlarge
  have hpow : ((10 ^ (k + 1) : ℤ) : ℚ) ≤ y := by
    have hle : ((k + 1 : ℕ) : ℤ) ≤ Int.log 10 y := by
      push_cast
      omega
    rw [le_log_iff hpos, zpow_natCast] at hle
    push_cast
    exact hle
  have hpow' : ((10 ^ (k + 1) : ℤ) : ℚ) ≤ x := by
    have hle := Int.le_floor.2 hpow
    rw [← hfloor] at hle
    exact Int.le_floor.1 hle
  have hxpos : 0 < x := lt_of_lt_of_le (by positivity) hpow'
  have hlog : ((k + 1 : ℕ) : ℤ) ≤ Int.log 10 x := by
    rw [le_log_iff hxpos, zpow_natCast]
    push_cast at hpow'
    exact hpow'
  push_cast at hlog
  omega

/-- A quotient and its multiple by a power of ten, each rounded; nothing where one overflows. -/
theorem fit_bind_fit {q : ℚ} (hq : 0 ≤ q) (d : ℕ) :
    ((fit q).bind fun y => fit (y * 10 ^ d))
      = if emax < Int.log 10 (rounded q * 10 ^ d) then none else some (rounded q * 10 ^ d) := by
  have hy := rounded_nonneg hq
  have hscaled : 0 ≤ rounded q * 10 ^ d := mul_nonneg hy (pow_ten_pos d).le
  have hlog : Int.log 10 (rounded q) ≤ Int.log 10 (rounded q * 10 ^ d) := by
    rcases eq_or_lt_of_le hy with hzero | hpos
    · rw [← hzero, zero_mul]
    · rw [← zpow_natCast, log_mul_zpow hpos]
      omega
  unfold fit
  rw [abs_of_nonneg hy]
  by_cases hover : emax < Int.log 10 (rounded q)
  · rw [if_pos hover, if_pos (hover.trans_le hlog), Option.bind_none]
  · rw [if_neg hover, Option.bind_some, rounded_rounded_mul hq, abs_of_nonneg hscaled]

end PyDecimal
