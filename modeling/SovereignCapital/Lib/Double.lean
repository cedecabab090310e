import Mathlib.Data.Int.Log
import SovereignCapital.Lib.Decimal

/-! # Double precision

The rounding of a product to double precision, on exact rationals: 53 significant bits, fewer of
them below the smallest normal number, to the nearest, ties to the even one. Of the overflows only
that of an integer is modelled here.
-/

namespace Double

open Decimal

/-- A power of two. -/
def twoPow (e : ℤ) : ℚ := if 0 ≤ e then 2 ^ e.toNat else 1 / 2 ^ (-e).toNat

def nearest (x : ℚ) : ℚ :=
  if x = 0 then 0
  else
    let ulp := twoPow (max (Int.log 2 |x| - 52) (-1074))
    roundHalfEven (x / ulp) * ulp

/-- `x * y` of two doubles. -/
def mul (x y : ℚ) : ℚ := nearest (x * y)

/-- `float(n)`; nothing where an integer is too large. -/
def ofInt (n : ℤ) : Option ℚ := if |nearest n| < 2 ^ 1024 then some (nearest n) else none

/-- `int(x)`. -/
def trunc (x : ℚ) : ℤ := if 0 ≤ x then ⌊x⌋ else ⌈x⌉

/-! ## Signs -/

theorem twoPow_pos (e : ℤ) : 0 < twoPow e := by
  unfold twoPow
  split <;> positivity

theorem nearest_neg (x : ℚ) : nearest (-x) = -nearest x := by
  unfold nearest
  by_cases hx : x = 0
  · rw [if_pos hx, if_pos (by rw [hx, neg_zero]), neg_zero]
  · rw [if_neg hx, if_neg (neg_ne_zero.2 hx)]
    dsimp only
    rw [abs_neg, neg_div, roundHalfEven_neg, Int.cast_neg, neg_mul]

theorem nearest_nonneg {x : ℚ} (hx : 0 ≤ x) : 0 ≤ nearest x := by
  unfold nearest
  split
  · exact le_rfl
  · have hulp := twoPow_pos (max (Int.log 2 |x| - 52) (-1074))
    have hround := roundHalfEven_mono (div_nonneg hx hulp.le)
    rw [← Int.cast_zero, roundHalfEven_intCast] at hround
    have hround' : (0 : ℚ) ≤ roundHalfEven (x / twoPow (max (Int.log 2 |x| - 52) (-1074))) := by
      exact_mod_cast hround
    exact mul_nonneg hround' hulp.le

theorem pos_of_nearest_pos {x : ℚ} (h : 0 < nearest x) : 0 < x := by
  by_contra hx
  have hneg := nearest_nonneg (neg_nonneg.2 (not_lt.1 hx))
  rw [nearest_neg] at hneg
  linarith

/-! ## Powers of two -/

theorem twoPow_eq_zpow (e : ℤ) : twoPow e = (2 : ℚ) ^ e := by
  unfold twoPow
  split
  · rename_i he
    rw [← zpow_natCast, Int.toNat_of_nonneg he]
  · rename_i he
    rw [one_div, ← zpow_natCast, ← zpow_neg, Int.toNat_of_nonneg (by omega), neg_neg]

/-- The last place of a positive number. -/
theorem nearest_of_pos {x : ℚ} (hx : 0 < x) :
    nearest x = roundHalfEven (x / 2 ^ max (Int.log 2 x - 52) (-1074))
      * 2 ^ max (Int.log 2 x - 52) (-1074) := by
  unfold nearest
  rw [if_neg hx.ne']
  dsimp only
  rw [twoPow_eq_zpow, abs_of_pos hx]

/-- The power of two below a normal number is below its double. -/
theorem two_zpow_log_le_nearest {x : ℚ} (hx : 0 < x) (hnormal : -1074 ≤ Int.log 2 x - 52) :
    (2 : ℚ) ^ Int.log 2 x ≤ nearest x := by
  have hlow : (2 : ℚ) ^ Int.log 2 x ≤ x := by
    have := Int.zpow_log_le_self (b := 2) (by norm_num) hx
    exact_mod_cast this
  have hpos : (0 : ℚ) < 2 ^ (Int.log 2 x - 52) := zpow_pos (by norm_num) _
  have hsplit : (2 : ℚ) ^ Int.log 2 x = ((2 ^ 52 : ℤ) : ℚ) * 2 ^ (Int.log 2 x - 52) := by
    rw [zpow_sub₀ (by norm_num)]
    push_cast
    field_simp
  have hround : (2 ^ 52 : ℤ) ≤ roundHalfEven (x / 2 ^ (Int.log 2 x - 52)) := by
    have hle : ((2 ^ 52 : ℤ) : ℚ) ≤ x / 2 ^ (Int.log 2 x - 52) := by
      rw [le_div_iff₀ hpos, ← hsplit]
      exact hlow
    have hmono := roundHalfEven_mono hle
    rwa [roundHalfEven_intCast] at hmono
  rw [nearest_of_pos hx, max_eq_left hnormal]
  calc (2 : ℚ) ^ Int.log 2 x = ((2 ^ 52 : ℤ) : ℚ) * 2 ^ (Int.log 2 x - 52) := hsplit
    _ ≤ roundHalfEven (x / 2 ^ (Int.log 2 x - 52)) * 2 ^ (Int.log 2 x - 52) :=
        mul_le_mul_of_nonneg_right (by exact_mod_cast hround) hpos.le

/-- A power of two above a number is above its double. -/
theorem nearest_le_two_zpow {x : ℚ} {e : ℤ} (hx : 0 < x) (hle : x ≤ 2 ^ e)
    (hulp : max (Int.log 2 x - 52) (-1074) ≤ e) : nearest x ≤ 2 ^ e := by
  rw [nearest_of_pos hx]
  generalize max (Int.log 2 x - 52) (-1074) = u at hulp
  have hpos : (0 : ℚ) < 2 ^ u := zpow_pos (by norm_num) _
  have hsplit : (2 : ℚ) ^ e = ((2 ^ (e - u).toNat : ℤ) : ℚ) * 2 ^ u := by
    push_cast
    rw [← zpow_natCast, Int.toNat_of_nonneg (by omega), ← zpow_add₀ (by norm_num)]
    congr 1
    omega
  have hround : roundHalfEven (x / 2 ^ u) ≤ 2 ^ (e - u).toNat := by
    have hquotient : x / 2 ^ u ≤ ((2 ^ (e - u).toNat : ℤ) : ℚ) := by
      rw [div_le_iff₀ hpos, ← hsplit]
      exact hle
    have hmono := roundHalfEven_mono hquotient
    rwa [roundHalfEven_intCast] at hmono
  rw [hsplit]
  exact mul_le_mul_of_nonneg_right (by exact_mod_cast hround) hpos.le

/-- A power of two that a number reaches is reached by the double. -/
theorem two_pow_le_nearest {x : ℚ} {k : ℕ} (h : 2 ^ k ≤ x) : 2 ^ k ≤ nearest x := by
  have hx : 0 < x := lt_of_lt_of_le (by positivity) h
  have hlog : (k : ℤ) ≤ Int.log 2 x := by
    rw [← Int.zpow_le_iff_le_log (by norm_num) hx]
    exact_mod_cast h
  calc (2 : ℚ) ^ k ≤ 2 ^ Int.log 2 x := by
        rw [← zpow_natCast]
        exact zpow_le_zpow_right₀ (by norm_num) hlog
    _ ≤ nearest x := two_zpow_log_le_nearest hx (by omega)

/-! ## Order -/

theorem nearest_mono_of_pos {x y : ℚ} (hx : 0 < x) (h : x ≤ y) : nearest x ≤ nearest y := by
  have hy : 0 < y := lt_of_lt_of_le hx h
  have hlog : Int.log 2 x ≤ Int.log 2 y := Int.log_mono_right hx h
  by_cases hulp : max (Int.log 2 x - 52) (-1074) = max (Int.log 2 y - 52) (-1074)
  · -- in one binade the quotients round in order
    rw [nearest_of_pos hx, nearest_of_pos hy, hulp]
    have hpos : (0 : ℚ) < 2 ^ max (Int.log 2 y - 52) (-1074) := zpow_pos (by norm_num) _
    have hround := roundHalfEven_mono (div_le_div_of_nonneg_right h hpos.le)
    exact mul_le_mul_of_nonneg_right (by exact_mod_cast hround) hpos.le
  · -- otherwise a power of two lies between the doubles
    have hnormal : -1074 ≤ Int.log 2 y - 52 := by omega
    have hless : Int.log 2 x < Int.log 2 y := by omega
    have hbelow : x ≤ (2 : ℚ) ^ Int.log 2 y := by
      have hlt : x < ((2 : ℕ) : ℚ) ^ Int.log 2 y :=
        (Int.lt_zpow_iff_log_lt (by norm_num) hx).2 hless
      exact_mod_cast hlt.le
    calc nearest x ≤ 2 ^ Int.log 2 y := nearest_le_two_zpow hx hbelow (by omega)
      _ ≤ nearest y := two_zpow_log_le_nearest hy hnormal

/-- **Rounding keeps the order.** -/
theorem nearest_mono {x y : ℚ} (h : x ≤ y) : nearest x ≤ nearest y := by
  rcases lt_or_ge 0 x with hx | hx
  · exact nearest_mono_of_pos hx h
  · have hxneg : nearest x ≤ 0 := by
      have hneg := nearest_nonneg (neg_nonneg.2 hx)
      rw [nearest_neg] at hneg
      linarith
    rcases le_or_gt 0 y with hy | hy
    · exact hxneg.trans (nearest_nonneg hy)
    · have hneg := nearest_mono_of_pos (neg_pos.2 hy) (neg_le_neg h)
      rw [nearest_neg, nearest_neg] at hneg
      linarith

/-! ## Errors -/

theorem two_zpow_log_le {x : ℚ} (hx : x ≠ 0) : (2 : ℚ) ^ Int.log 2 |x| ≤ |x| := by
  have h := Int.zpow_log_le_self (b := 2) (by norm_num) (abs_pos.2 hx)
  exact_mod_cast h

theorem two_zpow_neg (k : ℕ) : (2 : ℚ) ^ (-(k : ℤ)) = 1 / 2 ^ k := by
  rw [zpow_neg, zpow_natCast, one_div]

/-- The last place is a part of the number, or it is the smallest one. -/
theorem twoPow_ulp_le {x : ℚ} (hx : x ≠ 0) :
    twoPow (max (Int.log 2 |x| - 52) (-1074)) ≤ |x| / 2 ^ 52 + 1 / 2 ^ 1074 := by
  have hfirst : (2 : ℚ) ^ (Int.log 2 |x| - 52) ≤ |x| / 2 ^ 52 := by
    rw [zpow_sub₀ (by norm_num)]
    exact div_le_div_of_nonneg_right (two_zpow_log_le hx) (by positivity)
  have hsecond : (2 : ℚ) ^ (-1074 : ℤ) = 1 / 2 ^ 1074 := two_zpow_neg 1074
  rw [twoPow_eq_zpow]
  rcases max_choice (Int.log 2 |x| - 52) (-1074) with h | h
  · rw [h]
    have hpos : (0 : ℚ) ≤ 1 / 2 ^ 1074 := by positivity
    exact le_add_of_le_of_nonneg hfirst hpos
  · rw [h, hsecond]
    have hpos : 0 ≤ |x| / 2 ^ 52 := by positivity
    exact le_add_of_nonneg_left hpos

/-- A double is off by half a last place at most. -/
theorem abs_nearest_sub_le (x : ℚ) : |nearest x - x| ≤ (|x| / 2 ^ 52 + 1 / 2 ^ 1074) / 2 := by
  unfold nearest
  by_cases hx : x = 0
  · rw [if_pos hx, hx, sub_zero, abs_zero, zero_div, zero_add]
    positivity
  · rw [if_neg hx]
    dsimp only
    have hulp := twoPow_pos (max (Int.log 2 |x| - 52) (-1074))
    have hle := twoPow_ulp_le hx
    generalize twoPow (max (Int.log 2 |x| - 52) (-1074)) = ulp at hulp hle
    have hround := abs_roundHalfEven_sub (x / ulp)
    have hfactor : (roundHalfEven (x / ulp) : ℚ) * ulp - x
        = (roundHalfEven (x / ulp) - x / ulp) * ulp := by
      field_simp
    calc |(roundHalfEven (x / ulp) : ℚ) * ulp - x|
        = |(roundHalfEven (x / ulp) : ℚ) - x / ulp| * ulp := by
          rw [hfactor, abs_mul, abs_of_pos hulp]
      _ ≤ 1 / 2 * (|x| / 2 ^ 52 + 1 / 2 ^ 1074) :=
          mul_le_mul hround hle hulp.le (by norm_num)
      _ = (|x| / 2 ^ 52 + 1 / 2 ^ 1074) / 2 := one_div_mul_eq_div _ _

end Double
