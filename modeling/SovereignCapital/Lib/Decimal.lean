import Mathlib.Data.Rat.Floor

/-! # Decimal rounding

`round(x, n)` of Python on exact rationals: to the nearest number of `n` decimals, halves to
the even neighbour. `Dec n` are the numbers of `n` decimals, the fixed points of the
rounding; they are closed under sums, so exact books of `n` decimals survive it.
-/

namespace Decimal

/-- The nearest integer, halves to the even one. -/
def roundHalfEven (x : ℚ) : ℤ :=
  let f := ⌊x⌋
  if x - f < 1 / 2 then f
  else if 1 / 2 < x - f then f + 1
  else if f % 2 = 0 then f
  else f + 1

/-- `round(x, n)`. -/
def pyRound (n : ℕ) (x : ℚ) : ℚ := roundHalfEven (x * 10 ^ n) / 10 ^ n

/-- The numbers of `n` decimals. -/
def Dec (n : ℕ) (x : ℚ) : Prop := ∃ k : ℤ, x = k / 10 ^ n

theorem pow_ten_pos (n : ℕ) : (0 : ℚ) < 10 ^ n := by positivity

/-! ## The integer rounding -/

@[simp] theorem roundHalfEven_intCast (k : ℤ) : roundHalfEven k = k := by
  simp [roundHalfEven]

theorem roundHalfEven_bounds (x : ℚ) : ⌊x⌋ ≤ roundHalfEven x ∧ roundHalfEven x ≤ ⌊x⌋ + 1 := by
  simp only [roundHalfEven]
  split
  · omega
  · split
    · omega
    · split <;> omega

theorem abs_roundHalfEven_sub (x : ℚ) : |(roundHalfEven x : ℚ) - x| ≤ 1 / 2 := by
  have hlo := Int.floor_le x
  have hhi := Int.lt_floor_add_one x
  simp only [roundHalfEven]
  rw [abs_le]
  split
  · constructor <;> linarith
  · split
    · push_cast
      constructor <;> linarith
    · split
      · constructor <;> linarith
      · push_cast
        constructor <;> linarith

variable {x y : ℚ} {n : ℕ}

theorem roundHalfEven_mono (h : x ≤ y) : roundHalfEven x ≤ roundHalfEven y := by
  have hfloor := Int.floor_mono h
  rcases lt_or_eq_of_le hfloor with hlt | heq
  · -- Different floors: the upper end for `x` is at most the lower end for `y`.
    have hx := (roundHalfEven_bounds x).2
    have hy := (roundHalfEven_bounds y).1
    omega
  · have hlo := (roundHalfEven_bounds y).1
    simp only [roundHalfEven] at hlo ⊢
    rw [heq]
    by_cases hx : x - ⌊y⌋ < 1 / 2
    · rw [if_pos hx]
      exact hlo
    · have hy : ¬ y - ⌊y⌋ < 1 / 2 := by linarith
      rw [if_neg hx, if_neg hy]
      by_cases hx' : 1 / 2 < x - ⌊y⌋
      · have hy' : 1 / 2 < y - ⌊y⌋ := by linarith
        rw [if_pos hx', if_pos hy']
      · rw [if_neg hx']
        split
        · split <;> omega
        · split <;> omega

theorem roundHalfEven_neg (x : ℚ) : roundHalfEven (-x) = -roundHalfEven x := by
  have hlo := Int.floor_le x
  have hhi := Int.lt_floor_add_one x
  rcases eq_or_lt_of_le hlo with hint | hlt
  · rw [← hint, ← Int.cast_neg, roundHalfEven_intCast, roundHalfEven_intCast]
  · have hfloor : ⌊-x⌋ = -⌊x⌋ - 1 := by
      rw [Int.floor_eq_iff]
      push_cast
      constructor <;> linarith
    simp only [roundHalfEven, hfloor]
    push_cast
    rcases lt_trichotomy (x - ⌊x⌋) (1 / 2) with h | h | h
    · rw [if_neg (show ¬ -x - (-⌊x⌋ - 1) < 1 / 2 by linarith),
        if_pos (show 1 / 2 < -x - (-(⌊x⌋ : ℚ) - 1) by linarith), if_pos h]
      ring
    · rw [if_neg (show ¬ -x - (-⌊x⌋ - 1) < 1 / 2 by linarith),
        if_neg (show ¬ 1 / 2 < -x - (-(⌊x⌋ : ℚ) - 1) by linarith), if_neg h.not_lt,
        if_neg h.not_gt]
      split
      · split <;> omega
      · split <;> omega
    · rw [if_pos (show -x - (-(⌊x⌋ : ℚ) - 1) < 1 / 2 by linarith), if_neg (by linarith), if_pos h]
      ring

/-! ## Rounding to decimals -/

theorem dec_pyRound (n : ℕ) (x : ℚ) : Dec n (pyRound n x) := ⟨_, rfl⟩

/-- **Rounding fixes exactly the numbers of `n` decimals.** -/
theorem pyRound_eq_self_iff : pyRound n x = x ↔ Dec n x := by
  constructor
  · intro h
    rw [← h]
    exact dec_pyRound n x
  · rintro ⟨k, rfl⟩
    have hk : (k : ℚ) / 10 ^ n * 10 ^ n = k := div_mul_cancel₀ _ (pow_ten_pos n).ne'
    rw [pyRound, hk, roundHalfEven_intCast]

theorem Dec.pyRound_eq (h : Dec n x) : pyRound n x = x :=
  pyRound_eq_self_iff.2 h

theorem abs_pyRound_sub (n : ℕ) (x : ℚ) : |pyRound n x - x| ≤ 1 / 2 / 10 ^ n := by
  have hpos := pow_ten_pos n
  have hscale : pyRound n x - x = ((roundHalfEven (x * 10 ^ n) : ℚ) - x * 10 ^ n) / 10 ^ n := by
    rw [pyRound]
    field_simp
  rw [hscale, abs_div, abs_of_pos hpos]
  exact div_le_div_of_nonneg_right (abs_roundHalfEven_sub _) hpos.le

theorem pyRound_mono (n : ℕ) (h : x ≤ y) : pyRound n x ≤ pyRound n y := by
  have hpos := pow_ten_pos n
  have hscaled : x * 10 ^ n ≤ y * 10 ^ n := mul_le_mul_of_nonneg_right h hpos.le
  unfold pyRound
  exact div_le_div_of_nonneg_right (by exact_mod_cast roundHalfEven_mono hscaled) hpos.le

@[simp] theorem pyRound_zero (n : ℕ) : pyRound n 0 = 0 :=
  pyRound_eq_self_iff.2 ⟨0, by simp⟩

theorem pyRound_neg (n : ℕ) (x : ℚ) : pyRound n (-x) = -pyRound n x := by
  simp only [pyRound, neg_mul, roundHalfEven_neg, Int.cast_neg, neg_div]

theorem pyRound_nonneg (n : ℕ) (h : 0 ≤ x) : 0 ≤ pyRound n x := by
  have hmono := pyRound_mono n h
  rwa [pyRound_zero] at hmono

/-- A number of `n` decimals below `x` stays below the rounding of `x`. -/
theorem Dec.le_pyRound {d : ℚ} (hd : Dec n d) (h : d ≤ x) : d ≤ pyRound n x := by
  have hmono := pyRound_mono n h
  rwa [hd.pyRound_eq] at hmono

/-! ## Numbers of `n` decimals -/

theorem dec_zero (n : ℕ) : Dec n 0 := ⟨0, by simp⟩

theorem dec_intCast (n : ℕ) (k : ℤ) : Dec n k :=
  ⟨k * 10 ^ n, by push_cast; rw [mul_div_cancel_right₀ _ (pow_ten_pos n).ne']⟩

theorem Dec.add (hx : Dec n x) (hy : Dec n y) : Dec n (x + y) := by
  obtain ⟨j, rfl⟩ := hx
  obtain ⟨k, rfl⟩ := hy
  exact ⟨j + k, by push_cast; ring⟩

theorem Dec.neg (hx : Dec n x) : Dec n (-x) := by
  obtain ⟨j, rfl⟩ := hx
  exact ⟨-j, by push_cast; ring⟩

theorem Dec.sub (hx : Dec n x) (hy : Dec n y) : Dec n (x - y) := by
  rw [sub_eq_add_neg]
  exact hx.add hy.neg

theorem Dec.max (hx : Dec n x) (hy : Dec n y) : Dec n (max x y) := by
  rcases le_total x y with h | h
  · rwa [max_eq_right h]
  · rwa [max_eq_left h]

/-- A number of `m` decimals has `n` decimals for every larger `n`. -/
theorem Dec.of_le {m : ℕ} (h : m ≤ n) (hx : Dec m x) : Dec n x := by
  obtain ⟨k, rfl⟩ := hx
  obtain ⟨d, rfl⟩ := Nat.exists_eq_add_of_le h
  refine ⟨k * 10 ^ d, ?_⟩
  have hm := (pow_ten_pos m).ne'
  have hd := (pow_ten_pos d).ne'
  push_cast
  rw [pow_add]
  field_simp

theorem dec_list_sum {l : List ℚ} (h : ∀ x ∈ l, Dec n x) : Dec n l.sum := by
  induction l with
  | nil => exact dec_zero n
  | cons x l ih =>
    rw [List.sum_cons]
    exact (h x (by simp)).add (ih fun y hy => h y (by simp [hy]))

/-- A number of `n` decimals other than zero is at least one unit of the last decimal. -/
theorem Dec.one_le_of_pos (hx : Dec n x) (hpos : 0 < x) : 1 / 10 ^ n ≤ x := by
  obtain ⟨k, rfl⟩ := hx
  have hten := pow_ten_pos n
  have hk : 0 < k := by
    rcases lt_or_ge 0 k with h | h
    · exact h
    · have hle : (k : ℚ) / 10 ^ n ≤ 0 :=
        div_nonpos_of_nonpos_of_nonneg (by exact_mod_cast h) hten.le
      linarith
  have hone : (1 : ℚ) ≤ k := by exact_mod_cast hk
  exact div_le_div_of_nonneg_right hone hten.le

end Decimal
