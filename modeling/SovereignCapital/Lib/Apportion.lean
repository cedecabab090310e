import Mathlib.Algebra.BigOperators.Ring.List
import Mathlib.Algebra.Order.Floor.Ring
import Mathlib.Tactic.LinearCombination
import Mathlib.Tactic.Positivity
import Mathlib.Tactic.Ring

/-! # Handing out an amount by shares

Weights divided by their sum are shares: they sum to one, and one of them is at least an equal
part. Whole units of an amount are handed out by rounding each share and dropping the fraction.
Rounding the shares may hand out more than there is, by exactly what it adds to them less what
dropping the fractions keeps back.
-/

namespace Apportion

/-! ## Weights and rounding -/

section

variable {K : Type} [Field K]

def normalize (ws : List K) : List K := ws.map fun w => w / ws.sum

theorem sum_map_div (ws : List K) (c : K) : (ws.map fun w => w / c).sum = ws.sum / c := by
  simp only [div_eq_mul_inv, List.sum_map_mul_right, List.map_id']

/-- What rounding adds to the shares. -/
def gained (r : K → K) (ss : List K) : K := (ss.map fun s => r s - s).sum

theorem gained_eq (r : K → K) (ss : List K) : gained r ss = (ss.map r).sum - ss.sum := by
  induction ss with
  | nil => simp [gained]
  | cons s ss ih =>
    simp only [gained] at ih
    simp only [gained, List.map_cons, List.sum_cons, ih]
    ring

theorem sum_on_grid {N : K} {r : K → K} (hgrid : ∀ s, ∃ k : ℤ, r s * N = k) (ss : List K) :
    ∃ k : ℤ, (ss.map r).sum * N = k := by
  induction ss with
  | nil => exact ⟨0, by simp⟩
  | cons s ss ih =>
    obtain ⟨k, hk⟩ := ih
    obtain ⟨j, hj⟩ := hgrid s
    refine ⟨j + k, ?_⟩
    rw [List.map_cons, List.sum_cons, add_mul, hj, hk, Int.cast_add]

end

variable {K : Type} [Field K] [LinearOrder K] [IsStrictOrderedRing K]

/-! ## Shares -/

/-- Shares of a whole. -/
structure IsShares (ss : List K) : Prop where
  nonneg : ∀ s ∈ ss, 0 ≤ s
  sum_eq : ss.sum = 1

theorem isShares_normalize {ws : List K} (hnonneg : ∀ w ∈ ws, 0 ≤ w) (hpos : 0 < ws.sum) :
    IsShares (normalize ws) := by
  refine ⟨fun s hs => ?_, ?_⟩
  · obtain ⟨w, hw, rfl⟩ := List.mem_map.1 hs
    exact div_nonneg (hnonneg w hw) hpos.le
  · rw [normalize, sum_map_div]
    exact div_self hpos.ne'

/-- Of at most `n` shares, one is at least the `n`-th part. -/
theorem IsShares.exists_le {ss : List K} (h : IsShares ss) {n : ℕ} (hn : ss.length ≤ n)
    (hpos : 0 < n) : ∃ s ∈ ss, 1 / (n : K) ≤ s := by
  have hn' : (0 : K) < n := by exact_mod_cast hpos
  have hnil : ss ≠ [] := by
    rintro rfl
    exact absurd h.sum_eq (by simp)
  have hparts : (ss.map fun _ => 1 / (n : K)).sum ≤ (ss.map fun s => s).sum := by
    have hlength : (ss.length : K) ≤ n := by exact_mod_cast hn
    rw [List.map_id', h.sum_eq, List.map_const', List.sum_replicate, nsmul_eq_mul, mul_one_div]
    exact (div_le_one hn').2 hlength
  exact List.exists_le_of_sum_le hnil _ _ hparts

/-! ## Handing out -/

variable [FloorRing K]

/-- Whole units of an amount. -/
def granted (d : K) (ss : List K) : List ℤ := ss.map fun s => ⌊d * s⌋

/-- What dropping the fractions keeps back. -/
def dropped (d : K) (ss : List K) : K := (ss.map fun s => Int.fract (d * s)).sum

theorem granted_nonneg {d : K} (hd : 0 ≤ d) {ss : List K} (h : ∀ s ∈ ss, 0 ≤ s) :
    ∀ g ∈ granted d ss, 0 ≤ g := by
  intro g hg
  obtain ⟨s, hs, rfl⟩ := List.mem_map.1 hg
  exact Int.floor_nonneg.2 (mul_nonneg hd (h s hs))

/-- What is handed out and what is kept back make up the shares of the amount. -/
theorem sum_granted (d : K) (ss : List K) :
    ((granted d ss).sum : K) = d * ss.sum - dropped d ss := by
  induction ss with
  | nil => simp [granted, dropped]
  | cons s ss ih =>
    have hs := Int.floor_add_fract (d * s)
    simp only [granted, dropped] at ih
    simp only [granted, dropped, List.map_cons, List.sum_cons]
    rw [Int.cast_add, ih]
    linear_combination hs

/-- **What is handed out.** By rounded shares no more than the amount is handed out exactly when
what rounding adds, taken of the amount, is no more than what dropping the fractions keeps
back. -/
theorem granted_le_iff {ss : List K} (h : ss.sum = 1) (r : K → K) (d : ℤ) :
    (granted (d : K) (ss.map r)).sum ≤ d
      ↔ d * gained r ss ≤ dropped (d : K) (ss.map r) := by
  rw [← @Int.cast_le K, sum_granted, gained_eq, h]
  constructor
  · intro hle
    linarith
  · intro hle
    linarith

theorem dropped_nonneg (d : K) (ss : List K) : 0 ≤ dropped d ss := by
  refine List.sum_nonneg fun x hx => ?_
  obtain ⟨s, -, rfl⟩ := List.mem_map.1 hx
  exact Int.fract_nonneg _

/-- Of shares that rounding does not add to in total, no amount is handed out beyond itself. -/
theorem granted_le {ss : List K} (h : ss.sum = 1) {r : K → K} (hgained : gained r ss ≤ 0) {d : ℤ}
    (hd : 0 ≤ d) : (granted (d : K) (ss.map r)).sum ≤ d := by
  rw [granted_le_iff h]
  have hd' : (0 : K) ≤ d := by exact_mod_cast hd
  exact (mul_nonpos_of_nonneg_of_nonpos hd' hgained).trans (dropped_nonneg _ _)

theorem dropped_lt {ss : List K} (h : ss ≠ []) (d : K) : dropped d ss < ss.length := by
  have hlt : dropped d ss < (ss.map fun _ => (1 : K)).sum :=
    List.sum_lt_sum_of_ne_nil h _ _ fun s _ => Int.fract_lt_one (d * s)
  rwa [List.map_const', List.sum_replicate, nsmul_one] at hlt

/-- **Large amounts.** When the rounded shares lie on the grid of `N`-th parts, an amount of at
least `N` units a share is not exceeded exactly when rounding adds nothing in total. -/
theorem granted_le_iff_of_large {ss : List K} (h : ss.sum = 1) {r : K → K} {N : ℕ} (hN : 0 < N)
    (hgrid : ∀ s, ∃ k : ℤ, r s * (N : K) = k) {d : ℤ} (hd : ss.length * N ≤ d) :
    (granted (d : K) (ss.map r)).sum ≤ d ↔ gained r ss ≤ 0 := by
  have hd0 : 0 ≤ d := le_trans (by positivity) hd
  have hnil : ss.map r ≠ [] := by
    intro hempty
    rw [List.map_eq_nil_iff.1 hempty] at h
    simp at h
  constructor
  · intro hle
    rw [granted_le_iff h] at hle
    by_contra hpos
    -- what rounding adds is a positive number of the grid, hence at least one part
    obtain ⟨k, hk⟩ := sum_on_grid hgrid ss
    have hN' : (0 : K) < N := by exact_mod_cast hN
    have hgained : gained r ss * N = ((k - N : ℤ) : K) := by
      rw [gained_eq, h, sub_mul, hk, Int.cast_sub, Int.cast_natCast, one_mul]
    have hk1 : (1 : K) ≤ ((k - N : ℤ) : K) := by
      have hpos' : (0 : K) < ((k - N : ℤ) : K) := by
        rw [← hgained]
        exact mul_pos (not_le.1 hpos) hN'
      have hint : 0 < k - (N : ℤ) := by exact_mod_cast hpos'
      exact_mod_cast Int.add_one_le_iff.2 hint
    have hlarge : ((ss.length : K) * N) ≤ d := by exact_mod_cast hd
    have hdrop := dropped_lt hnil (d : K)
    rw [List.length_map] at hdrop
    have hscaled : (d : K) ≤ d * gained r ss * N := by
      rw [mul_assoc, hgained]
      exact le_mul_of_one_le_right (by exact_mod_cast hd0) hk1
    have hover : (d : K) * gained r ss * N < ss.length * N :=
      mul_lt_mul_of_pos_right (lt_of_le_of_lt hle hdrop) hN'
    linarith
  · exact fun hgained => granted_le h hgained hd0

end Apportion
