import Mathlib.Data.Nat.ChineseRemainder

/-! # Rotating through a cycle

A counter that goes up by one meets every residue of a modulus once in as many steps, and every
pair of residues of two coprime moduli in as many steps as their product. A list is cut into slices
of one size, and its slices are counted through in an order that starts anywhere in the cycle.
-/

namespace Rotation

variable {α : Type} {m n : ℕ}

theorem exists_add_mod_eq (start : ℕ) {r : ℕ} (hr : r < m) : ∃ k < m, (start + k) % m = r := by
  refine ⟨(r + (m - start % m)) % m, Nat.mod_lt _ (by omega), ?_⟩
  have hstart : start % m < m := Nat.mod_lt _ (by omega)
  rw [Nat.add_mod_mod, Nat.add_mod, Nat.add_mod_mod]
  have hsum : start % m + (r + (m - start % m)) = r + m := by omega
  rw [hsum, Nat.add_mod_right, Nat.mod_eq_of_lt hr]

theorem add_mod_inj {start k k' : ℕ} (hk : k < m) (hk' : k' < m)
    (h : (start + k) % m = (start + k') % m) : k = k' := by
  have heq : k ≡ k' [MOD m] := Nat.ModEq.add_left_cancel' start h
  rwa [Nat.ModEq, Nat.mod_eq_of_lt hk, Nat.mod_eq_of_lt hk'] at heq

/-- Two coprime moduli are in any two residues together within as many steps as their product. -/
theorem exists_add_mod_mod_eq (h : Nat.Coprime m n) (start : ℕ) {r s : ℕ} (hr : r < m)
    (hs : s < n) : ∃ k < m * n, (start + k) % m = r ∧ (start + k) % n = s := by
  obtain ⟨x, hxr, hxs⟩ := Nat.chineseRemainder h r s
  have hpos : 0 < m * n := Nat.mul_pos (by omega) (by omega)
  obtain ⟨k, hk, hmod⟩ := exists_add_mod_eq start (Nat.mod_lt x hpos)
  refine ⟨k, hk, ?_, ?_⟩
  · rw [← Nat.mod_mod_of_dvd _ (Nat.dvd_mul_right m n), hmod,
      Nat.mod_mod_of_dvd _ (Nat.dvd_mul_right m n), hxr, Nat.mod_eq_of_lt hr]
  · rw [← Nat.mod_mod_of_dvd _ (Nat.dvd_mul_left n m), hmod,
      Nat.mod_mod_of_dvd _ (Nat.dvd_mul_left n m), hxs, Nat.mod_eq_of_lt hs]

/-- The numbers below `m` from the residue of `start` on, around the cycle. -/
def cycle (m start : ℕ) : List ℕ := (List.range m).map fun k => (start % m + k) % m

theorem cycle_perm (m start : ℕ) : (cycle m start).Perm (List.range m) := by
  have hnodup : (cycle m start).Nodup := by
    refine List.Nodup.map_on (fun k hk k' hk' h => ?_) List.nodup_range
    exact add_mod_inj (List.mem_range.1 hk) (List.mem_range.1 hk') h
  refine (List.perm_ext_iff_of_nodup hnodup List.nodup_range).2 fun r => ?_
  rw [cycle, List.mem_map, List.mem_range]
  constructor
  · rintro ⟨k, hk, rfl⟩
    exact Nat.mod_lt _ (by have := List.mem_range.1 hk; omega)
  · intro hr
    obtain ⟨k, hk, hmod⟩ := exists_add_mod_eq (start % m) hr
    exact ⟨k, List.mem_range.2 hk, hmod⟩

theorem head?_cycle (hm : 0 < m) (start : ℕ) : (cycle m start).head? = some (start % m) := by
  rw [cycle, List.head?_map, List.head?_range, if_neg (by omega), Option.map_some, Nat.add_zero,
    Nat.mod_mod]

/-- The entries of a list from a position on, up to a number. -/
def slice (l : List α) (start limit : ℕ) : List α := (l.drop start).take limit

theorem mem_slice_range {start limit i : ℕ} :
    i ∈ slice (List.range n) start limit ↔ start ≤ i ∧ i < start + limit ∧ i < n := by
  rw [slice, List.mem_iff_getElem?]
  constructor
  · rintro ⟨k, hk⟩
    rw [List.getElem?_take] at hk
    split at hk
    · rw [List.getElem?_drop, List.getElem?_eq_some_iff] at hk
      obtain ⟨hlt, heq⟩ := hk
      rw [List.getElem_range] at heq
      rw [List.length_range] at hlt
      omega
    · cases hk
  · rintro ⟨hlow, hhigh, hlt⟩
    refine ⟨i - start, ?_⟩
    rw [List.getElem?_take, if_pos (by omega), List.getElem?_drop,
      show start + (i - start) = i by omega, List.getElem?_range hlt]

theorem flatMap_slice (size : ℕ) (l : List α) (h : l.length ≤ m * size) :
    ((List.range m).flatMap fun i => slice l (i * size) size) = l := by
  induction m generalizing l with
  | zero =>
    rw [Nat.zero_mul, Nat.le_zero, List.length_eq_zero_iff] at h
    rw [h]
    rfl
  | succ m ih =>
    have hrest := ih (l.drop size) (by rw [List.length_drop]; rw [Nat.add_mul] at h; omega)
    have hshift : ∀ i, slice l ((i + 1) * size) size = slice (l.drop size) (i * size) size := by
      intro i
      rw [slice, slice, List.drop_drop, Nat.add_mul, Nat.one_mul, Nat.add_comm]
    rw [List.range_succ_eq_map, List.flatMap_cons, List.flatMap_map]
    simp only [Nat.succ_eq_add_one, hshift, hrest]
    rw [slice, Nat.zero_mul, List.drop_zero, List.take_append_drop]

end Rotation
