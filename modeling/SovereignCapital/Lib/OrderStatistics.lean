import Mathlib.Data.List.Sort

/-! # Order statistics

The list in order, and what stands in its middle: where more than half of the values lie in an
interval, so do the values in the middle, wherever the others lie. A list that is sorted by one
order is sorted by every coarser one.
-/

namespace OrderStatistics

variable {α : Type} [LinearOrder α]

/-- `sorted(l)`. -/
def ranked (l : List α) : List α := l.insertionSort (· ≤ ·)

theorem ranked_perm_self (l : List α) : (ranked l).Perm l := List.perm_insertionSort _ l

theorem pairwise_ranked (l : List α) : (ranked l).Pairwise (· ≤ ·) :=
  List.pairwise_insertionSort _ l

@[simp] theorem length_ranked (l : List α) : (ranked l).length = l.length :=
  List.length_insertionSort _ l

@[simp] theorem mem_ranked {l : List α} {x : α} : x ∈ ranked l ↔ x ∈ l := List.mem_insertionSort _

/-- The order in which values are given does not matter. -/
theorem ranked_eq_of_perm {l l' : List α} (h : l.Perm l') : ranked l = ranked l' :=
  List.Perm.eq_of_pairwise' (pairwise_ranked l) (pairwise_ranked l')
    (((ranked_perm_self l).trans h).trans (ranked_perm_self l').symm)

/-! ## The middle -/

section

variable {s : List α} (hs : s.Pairwise (· ≤ ·)) {k : ℕ} {x a : α} (hx : s[k]? = some x)

include hs hx

/-- What stands up to a value below the bound is below it. -/
theorem lt_countP_of_lt (h : x < a) : k < s.countP fun y => decide (y < a) := by
  obtain ⟨hk, rfl⟩ := List.getElem?_eq_some_iff.1 hx
  have hall : ∀ y ∈ s.take (k + 1), decide (y < a) = true := by
    intro y hy
    obtain ⟨i, hi, rfl⟩ := List.getElem_of_mem hy
    rw [List.length_take] at hi
    rw [List.getElem_take, decide_eq_true_iff]
    refine lt_of_le_of_lt ?_ h
    rcases Nat.lt_or_ge i k with hlt | hge
    · exact List.pairwise_iff_getElem.1 hs i k _ hk hlt
    · have hik : i = k := by omega
      subst hik
      exact le_refl _
  have hcount : (s.take (k + 1)).countP (fun y => decide (y < a)) = k + 1 := by
    rw [List.countP_eq_length.2 hall, List.length_take]
    omega
  have hle := (List.take_sublist (k + 1) s).countP_le (p := fun y => decide (y < a))
  omega

/-- What stands from a value above the bound on is above it. -/
theorem length_le_countP_of_lt (h : a < x) :
    s.length ≤ k + s.countP fun y => decide (a < y) := by
  obtain ⟨hk, rfl⟩ := List.getElem?_eq_some_iff.1 hx
  have hall : ∀ y ∈ s.drop k, decide (a < y) = true := by
    intro y hy
    obtain ⟨i, hi, rfl⟩ := List.getElem_of_mem hy
    rw [List.length_drop] at hi
    rw [List.getElem_drop, decide_eq_true_iff]
    refine lt_of_lt_of_le h ?_
    rcases Nat.eq_zero_or_pos i with hzero | hpos
    · subst hzero
      exact le_refl _
    · exact List.pairwise_iff_getElem.1 hs k (k + i) hk _ (by omega)
  have hcount : (s.drop k).countP (fun y => decide (a < y)) = s.length - k := by
    rw [List.countP_eq_length.2 hall, List.length_drop]
  have hle := (List.drop_sublist k s).countP_le (p := fun y => decide (a < y))
  omega

end

/-- Values are below an interval, in it, or above it. -/
theorem countP_between_le (l : List α) (lo hi : α) {p : α → Bool}
    (hp : ∀ y ∈ l, p y = true → ¬ (lo ≤ y ∧ y ≤ hi)) :
    l.countP p + l.countP (fun y => decide (lo ≤ y ∧ y ≤ hi)) ≤ l.length := by
  have hrest : l.countP p ≤ l.countP fun y => ¬ decide (lo ≤ y ∧ y ≤ hi) = true := by
    refine List.countP_mono_left fun y hy hpy => ?_
    have hnot := hp y hy hpy
    simp only [decide_eq_true_eq]
    exact hnot
  have htotal := List.length_eq_countP_add_countP (fun y => decide (lo ≤ y ∧ y ≤ hi)) (l := l)
  omega

/-- **The middle lies where the majority lies.** -/
theorem middle_mem {l : List α} {lo hi : α}
    (hmajority : l.length < 2 * l.countP fun y => decide (lo ≤ y ∧ y ≤ hi))
    {k : ℕ} (hlow : l.length ≤ 2 * (k + 1)) (hhigh : 2 * k ≤ l.length) {x : α}
    (hx : (ranked l)[k]? = some x) : lo ≤ x ∧ x ≤ hi := by
  have hsorted := pairwise_ranked l
  have hcount : ∀ p : α → Bool, (ranked l).countP p = l.countP p :=
    fun p => (ranked_perm_self l).countP_eq p
  constructor
  · by_contra hlt
    have hbelow := lt_countP_of_lt hsorted hx (not_le.1 hlt)
    rw [hcount] at hbelow
    have hsplit := countP_between_le l lo hi (p := fun y => decide (y < lo)) (by
      intro y _ hy hmem
      exact absurd hmem.1 (not_le.2 (decide_eq_true_iff.1 hy)))
    omega
  · by_contra hgt
    have habove := length_le_countP_of_lt hsorted hx (not_le.1 hgt)
    rw [hcount, length_ranked] at habove
    have hsplit := countP_between_le l lo hi (p := fun y => decide (hi < y)) (by
      intro y _ hy hmem
      exact absurd hmem.2 (not_le.2 (decide_eq_true_iff.1 hy)))
    omega

/-! ## Coarser orders -/

section Coarser

variable {β : Type} {r s : β → β → Prop} [DecidableRel r]

/-- An order that the sorting one refines holds along the sorted list. -/
theorem pairwise_orderedInsert_coarser (hle : ∀ a b, r a b → s a b) (hnot : ∀ a b, ¬ r a b → s b a)
    (htrans : ∀ a b c, s a b → s b c → s a c) (a : β) {l : List β} (h : l.Pairwise s) :
    (l.orderedInsert r a).Pairwise s := by
  induction l with
  | nil => exact List.pairwise_singleton s a
  | cons b l ih =>
    obtain ⟨hb, hl⟩ := List.pairwise_cons.1 h
    rw [List.orderedInsert_cons]
    split
    · rename_i hab
      refine List.pairwise_cons.2 ⟨?_, h⟩
      intro c hc
      rcases List.mem_cons.1 hc with rfl | hc
      · exact hle _ _ hab
      · exact htrans _ _ _ (hle _ _ hab) (hb c hc)
    · rename_i hab
      refine List.pairwise_cons.2 ⟨?_, ih hl⟩
      intro c hc
      rcases (List.mem_orderedInsert r).1 hc with rfl | hc
      · exact hnot _ _ hab
      · exact hb c hc

theorem pairwise_insertionSort_coarser (hle : ∀ a b, r a b → s a b) (hnot : ∀ a b, ¬ r a b → s b a)
    (htrans : ∀ a b c, s a b → s b c → s a c) (l : List β) : (l.insertionSort r).Pairwise s := by
  induction l with
  | nil => exact List.Pairwise.nil
  | cons a l ih => exact pairwise_orderedInsert_coarser hle hnot htrans a ih

end Coarser

end OrderStatistics
