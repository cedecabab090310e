import Mathlib.Order.MinMax

/-! # The least of some ceilings

A value that is allowed under a base and any number of ceilings is the least of them. The rules
compare two such values ceiling by ceiling, also after a monotone function.
-/

namespace Ceiling

variable {α β : Type} [LinearOrder α] [LinearOrder β]

def least (base : α) (ceilings : List α) : α := ceilings.foldl min base

theorem least_mem (base : α) (ceilings : List α) : least base ceilings ∈ base :: ceilings := by
  induction ceilings generalizing base with
  | nil => exact List.mem_singleton.2 rfl
  | cons c cs ih =>
    rcases List.mem_cons.1 (ih (min base c)) with heq | hmem
    · rcases min_choice base c with hmin | hmin
      · exact List.mem_cons.2 (Or.inl (heq.trans hmin))
      · exact List.mem_cons_of_mem _ (List.mem_cons.2 (Or.inl (heq.trans hmin)))
    · exact List.mem_cons_of_mem _ (List.mem_cons_of_mem _ hmem)

theorem least_le {base c : α} {ceilings : List α} (hc : c ∈ base :: ceilings) :
    least base ceilings ≤ c := by
  induction ceilings generalizing base c with
  | nil => exact (List.mem_singleton.1 hc).ge
  | cons c' cs ih =>
    have hbase : least (min base c') cs ≤ min base c' := ih List.mem_cons_self
    rcases List.mem_cons.1 hc with rfl | hc
    · exact hbase.trans (min_le_left _ _)
    · rcases List.mem_cons.1 hc with rfl | hc
      · exact hbase.trans (min_le_right _ _)
      · exact ih (List.mem_cons_of_mem _ hc)

/-- **Comparing two values.** After a monotone function the one is at most the other exactly when
every ceiling of the other is met by one of its own. -/
theorem map_least_le_iff {f : α → β} (hf : Monotone f) {base base' : α} {cs cs' : List α} :
    f (least base' cs') ≤ f (least base cs)
      ↔ ∀ c ∈ base :: cs, ∃ c' ∈ base' :: cs', f c' ≤ f c := by
  constructor
  · intro h c hc
    exact ⟨_, least_mem base' cs', h.trans (hf (least_le hc))⟩
  · intro h
    obtain ⟨c', hc', hle⟩ := h _ (least_mem base cs)
    exact (hf (least_le hc')).trans hle

end Ceiling
