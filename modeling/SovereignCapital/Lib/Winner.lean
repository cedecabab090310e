import Mathlib.Data.List.MinMax

/-! # The winner of a ranking

`List.argmax` picks the first of the elements with the highest score. The order of the list decides
between equal scores only.
-/

namespace Winner

variable {α β γ : Type} [LinearOrder β] {score : α → β} {l l' : List α} {a : α}

theorem quantity_le [Preorder γ] {quantity : α → γ}
    (hmono : ∀ x ∈ l, ∀ y ∈ l, score x ≤ score y → quantity x ≤ quantity y)
    (ha : l.argmax score = some a) : ∀ x ∈ l, quantity x ≤ quantity a := fun x hx =>
  hmono x hx a (List.argmax_mem ha) (List.le_of_mem_argmax hx ha)

theorem exists_of_mem (score : α → β) {x : α} (hx : x ∈ l) : ∃ a, l.argmax score = some a := by
  cases hwinner : l.argmax score with
  | some a => exact ⟨a, rfl⟩
  | none =>
    rw [List.argmax_eq_none] at hwinner
    subst hwinner
    cases hx

/-- **Another order.** The winners of a list in two orders have the same score. -/
theorem score_of_perm (score : α → β) (h : l.Perm l') :
    (l.argmax score).map score = (l'.argmax score).map score := by
  cases hwinner : l.argmax score with
  | none =>
    rw [List.argmax_eq_none] at hwinner
    subst hwinner
    obtain rfl : l' = [] := h.symm.eq_nil
    rfl
  | some a =>
    have hmem := h.subset (List.argmax_mem hwinner)
    obtain ⟨b, hb⟩ := exists_of_mem score hmem
    rw [hb]
    have hle : score a ≤ score b := List.le_of_mem_argmax hmem hb
    have hge : score b ≤ score a :=
      List.le_of_mem_argmax (h.symm.subset (List.argmax_mem hb)) hwinner
    exact congrArg some (le_antisymm hle hge)

end Winner
