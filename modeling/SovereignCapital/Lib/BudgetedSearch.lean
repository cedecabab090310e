import Mathlib.Data.List.Infix
import Mathlib.Order.Lattice

/-! # Search under a budget

A search visits the elements of a list that is never built, records each in an accumulator and
gives up when its budget is spent. `Enumerates` says what such a search does: it records the
elements of a prefix of the list, and of the whole list when some budget is left. The rules
follow the ways a search is put together. The last section is about an accumulator that keeps
the best element.
-/

namespace BudgetedSearch

/-! ## Enumerations -/

section Enumerates

variable {σ α β : Type} (acc : σ → β) (record : β → α → β) (spent : σ → Bool)

/-- The search records a prefix of the list, all of it unless the budget is spent. -/
def Enumerates (f : σ → σ) (all : List α) : Prop :=
  ∀ s, ∃ visited, visited <+: all ∧ acc (f s) = visited.foldl record (acc s)
    ∧ (spent (f s) = false → visited = all)

variable {acc record spent} {f g : σ → σ} {xs ys : List α}

/-- A search that only moves its budget visits nothing. -/
theorem enumerates_nothing (h : ∀ s, acc (f s) = acc s) : Enumerates acc record spent f [] :=
  fun s => ⟨[], List.prefix_refl _, h s, fun _ => rfl⟩

theorem enumerates_one {a : α} (h : ∀ s, acc (f s) = record (acc s) a) :
    Enumerates acc record spent f [a] :=
  fun s => ⟨[a], List.prefix_refl _, h s, fun _ => rfl⟩

/-- One search after the other, unless the first one spends the budget. -/
theorem Enumerates.seq (hf : Enumerates acc record spent f xs)
    (hg : Enumerates acc record spent g ys) :
    Enumerates acc record spent (fun s => if spent (f s) then f s else g (f s)) (xs ++ ys) := by
  intro s
  obtain ⟨first, hfirst, hacc, hall⟩ := hf s
  by_cases hspent : spent (f s) = true
  · simp only [if_pos hspent]
    refine ⟨first, hfirst.trans (List.prefix_append _ _), hacc, ?_⟩
    intro hleft
    rw [hspent] at hleft
    cases hleft
  · simp only [if_neg hspent]
    obtain ⟨second, hsecond, hacc', hall'⟩ := hg (f s)
    obtain rfl : first = xs := hall (by simpa using hspent)
    refine ⟨first ++ second, (List.prefix_append_right_inj _).2 hsecond, ?_, ?_⟩
    · rw [List.foldl_append, ← hacc]
      exact hacc'
    · intro hleft
      rw [hall' hleft]

/-- A search that looks at its budget and uses up some of it first. -/
theorem Enumerates.guarded (hf : Enumerates acc record spent f xs) {use : σ → σ}
    (huse : ∀ s, acc (use s) = acc s) :
    Enumerates acc record spent (fun s => if spent s then s else f (use s)) xs := by
  intro s
  by_cases hspent : spent s = true
  · simp only [if_pos hspent]
    refine ⟨[], List.nil_prefix, rfl, ?_⟩
    intro hleft
    rw [hspent] at hleft
    cases hleft
  · simp only [if_neg hspent]
    obtain ⟨visited, hvisited, hacc, hall⟩ := hf (use s)
    exact ⟨visited, hvisited, by rw [← huse s]; exact hacc, hall⟩

end Enumerates

/-! ## The best element -/

section Best

variable {α β : Type} [LinearOrder β] (value : α → β)

/-- Keeps the first of the elements of the highest value. -/
def keepBetter (best : Option α) (a : α) : Option α :=
  match best with
  | none => some a
  | some b => if value b < value a then some a else some b

variable {value}

theorem keepBetter_eq_some {best : Option α} {a b : α} (h : keepBetter value best a = some b) :
    b = a ∨ best = some b := by
  unfold keepBetter at h
  cases best with
  | none => exact Or.inl (Option.some.inj h).symm
  | some c =>
    simp only at h
    split at h
    · exact Or.inl (Option.some.inj h).symm
    · exact Or.inr h

/-- Something is kept, worth at least the element and what was kept before. -/
theorem keepBetter_covers (best : Option α) (a : α) :
    ∃ b, keepBetter value best a = some b ∧ value a ≤ value b
      ∧ ∀ c, best = some c → value c ≤ value b := by
  cases best with
  | none => exact ⟨a, rfl, le_rfl, fun c hc => by cases hc⟩
  | some c =>
    unfold keepBetter
    by_cases hlt : value c < value a
    · refine ⟨a, if_pos hlt, le_rfl, ?_⟩
      intro c' hc'
      cases hc'
      exact hlt.le
    · refine ⟨c, if_neg hlt, not_lt.1 hlt, ?_⟩
      intro c' hc'
      cases hc'
      exact le_rfl

/-- **The kept element is one of those seen.** -/
theorem foldl_keepBetter_mem {as : List α} {best : Option α} {b : α}
    (h : as.foldl (keepBetter value) best = some b) : b ∈ as ∨ best = some b := by
  induction as generalizing best with
  | nil => exact Or.inr h
  | cons a as ih =>
    rcases ih h with hmem | hbest
    · exact Or.inl (List.mem_cons_of_mem a hmem)
    · rcases keepBetter_eq_some hbest with rfl | hold
      · exact Or.inl List.mem_cons_self
      · exact Or.inr hold

/-- **No element seen is worth more than the kept one.** -/
theorem foldl_keepBetter_covers {as : List α} {best : Option α} {a : α}
    (ha : a ∈ as ∨ best = some a) :
    ∃ b, as.foldl (keepBetter value) best = some b ∧ value a ≤ value b := by
  induction as generalizing best a with
  | nil =>
    rcases ha with hmem | rfl
    · cases hmem
    · exact ⟨a, rfl, le_rfl⟩
  | cons head as ih =>
    obtain ⟨kept, hkept, hhead, hold⟩ := @keepBetter_covers α β _ value best head
    have hcovered : ∀ x, value x ≤ value kept →
        ∃ b, (head :: as).foldl (keepBetter value) best = some b ∧ value x ≤ value b := by
      intro x hx
      obtain ⟨b, hb, hle⟩ := @ih (keepBetter value best head) kept (Or.inr hkept)
      exact ⟨b, hb, hx.trans hle⟩
    rcases ha with hmem | hbest
    · rcases List.mem_cons.1 hmem with rfl | hrest
      · exact hcovered a hhead
      · exact ih (Or.inl hrest)
    · exact hcovered a (hold a hbest)

/-- The kept element is the first of those of the highest value. -/
theorem foldl_keepBetter_iff {as : List α} {b : α} : as.foldl (keepBetter value) none = some b
    ↔ ∃ before after, as = before ++ b :: after ∧ (∀ c ∈ before, value c < value b)
      ∧ ∀ c ∈ after, value c ≤ value b := by
  constructor
  · intro h
    induction as using List.reverseRecOn generalizing b with
    | nil => cases h
    | append_singleton as a ih =>
      rw [List.foldl_concat] at h
      have hcover : ∀ c ∈ as, ∃ k, as.foldl (keepBetter value) none = some k ∧ value c ≤ value k :=
        fun c hc => foldl_keepBetter_covers (.inl hc)
      cases hbest : as.foldl (keepBetter value) none with
      | none =>
        rw [hbest] at h hcover
        refine ⟨as, [], by rw [Option.some.inj h], fun c hc => ?_, fun c hc => nomatch hc⟩
        obtain ⟨k, hk, -⟩ := hcover c hc
        cases hk
      | some k =>
        rw [hbest] at h hcover
        simp only [keepBetter] at h
        split at h
        · rename_i hlt
          refine ⟨as, [], by rw [Option.some.inj h], fun c hc => ?_, fun c hc => nomatch hc⟩
          obtain ⟨k', hk', hle⟩ := hcover c hc
          cases hk'
          cases h
          exact hle.trans_lt hlt
        · rename_i hnot
          obtain ⟨before, after, rfl, hbefore, hafter⟩ := ih (hbest.trans h)
          refine ⟨before, after ++ [a], by simp, hbefore, fun c hc => ?_⟩
          cases h
          rcases List.mem_append.1 hc with hc | hc
          · exact hafter c hc
          · exact List.mem_singleton.1 hc ▸ not_lt.1 hnot
  · rintro ⟨before, after, rfl, hbefore, hafter⟩
    have hb : keepBetter value (before.foldl (keepBetter value) none) b = some b := by
      cases hbest : before.foldl (keepBetter value) none with
      | none => rfl
      | some c =>
        rcases foldl_keepBetter_mem hbest with hc | hc
        · exact if_pos (hbefore c hc)
        · cases hc
    rw [List.foldl_append, List.foldl_cons, hb]
    clear hb hbefore
    induction after with
    | nil => rfl
    | cons c after ih =>
      have hskip : keepBetter value (some b) c = some b :=
        if_neg (not_lt.2 (hafter c List.mem_cons_self))
      rw [List.foldl_cons, hskip]
      exact ih fun c' hc' => hafter c' (List.mem_cons_of_mem c hc')

end Best

end BudgetedSearch
