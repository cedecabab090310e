import Mathlib.Data.List.Perm.Subperm

/-! # Greedy selection

Candidates are taken one at a time: in every round each remaining one is scored against what
was taken so far, and the first of those with the highest score is taken out of the list. A
candidate without a score cannot be taken in that round, but stays. The selection stops when
the state is full or nothing can be taken.
-/

namespace Greedy

structure Rules (σ α κ : Type) where
  score : σ → α → Option κ
  beats : κ → κ → Bool
  take : σ → α → σ
  full : σ → Bool

variable {σ α κ : Type} (rules : Rules σ α κ)

/-- One pass over the candidates, with the best one so far and its position. -/
def Rules.scan (s : σ) : ℕ → Option (ℕ × κ) → List α → Option (ℕ × κ)
  | _, best, [] => best
  | i, best, a :: rest =>
    let best := match rules.score s a, best with
      | none, best => best
      | some k, none => some (i, k)
      | some k, some (j, k') => if rules.beats k k' then some (i, k) else some (j, k')
    scan s (i + 1) best rest

/-- The position of the candidate to take. -/
def Rules.best (s : σ) (remaining : List α) : Option ℕ := (rules.scan s 0 none remaining).map Prod.fst

/-- At most that many rounds. -/
def Rules.fill : ℕ → σ → List α → σ × List α
  | 0, s, remaining => (s, remaining)
  | n + 1, s, remaining =>
    if rules.full s then (s, remaining)
    else
      match rules.best s remaining with
      | none => (s, remaining)
      | some i =>
        match remaining[i]? with
        | none => (s, remaining)
        | some a => fill n (rules.take s a) (remaining.eraseIdx i)

/-- The selection: every round takes a candidate, so there are at most as many rounds. -/
def Rules.select (s : σ) (candidates : List α) : σ × List α :=
  rules.fill candidates.length s candidates

variable {rules}

/-! ## One pass -/

/-- The position is that of a candidate with a score. -/
def Points (rules : Rules σ α κ) (s : σ) (all : List α) (i : ℕ) : Prop :=
  ∃ a, all[i]? = some a ∧ (rules.score s a).isSome = true

theorem scan_points (s : σ) (before rest : List α) (best : Option (ℕ × κ))
    (hbest : ∀ e ∈ best, Points rules s (before ++ rest) e.1) :
    ∀ e ∈ rules.scan s before.length best rest, Points rules s (before ++ rest) e.1 := by
  induction rest generalizing before best with
  | nil => exact hbest
  | cons a rest ih =>
    have hhere : (before ++ a :: rest)[before.length]? = some a := by simp
    have happend : before ++ a :: rest = (before ++ [a]) ++ rest := by simp
    have hlength : before.length + 1 = (before ++ [a]).length := by simp
    unfold Rules.scan
    rw [hlength, happend]
    apply ih
    rw [← happend]
    intro e he
    cases hscore : rules.score s a with
    | none =>
      rw [hscore] at he
      exact hbest e he
    | some k =>
      rw [hscore] at he
      have hpoints : Points rules s (before ++ a :: rest) before.length :=
        ⟨a, hhere, by rw [hscore]; rfl⟩
      cases best with
      | none =>
        cases he
        exact hpoints
      | some e' =>
        simp only at he
        split at he
        · cases he
          exact hpoints
        · cases he
          exact hbest e' rfl

theorem scan_isSome (s : σ) (rest : List α) (i : ℕ) (best : Option (ℕ × κ))
    (h : best.isSome = true ∨ ∃ a ∈ rest, (rules.score s a).isSome = true) :
    (rules.scan s i best rest).isSome = true := by
  induction rest generalizing i best with
  | nil =>
    rcases h with h | ⟨a, ha, -⟩
    · exact h
    · cases ha
  | cons a rest ih =>
    unfold Rules.scan
    apply ih
    cases hscore : rules.score s a with
    | none =>
      rcases h with h | ⟨a', ha', hsome⟩
      · exact Or.inl h
      · rcases List.mem_cons.1 ha' with rfl | hrest
        · rw [hscore] at hsome
          cases hsome
        · exact Or.inr ⟨a', hrest, hsome⟩
    | some k =>
      left
      cases best with
      | none => rfl
      | some e =>
        simp only
        split <;> rfl

theorem best_eq_some {s : σ} {remaining : List α} {i : ℕ} (h : rules.best s remaining = some i) :
    Points rules s remaining i := by
  unfold Rules.best at h
  obtain ⟨e, he, rfl⟩ := Option.map_eq_some_iff.1 h
  exact scan_points s [] remaining none (fun e he => by cases he) e he

theorem best_eq_none {s : σ} {remaining : List α} (h : rules.best s remaining = none) :
    ∀ a ∈ remaining, rules.score s a = none := by
  intro a ha
  cases hscore : rules.score s a with
  | none => rfl
  | some k =>
    have hsome := @scan_isSome _ _ _ rules s remaining 0 none
      (Or.inr ⟨a, ha, by rw [hscore]; rfl⟩)
    unfold Rules.best at h
    rw [Option.map_eq_none_iff] at h
    rw [h] at hsome
    cases hsome

/-! ## The rounds -/

/-- **The invariant rule.** What holds at the start and is kept by taking a candidate with a
score, before the state is full, holds at the end. -/
theorem fill_invariant (rules : Rules σ α κ) {Inv : σ → List α → Prop}
    (hstep : ∀ s remaining i a, Inv s remaining → rules.full s = false → remaining[i]? = some a →
      (rules.score s a).isSome = true → Inv (rules.take s a) (remaining.eraseIdx i))
    (n : ℕ) (s : σ) (remaining : List α) (h : Inv s remaining) :
    Inv (rules.fill n s remaining).1 (rules.fill n s remaining).2 := by
  induction n generalizing s remaining with
  | zero => exact h
  | succ n ih =>
    unfold Rules.fill
    cases hfull : rules.full s with
    | true => exact h
    | false =>
      simp only [Bool.false_eq_true, if_false]
      cases hbest : rules.best s remaining with
      | none => exact h
      | some i =>
        obtain ⟨a, ha, hscore⟩ := best_eq_some hbest
        simp only [ha]
        exact ih _ _ (hstep s remaining i a h hfull ha hscore)

/-- **The selection stops for a reason**: the state is full, or nothing left has a score. -/
theorem fill_stops (rules : Rules σ α κ) (n : ℕ) (s : σ) (remaining : List α) (hrounds : remaining.length ≤ n) :
    rules.full (rules.fill n s remaining).1 = true
      ∨ ∀ a ∈ (rules.fill n s remaining).2, rules.score (rules.fill n s remaining).1 a = none := by
  induction n generalizing s remaining with
  | zero =>
    right
    intro a ha
    rw [List.length_eq_zero_iff.1 (Nat.le_zero.1 hrounds)] at ha
    cases ha
  | succ n ih =>
    unfold Rules.fill
    cases hfull : rules.full s with
    | true => exact Or.inl hfull
    | false =>
      simp only [Bool.false_eq_true, if_false]
      cases hbest : rules.best s remaining with
      | none => exact Or.inr (best_eq_none hbest)
      | some i =>
        obtain ⟨a, ha, -⟩ := best_eq_some hbest
        simp only [ha]
        apply ih
        have hlt : i < remaining.length := (List.getElem?_eq_some_iff.1 ha).1
        rw [List.length_eraseIdx_of_lt hlt]
        omega

theorem perm_taken {remaining : List α} {i : ℕ} {a : α} (h : remaining[i]? = some a)
    (taken : List α) :
    ((taken ++ [a]) ++ remaining.eraseIdx i).Perm (taken ++ remaining) := by
  obtain ⟨hlt, rfl⟩ := List.getElem?_eq_some_iff.1 h
  rw [List.append_assoc]
  apply List.Perm.append_left
  exact (List.getElem_cons_eraseIdx_perm hlt)

end Greedy
