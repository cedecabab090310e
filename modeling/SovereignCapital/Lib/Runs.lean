import Mathlib.Data.List.Infix

/-! # Runs of a step function

A system is a step function on states; a run is a list of calls. `AllSteps` says that every
call of a run meets a condition in the state it is made in. The rules lift what one call
preserves to what every run preserves, in every state on the way.
-/

namespace Runs

variable {σ α : Type} {step : σ → α → σ}

def run (step : σ → α → σ) (s : σ) (calls : List α) : σ := calls.foldl step s

/-- Every call of the run meets its condition in the state it is made in. -/
def AllSteps (step : σ → α → σ) (ok : σ → α → Prop) : σ → List α → Prop
  | _, [] => True
  | s, call :: calls => ok s call ∧ AllSteps step ok (step s call) calls

@[simp] theorem run_nil (s : σ) : run step s [] = s := rfl

@[simp] theorem run_cons (s : σ) (call : α) (calls : List α) :
    run step s (call :: calls) = run step (step s call) calls := rfl

theorem run_append (s : σ) (calls calls' : List α) :
    run step s (calls ++ calls') = run step (run step s calls) calls' :=
  List.foldl_append

theorem AllSteps.of_append {ok : σ → α → Prop} {s : σ} {calls calls' : List α}
    (h : AllSteps step ok s (calls ++ calls')) :
    AllSteps step ok s calls ∧ AllSteps step ok (run step s calls) calls' := by
  induction calls generalizing s with
  | nil => exact ⟨trivial, h⟩
  | cons call calls ih =>
    obtain ⟨hcall, hrest⟩ := h
    obtain ⟨hleft, hright⟩ := ih hrest
    exact ⟨⟨hcall, hleft⟩, hright⟩

theorem AllSteps.of_prefix {ok : σ → α → Prop} {s : σ} {calls reached : List α}
    (h : AllSteps step ok s calls) (hreached : reached <+: calls) :
    AllSteps step ok s reached := by
  obtain ⟨rest, rfl⟩ := hreached
  exact h.of_append.1

theorem AllSteps.snoc {ok : σ → α → Prop} {s : σ} {calls : List α} {call : α}
    (h : AllSteps step ok s calls) (hlast : ok (run step s calls) call) :
    AllSteps step ok s (calls ++ [call]) := by
  induction calls generalizing s with
  | nil => exact ⟨hlast, trivial⟩
  | cons first rest ih => exact ⟨h.1, ih h.2 hlast⟩

theorem AllSteps.and {ok ok' : σ → α → Prop} {s : σ} {calls : List α}
    (h : AllSteps step ok s calls) (h' : AllSteps step ok' s calls) :
    AllSteps step (fun s call => ok s call ∧ ok' s call) s calls := by
  induction calls generalizing s with
  | nil => trivial
  | cons call calls ih => exact ⟨⟨h.1, h'.1⟩, ih h.2 h'.2⟩

/-- **The invariant rule.** What holds at the start and is kept by every call that meets its
condition holds after the run. -/
theorem run_invariant {ok : σ → α → Prop} {Inv : σ → Prop}
    (hstep : ∀ s call, Inv s → ok s call → Inv (step s call)) {s : σ} (hstart : Inv s)
    {calls : List α} (hok : AllSteps step ok s calls) : Inv (run step s calls) := by
  induction calls generalizing s with
  | nil => exact hstart
  | cons call calls ih => exact ih (hstep s call hstart hok.1) hok.2

theorem reached_invariant {ok : σ → α → Prop} {Inv : σ → Prop}
    (hstep : ∀ s call, Inv s → ok s call → Inv (step s call)) {s : σ} (hstart : Inv s)
    {calls reached : List α} (hok : AllSteps step ok s calls) (hreached : reached <+: calls) :
    Inv (run step s reached) :=
  run_invariant hstep hstart (hok.of_prefix hreached)

theorem allSteps_of_forall {ok : σ → α → Prop} (h : ∀ s call, ok s call) (s : σ)
    (calls : List α) : AllSteps step ok s calls := by
  induction calls generalizing s with
  | nil => trivial
  | cons call calls ih => exact ⟨h s call, ih _⟩

/-- **The exact condition of a run.** When a call breaks a property as soon as it misses its
condition, the property holds in every state reached exactly when every call meets it. The
run may keep to a further rule, `lawful`. -/
theorem reached_iff {lawful ok : σ → α → Prop} {Inv Good : σ → Prop}
    (hgood : ∀ s, Inv s → Good s)
    (hstep : ∀ s call, Inv s → lawful s call → ok s call → Inv (step s call))
    (hbreak : ∀ s call, Inv s → lawful s call → Good (step s call) → ok s call)
    {s : σ} (hstart : Inv s) {calls : List α} (hlawful : AllSteps step lawful s calls) :
    (∀ reached, reached <+: calls → Good (run step s reached)) ↔ AllSteps step ok s calls := by
  induction calls generalizing s with
  | nil =>
    constructor
    · exact fun _ => trivial
    · intro _ reached hreached
      rw [List.prefix_nil.1 hreached]
      exact hgood s hstart
  | cons call calls ih =>
    obtain ⟨hcall, hrest⟩ := hlawful
    constructor
    · intro hall
      have hfirst : Good (step s call) := hall [call] ⟨calls, rfl⟩
      have hok := hbreak s call hstart hcall hfirst
      refine ⟨hok, (ih (hstep s call hstart hcall hok) hrest).1 fun reached hreached => ?_⟩
      exact hall (call :: reached) (List.cons_prefix_cons.2 ⟨rfl, hreached⟩)
    · rintro ⟨hok, htail⟩ reached hreached
      cases reached with
      | nil => exact hgood s hstart
      | cons call' reached =>
        obtain ⟨rfl, hrestReached⟩ := List.cons_prefix_cons.1 hreached
        exact (ih (hstep s _ hstart hcall hok) hrest).2 htail reached hrestReached

/-- **The exact condition of a run, call by call.** When under an invariant a call does what
it should exactly if it meets its condition, and then keeps the invariant, a whole run does
what it should exactly if every call of it meets its condition. -/
theorem allSteps_iff {ok good : σ → α → Prop} {Inv : σ → Prop}
    (hcall : ∀ s call, Inv s → (good s call ↔ ok s call))
    (hstep : ∀ s call, Inv s → ok s call → Inv (step s call)) {s : σ} (hstart : Inv s)
    (calls : List α) : AllSteps step good s calls ↔ AllSteps step ok s calls := by
  induction calls generalizing s with
  | nil => exact Iff.rfl
  | cons call calls ih =>
    constructor
    · rintro ⟨hgood, hrest⟩
      have hok := (hcall s call hstart).1 hgood
      exact ⟨hok, (ih (hstep s call hstart hok)).1 hrest⟩
    · rintro ⟨hok, hrest⟩
      exact ⟨(hcall s call hstart).2 hok, (ih (hstep s call hstart hok)).2 hrest⟩

/-- What every call of the run meets in any state is met along the run. -/
theorem allSteps_of_mem {ok : σ → α → Prop} {calls : List α} (h : ∀ call ∈ calls, ∀ s, ok s call)
    (s : σ) : AllSteps step ok s calls := by
  induction calls generalizing s with
  | nil => trivial
  | cons call calls ih =>
    have hrest : ∀ call' ∈ calls, ∀ s, ok s call' := fun call' hmem =>
      h call' (List.mem_cons_of_mem _ hmem)
    exact ⟨h call List.mem_cons_self s, ih hrest _⟩

/-- **The rule for calls.** When under an invariant a call that meets its condition does what it
should and keeps the invariant, every call of a run does. -/
theorem AllSteps.sound {ok good : σ → α → Prop} {Inv : σ → Prop}
    (hstep : ∀ s call, Inv s → ok s call → good s call ∧ Inv (step s call)) {s : σ}
    (hstart : Inv s) {calls : List α} (hok : AllSteps step ok s calls) :
    AllSteps step good s calls := by
  induction calls generalizing s with
  | nil => trivial
  | cons call calls ih =>
    obtain ⟨hgood, hinv⟩ := hstep s call hstart hok.1
    exact ⟨hgood, ih hinv hok.2⟩

/-- The call made after a part of the run meets its condition in the state reached there. -/
theorem AllSteps.call {ok : σ → α → Prop} {s : σ} {before after : List α} {call : α}
    (h : AllSteps step ok s (before ++ call :: after)) : ok (run step s before) call :=
  h.of_append.2.1

end Runs
