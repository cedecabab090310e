import Mathlib.Data.List.Basic

/-! # Computations with a trace

A computation leaves events behind and returns or raises. Some computations return one value for
each of a list of keys: `Accounts` says that they return exactly when every event is clean, and that
what they return is what the events settle.
-/

/-- The events of a computation, and how it ends. -/
structure Traced (ε ρ α : Type) where
  log : List ρ
  outcome : Except ε α

namespace Traced

variable {ε ρ α κ : Type}

def pure (a : α) : Traced ε ρ α := ⟨[], .ok a⟩

def raise (e : ε) : Traced ε ρ α := ⟨[], .error e⟩

def after (event : ρ) (t : Traced ε ρ α) : Traced ε ρ α := ⟨event :: t.log, t.outcome⟩

/-- One after the other: where the first raises the second is not run. -/
def append (t u : Traced ε ρ (List α)) : Traced ε ρ (List α) :=
  match t.outcome with
  | .error e => ⟨t.log, .error e⟩
  | .ok xs => ⟨t.log ++ u.log, u.outcome.map fun ys => xs ++ ys⟩

/-- Side by side: both are run, and where one raises so do both. -/
def both (t u : Traced ε ρ (List α)) : Traced ε ρ (List α) where
  log := t.log ++ u.log
  outcome :=
    match t.outcome with
    | .error e => .error e
    | .ok xs => u.outcome.map fun ys => xs ++ ys

/-- All of them side by side. -/
def gather (ts : List (Traced ε ρ (List α))) : Traced ε ρ (List α) := ts.foldr both (pure [])

/-! ## Lengths -/

@[simp] theorem log_after (event : ρ) (t : Traced ε ρ α) :
    (after event t).log = event :: t.log := rfl

theorem length_log_append (t u : Traced ε ρ (List α)) :
    (append t u).log.length ≤ t.log.length + u.log.length := by
  unfold append
  split
  · exact Nat.le_add_right _ _
  · exact Nat.le_of_eq List.length_append

theorem length_log_both (t u : Traced ε ρ (List α)) :
    (both t u).log.length = t.log.length + u.log.length := List.length_append

/-! ## One value for each key -/

/-- What a computation returns is in its events: `clean` events let it go on, `settled` says which
values an event gives to which keys; values that are `void` are not looked at. -/
structure Accounts (clean : ρ → Prop) (settled : ρ → List (κ × α)) (void : α → Prop)
    (keys : List κ) (t : Traced ε ρ (List α)) : Prop where
  returns : (∃ xs, t.outcome = .ok xs) ↔ ∀ event ∈ t.log, clean event
  length : ∀ xs, t.outcome = .ok xs → keys.length = xs.length
  settles : ∀ xs, t.outcome = .ok xs → ∀ P : κ → α → Prop, (∀ k a, void a → P k a) →
    ((∀ p ∈ keys.zip xs, P p.1 p.2) ↔ ∀ event ∈ t.log, ∀ p ∈ settled event, P p.1 p.2)

namespace Accounts

variable {clean : ρ → Prop} {settled : ρ → List (κ × α)} {void : α → Prop}
  {keys keys' : List κ} {t u : Traced ε ρ (List α)}

theorem nil : Accounts clean settled void ([] : List κ) (pure [] : Traced ε ρ (List α)) where
  returns := ⟨fun _ _ h => (List.not_mem_nil h).elim, fun _ => ⟨[], rfl⟩⟩
  length := by
    intro xs hxs
    cases hxs
    rfl
  settles := by
    intro xs hxs P _
    cases hxs
    exact ⟨fun _ _ h => (List.not_mem_nil h).elim, fun _ _ h => (List.not_mem_nil h).elim⟩

theorem settles_append {xs ys : List α} (ht : Accounts clean settled void keys t)
    (hu : Accounts clean settled void keys' u) (hxs : t.outcome = .ok xs)
    (hys : u.outcome = .ok ys) (P : κ → α → Prop) (hvoid : ∀ k a, void a → P k a) :
    (∀ p ∈ (keys ++ keys').zip (xs ++ ys), P p.1 p.2)
      ↔ ∀ event ∈ t.log ++ u.log, ∀ p ∈ settled event, P p.1 p.2 := by
  rw [List.zip_append (ht.length xs hxs), List.forall_mem_append, List.forall_mem_append,
    ht.settles xs hxs P hvoid, hu.settles ys hys P hvoid]

theorem append (ht : Accounts clean settled void keys t)
    (hu : Accounts clean settled void keys' u) :
    Accounts clean settled void (keys ++ keys') (t.append u) := by
  unfold Traced.append
  cases htout : t.outcome with
  | error e =>
    have hraised : ¬ ∀ event ∈ t.log, clean event := by
      intro hclean
      obtain ⟨xs, hxs⟩ := ht.returns.2 hclean
      rw [htout] at hxs
      cases hxs
    refine ⟨⟨?_, fun hclean => (hraised hclean).elim⟩, ?_, ?_⟩
    · rintro ⟨xs, hxs⟩
      cases hxs
    · intro xs hxs
      cases hxs
    · intro xs hxs
      cases hxs
  | ok xs =>
    have hreturned : ∀ event ∈ t.log, clean event := ht.returns.1 ⟨xs, htout⟩
    have hof : ∀ zs, (u.outcome.map fun ys => xs ++ ys) = .ok zs →
        ∃ ys, u.outcome = .ok ys ∧ xs ++ ys = zs := by
      intro zs hzs
      cases huout : u.outcome with
      | error e =>
        rw [huout] at hzs
        cases hzs
      | ok ys =>
        rw [huout] at hzs
        exact ⟨ys, rfl, Except.ok.inj hzs⟩
    refine ⟨?_, ?_, ?_⟩
    · rw [List.forall_mem_append]
      constructor
      · rintro ⟨zs, hzs⟩
        obtain ⟨ys, hys, -⟩ := hof zs hzs
        exact ⟨hreturned, hu.returns.1 ⟨ys, hys⟩⟩
      · rintro ⟨-, hclean⟩
        obtain ⟨ys, hys⟩ := hu.returns.2 hclean
        refine ⟨xs ++ ys, ?_⟩
        show (u.outcome.map fun ys => xs ++ ys) = _
        rw [hys]
        rfl
    · intro zs hzs
      obtain ⟨ys, hys, rfl⟩ := hof zs hzs
      rw [List.length_append, List.length_append, ht.length xs htout, hu.length ys hys]
    · intro zs hzs P hvoid
      obtain ⟨ys, hys, rfl⟩ := hof zs hzs
      exact settles_append ht hu htout hys P hvoid

/-- Side by side the events of both are there, even where one of them raises. -/
theorem both (ht : Accounts clean settled void keys t) (hu : Accounts clean settled void keys' u) :
    Accounts clean settled void (keys ++ keys') (t.both u) := by
  cases htout : t.outcome with
  | ok xs =>
    have heq : t.both u = t.append u := by
      unfold Traced.both Traced.append
      rw [htout]
    rw [heq]
    exact ht.append hu
  | error e =>
    have hout : (t.both u).outcome = .error e := by
      unfold Traced.both
      rw [htout]
    have hraised : ¬ ∀ event ∈ t.log, clean event := by
      intro hclean
      obtain ⟨xs, hxs⟩ := ht.returns.2 hclean
      rw [htout] at hxs
      cases hxs
    refine ⟨⟨?_, fun hclean => ?_⟩, ?_, ?_⟩
    · rintro ⟨xs, hxs⟩
      rw [hout] at hxs
      cases hxs
    · exact (hraised fun event hevent => hclean event (List.mem_append_left _ hevent)).elim
    · intro xs hxs
      rw [hout] at hxs
      cases hxs
    · intro xs hxs
      rw [hout] at hxs
      cases hxs

/-- Many of them side by side. -/
theorem gather {keyss : List (List κ)} {ts : List (Traced ε ρ (List α))}
    (h : List.Forall₂ (fun keys t => Accounts clean settled void keys t) keyss ts) :
    Accounts clean settled void keyss.flatten (Traced.gather ts) := by
  induction h with
  | nil => exact nil
  | cons hhead _ ih => exact hhead.both ih

/-- An event that lets the computation go on and settles nothing that is looked at. -/
theorem after {event : ρ} (ht : Accounts clean settled void keys t) (hclean : clean event)
    (hvoid : ∀ p ∈ settled event, void p.2) :
    Accounts clean settled void keys (t.after event) where
  returns := by
    rw [log_after, List.forall_mem_cons]
    exact ht.returns.trans ⟨fun h => ⟨hclean, h⟩, fun h => h.2⟩
  length := ht.length
  settles := by
    intro xs hxs P hP
    rw [log_after, List.forall_mem_cons, ht.settles xs hxs P hP]
    exact ⟨fun h => ⟨fun p hp => hP p.1 p.2 (hvoid p hp), h⟩, fun h => h.2⟩

theorem single {event : ρ} {xs : List α} (hclean : clean event)
    (hlength : keys.length = xs.length)
    (hsettled : ∀ P : κ → α → Prop, (∀ k a, void a → P k a) →
      ((∀ p ∈ keys.zip xs, P p.1 p.2) ↔ ∀ p ∈ settled event, P p.1 p.2)) :
    Accounts clean settled void keys ((pure xs : Traced ε ρ (List α)).after event) where
  returns := by
    rw [log_after, List.forall_mem_cons]
    exact ⟨fun _ => ⟨hclean, fun _ h => (List.not_mem_nil h).elim⟩, fun _ => ⟨xs, rfl⟩⟩
  length := by
    intro ys hys
    cases hys
    exact hlength
  settles := by
    intro ys hys P hP
    cases hys
    rw [log_after, List.forall_mem_cons, hsettled P hP]
    exact ⟨fun h => ⟨h, fun _ h => (List.not_mem_nil h).elim⟩, fun h => h.1⟩

theorem raise {event : ρ} {e : ε} (hclean : ¬ clean event) :
    Accounts clean settled void keys ((Traced.raise e : Traced ε ρ (List α)).after event) where
  returns := by
    rw [log_after, List.forall_mem_cons]
    constructor
    · rintro ⟨xs, hxs⟩
      cases hxs
    · rintro ⟨h, -⟩
      exact (hclean h).elim
  length := by
    intro xs hxs
    cases hxs
  settles := by
    intro xs hxs
    cases hxs

end Accounts

end Traced
