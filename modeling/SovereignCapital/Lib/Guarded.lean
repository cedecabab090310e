import Mathlib.Data.Nat.Notation

/-! # Guarded computations

A function with many early exits is a chain of binds in `Except`: `ensure` is a guard, and a
result means that every guard of the chain held. The rules take a chain apart.
-/

namespace Guarded

variable {ε α β : Type}

def ensure (p : Prop) [Decidable p] (e : ε) : Except ε Unit := if p then .ok () else .error e

/-- A value, or an exit where there is none. -/
def require (x : Option α) (e : ε) : Except ε α :=
  match x with
  | some a => .ok a
  | none => .error e

@[simp] theorem ensure_eq_ok {p : Prop} [Decidable p] {e : ε} {u : Unit} :
    ensure p e = .ok u ↔ p := by
  unfold ensure
  split <;> simp [*]

@[simp] theorem require_eq_ok {x : Option α} {e : ε} {a : α} :
    require x e = .ok a ↔ x = some a := by
  unfold require
  cases x <;> simp

/-- A chain has a result when its first part has one and the rest has it there. -/
theorem bind_ok_iff {x : Except ε α} {f : α → Except ε β} {b : β} :
    (x >>= f) = .ok b ↔ ∃ a, x = .ok a ∧ f a = .ok b := by
  cases x with
  | error e =>
    constructor
    · intro h
      cases h
    · rintro ⟨a, hx, -⟩
      cases hx
  | ok a =>
    constructor
    · exact fun h => ⟨a, rfl, h⟩
    · rintro ⟨a', hx, h⟩
      cases hx
      exact h

theorem map_ok_iff {x : Except ε α} {f : α → β} {b : β} :
    x.map f = .ok b ↔ ∃ a, x = .ok a ∧ f a = b := by
  cases x with
  | error e =>
    constructor
    · intro h
      cases h
    · rintro ⟨a, hx, -⟩
      cases hx
  | ok a =>
    constructor
    · exact fun h => ⟨a, rfl, Except.ok.inj h⟩
    · rintro ⟨a', hx, rfl⟩
      cases hx
      rfl

theorem mem_of_mapM {f : α → Except ε β} {l : List α} {l' : List β} (h : l.mapM f = .ok l')
    {b : β} (hb : b ∈ l') : ∃ a ∈ l, f a = .ok b := by
  induction l generalizing l' with
  | nil =>
    obtain rfl : [] = l' := Except.ok.inj h
    cases hb
  | cons a l ih =>
    rw [List.mapM_cons] at h
    obtain ⟨b', ha, h⟩ := bind_ok_iff.1 h
    obtain ⟨bs, hl, h⟩ := bind_ok_iff.1 h
    obtain rfl : b' :: bs = l' := Except.ok.inj h
    rcases List.mem_cons.1 hb with rfl | hb
    · exact ⟨a, List.mem_cons_self, ha⟩
    · obtain ⟨a', ha', hf⟩ := ih hl hb
      exact ⟨a', List.mem_cons_of_mem _ ha', hf⟩

theorem toOption_eq_some {x : Except ε α} {a : α} : x.toOption = some a ↔ x = .ok a := by
  cases x with
  | error e => exact ⟨nofun, nofun⟩
  | ok b => exact ⟨fun h => congrArg _ (Option.some.inj h), fun h => congrArg _ (Except.ok.inj h)⟩

/-! ## Errors -/

/-- Every error of the computation satisfies `P`. -/
def FailsWith (P : ε → Prop) (x : Except ε α) : Prop := ∀ e, x = .error e → P e

namespace FailsWith

variable {P : ε → Prop}

theorem ok (a : α) : FailsWith P (.ok a) := nofun

theorem ensure {p : Prop} [Decidable p] {e : ε} (he : P e) : FailsWith P (ensure p e) := by
  intro e' h
  unfold Guarded.ensure at h
  split at h
  · cases h
  · cases h
    exact he

theorem require {x : Option α} {e : ε} (he : P e) : FailsWith P (require x e) := by
  intro e' h
  cases x with
  | none =>
    cases h
    exact he
  | some a => cases h

theorem bind {x : Except ε α} {f : α → Except ε β} (hx : FailsWith P x)
    (hf : ∀ a, FailsWith P (f a)) : FailsWith P (x >>= f) := by
  intro e h
  cases x with
  | error e' =>
    cases h
    exact hx _ rfl
  | ok a => exact hf a e h

end FailsWith

end Guarded
