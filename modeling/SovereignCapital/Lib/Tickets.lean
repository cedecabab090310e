import SovereignCapital.Lib.Runs

/-! # Tickets

Some calls of a run open a ticket under a key, some spend the ticket that is open there. A spent
ticket is gone, and a ticket that is opened again replaces the old one: every spending call uses
the ticket that was opened last under its key, and no ticket is used twice.
-/

namespace Tickets

open Runs

variable {σ α κ ρ : Type} {step : σ → α → σ}

/-- How the calls of a system deal with tickets: `held` is the ticket that is open under a key,
`opens` the ticket a call opens, `spends` the key a call uses up. It is about the calls that keep
to a rule, `ok`. -/
structure Office (step : σ → α → σ) (ok : σ → α → Prop) (held : σ → κ → Option ρ)
    (opens : α → Option (κ × ρ)) (spends : σ → α → κ → Prop) : Prop where
  /-- a ticket that is open was opened by the call, or was open and neither used nor replaced -/
  origin : ∀ s call k r, ok s call → held (step s call) k = some r →
    opens call = some (k, r) ∨
      (held s k = some r ∧ ¬ spends s call k ∧ ∀ r', opens call ≠ some (k, r'))

/-- No call of the run opens or spends a ticket under the key. -/
def Untouched (step : σ → α → σ) (opens : α → Option (κ × ρ)) (spends : σ → α → κ → Prop) (k : κ) :
    σ → List α → Prop :=
  AllSteps step fun s call => ¬ spends s call k ∧ ∀ r, opens call ≠ some (k, r)

/-- The ticket was opened on the way, and its key was left alone from then on. -/
def OpenedLast (step : σ → α → σ) (opens : α → Option (κ × ρ)) (spends : σ → α → κ → Prop)
    (s : σ) (calls : List α) (k : κ) (r : ρ) : Prop :=
  ∃ before call since, calls = before ++ call :: since ∧ opens call = some (k, r) ∧
    Untouched step opens spends k (run step s (before ++ [call])) since

variable {held : σ → κ → Option ρ} {opens : α → Option (κ × ρ)} {spends : σ → α → κ → Prop}

/-- **The rule of tickets.** A run starts without tickets; each ticket that is open after it was
opened on the way, and its key was left alone from then on. -/
theorem Office.openedLast {ok : σ → α → Prop} (office : Office step ok held opens spends) {s : σ}
    (hstart : ∀ k, held s k = none) {calls : List α} (hok : AllSteps step ok s calls) {k : κ}
    {r : ρ} (h : held (run step s calls) k = some r) :
    OpenedLast step opens spends s calls k r := by
  induction calls using List.reverseRecOn with
  | nil =>
    rw [run_nil, hstart] at h
    cases h
  | append_singleton calls call ih =>
    rw [run_append, run_cons, run_nil] at h
    obtain ⟨hbefore, hlast⟩ := hok.of_append
    rcases office.origin _ call k r hlast.1 h with hopens | ⟨hheld, hkept⟩
    · exact ⟨calls, call, [], rfl, hopens, trivial⟩
    · obtain ⟨before, opener, since, rfl, hopens, huntouched⟩ := ih hbefore hheld
      refine ⟨before, opener, since ++ [call], by simp, hopens, AllSteps.snoc huntouched ?_⟩
      have hrun : run step (run step s (before ++ [opener])) since
          = run step s (before ++ opener :: since) := by
        rw [← run_append]
        simp
      rw [hrun]
      exact hkept

/-- Between a call that spends a ticket and one that holds a ticket under the same key, the key was
opened again. -/
theorem OpenedLast.reopened {s : σ} {before between : List α} {call : α} {k : κ} {r : ρ}
    (h : OpenedLast step opens spends s (before ++ call :: between) k r)
    (hspends : spends (run step s before) call k) (hno : opens call ≠ some (k, r)) :
    ∃ opener ∈ between, opens opener = some (k, r) := by
  obtain ⟨start, opener, since, hcalls, hopens, huntouched⟩ := h
  rcases List.append_eq_append_iff.1 hcalls with ⟨rest, rfl, hrest⟩ | ⟨rest, rfl, hrest⟩
  · cases rest with
    | nil =>
      obtain ⟨rfl, -⟩ := List.cons.inj hrest
      exact absurd hopens hno
    | cons first rest =>
      obtain ⟨-, rfl⟩ := List.cons.inj hrest
      exact ⟨opener, by simp, hopens⟩
  · cases rest with
    | nil =>
      obtain ⟨rfl, -⟩ := List.cons.inj hrest
      exact absurd hopens hno
    | cons first rest =>
      -- the opener came before the spending call, which is then among the calls since
      obtain ⟨rfl, rfl⟩ := List.cons.inj hrest
      have hcall := huntouched.call.1
      rw [← run_append] at hcall
      exact absurd hspends (by simpa using hcall)

end Tickets
