import Mathlib.Computability.Language

/-! # Episodes of a log

An episode is one opening letter, any number of letters inside, and at most one closing letter.
`Log` says how a log stands while its writer is inside an episode or outside; the rules append
one letter.
-/

namespace Episodes

open scoped Computability

variable {α : Type} (first inside last : α)

/-- An episode that has not been closed. -/
def begun : Language α := {[first]} * {[inside]}∗

def episode : Language α := begun first inside * (1 + {[last]})

/-- A log as its writer leaves it: outside, a sequence of episodes; inside, one that has begun
after such a sequence. -/
def Log (open' : Bool) (log : List α) : Prop :=
  log ∈ (if open' then (episode first inside last)∗ * begun first inside
    else (episode first inside last)∗)

variable {first inside last} {log : List α}

theorem Log.nil : Log first inside last false [] := Language.nil_mem_kstar _

theorem Log.mem_episodes {open' : Bool} (h : Log first inside last open' log) :
    log ∈ (episode first inside last)∗ := by
  cases open' with
  | false => exact h
  | true =>
    have hbegun : begun first inside ≤ episode first inside last := by
      calc begun first inside = begun first inside * 1 := (mul_one _).symm
        _ ≤ begun first inside * (1 + {[last]}) :=
          mul_le_mul_right (le_add_of_nonneg_right bot_le) _
    have hle : (episode first inside last)∗ * begun first inside
        ≤ (episode first inside last)∗ :=
      (mul_le_mul_right hbegun _).trans kstar_mul_le_kstar
    exact hle h

theorem Log.begin' {open' : Bool} (h : Log first inside last open' log) :
    Log first inside last true (log ++ [first]) := by
  refine Language.append_mem_mul h.mem_episodes ?_
  exact ⟨[first], rfl, [], Language.nil_mem_kstar _, List.append_nil _⟩

theorem Log.update (h : Log first inside last true log) :
    Log first inside last true (log ++ [inside]) := by
  have hbegun : begun first inside * {[inside]} ≤ begun first inside := by
    rw [begun, mul_assoc]
    exact mul_le_mul_right kstar_mul_le_kstar _
  have hle : (episode first inside last)∗ * begun first inside * {[inside]}
      ≤ (episode first inside last)∗ * begun first inside := by
    rw [mul_assoc]
    exact mul_le_mul_right hbegun _
  exact hle (Language.append_mem_mul h rfl)

theorem Log.close (h : Log first inside last true log) :
    Log first inside last false (log ++ [last]) := by
  have hle : (episode first inside last)∗ * begun first inside * {[last]}
      ≤ (episode first inside last)∗ := by
    have hlast : ({[last]} : Language α) ≤ 1 + {[last]} := le_add_of_nonneg_left bot_le
    calc (episode first inside last)∗ * begun first inside * {[last]}
        = (episode first inside last)∗ * (begun first inside * {[last]}) := mul_assoc _ _ _
      _ ≤ (episode first inside last)∗ * episode first inside last :=
          mul_le_mul_right (mul_le_mul_right hlast _) _
      _ ≤ (episode first inside last)∗ := kstar_mul_le_kstar
  exact hle (Language.append_mem_mul h rfl)

end Episodes
