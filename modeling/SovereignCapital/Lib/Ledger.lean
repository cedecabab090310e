import Mathlib.Algebra.Order.Group.Nat

/-! # Ledgers of tokens

Balances of tokens by account, and the transfer of a standard token: it moves exactly the
amount, or fails.
-/

namespace Ledger

abbrev Balances (T A : Type) := T → A → Nat

variable {T A : Type} [DecidableEq T] [DecidableEq A]

def debit (b : Balances T A) (token : T) (src : A) (amount : Nat) : Balances T A :=
  fun t a => if t = token ∧ a = src then b t a - amount else b t a

def credit (b : Balances T A) (token : T) (dst : A) (amount : Nat) : Balances T A :=
  fun t a => if t = token ∧ a = dst then b t a + amount else b t a

/-- A transfer; nothing where it fails. -/
def transfer (b : Balances T A) (token : T) (src dst : A) (amount : Nat) : Option (Balances T A) :=
  if amount ≤ b token src then some (credit (debit b token src amount) token dst amount) else none

variable {b b' : Balances T A} {token : T} {src dst : A} {amount : Nat}

theorem transfer_eq_some :
    transfer b token src dst amount = some b'
      ↔ amount ≤ b token src ∧ credit (debit b token src amount) token dst amount = b' := by
  unfold transfer
  split
  · rename_i h
    simp [h]
  · rename_i h
    simp [h]

theorem transfer_src (h : transfer b token src dst amount = some b') (hne : src ≠ dst) :
    b' token src + amount = b token src := by
  obtain ⟨hle, rfl⟩ := transfer_eq_some.1 h
  simp [credit, debit, hne, hle]

/-- The destination gets it. -/
theorem transfer_dst (h : transfer b token src dst amount = some b') (hne : src ≠ dst) :
    b' token dst = b token dst + amount := by
  obtain ⟨-, rfl⟩ := transfer_eq_some.1 h
  simp [credit, debit, hne.symm]

/-- A transfer to oneself changes nothing. -/
theorem transfer_self (h : transfer b token src src amount = some b') : b' = b := by
  obtain ⟨hle, rfl⟩ := transfer_eq_some.1 h
  funext t a
  unfold credit debit
  split
  · rename_i hta
    obtain ⟨rfl, rfl⟩ := hta
    exact Nat.sub_add_cancel hle
  · rfl

theorem transfer_token (h : transfer b token src dst amount = some b') {t : T} (ht : t ≠ token)
    (a : A) : b' t a = b t a := by
  obtain ⟨-, rfl⟩ := transfer_eq_some.1 h
  simp [credit, debit, ht]

/-- Only the source has less. -/
theorem le_transfer (h : transfer b token src dst amount = some b') (t : T) {a : A} (ha : a ≠ src) :
    b t a ≤ b' t a := by
  obtain ⟨-, rfl⟩ := transfer_eq_some.1 h
  unfold credit debit
  simp only [ha, and_false, if_false]
  split
  · exact Nat.le_add_right _ _
  · exact le_rfl

theorem le_transfer_add (h : transfer b token src dst amount = some b') :
    b token src ≤ b' token src + amount := by
  by_cases hne : src = dst
  · subst hne
    rw [transfer_self h]
    exact Nat.le_add_right _ _
  · exact (transfer_src h hne).ge

end Ledger
