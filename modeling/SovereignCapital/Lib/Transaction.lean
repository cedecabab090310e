import Mathlib.Data.List.Basic

/-! # Transactions

A transaction is a list of writes on rows and a commit. A write that raises ends it, and so
does a commit that fails; the rows are then what they were.
-/

namespace Transaction

variable {ρ β : Type}

/-- One write: it raises, or it changes the rows. -/
structure Write (ρ : Type) where
  raises : Bool
  apply : ρ → ρ

def applyAll (writes : List (Write ρ)) (rows : ρ) : ρ := writes.foldl (fun rows w => w.apply rows) rows

/-- The pending rows, nothing where a write raises. -/
def body : List (Write ρ) → ρ → Option ρ
  | [], rows => some rows
  | w :: writes, rows => if w.raises then none else body writes (w.apply rows)

def transaction (writes : List (Write ρ)) (commitRaises : Bool) (rows : ρ) : ρ × Bool :=
  match body writes rows with
  | none => (rows, false)
  | some pending => if commitRaises then (rows, false) else (pending, true)

@[simp] theorem applyAll_nil (rows : ρ) : applyAll [] rows = rows := rfl

@[simp] theorem applyAll_cons (w : Write ρ) (writes : List (Write ρ)) (rows : ρ) :
    applyAll (w :: writes) rows = applyAll writes (w.apply rows) := rfl

theorem applyAll_append (writes writes' : List (Write ρ)) (rows : ρ) :
    applyAll (writes ++ writes') rows = applyAll writes' (applyAll writes rows) :=
  List.foldl_append

theorem body_eq (writes : List (Write ρ)) (rows : ρ) :
    body writes rows
      = if writes.any Write.raises then none else some (applyAll writes rows) := by
  induction writes generalizing rows with
  | nil => rfl
  | cons w writes ih =>
    rw [body, List.any_cons, ih]
    cases w.raises with
    | true => rfl
    | false => rfl

def fails (writes : List (Write ρ)) (commitRaises : Bool) : Bool :=
  writes.any Write.raises || commitRaises

/-- **A transaction that fails leaves the rows alone; one that goes through has made all its
writes.** -/
theorem transaction_eq (writes : List (Write ρ)) (commitRaises : Bool) (rows : ρ) :
    transaction writes commitRaises rows
      = if fails writes commitRaises then (rows, false) else (applyAll writes rows, true) := by
  rw [transaction, body_eq, fails]
  cases writes.any Write.raises with
  | true => rfl
  | false => cases commitRaises <;> rfl

end Transaction
