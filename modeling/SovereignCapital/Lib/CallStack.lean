import Mathlib.Data.List.Basic

/-! # Calls that can be rolled back

A stack of calls over a state: each frame keeps the state in which it was entered, and a call
that fails restores it. `Layered I` says that `I` holds now and would hold after any number of
frames on top had failed; the rules are one for each way the stack moves.
-/

namespace CallStack

/-- A frame: what the call keeps, and the state it was entered in. -/
structure Frame (σ φ : Type) where
  data : φ
  entered : σ

variable {σ φ : Type}

abbrev frames (stack : List (Frame σ φ)) : List φ := stack.map Frame.data

/-- The invariant holds of the state, and of the state each frame was entered in below it. -/
def Layered (I : σ → List φ → Prop) : σ → List (Frame σ φ) → Prop
  | s, [] => I s []
  | s, f :: stack => I s (frames (f :: stack)) ∧ Layered I f.entered stack

variable {I : σ → List φ → Prop} {s s' : σ} {f : Frame σ φ} {stack : List (Frame σ φ)}

theorem Layered.now (h : Layered I s stack) : I s (frames stack) := by
  cases stack with
  | nil => exact h
  | cons f stack => exact h.1

/-- The state changes. -/
theorem Layered.update (h : Layered I s stack) (hnow : I s' (frames stack)) :
    Layered I s' stack := by
  cases stack with
  | nil => exact hnow
  | cons f stack => exact ⟨hnow, h.2⟩

/-- A call is made. -/
theorem Layered.push (h : Layered I s stack) {data : φ} (hnow : I s' (data :: frames stack)) :
    Layered I s' (⟨data, s⟩ :: stack) := ⟨hnow, h⟩

/-- The call on top returns. -/
theorem Layered.pop (h : Layered I s (f :: stack)) (hnow : I s' (frames stack)) :
    Layered I s' stack := h.2.update hnow

/-- The call on top fails. -/
theorem Layered.rollback (h : Layered I s (f :: stack)) : Layered I f.entered stack := h.2

end CallStack
