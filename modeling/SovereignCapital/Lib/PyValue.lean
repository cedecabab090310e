import Mathlib.Data.Rat.Floor
import SovereignCapital.Lib.Dict
import SovereignCapital.Lib.PyText

/-! # Values of a dictionary

What `dict.get` returns, as `bool`, `str`, `int` and `or` read it. A float and an object carry
their text; a text that stands for a value is never empty.
-/

inductive PyValue where
  | none
  | bool (b : Bool)
  | int (n : Int)
  | float (x : ℚ) (repr : { s : String // s ≠ "" })
  | text (s : String)
  | object (truthy : Bool) (repr : { s : String // s ≠ "" })

/-- A dictionary with text keys. -/
abbrev PyDict := Dict String PyValue

namespace PyValue

open Bytes

/-- `bool(v)`. -/
def truthy : PyValue → Bool
  | none => false
  | bool b => b
  | int n => n != 0
  | float x _ => x != 0
  | text s => s != ""
  | object truthy _ => truthy

/-- `v or w`. -/
def orElse (v w : PyValue) : PyValue := if v.truthy then v else w

def str : PyValue → String
  | none => "None"
  | bool b => if b then "True" else "False"
  | int n => String.ofList (pyDecimal n)
  | float _ repr => repr
  | text s => s
  | object _ repr => repr

/-- `int(v)`; nothing where it raises. -/
def int? : PyValue → Option Int
  | none => Option.none
  | bool b => some (if b then 1 else 0)
  | int n => some n
  | float x _ => some (if 0 ≤ x then ⌊x⌋ else ⌈x⌉)
  | text s => pyInt 10 s.toList
  | object _ _ => Option.none

/-- `int(str(v))`, zero where it raises. -/
def safeInt (v : PyValue) : Int := (pyInt 10 v.str.toList).getD 0

/-! ## Reading back -/

variable {v : PyValue}

@[simp] theorem orElse_of_truthy (w : PyValue) (h : v.truthy = true) : v.orElse w = v := if_pos h

@[simp] theorem orElse_of_falsy (w : PyValue) (h : v.truthy = false) : v.orElse w = w :=
  if_neg (by simp [h])

/-- The text of an integer is read back. -/
theorem safeInt_int (n : Int) : (int n).safeInt = n := by
  rw [safeInt, str, String.toList_ofList, pyInt_pyDecimal]
  rfl

theorem int?_text_str (v : PyValue) : (text v.str).int?.getD 0 = v.safeInt := rfl

theorem str_eq_empty_iff : v.str = "" ↔ v = text "" := by
  cases v with
  | none => simp [str]
  | bool b => cases b <;> simp [str]
  | int n =>
    simp only [str, reduceCtorEq, iff_false]
    intro h
    have hlist := congrArg String.toList h
    rw [String.toList_ofList] at hlist
    unfold pyDecimal at hlist
    split at hlist
    · cases hlist
    · exact Nat.toDigits_ne_nil hlist
  | float x repr => simpa [str] using repr.2
  | text s => simp [str]
  | object truthy repr => simpa [str] using repr.2

theorem str_ne_empty (h : v.truthy = true) : v.str ≠ "" := by
  intro hempty
  rw [str_eq_empty_iff.1 hempty] at h
  simp [truthy] at h

theorem int?_of_falsy {n : Int} (hfalsy : v.truthy = false) (h : v.int? = some n) : n = 0 := by
  cases v with
  | none => cases h
  | bool b =>
    simp only [truthy] at hfalsy
    simp only [int?, hfalsy, Option.some.injEq] at h
    simpa using h.symm
  | int m =>
    simp only [truthy, bne_eq_false_iff_eq] at hfalsy
    simp only [int?, Option.some.injEq] at h
    omega
  | float x repr =>
    simp only [truthy, bne_eq_false_iff_eq] at hfalsy
    simp only [int?, hfalsy, Option.some.injEq] at h
    simpa using h.symm
  | text s =>
    simp only [truthy, bne_eq_false_iff_eq] at hfalsy
    subst hfalsy
    cases h
  | object truthy repr => cases h

end PyValue

namespace PyDict

def get (d : PyDict) (k : String) : PyValue := d.getD k .none

/-- `{k: v, …}`. -/
def literal (items : List (String × PyValue)) : PyDict :=
  items.foldl (fun d item => d.set item.1 item.2) Dict.empty

variable {items : List (String × PyValue)} {k : String}

theorem get?_assigned_of_notMem (h : k ∉ items.map Prod.fst) (d : PyDict) :
    (items.foldl (fun d item => d.set item.1 item.2) d).get? k = d.get? k := by
  induction items generalizing d with
  | nil => rfl
  | cons item items ih =>
    simp only [List.map_cons, List.mem_cons, not_or] at h
    rw [List.foldl_cons, ih h.2, Dict.get?_set_of_ne d item.2 h.1]

theorem get?_literal_of_notMem (h : k ∉ items.map Prod.fst) : (literal items).get? k = none :=
  get?_assigned_of_notMem h Dict.empty

theorem get_literal (hkeys : (items.map Prod.fst).Nodup) {v : PyValue} (h : (k, v) ∈ items) :
    (literal items).get k = v := by
  have hget : ∀ (items : List (String × PyValue)) (d : PyDict), (items.map Prod.fst).Nodup →
      (k, v) ∈ items → (items.foldl (fun d item => d.set item.1 item.2) d).get? k = some v := by
    intro items
    induction items with
    | nil => exact fun d _ hmem => (List.not_mem_nil hmem).elim
    | cons item items ih =>
      intro d hnodup hmem
      obtain ⟨hnot, hrest⟩ := List.nodup_cons.1 hnodup
      rw [List.foldl_cons]
      rcases List.mem_cons.1 hmem with rfl | hmem
      · rw [get?_assigned_of_notMem hnot, Dict.get?_set_self]
      · exact ih _ hrest hmem
  rw [get, Dict.getD, literal, hget items Dict.empty hkeys h]
  rfl

end PyDict
