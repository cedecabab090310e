import SovereignCapital.Lib.PyNumber

/-! # Nested values

Lists and dictionaries of values, and the floats that are not finite. Conversions say which error
they raise: a program that expects some errors lets the others through.
-/

/-- A float; the finite ones are exact. -/
inductive PyFloat where
  | finite (x : ℚ)
  | inf (negative : Bool)
  | nan
deriving DecidableEq

inductive ConversionError where
  | type
  | value
  | overflow
deriving DecidableEq

namespace PyFloat

open Bytes

/-- The nearest double, or an infinity. -/
def ofRat (x : ℚ) : PyFloat :=
  if |Double.nearest x| < 2 ^ 1024 then finite (Double.nearest x) else inf (decide (x < 0))

def neg : PyFloat → PyFloat
  | finite x => finite (-x)
  | inf negative => inf !negative
  | nan => nan

/-- A number without its sign. -/
def unsigned (t : Text) : Option PyFloat :=
  let t := pyLower t
  if t = "inf".toList ∨ t = "infinity".toList then some (inf false)
  else if t = "nan".toList then some nan
  else
    match t.dropWhile fun c => c != 'e' with
    | [] => (PyNumber.pointed t).map ofRat
    | _ :: power => do
      let mantissa ← PyNumber.pointed (t.takeWhile fun c => c != 'e')
      let scale ← PyNumber.exponent power
      return ofRat (mantissa * scale)

/-- `float(t)` of a text; nothing where it raises. -/
def ofText (t : Text) : Option PyFloat :=
  match pyStrip t with
  | '-' :: rest => (unsigned rest).map neg
  | '+' :: rest => unsigned rest
  | t => unsigned t

/-- `x < y`; what is not a number is not below and not above. -/
def lt : PyFloat → PyFloat → Bool
  | finite x, finite y => decide (x < y)
  | finite _, inf negative => !negative
  | inf negative, finite _ => negative
  | inf negative, inf negative' => negative && !negative'
  | nan, _ => false
  | _, nan => false

/-- `x * k` for a positive `k`. -/
def scale (k : ℚ) : PyFloat → PyFloat
  | finite x => ofRat (x * k)
  | inf negative => inf negative
  | nan => nan

/-- `int(x)`. -/
def toInt : PyFloat → Except ConversionError Int
  | finite x => .ok (Double.trunc x)
  | inf _ => .error .overflow
  | nan => .error .value

/-- `min` of some floats: the first of those that no later one is below. -/
def least : PyFloat → List PyFloat → PyFloat
  | x, [] => x
  | x, y :: ys => least (if y.lt x then y else x) ys

/-- `max(0.0, x)`. -/
def clipped (x : PyFloat) : PyFloat := if (finite 0).lt x then x else finite 0

end PyFloat

/-- A value that may have values inside. A container carries its text. -/
inductive PyTree where
  | leaf (v : PyValue)
  | inf (negative : Bool)
  | nan
  | list (items : List PyTree) (repr : { s : String // s ≠ "" })
  | dict (items : List (String × PyTree)) (repr : { s : String // s ≠ "" })

/-- The items of a dictionary; a key stands for its first item. -/
abbrev PyMap := List (String × PyTree)

namespace PyTree

instance : Inhabited PyTree := ⟨leaf .none⟩

/-- `bool(v)`. -/
def truthy : PyTree → Bool
  | leaf v => v.truthy
  | inf _ => true
  | nan => true
  | list items _ => !items.isEmpty
  | dict items _ => !items.isEmpty

/-- `v or w`. -/
def orElse (v w : PyTree) : PyTree := if v.truthy then v else w

def str : PyTree → String
  | leaf v => v.str
  | inf negative => if negative then "-inf" else "inf"
  | nan => "nan"
  | list _ repr => repr
  | dict _ repr => repr

/-- A value that is missing or an empty text. -/
def blank : PyTree → Bool
  | leaf .none => true
  | leaf (.text s) => s == ""
  | _ => false

/-- `isinstance(v, Mapping)`. -/
def isMapping : PyTree → Bool
  | dict _ _ => true
  | _ => false

/-- `dict(v)` of a mapping, of anything else no items. -/
def mapping : PyTree → PyMap
  | dict items _ => items
  | _ => []

/-- `list(v)`. -/
def iterate : PyTree → Except ConversionError (List PyTree)
  | list items _ => .ok items
  | dict items _ => .ok (items.map fun item => leaf (.text item.1))
  | leaf (.text s) => .ok (s.toList.map fun c => leaf (.text (String.ofList [c])))
  | _ => .error .type

def int : PyTree → Except ConversionError Int
  | leaf (.text s) => (Bytes.pyInt 10 s.toList).elim (.error .value) .ok
  | leaf v => v.int?.elim (.error .type) .ok
  | inf _ => .error .overflow
  | nan => .error .value
  | list _ _ => .error .type
  | dict _ _ => .error .type

def float : PyTree → Except ConversionError PyFloat
  | leaf (.bool b) => .ok (.finite (if b then 1 else 0))
  | leaf (.int n) => (Double.ofInt n).elim (.error .overflow) fun x => .ok (.finite x)
  | leaf (.float x _) => .ok (.finite x)
  | leaf (.text s) => (PyFloat.ofText s.toList).elim (.error .value) .ok
  | leaf _ => .error .type
  | inf negative => .ok (.inf negative)
  | nan => .ok .nan
  | list _ _ => .error .type
  | dict _ _ => .error .type

/-! ## Truth and text -/

@[simp] theorem orElse_of_truthy {v : PyTree} (w : PyTree) (h : v.truthy = true) :
    v.orElse w = v := if_pos h

@[simp] theorem orElse_of_falsy {v : PyTree} (w : PyTree) (h : v.truthy = false) :
    v.orElse w = w := if_neg (by simp [h])

theorem str_ne_empty {v : PyTree} (h : v.truthy = true) : v.str ≠ "" := by
  cases v with
  | leaf v => exact PyValue.str_ne_empty h
  | inf negative => cases negative <;> decide
  | nan => decide
  | list items repr => exact repr.2
  | dict items repr => exact repr.2

/-- A text with a default that has one. -/
theorem str_orElse_ne_empty (v : PyTree) {w : PyTree} (hw : w.str ≠ "") :
    (v.orElse w).str ≠ "" := by
  unfold orElse
  split
  · rename_i h
    exact str_ne_empty h
  · exact hw

end PyTree

namespace PyMap

/-- `d.get(k)` where the key is. -/
def get? (d : PyMap) (k : String) : Option PyTree := d.lookup k

def get (d : PyMap) (k : String) : PyTree := (d.get? k).getD (.leaf .none)

/-- `bool(d.get(k, default))`. -/
def flag (d : PyMap) (k : String) (default : Bool) : Bool :=
  ((d.get? k).map PyTree.truthy).getD default

def firstNested (d : PyMap) (keys : List String) : PyMap :=
  match keys.find? fun k => (d.get k).isMapping with
  | some k => (d.get k).mapping
  | none => []

def firstFlag (d : PyMap) (keys : List String) : Option Bool :=
  (keys.findSome? d.get?).map PyTree.truthy

def firstTruthy (values : List PyTree) (default : PyTree) : PyTree :=
  values.foldr PyTree.orElse default

end PyMap
