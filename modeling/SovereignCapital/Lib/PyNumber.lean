import SovereignCapital.Lib.Double
import SovereignCapital.Lib.PyValue

/-! # Numbers of a dictionary

What `float` reads: an exact rational, or one of the infinities and the number that is none, which
no arithmetic here can tell apart.
-/

/-- What `float(v)` returns. -/
inductive PyNumber where
  | finite (x : ℚ)
  | special

namespace PyNumber

open Bytes

def pointed (t : Text) : Option ℚ :=
  match t.dropWhile fun c => c != '.' with
  | [] => (digitsValue 10 0 false t).map fun n => (n : ℚ)
  | _ :: fraction =>
    let whole := t.takeWhile fun c => c != '.'
    if whole = [] ∧ fraction = [] then none
    else do
      let n ← if whole = [] then some 0 else digitsValue 10 0 false whole
      let m ← if fraction = [] then some 0 else digitsValue 10 0 false fraction
      return n + m / 10 ^ (fraction.filter fun c => c != '_').length

def exponent (t : Text) : Option ℚ :=
  match t with
  | '-' :: digits => (digitsValue 10 0 false digits).map fun n => 1 / 10 ^ n
  | '+' :: digits => (digitsValue 10 0 false digits).map fun n => 10 ^ n
  | digits => (digitsValue 10 0 false digits).map fun n => 10 ^ n

def unsigned (t : Text) : Option PyNumber :=
  let t := pyLower t
  if t = "inf".toList ∨ t = "infinity".toList ∨ t = "nan".toList then some special
  else
    match t.dropWhile fun c => c != 'e' with
    | [] => (pointed t).map finite
    | _ :: power => do
      let mantissa ← pointed (t.takeWhile fun c => c != 'e')
      let scale ← exponent power
      return finite (mantissa * scale)

def neg : PyNumber → PyNumber
  | finite x => finite (-x)
  | special => special

/-- `float(t)` of a text; nothing where it raises. -/
def ofText (t : Text) : Option PyNumber :=
  match pyStrip t with
  | '-' :: rest => (unsigned rest).map neg
  | '+' :: rest => unsigned rest
  | t => unsigned t

/-- `x * k`. -/
def scale (k : ℚ) : PyNumber → PyNumber
  | finite x => finite (x * k)
  | special => special

end PyNumber

namespace PyValue

/-- `float(v)`; nothing where it raises. -/
def float? : PyValue → Option PyNumber
  | none => Option.none
  | bool b => some (.finite (if b then 1 else 0))
  | int n => some (.finite n)
  | float x _ => some (.finite x)
  | text s => PyNumber.ofText s.toList
  | object _ _ => Option.none

@[simp] theorem float?_int (n : Int) : (int n).float? = some (.finite n) := rfl

end PyValue
