import SovereignCapital.Lib.PyTree

/-! # Exceptions and handlers

A computation that raises says which exception. A handler `except (…): pass` goes on with what was
there before where the exception is one of its list, and lets every other one through.
-/

/-- The exceptions that are told apart. -/
inductive PyError where
  | attribute
  | key
  | index
  | type
  | value
  | overflow
deriving DecidableEq

namespace PyError

def ofConversion : ConversionError → PyError
  | .type => .type
  | .value => .value
  | .overflow => .overflow

end PyError

namespace PyRaise

variable {α : Type}

/-- `except (…): pass`; `caught` is the list of the handler. -/
def recover (caught : List PyError) (fallback : α) : Except PyError α → Except PyError α
  | .ok a => .ok a
  | .error e => if e ∈ caught then .ok fallback else .error e

@[simp] theorem recover_ok (caught : List PyError) (fallback a : α) :
    recover caught fallback (.ok a) = .ok a := rfl

theorem recover_caught {caught : List PyError} {e : PyError} (h : e ∈ caught) (fallback : α) :
    recover caught fallback (.error e) = .ok fallback := if_pos h

theorem recover_raised {caught : List PyError} {e : PyError} (h : e ∉ caught) (fallback : α) :
    recover caught fallback (.error e) = .error e := if_neg h

def get (v : PyTree) (k : String) : Except PyError PyTree :=
  match v with
  | .dict items _ => .ok (PyMap.get items k)
  | _ => .error .attribute

/-- `v.get(k, default)`. -/
def getOr (v : PyTree) (k : String) (default : PyTree) : Except PyError PyTree :=
  match v with
  | .dict items _ => .ok ((PyMap.get? items k).getD default)
  | _ => .error .attribute

def float (v : PyTree) : Except PyError PyFloat :=
  match v.float with
  | .ok x => .ok x
  | .error e => .error (.ofConversion e)

/-- An element of a sequence as an item; a key that is no text is not looked up. -/
def pair (v : PyTree) : Except PyError (Option (String × PyTree)) :=
  match v.iterate with
  | .error e => .error (.ofConversion e)
  | .ok [.leaf (.text k), w] => .ok (some (k, w))
  | .ok [.list _ _, _] => .error .type
  | .ok [.dict _ _, _] => .error .type
  | .ok [_, _] => .ok none
  | .ok _ => .error .value

def dict : PyTree → Except PyError PyMap
  | .dict items _ => .ok items
  | .list items _ => (items.mapM pair).map fun pairs => (pairs.filterMap id).reverse
  | .leaf (.text s) => if s = "" then .ok [] else .error .value
  | _ => .error .type

/-- `{}`. -/
def emptyDict : PyTree := .dict [] ⟨"{}", by decide⟩

/-- `d[k] = v`: the new item stands before an old one of the key. -/
def put (d : PyMap) (k : String) (v : PyTree) : PyMap := (k, v) :: d

theorem get?_put (d : PyMap) (k k' : String) (v : PyTree) :
    PyMap.get? (put d k v) k' = if k' = k then some v else PyMap.get? d k' := by
  unfold put PyMap.get?
  rw [List.lookup_cons]
  by_cases h : k' = k
  · simp [h]
  · simp [h, beq_false_of_ne]

/-- An item of a dictionary is set; what is no dictionary stays. -/
def putIn (v : PyTree) (k : String) (w : PyTree) : PyTree :=
  match v with
  | .dict items repr => .dict (put items k w) repr
  | v => v

/-- `v[k] = w`. -/
def setItem (v : PyTree) (k : String) (w : PyTree) : Except PyError PyTree :=
  if v.isMapping then .ok (putIn v k w) else .error .type

/-- `v.setdefault(k, {})`, of a dictionary. -/
def withDict (v : PyTree) (k : String) : PyTree :=
  if (PyMap.get? v.mapping k).isSome then v else putIn v k emptyDict

/-! ## What stays -/

/-- Two values that differ at most in some items of a dictionary. -/
structure SameBut (keys : List String) (v w : PyTree) : Prop where
  isMapping : w.isMapping = v.isMapping
  other : v.isMapping = false → w = v
  items : ∀ k, k ∉ keys → PyMap.get? w.mapping k = PyMap.get? v.mapping k

namespace SameBut

variable {keys : List String} {u v w : PyTree}

theorem refl (keys : List String) (v : PyTree) : SameBut keys v v := ⟨rfl, fun _ => rfl, fun _ _ => rfl⟩

theorem trans (h : SameBut keys u v) (h' : SameBut keys v w) : SameBut keys u w := by
  refine ⟨h'.isMapping.trans h.isMapping, fun hu => ?_, fun k hk => ?_⟩
  · rw [h'.other (h.isMapping.trans hu), h.other hu]
  · rw [h'.items k hk, h.items k hk]

theorem putIn {k : String} (hk : k ∈ keys) (v w : PyTree) : SameBut keys v (PyRaise.putIn v k w) := by
  cases v with
  | dict items repr =>
    refine ⟨rfl, fun h => (by cases h), fun k' hk' => ?_⟩
    show PyMap.get? (put items k w) k' = _
    rw [get?_put, if_neg]
    · rfl
    · rintro rfl
      exact hk' hk
  | leaf v => exact refl keys _
  | inf negative => exact refl keys _
  | nan => exact refl keys _
  | list items repr => exact refl keys _

theorem withDict {k : String} (hk : k ∈ keys) (v : PyTree) :
    SameBut keys v (PyRaise.withDict v k) := by
  unfold PyRaise.withDict
  split
  · exact refl keys v
  · exact putIn hk v _

end SameBut

end PyRaise
