import Mathlib.Data.List.Basic

/-! # A fact kept in several places

A store has a value at each place, and a fact has places it is read from and places it is only
copied to. `Stands` says what the fact is: nothing anywhere, or one value wherever there is one. The
rules say what a write to some of its places leaves of it.
-/

namespace Aliases

variable {ι V : Type} (present : V → Prop)

structure Places (ι : Type) where
  read : List ι
  copies : List ι

def Places.all (places : Places ι) : List ι := places.read ++ places.copies

/-- `a or b or …` over the values at some places. -/
def firstOf [DecidablePred present] (absent : V) : List V → V
  | [] => absent
  | [v] => v
  | v :: w :: vs => if present v then v else firstOf absent (w :: vs)

/-- What a fact is: nothing stands at its places, or one value does, at one of those it is read
from and at no place another. -/
def Stands (value : ι → V) (places : Places ι) : Option V → Prop
  | none => ∀ i ∈ places.all, ¬ present (value i)
  | some v => present v ∧ (∀ i ∈ places.all, present (value i) → value i = v)
      ∧ ∃ i ∈ places.read, value i = v

/-- What is at the places of a fact stays there. -/
def Keeps (value value' : ι → V) (places : Places ι) : Prop :=
  ∀ i ∈ places.all, present (value i) → value' i = value i

variable {present} {value value' value'' : ι → V} {places : Places ι}

theorem Keeps.refl : Keeps present value value places := fun _ _ _ => rfl

theorem Keeps.trans (h : Keeps present value value' places)
    (h' : Keeps present value' value'' places) : Keeps present value value'' places := by
  intro i hi hp
  have hstep := h i hi hp
  exact (h' i hi (hstep ▸ hp)).trans hstep

theorem Places.forall_all {P : ι → Prop} :
    (∀ i ∈ places.all, P i) ↔ (∀ i ∈ places.read, P i) ∧ ∀ i ∈ places.copies, P i :=
  List.forall_mem_append

theorem Places.mem_all_of_read {i : ι} (h : i ∈ places.read) : i ∈ places.all :=
  List.mem_append_left _ h

/-! ## Reading -/

section

variable [DecidablePred present]

theorem firstOf_eq_of_present {absent v : V} {vs : List V} (hv : present v)
    (hall : ∀ w ∈ vs, present w → w = v) (hex : v ∈ vs) : firstOf present absent vs = v := by
  induction vs with
  | nil => cases hex
  | cons w vs ih =>
    cases vs with
    | nil => exact (List.mem_singleton.1 hex).symm
    | cons w' vs =>
      rw [firstOf]
      split
      · rename_i hw
        exact hall w List.mem_cons_self hw
      · rename_i hw
        refine ih (fun u hu => hall u (List.mem_cons_of_mem w hu)) ?_
        exact (List.mem_cons.1 hex).resolve_left fun heq => hw (heq ▸ hv)

theorem not_present_firstOf {absent : V} (habsent : ¬ present absent) {vs : List V}
    (hall : ∀ w ∈ vs, ¬ present w) : ¬ present (firstOf present absent vs) := by
  induction vs with
  | nil => exact habsent
  | cons w vs ih =>
    cases vs with
    | nil => exact hall w List.mem_cons_self
    | cons w' vs =>
      rw [firstOf, if_neg (hall w List.mem_cons_self)]
      exact ih fun u hu => hall u (List.mem_cons_of_mem w hu)

theorem Stands.firstOf_eq {v absent : V} (h : Stands present value places (some v))
    {order : List ι} (horder : ∀ i, i ∈ order ↔ i ∈ places.read) :
    firstOf present absent (order.map value) = v := by
  obtain ⟨hv, hall, i, hi, hvalue⟩ := h
  refine firstOf_eq_of_present hv ?_ (List.mem_map.2 ⟨i, (horder i).2 hi, hvalue⟩)
  intro w hw hp
  obtain ⟨j, hj, rfl⟩ := List.mem_map.1 hw
  exact hall j (Places.mem_all_of_read ((horder j).1 hj)) hp

/-- Where nothing stands nothing is read, from whichever of its places. -/
theorem Stands.not_present {absent : V} (h : Stands present value places none)
    (habsent : ¬ present absent) {order : List ι} (horder : ∀ i ∈ order, i ∈ places.all) :
    ¬ present (firstOf present absent (order.map value)) := by
  refine not_present_firstOf habsent fun w hw => ?_
  obtain ⟨j, hj, rfl⟩ := List.mem_map.1 hw
  exact h j (horder j hj)

/-- From some of its places the fact is read, or nothing stands at them. -/
theorem Stands.firstOf_of_mem {v absent : V} (h : Stands present value places (some v))
    {order : List ι} (horder : ∀ i ∈ order, i ∈ places.all) :
    firstOf present absent (order.map value) = v ∨ ∀ i ∈ order, ¬ present (value i) := by
  obtain ⟨hv, hall, -⟩ := h
  by_cases hex : ∃ i ∈ order, present (value i)
  · obtain ⟨i, hi, hp⟩ := hex
    refine Or.inl (firstOf_eq_of_present hv (fun w hw hw' => ?_)
      (List.mem_map.2 ⟨i, hi, hall i (horder i hi) hp⟩))
    obtain ⟨j, hj, rfl⟩ := List.mem_map.1 hw
    exact hall j (horder j hj) hw'
  · exact Or.inr fun i hi hp => hex ⟨i, hi, hp⟩

end

/-! ## Writing -/

variable (present) in
/-- A value stays, or it does not count before and after. -/
def Same (v v' : V) : Prop := v' = v ∨ (¬ present v ∧ ¬ present v')

theorem Same.refl (v : V) : Same present v v := Or.inl rfl

theorem Same.eq {v v' : V} (h : Same present v v') (hv : present v) : v' = v :=
  h.resolve_right fun hnot => hnot.1 hv

theorem Same.eq' {v v' : V} (h : Same present v v') (hv : present v') : v' = v :=
  h.resolve_right fun hnot => hnot.2 hv

/-- A write of the fact itself. -/
theorem Stands.rewrite {v : V} (h : Stands present value places (some v))
    (hwrites : ∀ i ∈ places.all, Same present (value i) (value' i) ∨ value' i = v) :
    Stands present value' places (some v) ∧ Keeps present value value' places := by
  obtain ⟨hv, hall, i, hi, hvalue⟩ := h
  refine ⟨⟨hv, fun j hj hp => ?_, i, hi, ?_⟩, fun j hj hp => ?_⟩
  · rcases hwrites j hj with hsame | heq
    · have heq := hsame.eq' hp
      exact heq.trans (hall j hj (heq ▸ hp))
    · exact heq
  · rcases hwrites i (Places.mem_all_of_read hi) with hsame | heq
    · exact (hsame.eq (hvalue ▸ hv)).trans hvalue
    · exact heq
  · rcases hwrites j hj with hsame | heq
    · exact hsame.eq hp
    · exact heq.trans (hall j hj hp).symm

theorem Stands.first {v : V} (h : Stands present value places none) (hv : present v)
    (hwrites : ∀ i ∈ places.all, Same present (value i) (value' i) ∨ value' i = v)
    (hread : ∃ i ∈ places.read, value' i = v) :
    Stands present value' places (some v) ∧ Keeps present value value' places := by
  refine ⟨⟨hv, fun i hi hp => ?_, hread⟩, fun i hi hp => absurd hp (h i hi)⟩
  exact (hwrites i hi).resolve_left fun hsame => h i hi (hsame.eq' hp ▸ hp)

theorem Stands.untouched {o : Option V} (h : Stands present value places o)
    (hsame : ∀ i ∈ places.all, Same present (value i) (value' i)) :
    Stands present value' places o ∧ Keeps present value value' places := by
  cases o with
  | none =>
    exact ⟨fun i hi hp => h i hi ((hsame i hi).eq' hp ▸ hp),
      fun i hi hp => absurd hp (h i hi)⟩
  | some v => exact h.rewrite fun i hi => Or.inl (hsame i hi)

end Aliases
