import SovereignCapital.Admission.Opportunity

/-! # Scaling with any multiplication

`scale_opportunity` where the product of an integer and the multiplier is a parameter: in doubles,
as it is computed, or in rational numbers. The opportunities are objects in a heap; a scaled one is
a new object, and the original stays.
-/

namespace SovereignCapital.Admission

open Bytes PyRaise

/-! ## The program

`mul n` is `int(n * sm)`. -/

section

variable (mul : Int → Except PyError Int)

/-- `str(max(0, int(int(t) * sm)))`, or the text itself where it is no integer. -/
def timesTextBy (t : Text) : Except PyError Text :=
  match pyInt 10 t with
  | none => .ok t
  | some n => (mul n).map fun m => pyDecimal (max 0 m)

def scaleOut1By (metadata : PyTree) : Except PyError PyTree :=
  match PyMap.get? metadata.mapping "out1" with
  | none => .ok metadata
  | some out1 =>
    match pyInt 10 (out1.orElse (textValue ['0'])).str.toList with
    | none => .ok metadata
    | some n => (mul n).map fun m => putIn metadata "out1" (textValue (pyDecimal (max 0 m)))

def scaleSecondBy (metadata : PyTree) : List RouteLeg → Except PyError (List RouteLeg)
  | [] => .ok []
  | leg :: rest => do
    let amountIn ←
      match readOut1 metadata with
      | some out1 => .ok (some (pyDecimal out1))
      | none =>
        match pyInt 10 leg.amountIn with
        | none => .ok none
        | some n => (mul n).map fun m => some (pyDecimal (max 0 m))
    match amountIn with
    | none => return leg :: rest
    | some amountIn =>
      let minOut ← timesTextBy mul leg.minOut
      return { leg with amountIn := amountIn, minOut := minOut } :: rest

def syncUsdBy (metadata : PyTree) : Except PyError PyTree :=
  match PyMap.get? (PyMap.get metadata.mapping "safety").mapping "profit_after_costs_usd_micro" with
  | none => .ok metadata
  | some usd =>
    match pyInt 10 (usd.orElse (textValue ['0'])).str.toList with
    | none =>
      noteBrain
        (noteSafety metadata "profit_after_costs_usd_micro" (textValue ['0']))
        "profit_after_costs_usd_sync" "invalid_input_zeroed"
    | some n => (mul (max 0 n)).map fun m =>
      noteSafety metadata "profit_after_costs_usd_micro" (textValue (pyDecimal (max 0 m)))

def syncAfterBy (metadata : PyTree) : Except PyError PyTree :=
  match rawAfter metadata with
  | none => .ok metadata
  | some after =>
    match pyInt 10 after.str.toList with
    | none =>
      noteBrain (noteAfter metadata ['0']) "profit_after_costs_sync" "invalid_input_zeroed"
    | some n => do
      let m ← mul (max 0 n)
      let metadata ← syncUsdBy mul (noteAfter metadata (pyDecimal (max 0 m)))
      noteBrain metadata "profit_after_costs_sync" "scaled"

def syncScaledProfitFieldsBy (metadata : PyTree) : Except PyError PyTree :=
  if metadata.isMapping then syncAfterBy mul (withSections metadata) else .ok metadata

def scaleMinOutsBy (minOuts : List Text) : Except PyError (List Text) :=
  recover safeExceptions minOuts <|
    minOuts.mapM fun t => do
      let n ← intOfText t
      let m ← mul n
      return pyDecimal (max 0 m)

/-- What is written to the copy. -/
def scaledBy (opp : Opportunity) : Except PyError Opportunity :=
  match opp.legs with
  | [] => .error .index
  | leg :: rest =>
    match pyInt 10 leg.amountIn with
    | none => .ok opp
    | some amountIn0 => do
      let newIn0 ← mul amountIn0
      let minOut ← timesTextBy mul leg.minOut
      let metadata ← scaleOut1By mul opp.metadata
      let rest ← scaleSecondBy mul metadata rest
      let expectedProfitRaw ← timesTextBy mul opp.expectedProfitRaw
      let metadata ← syncScaledProfitFieldsBy mul metadata
      let minOuts ← scaleMinOutsBy mul opp.minOuts
      let metadata ← markBrain metadata
      return {
        legs := { leg with amountIn := pyDecimal (max 1 newIn0), minOut := minOut } :: rest
        minOuts := minOuts
        expectedProfitRaw := expectedProfitRaw
        metadata := metadata }

end

/-- The product in rational numbers. -/
def exactTimes (sm : ℚ) (n : Int) : Except PyError Int := .ok (Double.trunc (n * sm))

/-- `scale_opportunity` of an object in the heap: the heap after it, and the object that is
returned. `model_copy` makes a new object. -/
def scaleOpportunityAt (mul : ℚ → Int → Except PyError Int) (heap : List Opportunity)
    (opp : Fin heap.length) (sm : ℚ) : Except PyError (List Opportunity × Nat) :=
  if 1 ≤ sm ∨ sm ≤ 0 then .ok (heap, opp)
  else (scaledBy (mul sm) (heap.get opp)).map fun out => (heap ++ [out], heap.length)

end SovereignCapital.Admission

/-! # Scaling in rational numbers

An amount that is scaled is at most its share of the original, unless the original is negative; an
amount that is left alone is so only where it is not positive. `scale_opportunity` in rational
numbers scales the texts of the first leg, of the second one with the amount under `out1`, and all
the minimum outputs or none.
-/

namespace SovereignCapital.Admission

open Bytes PyRaise Guarded

/-! ## Shares -/

/-- `max(0, int(n * s))`. -/
def floored (s : ℚ) (n : Int) : Int := max 0 (Double.trunc (n * s))

theorem floored_of_nonneg {s : ℚ} {n : Int} (hs : 0 < s) (hn : 0 ≤ n) : floored s n = ⌊s * n⌋ := by
  have hcast : (0 : ℚ) ≤ n := by exact_mod_cast hn
  have hproduct : (0 : ℚ) ≤ n * s := mul_nonneg hcast hs.le
  have hfloor : 0 ≤ ⌊(n : ℚ) * s⌋ := Int.floor_nonneg.2 hproduct
  unfold floored Double.trunc
  rw [if_pos hproduct, max_eq_right hfloor, mul_comm]

theorem floored_of_neg {s : ℚ} {n : Int} (hs : 0 < s) (hn : n < 0) : floored s n = 0 := by
  have hcast : (n : ℚ) < 0 := by exact_mod_cast hn
  have hproduct : (n : ℚ) * s < 0 := mul_neg_of_neg_of_pos hcast hs
  have hceil : ⌈(n : ℚ) * s⌉ ≤ 0 := Int.ceil_le.2 (by exact_mod_cast hproduct.le)
  unfold floored Double.trunc
  rw [if_neg (not_le.2 hproduct), max_eq_left hceil]

theorem floored_zero (s : ℚ) : floored s 0 = 0 := by
  unfold floored Double.trunc
  rw [Int.cast_zero, zero_mul, if_pos le_rfl, Int.floor_zero, max_self]

theorem floored_eq {s : ℚ} (hs : 0 < s) (n : Int) : floored s n = ⌊s * (max 0 n : Int)⌋ := by
  rcases lt_or_ge n 0 with hneg | hnonneg
  · rw [floored_of_neg hs hneg, max_eq_left hneg.le, Int.cast_zero, mul_zero, Int.floor_zero]
  · rw [floored_of_nonneg hs hnonneg, max_eq_right hnonneg]

theorem floored_max {s : ℚ} (hs : 0 < s) (n : Int) : floored s (max 0 n) = floored s n := by
  rw [floored_eq hs, floored_eq hs, max_eq_right (le_max_left 0 n)]

theorem floored_le_iff {s : ℚ} (hs : 0 < s) {n : Int} : (floored s n : ℚ) ≤ s * n ↔ 0 ≤ n := by
  rcases lt_or_ge n 0 with hneg | hnonneg
  · have hcast : (n : ℚ) < 0 := by exact_mod_cast hneg
    have hproduct : s * (n : ℚ) < 0 := mul_neg_of_pos_of_neg hs hcast
    rw [floored_of_neg hs hneg, Int.cast_zero]
    exact ⟨fun h => absurd hproduct (not_lt.2 h), fun h => absurd hneg (not_lt.2 h)⟩
  · rw [floored_of_nonneg hs hnonneg]
    exact ⟨fun _ => hnonneg, fun _ => Int.floor_le _⟩

/-! ## Readings -/

def read (t : Text) : Option Int := pyInt 10 t

/-- `int(str(v))`. -/
def readValue (v : PyTree) : Option Int := pyInt 10 v.str.toList

/-- What was an amount is an amount of at most `s` times as much. -/
def AtMost (s : ℚ) (x x' : Option Int) : Prop := ∀ n ∈ x, ∃ m ∈ x', (m : ℚ) ≤ s * n

/-- An amount is not negative. -/
def Unsigned (x : Option Int) : Prop := ∀ n ∈ x, 0 ≤ n

/-- An amount is not positive. -/
def Idle (x : Option Int) : Prop := ∀ n ∈ x, n ≤ 0

theorem atMost_none (s : ℚ) (x' : Option Int) : AtMost s none x' := by
  intro n hn
  cases hn

theorem unsigned_none : Unsigned none := by
  intro n hn
  cases hn

theorem atMost_some_iff {s : ℚ} {x : Option Int} {m : Int} :
    AtMost s x (some m) ↔ ∀ n ∈ x, (m : ℚ) ≤ s * n := by
  constructor
  · intro h n hn
    obtain ⟨m', hm', hle⟩ := h n hn
    cases hm'
    exact hle
  · intro h n hn
    exact ⟨m, rfl, h n hn⟩

theorem atMost_floored_iff {s : ℚ} (hs : 0 < s) {x : Option Int} :
    AtMost s x (x.map (floored s)) ↔ Unsigned x := by
  constructor
  · intro h n hn
    obtain ⟨m, hm, hle⟩ := h n hn
    rw [hn, Option.map_some] at hm
    cases hm
    exact (floored_le_iff hs).1 hle
  · intro h n hn
    refine ⟨floored s n, ?_, (floored_le_iff hs).2 (h n hn)⟩
    rw [hn]
    rfl

theorem le_mul_self_iff {s : ℚ} (hs : s < 1) {n : Int} : (n : ℚ) ≤ s * n ↔ n ≤ 0 := by
  rcases le_or_gt n 0 with hle | hpos
  · have hcast : (n : ℚ) ≤ 0 := by exact_mod_cast hle
    refine ⟨fun _ => hle, fun _ => ?_⟩
    calc (n : ℚ) = 1 * n := (one_mul _).symm
      _ ≤ s * n := mul_le_mul_of_nonpos_right hs.le hcast
  · have hcast : (0 : ℚ) < n := by exact_mod_cast hpos
    have hlt : s * (n : ℚ) < n := by
      calc s * (n : ℚ) < 1 * n := mul_lt_mul_of_pos_right hs hcast
        _ = n := one_mul _
    exact ⟨fun h => absurd hlt (not_lt.2 h), fun h => absurd hpos (not_lt.2 h)⟩

theorem atMost_self_iff {s : ℚ} (hs : s < 1) {x : Option Int} : AtMost s x x ↔ Idle x := by
  constructor
  · intro h n hn
    obtain ⟨m, hm, hle⟩ := h n hn
    cases hn.symm.trans hm
    exact (le_mul_self_iff hs).1 hle
  · intro h n hn
    exact ⟨n, hn, (le_mul_self_iff hs).2 (h n hn)⟩

/-- What becomes of an amount: its share, where it is not negative, or itself, where it is not
positive. -/
inductive Settled (s : ℚ) (x : Option Int) : Option Int → Prop
  | scaled (unsigned : Unsigned x) : Settled s x (x.map (floored s))
  | kept (idle : Idle x) : Settled s x x

/-- An amount that may be both is zero, and its own share. -/
theorem floored_of_idle {s : ℚ} {x : Option Int} (hunsigned : Unsigned x) (hidle : Idle x) :
    x.map (floored s) = x := by
  cases x with
  | none => rfl
  | some n =>
    have hzero : n = 0 := le_antisymm (hidle n rfl) (hunsigned n rfl)
    rw [hzero, Option.map_some, floored_zero]

namespace Settled

variable {s : ℚ} {x y z : Option Int}

theorem atMost (hs : 0 < s) (hs' : s < 1) (h : Settled s x y) : AtMost s x y := by
  cases h with
  | scaled unsigned => exact (atMost_floored_iff hs).2 unsigned
  | kept idle => exact (atMost_self_iff hs').2 idle

theorem some {n : Int} (h : Settled s (.some n) y) : ∃ m, y = .some m := by
  cases h with
  | scaled unsigned => exact ⟨_, rfl⟩
  | kept idle => exact ⟨n, rfl⟩

/-- What becomes of an amount does not depend on where it stands. -/
theorem unique (h : Settled s x y) (h' : Settled s x z) : y = z := by
  cases h with
  | scaled unsigned =>
    cases h' with
    | scaled _ => rfl
    | kept idle => exact floored_of_idle unsigned idle
  | kept idle =>
    cases h' with
    | scaled unsigned => exact (floored_of_idle unsigned idle).symm
    | kept _ => rfl

end Settled

/-! ## Texts and legs -/

def flooredText (s : ℚ) (t : Text) : Text :=
  match read t with
  | none => t
  | some n => pyDecimal (floored s n)

theorem timesTextBy_exact (s : ℚ) (t : Text) :
    timesTextBy (exactTimes s) t = .ok (flooredText s t) := by
  unfold timesTextBy flooredText read
  cases pyInt 10 t with
  | none => rfl
  | some n => rfl

theorem read_pyDecimal (n : Int) : read (pyDecimal n) = some n := pyInt_pyDecimal n

theorem read_flooredText (s : ℚ) (t : Text) :
    read (flooredText s t) = (read t).map (floored s) := by
  unfold flooredText
  cases h : read t with
  | none => exact h
  | some n => exact read_pyDecimal _

/-- The minimum outputs are scaled where all of them are integers. -/
def flooredMinOuts (s : ℚ) (minOuts : List Text) : List Text :=
  if ∀ t ∈ minOuts, (read t).isSome then minOuts.map (flooredText s) else minOuts

theorem mapM_exact (s : ℚ) (minOuts : List Text) :
    (minOuts.mapM fun t => do
      let n ← intOfText t
      let m ← exactTimes s n
      return pyDecimal (max 0 m) : Except PyError (List Text))
      = if ∀ t ∈ minOuts, (read t).isSome then .ok (minOuts.map (flooredText s))
        else .error .value := by
  induction minOuts with
  | nil => rfl
  | cons t minOuts ih =>
    rw [List.mapM_cons, ih]
    cases hread : read t with
    | none =>
      have hfail : ¬ ∀ t' ∈ t :: minOuts, (read t').isSome := by
        intro hall
        have hsome := hall t List.mem_cons_self
        rw [hread] at hsome
        cases hsome
      rw [if_neg hfail, intOfText, show pyInt 10 t = none from hread]
      rfl
    | some n =>
      have hfloored : flooredText s t = pyDecimal (floored s n) := by
        unfold flooredText
        rw [hread]
      have hiff : (∀ t' ∈ t :: minOuts, (read t').isSome)
          ↔ ∀ t' ∈ minOuts, (read t').isSome := by
        rw [List.forall_mem_cons, hread]
        exact and_iff_right rfl
      rw [intOfText, show pyInt 10 t = some n from hread]
      by_cases hall : ∀ t' ∈ minOuts, (read t').isSome
      · rw [if_pos hall, if_pos (hiff.2 hall), List.map_cons, hfloored]
        rfl
      · rw [if_neg hall, if_neg (mt hiff.1 hall)]
        rfl

theorem scaleMinOutsBy_exact (s : ℚ) (minOuts : List Text) :
    scaleMinOutsBy (exactTimes s) minOuts = .ok (flooredMinOuts s minOuts) := by
  unfold scaleMinOutsBy flooredMinOuts
  rw [mapM_exact]
  by_cases hall : ∀ t ∈ minOuts, (read t).isSome
  · rw [if_pos hall, if_pos hall, recover_ok]
  · rw [if_neg hall, if_neg hall, recover_caught (by decide)]

def flooredOut1 (s : ℚ) (metadata : PyTree) : PyTree :=
  match PyMap.get? metadata.mapping "out1" with
  | none => metadata
  | some out1 =>
    match read (out1.orElse (textValue ['0'])).str.toList with
    | none => metadata
    | some n => putIn metadata "out1" (textValue (pyDecimal (floored s n)))

theorem scaleOut1By_exact (s : ℚ) (metadata : PyTree) :
    scaleOut1By (exactTimes s) metadata = .ok (flooredOut1 s metadata) := by
  unfold scaleOut1By flooredOut1 read
  cases PyMap.get? metadata.mapping "out1" with
  | none => rfl
  | some out1 =>
    dsimp only
    cases pyInt 10 (out1.orElse (textValue ['0'])).str.toList with
    | none => rfl
    | some n => rfl

theorem readOr_textValue (n : Int) :
    read ((textValue (pyDecimal n)).orElse (textValue ['0'])).str.toList = some n := by
  have htruthy : (textValue (pyDecimal n)).truthy = true := by
    rw [textValue, PyTree.truthy, PyValue.truthy, bne_iff_ne]
    intro hempty
    have hlist := congrArg String.toList hempty
    rw [String.toList_ofList] at hlist
    exact pyDecimal_ne_nil n hlist
  rw [PyTree.orElse_of_truthy _ htruthy]
  show read (String.ofList (pyDecimal n)).toList = some n
  rw [String.toList_ofList, read_pyDecimal]

/-- What is read under `out1` after the scaling is the share of what is read before; a missing
amount is read as zero. -/
theorem readOut1_flooredOut1 (s : ℚ) (metadata : PyTree) :
    readOut1 (flooredOut1 s metadata) = (readOut1 metadata).map (floored s) := by
  cases metadata with
  | leaf v => rfl
  | inf negative => rfl
  | nan => rfl
  | list items repr => rfl
  | dict items repr =>
    have hread : readOut1 (.dict items repr)
        = read ((PyMap.get items "out1").orElse (textValue ['0'])).str.toList := rfl
    unfold flooredOut1
    rw [show (PyTree.dict items repr).mapping = items from rfl]
    cases hfound : PyMap.get? items "out1" with
    | none =>
      have hzero : readOut1 (.dict items repr) = some 0 := by
        rw [hread, PyMap.get, hfound]
        decide
      dsimp only
      rw [hzero, Option.map_some, floored_zero]
    | some out1 =>
      rw [hread, PyMap.get, hfound, Option.getD_some]
      dsimp only
      cases hn : read (out1.orElse (textValue ['0'])).str.toList with
      | none =>
        dsimp only
        rw [hread, PyMap.get, hfound, Option.getD_some, hn]
        rfl
      | some n =>
        show read ((PyMap.get (put items "out1" _) "out1").orElse _).str.toList = _
        rw [PyMap.get, get?_put, if_pos rfl, Option.getD_some, readOr_textValue]
        rfl

/-- The second leg takes the share of `out1`, or of its own amount where none can be read. -/
def secondLeg (s : ℚ) (metadata : PyTree) (leg : RouteLeg) : RouteLeg :=
  match (readOut1 metadata).orElse fun _ => read leg.amountIn with
  | none => leg
  | some n => { leg with amountIn := pyDecimal (floored s n), minOut := flooredText s leg.minOut }

theorem scaleSecondBy_exact (s : ℚ) (metadata : PyTree) (legs : List RouteLeg) :
    scaleSecondBy (exactTimes s) (flooredOut1 s metadata) legs
      = .ok (legs.modifyHead (secondLeg s metadata)) := by
  cases legs with
  | nil => rfl
  | cons leg rest =>
    unfold scaleSecondBy secondLeg read
    rw [readOut1_flooredOut1, List.modifyHead_cons]
    cases hout : readOut1 metadata with
    | some n =>
      simp only [Option.map_some, Option.orElse_some, timesTextBy_exact]
      rfl
    | none =>
      simp only [Option.map_none, Option.orElse_none]
      cases hamount : pyInt 10 leg.amountIn with
      | none => rfl
      | some n =>
        simp only [timesTextBy_exact, exactTimes, Except.map]
        rfl

end SovereignCapital.Admission
