import SovereignCapital.Lib.Guarded
import SovereignCapital.Lib.PyRaise

/-! # Opportunities and their scaling

An opportunity is a route whose amounts are texts, with metadata that other parts of the program
fill: any value may stand anywhere in it. `scale_opportunity` makes a smaller copy. A text that is
no integer is left as it is; an integer that is too large for a double, a route without legs and
metadata under `brain` that are no dictionary make it raise.
-/

namespace SovereignCapital.Admission

open Bytes PyRaise Guarded

/-- `RouteLeg`, without its tokens. -/
structure RouteLeg where
  venue : Text
  amountIn : Text
  minOut : Text

structure Opportunity where
  legs : List RouteLeg
  minOuts : List Text
  expectedProfitRaw : Text
  /-- `meta` -/
  metadata : PyTree

def Opportunity.amountIn (opp : Opportunity) : Option Int :=
  match opp.legs with
  | [] => none
  | leg :: _ => pyInt 10 leg.amountIn

/-- What the handlers of the services catch. -/
def safeExceptions : List PyError := [.attribute, .key, .type, .value]

/-! ## Scaling -/

/-- `int(n * sm)`. -/
def times (n : Int) (sm : ℚ) : Except PyError Int :=
  match Double.ofInt n with
  | none => .error .overflow
  | some x => .ok (Double.trunc (Double.mul x sm))

/-- `str(max(0, int(int(t) * sm)))`, or the text itself where it is no integer. -/
def timesText (t : Text) (sm : ℚ) : Except PyError Text :=
  match pyInt 10 t with
  | none => .ok t
  | some n => (times n sm).map fun m => pyDecimal (max 0 m)

def textValue (t : Text) : PyTree := .leaf (.text (String.ofList t))

/-- The amount under `out1` is scaled. -/
def scaleOut1 (metadata : PyTree) (sm : ℚ) : Except PyError PyTree :=
  match PyMap.get? metadata.mapping "out1" with
  | none => .ok metadata
  | some out1 =>
    match pyInt 10 (out1.orElse (textValue ['0'])).str.toList with
    | none => .ok metadata
    | some n => (times n sm).map fun m => putIn metadata "out1" (textValue (pyDecimal (max 0 m)))

/-- `int(str(meta.get("out1") or "0"))`; nothing where it raises. -/
def readOut1 (metadata : PyTree) : Option Int :=
  match metadata with
  | .dict items _ => pyInt 10 ((PyMap.get items "out1").orElse (textValue ['0'])).str.toList
  | _ => none

def scaleSecond (metadata : PyTree) (sm : ℚ) : List RouteLeg → Except PyError (List RouteLeg)
  | [] => .ok []
  | leg :: rest => do
    let amountIn ←
      match readOut1 metadata with
      | some out1 => .ok (some (pyDecimal out1))
      | none =>
        match pyInt 10 leg.amountIn with
        | none => .ok none
        | some n => (times n sm).map fun m => some (pyDecimal (max 0 m))
    match amountIn with
    | none => return leg :: rest
    | some amountIn =>
      let minOut ← timesText leg.minOut sm
      return { leg with amountIn := amountIn, minOut := minOut } :: rest

/-- `brain[k] = v`. -/
def noteBrain (metadata : PyTree) (k v : String) : Except PyError PyTree := do
  let brain ← setItem (PyMap.get metadata.mapping "brain") k (.leaf (.text v))
  return putIn metadata "brain" brain

/-- `safety[k] = v`. -/
def noteSafety (metadata : PyTree) (k : String) (v : PyTree) : PyTree :=
  putIn metadata "safety" (putIn (PyMap.get metadata.mapping "safety") k v)

/-- The profit in micro dollars, where there is one. -/
def syncUsd (metadata : PyTree) (sm : ℚ) : Except PyError PyTree :=
  match PyMap.get? (PyMap.get metadata.mapping "safety").mapping "profit_after_costs_usd_micro" with
  | none => .ok metadata
  | some usd =>
    match pyInt 10 (usd.orElse (textValue ['0'])).str.toList with
    | none =>
      noteBrain
        (noteSafety metadata "profit_after_costs_usd_micro" (textValue ['0']))
        "profit_after_costs_usd_sync" "invalid_input_zeroed"
    | some n => (times (max 0 n) sm).map fun m =>
      noteSafety metadata "profit_after_costs_usd_micro" (textValue (pyDecimal (max 0 m)))

def withSections (metadata : PyTree) : PyTree :=
  if (PyMap.get (withDict metadata "brain").mapping "safety").isMapping then
    withDict metadata "brain"
  else putIn (withDict metadata "brain") "safety" emptyDict

/-- The profit after costs, in the metadata or else under `safety`. -/
def rawAfter (metadata : PyTree) : Option PyTree :=
  (PyMap.get? metadata.mapping "profit_after_costs").orElse fun _ =>
    PyMap.get? (PyMap.get metadata.mapping "safety").mapping "profit_after_costs_wei"

/-- The profit after costs is written to both places. -/
def noteAfter (metadata : PyTree) (after : Text) : PyTree :=
  noteSafety (putIn metadata "profit_after_costs" (textValue after)) "profit_after_costs_wei"
    (textValue after)

def syncAfter (metadata : PyTree) (sm : ℚ) : Except PyError PyTree :=
  match rawAfter metadata with
  | none => .ok metadata
  | some after =>
    match pyInt 10 after.str.toList with
    | none =>
      noteBrain (noteAfter metadata ['0']) "profit_after_costs_sync" "invalid_input_zeroed"
    | some n => do
      let m ← times (max 0 n) sm
      let metadata ← syncUsd (noteAfter metadata (pyDecimal (max 0 m))) sm
      noteBrain metadata "profit_after_costs_sync" "scaled"

def syncScaledProfitFields (metadata : PyTree) (sm : ℚ) : Except PyError PyTree :=
  if metadata.isMapping then syncAfter (withSections metadata) sm else .ok metadata

/-- `int(x)` of a text. -/
def intOfText (t : Text) : Except PyError Int :=
  match pyInt 10 t with
  | none => .error .value
  | some n => .ok n

/-- All of `min_outs`, or none. -/
def scaleMinOuts (minOuts : List Text) (sm : ℚ) : Except PyError (List Text) :=
  recover safeExceptions minOuts <|
    minOuts.mapM fun t => do
      let n ← intOfText t
      let m ← times n sm
      return pyDecimal (max 0 m)

/-- `meta["brain"].setdefault("size_mult_applied", sm)`; the multiplier itself is not kept here. -/
def markBrain (metadata : PyTree) : Except PyError PyTree :=
  if metadata.isMapping then
    if (PyMap.get (withDict metadata "brain").mapping "brain").isMapping then
      .ok (withDict metadata "brain")
    else .error .attribute
  else .ok metadata

/-- `scale_opportunity` between zero and one. -/
def scaled (opp : Opportunity) (sm : ℚ) : Except PyError Opportunity :=
  match opp.legs with
  | [] => .error .index
  | leg :: rest =>
    match pyInt 10 leg.amountIn with
    | none => .ok opp
    | some amountIn0 => do
      let newIn0 ← times amountIn0 sm
      let minOut ← timesText leg.minOut sm
      let metadata ← scaleOut1 opp.metadata sm
      let rest ← scaleSecond metadata sm rest
      let expectedProfitRaw ← timesText opp.expectedProfitRaw sm
      let metadata ← syncScaledProfitFields metadata sm
      let minOuts ← scaleMinOuts opp.minOuts sm
      let metadata ← markBrain metadata
      return {
        legs := { leg with amountIn := pyDecimal (max 1 newIn0), minOut := minOut } :: rest
        minOuts := minOuts
        expectedProfitRaw := expectedProfitRaw
        metadata := metadata }

def scaleOpportunity (opp : Opportunity) (sm : PyFloat) : Except PyError Opportunity :=
  match sm with
  | .finite x => if 1 ≤ x ∨ x ≤ 0 then .ok opp else scaled opp x
  | .inf _ => .ok opp
  | .nan =>
    -- `int` raises on the product
    match opp.legs with
    | [] => .error .index
    | leg :: _ => if (pyInt 10 leg.amountIn).isSome then .error .value else .ok opp

/-! ## What scaling keeps -/

def scaledItems : List String := ["out1", "brain", "safety", "profit_after_costs"]

variable {metadata out : PyTree} {sm : ℚ}

theorem sameBut_scaleOut1 (h : scaleOut1 metadata sm = .ok out) :
    SameBut scaledItems metadata out := by
  unfold scaleOut1 at h
  split at h
  · cases h
    exact SameBut.refl _ _
  · split at h
    · cases h
      exact SameBut.refl _ _
    · obtain ⟨m, -, rfl⟩ := map_ok_iff.1 h
      exact SameBut.putIn (by decide) _ _

theorem sameBut_noteBrain {k v : String} (h : noteBrain metadata k v = .ok out) :
    SameBut scaledItems metadata out := by
  obtain ⟨brain, -, h⟩ := bind_ok_iff.1 h
  cases h
  exact SameBut.putIn (by decide) _ _

theorem sameBut_noteSafety (metadata : PyTree) (k : String) (v : PyTree) :
    SameBut scaledItems metadata (noteSafety metadata k v) :=
  SameBut.putIn (by decide) _ _

theorem sameBut_syncUsd (h : syncUsd metadata sm = .ok out) : SameBut scaledItems metadata out := by
  unfold syncUsd at h
  split at h
  · cases h
    exact SameBut.refl _ _
  · split at h
    · exact (sameBut_noteSafety _ _ _).trans (sameBut_noteBrain h)
    · obtain ⟨m, -, rfl⟩ := map_ok_iff.1 h
      exact sameBut_noteSafety _ _ _

theorem sameBut_withSections (metadata : PyTree) :
    SameBut scaledItems metadata (withSections metadata) := by
  have hbrain : SameBut scaledItems metadata (withDict metadata "brain") :=
    SameBut.withDict (by decide) _
  unfold withSections
  split
  · exact hbrain
  · exact hbrain.trans (SameBut.putIn (by decide) _ _)

theorem sameBut_noteAfter (metadata : PyTree) (after : Text) :
    SameBut scaledItems metadata (noteAfter metadata after) :=
  (SameBut.putIn (by decide) _ _).trans (sameBut_noteSafety _ _ _)

theorem sameBut_syncAfter (h : syncAfter metadata sm = .ok out) :
    SameBut scaledItems metadata out := by
  unfold syncAfter at h
  split at h
  · cases h
    exact SameBut.refl _ _
  · split at h
    · exact (sameBut_noteAfter _ _).trans (sameBut_noteBrain h)
    · obtain ⟨m, -, h⟩ := bind_ok_iff.1 h
      obtain ⟨synced, husd, h⟩ := bind_ok_iff.1 h
      exact ((sameBut_noteAfter _ _).trans (sameBut_syncUsd husd)).trans (sameBut_noteBrain h)

theorem sameBut_syncScaledProfitFields (h : syncScaledProfitFields metadata sm = .ok out) :
    SameBut scaledItems metadata out := by
  unfold syncScaledProfitFields at h
  split at h
  · exact (sameBut_withSections _).trans (sameBut_syncAfter h)
  · cases h
    exact SameBut.refl _ _

theorem sameBut_markBrain (h : markBrain metadata = .ok out) :
    SameBut scaledItems metadata out := by
  unfold markBrain at h
  split at h
  · split at h
    · cases h
      exact SameBut.withDict (by decide) _
    · cases h
  · cases h
    exact SameBut.refl _ _

def shrunk (amount : Int) (sm : ℚ) : Int :=
  max 1 (Double.trunc (Double.mul (Double.nearest amount) sm))

structure SameRequest (opp out : Opportunity) : Prop where
  venue : out.legs.head?.map RouteLeg.venue = opp.legs.head?.map RouteLeg.venue
  metadata : SameBut scaledItems opp.metadata out.metadata

theorem times_eq_ok {n m : Int} (h : times n sm = .ok m) :
    m = Double.trunc (Double.mul (Double.nearest n) sm) := by
  unfold times Double.ofInt at h
  by_cases hfits : |Double.nearest n| < 2 ^ 1024
  · simp only [hfits, if_true, Except.ok.injEq] at h
    exact h.symm
  · simp only [hfits, if_false, reduceCtorEq] at h

/-- **Scaling.** It keeps what the gates read, and an amount that is a number shrinks. -/
theorem scaled_eq_ok {opp out : Opportunity} (h : scaled opp sm = .ok out) :
    SameRequest opp out ∧ out.amountIn = opp.amountIn.map fun amount => shrunk amount sm := by
  unfold scaled at h
  split at h
  · cases h
  · rename_i leg rest hlegs
    split at h
    · rename_i hnone
      cases h
      refine ⟨⟨rfl, SameBut.refl _ _⟩, ?_⟩
      rw [Opportunity.amountIn, hlegs]
      simp only [hnone, Option.map_none]
    · rename_i amountIn0 hamount
      obtain ⟨newIn0, hnew, h⟩ := bind_ok_iff.1 h
      obtain ⟨minOut, -, h⟩ := bind_ok_iff.1 h
      obtain ⟨m₁, hout1, h⟩ := bind_ok_iff.1 h
      obtain ⟨rest', -, h⟩ := bind_ok_iff.1 h
      obtain ⟨raw, -, h⟩ := bind_ok_iff.1 h
      obtain ⟨m₂, hsync, h⟩ := bind_ok_iff.1 h
      obtain ⟨minOuts, -, h⟩ := bind_ok_iff.1 h
      obtain ⟨m₃, hmark, h⟩ := bind_ok_iff.1 h
      cases h
      refine ⟨⟨?_, ?_⟩, ?_⟩
      · rw [hlegs]
        rfl
      · exact ((sameBut_scaleOut1 hout1).trans (sameBut_syncScaledProfitFields hsync)).trans
          (sameBut_markBrain hmark)
      · simp only [Opportunity.amountIn, hlegs, hamount, Option.map_some, pyInt_pyDecimal]
        rw [times_eq_ok hnew]
        rfl

end SovereignCapital.Admission
