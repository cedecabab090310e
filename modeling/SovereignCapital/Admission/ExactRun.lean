import SovereignCapital.Admission.Downscale

/-! # The run of a scaling

What becomes of the profits after costs, which stand in two places and in micro dollars, and what
`scale_opportunity` makes of an opportunity as a whole. There is a result exactly where the item
under `brain` is missing or a dictionary.
-/

namespace SovereignCapital.Admission

open Bytes PyRaise Guarded

/-! ## Profits after costs -/

/-- An item under `safety`. -/
def safetyItem (metadata : PyTree) (k : String) : Option PyTree :=
  PyMap.get? (PyMap.get metadata.mapping "safety").mapping k

structure AfterCosts where
  after : Option Int
  wei : Option Int
  usdMicro : Option Int

def afterCosts (metadata : PyTree) : AfterCosts where
  after := (PyMap.get? metadata.mapping "profit_after_costs").bind readValue
  wei := (safetyItem metadata "profit_after_costs_wei").bind readValue
  usdMicro := (safetyItem metadata "profit_after_costs_usd_micro").bind readValue

/-- What becomes of the profit in micro dollars, where the profit after costs is scaled. -/
def flooredUsd (s : ℚ) (usd : PyTree) : Int :=
  ((read (usd.orElse (textValue ['0'])).str.toList).map (floored s)).getD 0

/-- What becomes of the profits. -/
def settledAfterCosts (s : ℚ) (metadata : PyTree) : AfterCosts :=
  match rawAfter metadata with
  | none => afterCosts metadata
  | some raw =>
    match readValue raw with
    | none => ⟨some 0, some 0, (afterCosts metadata).usdMicro⟩
    | some n => ⟨some (floored s n), some (floored s n),
        (safetyItem metadata "profit_after_costs_usd_micro").map (flooredUsd s)⟩

variable {v metadata out : PyTree} {k : String}

theorem get?_putIn (h : v.isMapping = true) (k k' : String) (w : PyTree) :
    PyMap.get? (putIn v k w).mapping k' = if k' = k then some w else PyMap.get? v.mapping k' := by
  cases v with
  | dict items repr => exact get?_put items k k' w
  | leaf v => cases h
  | inf negative => cases h
  | nan => cases h
  | list items repr => cases h

theorem isMapping_putIn (v : PyTree) (k : String) (w : PyTree) :
    (putIn v k w).isMapping = v.isMapping := by
  cases v <;> rfl

theorem get_putIn_self (h : v.isMapping = true) (k : String) (w : PyTree) :
    PyMap.get (putIn v k w).mapping k = w := by
  rw [PyMap.get, get?_putIn h, if_pos rfl]
  rfl

theorem get_putIn_ne (h : v.isMapping = true) {k' : String} (hne : k' ≠ k) (w : PyTree) :
    PyMap.get (putIn v k w).mapping k' = PyMap.get v.mapping k' := by
  rw [PyMap.get, get?_putIn h, if_neg hne]
  rfl

theorem afterCosts_congr {w : PyTree}
    (hafter : PyMap.get? w.mapping "profit_after_costs" = PyMap.get? v.mapping "profit_after_costs")
    (hsafety : ∀ k, safetyItem w k = safetyItem v k) : afterCosts w = afterCosts v := by
  unfold afterCosts
  rw [hafter, hsafety, hsafety]

/-- Metadata with a dictionary under `safety`; whether what is under `brain` is one is told. -/
structure Sections (brain : Bool) (metadata : PyTree) : Prop where
  isMapping : metadata.isMapping = true
  safety : (PyMap.get metadata.mapping "safety").isMapping = true
  brain_eq : (PyMap.get? metadata.mapping "brain").map PyTree.isMapping = some brain

/-- Whether the item under `brain`, or the one that is made, is a dictionary. -/
def brainFits (metadata : PyTree) : Bool :=
  ((PyMap.get? metadata.mapping "brain").map PyTree.isMapping).getD true

theorem brain_withDict (h : metadata.isMapping = true) :
    (PyMap.get? (withDict metadata "brain").mapping "brain").map PyTree.isMapping
      = some (brainFits metadata) := by
  unfold withDict brainFits
  cases hfound : PyMap.get? metadata.mapping "brain" with
  | none =>
    rw [Option.isSome_none, if_neg Bool.false_ne_true, get?_putIn h, if_pos rfl]
    rfl
  | some brain =>
    rw [Option.isSome_some, if_pos rfl, hfound]
    rfl

theorem get_withDict_ne (h : metadata.isMapping = true) {k' : String} (hne : k' ≠ k) :
    PyMap.get? (withDict metadata k).mapping k' = PyMap.get? metadata.mapping k' := by
  unfold withDict
  split
  · rfl
  · rw [get?_putIn h, if_neg hne]

theorem isMapping_withDict (metadata : PyTree) (k : String) :
    (withDict metadata k).isMapping = metadata.isMapping := by
  unfold withDict
  split
  · rfl
  · exact isMapping_putIn _ _ _

theorem sections_withSections (h : metadata.isMapping = true) :
    Sections (brainFits metadata) (withSections metadata) := by
  have hdict := (isMapping_withDict metadata "brain").trans h
  unfold withSections
  split
  · rename_i hsafety
    exact ⟨hdict, hsafety, brain_withDict h⟩
  · refine ⟨(isMapping_putIn _ _ _).trans hdict, ?_, ?_⟩
    · rw [get_putIn_self hdict]
      rfl
    · rw [get?_putIn hdict, if_neg (by decide), brain_withDict h]

theorem safetyItem_withSections (h : metadata.isMapping = true) (k : String) :
    safetyItem (withSections metadata) k = safetyItem metadata k := by
  have hdict := (isMapping_withDict metadata "brain").trans h
  have hsame : PyMap.get (withDict metadata "brain").mapping "safety"
      = PyMap.get metadata.mapping "safety" := by
    unfold PyMap.get
    rw [get_withDict_ne h (by decide)]
  unfold safetyItem withSections
  by_cases hsafety : (PyMap.get (withDict metadata "brain").mapping "safety").isMapping = true
  · rw [if_pos hsafety, hsame]
  · -- what is no dictionary has no items
    rw [if_neg hsafety, get_putIn_self hdict]
    rw [hsame] at hsafety
    have hnone : (PyMap.get metadata.mapping "safety").mapping = [] := by
      cases hv : PyMap.get metadata.mapping "safety" with
      | dict items repr =>
        rw [hv] at hsafety
        exact absurd rfl hsafety
      | leaf v => rfl
      | inf negative => rfl
      | nan => rfl
      | list items repr => rfl
    rw [hnone]
    rfl

theorem profit_withSections (h : metadata.isMapping = true) :
    PyMap.get? (withSections metadata).mapping "profit_after_costs"
      = PyMap.get? metadata.mapping "profit_after_costs" := by
  have hdict := (isMapping_withDict metadata "brain").trans h
  unfold withSections
  split
  · exact get_withDict_ne h (by decide)
  · rw [get?_putIn hdict, if_neg (by decide), get_withDict_ne h (by decide)]

namespace Sections

variable {b : Bool} {m : PyTree}

theorem putIn_profit (h : Sections b m) (w : PyTree) :
    Sections b (putIn m "profit_after_costs" w) := by
  refine ⟨(isMapping_putIn _ _ _).trans h.isMapping, ?_, ?_⟩
  · rw [get_putIn_ne h.isMapping (by decide)]
    exact h.safety
  · rw [get?_putIn h.isMapping, if_neg (by decide)]
    exact h.brain_eq

theorem noteSafety (h : Sections b m) (k : String) (v : PyTree) :
    Sections b (noteSafety m k v) := by
  unfold Admission.noteSafety
  refine ⟨(isMapping_putIn _ _ _).trans h.isMapping, ?_, ?_⟩
  · rw [get_putIn_self h.isMapping, isMapping_putIn]
    exact h.safety
  · rw [get?_putIn h.isMapping, if_neg (by decide)]
    exact h.brain_eq

theorem safetyItem_noteSafety (h : Sections b m) (k k' : String) (v : PyTree) :
    safetyItem (Admission.noteSafety m k v) k' = if k' = k then some v else safetyItem m k' := by
  unfold safetyItem Admission.noteSafety
  rw [get_putIn_self h.isMapping, get?_putIn h.safety]

theorem profit_noteSafety (h : Sections b m) (k : String) (v : PyTree) :
    PyMap.get? (Admission.noteSafety m k v).mapping "profit_after_costs"
      = PyMap.get? m.mapping "profit_after_costs" := by
  unfold Admission.noteSafety
  rw [get?_putIn h.isMapping, if_neg (by decide)]

theorem isMapping_brain (h : Sections b m) :
    (PyMap.get m.mapping "brain").isMapping = b := by
  obtain ⟨brain, hfound, hb⟩ := Option.map_eq_some_iff.1 h.brain_eq
  rw [PyMap.get, hfound]
  exact hb

theorem brainFits_eq (h : Sections b m) : brainFits m = b := by
  rw [brainFits, h.brain_eq]
  rfl

theorem noteBrain (h : Sections b m) {v : String} (hout : Admission.noteBrain m k v = .ok out) :
    b = true ∧ Sections b out ∧ afterCosts out = afterCosts m := by
  obtain ⟨brain, hbrain, hput⟩ := bind_ok_iff.1 hout
  cases hput
  unfold setItem at hbrain
  split at hbrain
  · rename_i hmapping
    cases hbrain
    have hb : b = true := h.isMapping_brain.symm.trans hmapping
    refine ⟨hb, ⟨(isMapping_putIn _ _ _).trans h.isMapping, ?_, ?_⟩, ?_⟩
    · rw [get_putIn_ne h.isMapping (by decide)]
      exact h.safety
    · rw [get?_putIn h.isMapping, if_pos rfl, Option.map_some, isMapping_putIn, h.isMapping_brain]
    · refine afterCosts_congr ?_ fun k => ?_
      · rw [get?_putIn h.isMapping, if_neg (by decide)]
      · unfold safetyItem
        rw [get_putIn_ne h.isMapping (by decide)]
  · cases hbrain

theorem noteBrain_ok (h : Sections true m) (k v : String) :
    ∃ out, Admission.noteBrain m k v = .ok out := by
  unfold Admission.noteBrain setItem
  rw [h.isMapping_brain, if_pos rfl]
  exact ⟨_, rfl⟩

end Sections

/-! ## The run -/

theorem readValue_textValue (t : Text) : readValue (textValue t) = read t := by
  show pyInt 10 (String.ofList t).toList = read t
  rw [String.toList_ofList]
  rfl

theorem rawAfter_withSections (h : metadata.isMapping = true) :
    rawAfter (withSections metadata) = rawAfter metadata := by
  have hsafety := safetyItem_withSections h "profit_after_costs_wei"
  unfold safetyItem at hsafety
  unfold rawAfter
  rw [profit_withSections h, hsafety]

theorem afterCosts_withSections (h : metadata.isMapping = true) :
    afterCosts (withSections metadata) = afterCosts metadata :=
  afterCosts_congr (profit_withSections h) (safetyItem_withSections h)

namespace Sections

variable {b : Bool} {m : PyTree}

theorem noteAfter (h : Sections b m) (after : Text) : Sections b (noteAfter m after) :=
  (h.putIn_profit _).noteSafety _ _

theorem safetyItem_noteAfter (h : Sections b m) (after : Text) :
    safetyItem (Admission.noteAfter m after) "profit_after_costs_usd_micro"
      = safetyItem m "profit_after_costs_usd_micro" := by
  unfold Admission.noteAfter
  rw [(h.putIn_profit _).safetyItem_noteSafety, if_neg (by decide)]
  unfold safetyItem
  rw [get_putIn_ne h.isMapping (by decide)]

/-- The profit is written to both places. -/
theorem afterCosts_noteAfter (h : Sections b m) (after : Text) :
    afterCosts (Admission.noteAfter m after)
      = ⟨read after, read after, (afterCosts m).usdMicro⟩ := by
  have husd := h.safetyItem_noteAfter after
  unfold afterCosts
  rw [husd]
  unfold Admission.noteAfter
  rw [(h.putIn_profit _).profit_noteSafety, get?_putIn h.isMapping, if_pos rfl,
    (h.putIn_profit _).safetyItem_noteSafety, if_pos rfl, Option.bind_some, readValue_textValue]

theorem afterCosts_noteUsd (h : Sections b m) (usd : Text) :
    afterCosts (Admission.noteSafety m "profit_after_costs_usd_micro" (textValue usd))
      = ⟨(afterCosts m).after, (afterCosts m).wei, read usd⟩ := by
  unfold afterCosts
  rw [h.profit_noteSafety, h.safetyItem_noteSafety, if_neg (by decide), h.safetyItem_noteSafety,
    if_pos rfl, Option.bind_some, readValue_textValue]

theorem syncUsd {s : ℚ} (hs : 0 < s) (h : Sections b m) {out : PyTree}
    (hout : syncUsdBy (exactTimes s) m = .ok out) :
    Sections b out ∧ afterCosts out = ⟨(afterCosts m).after, (afterCosts m).wei,
      (safetyItem m "profit_after_costs_usd_micro").map (flooredUsd s)⟩ := by
  unfold syncUsdBy at hout
  unfold flooredUsd read
  -- the profit in micro dollars is missing, no integer or an integer
  cases hfound : PyMap.get? (PyMap.get m.mapping "safety").mapping
      "profit_after_costs_usd_micro" with
  | none =>
    rw [hfound] at hout
    cases hout
    refine ⟨h, ?_⟩
    rw [show safetyItem m "profit_after_costs_usd_micro" = none from hfound, Option.map_none]
    unfold afterCosts
    rw [show safetyItem m "profit_after_costs_usd_micro" = none from hfound]
    rfl
  | some usd =>
    rw [show safetyItem m "profit_after_costs_usd_micro" = some usd from hfound, Option.map_some]
    rw [hfound] at hout
    dsimp only at hout
    cases hread : pyInt 10 (usd.orElse (textValue ['0'])).str.toList with
    | none =>
      rw [hread] at hout
      obtain ⟨-, hsections, hafter⟩ := (h.noteSafety _ _).noteBrain hout
      refine ⟨hsections, ?_⟩
      rw [hafter, h.afterCosts_noteUsd]
      rfl
    | some n =>
      rw [hread] at hout
      cases hout
      refine ⟨h.noteSafety _ _, ?_⟩
      rw [h.afterCosts_noteUsd, read_pyDecimal]
      show _ = AfterCosts.mk _ _ (some (floored s n))
      rw [← floored_max hs]
      rfl

theorem syncUsd_ok (h : Sections true m) (s : ℚ) :
    ∃ out, syncUsdBy (exactTimes s) m = .ok out := by
  unfold syncUsdBy
  cases PyMap.get? (PyMap.get m.mapping "safety").mapping "profit_after_costs_usd_micro" with
  | none => exact ⟨_, rfl⟩
  | some usd =>
    dsimp only
    cases pyInt 10 (usd.orElse (textValue ['0'])).str.toList with
    | none => exact (h.noteSafety _ _).noteBrain_ok _ _
    | some n => exact ⟨_, rfl⟩

end Sections

/-- **The profits after the run.** -/
theorem afterCosts_sync {s : ℚ} (hs : 0 < s) (hmapping : metadata.isMapping = true)
    (h : syncScaledProfitFieldsBy (exactTimes s) metadata = .ok out) :
    Sections (brainFits metadata) out ∧ afterCosts out = settledAfterCosts s metadata := by
  have hsections := sections_withSections hmapping
  have hbefore := afterCosts_withSections hmapping
  unfold syncScaledProfitFieldsBy syncAfterBy at h
  rw [if_pos hmapping, rawAfter_withSections hmapping] at h
  unfold settledAfterCosts
  cases hraw : rawAfter metadata with
  | none =>
    rw [hraw] at h
    cases h
    exact ⟨hsections, hbefore⟩
  | some raw =>
    rw [hraw] at h
    dsimp only at h ⊢
    cases hread : readValue raw with
    | none =>
      rw [show pyInt 10 raw.str.toList = none from hread] at h
      obtain ⟨-, hout, hafter⟩ := (hsections.noteAfter _).noteBrain h
      refine ⟨hout, ?_⟩
      rw [hafter, hsections.afterCosts_noteAfter, hbefore]
      rfl
    | some n =>
      rw [show pyInt 10 raw.str.toList = some n from hread] at h
      obtain ⟨m, hm, hrest⟩ := bind_ok_iff.1 h
      cases hm
      obtain ⟨synced, husd, hnote⟩ := bind_ok_iff.1 hrest
      obtain ⟨hsynced, hafter⟩ := (hsections.noteAfter _).syncUsd hs husd
      obtain ⟨-, hout, hnoted⟩ := hsynced.noteBrain hnote
      refine ⟨hout, ?_⟩
      rw [hnoted, hafter, hsections.afterCosts_noteAfter, hsections.safetyItem_noteAfter,
        safetyItem_withSections hmapping, read_pyDecimal]
      show AfterCosts.mk (some (floored s (max 0 n))) (some (floored s (max 0 n))) _ = _
      rw [floored_max hs]

theorem sync_ok {s : ℚ} (hs : 0 < s) (hbrain : brainFits metadata = true) :
    ∃ out, syncScaledProfitFieldsBy (exactTimes s) metadata = .ok out := by
  unfold syncScaledProfitFieldsBy
  by_cases hmapping : metadata.isMapping = true
  · have hsections := sections_withSections hmapping
    rw [hbrain] at hsections
    rw [if_pos hmapping]
    unfold syncAfterBy
    cases rawAfter (withSections metadata) with
    | none => exact ⟨_, rfl⟩
    | some raw =>
      dsimp only
      cases pyInt 10 raw.str.toList with
      | none => exact (hsections.noteAfter _).noteBrain_ok _ _
      | some n =>
        have hnoted := hsections.noteAfter
          (pyDecimal (max 0 (Double.trunc ((max 0 n : Int) * s))))
        obtain ⟨synced, husd⟩ := hnoted.syncUsd_ok s
        obtain ⟨out, hout⟩ := (hnoted.syncUsd hs husd).1.noteBrain_ok
          "profit_after_costs_sync" "scaled"
        exact ⟨out, bind_ok_iff.2 ⟨_, rfl, bind_ok_iff.2 ⟨synced, husd, hout⟩⟩⟩
  · rw [if_neg hmapping]
    exact ⟨_, rfl⟩

/-- The mark at the end needs a dictionary, and leaves the profits. -/
theorem markBrain_spec (h : markBrain metadata = .ok out) :
    brainFits metadata = true ∧ afterCosts out = afterCosts metadata := by
  unfold markBrain at h
  by_cases hmapping : metadata.isMapping = true
  · have hbrain := brain_withDict hmapping
    rw [if_pos hmapping] at h
    split at h
    · rename_i hdict
      cases h
      refine ⟨?_, ?_⟩
      · obtain ⟨brain, hfound, hb⟩ := Option.map_eq_some_iff.1 hbrain
        rw [PyMap.get, hfound] at hdict
        exact hb.symm.trans hdict
      · refine afterCosts_congr (get_withDict_ne hmapping (by decide)) fun k => ?_
        unfold safetyItem PyMap.get
        rw [get_withDict_ne hmapping (by decide)]
    · cases h
  · rw [if_neg hmapping] at h
    cases h
    refine ⟨?_, rfl⟩
    unfold brainFits
    cases metadata with
    | dict items repr => exact absurd rfl hmapping
    | leaf v => rfl
    | inf negative => rfl
    | nan => rfl
    | list items repr => rfl

theorem markBrain_ok (h : brainFits metadata = true) : ∃ out, markBrain metadata = .ok out := by
  unfold markBrain
  by_cases hmapping : metadata.isMapping = true
  · obtain ⟨brain, hfound, hb⟩ := Option.map_eq_some_iff.1 (brain_withDict hmapping)
    have hdict : (PyMap.get (withDict metadata "brain").mapping "brain").isMapping = true := by
      rw [PyMap.get, hfound]
      exact hb.trans h
    rw [if_pos hmapping, if_pos hdict]
    exact ⟨_, rfl⟩
  · rw [if_neg hmapping]
    exact ⟨_, rfl⟩

/-- The amount under `out1` is all that its scaling changes. -/
theorem get?_flooredOut1 (s : ℚ) (metadata : PyTree) (hk : k ≠ "out1") :
    PyMap.get? (flooredOut1 s metadata).mapping k = PyMap.get? metadata.mapping k := by
  have hsame : SameBut ["out1"] metadata (flooredOut1 s metadata) := by
    unfold flooredOut1
    split
    · exact SameBut.refl _ _
    · split
      · exact SameBut.refl _ _
      · exact SameBut.putIn (by decide) _ _
  refine hsame.items k ?_
  rw [List.mem_singleton]
  exact hk

theorem settledAfterCosts_flooredOut1 (s : ℚ) (metadata : PyTree) :
    settledAfterCosts s (flooredOut1 s metadata) = settledAfterCosts s metadata := by
  have hafter := get?_flooredOut1 s metadata (k := "profit_after_costs") (by decide)
  have hsafety : ∀ k, safetyItem (flooredOut1 s metadata) k = safetyItem metadata k := by
    intro k
    unfold safetyItem PyMap.get
    rw [get?_flooredOut1 s metadata (by decide)]
  have hwei := hsafety "profit_after_costs_wei"
  unfold safetyItem at hwei
  have hraw : rawAfter (flooredOut1 s metadata) = rawAfter metadata := by
    unfold rawAfter
    rw [hafter, hwei]
  unfold settledAfterCosts
  rw [hraw, hsafety, afterCosts_congr hafter hsafety]

theorem brainFits_flooredOut1 (s : ℚ) (metadata : PyTree) :
    brainFits (flooredOut1 s metadata) = brainFits metadata := by
  unfold brainFits
  rw [get?_flooredOut1 s metadata (by decide)]

/-- What a run makes of an opportunity that starts with `leg`. -/
structure Scaled (s : ℚ) (opp : Opportunity) (leg : RouteLeg) (rest : List RouteLeg) (n : Int)
    (out : Opportunity) : Prop where
  legs : out.legs = { leg with
      amountIn := pyDecimal (max 1 (Double.trunc (n * s)))
      minOut := flooredText s leg.minOut } :: rest.modifyHead (secondLeg s opp.metadata)
  minOuts : out.minOuts = flooredMinOuts s opp.minOuts
  expectedProfitRaw : out.expectedProfitRaw = flooredText s opp.expectedProfitRaw
  afterCosts_eq : afterCosts out.metadata = settledAfterCosts s opp.metadata
  brain : brainFits opp.metadata = true

section

variable {s : ℚ} {opp : Opportunity} {leg : RouteLeg} {rest : List RouteLeg} {n : Int}

theorem sync_spec (hs : 0 < s) (h : syncScaledProfitFieldsBy (exactTimes s) metadata = .ok out) :
    brainFits out = brainFits metadata ∧ afterCosts out = settledAfterCosts s metadata := by
  by_cases hmapping : metadata.isMapping = true
  · obtain ⟨hsections, hafter⟩ := afterCosts_sync hs hmapping h
    exact ⟨hsections.brainFits_eq, hafter⟩
  · unfold syncScaledProfitFieldsBy at h
    rw [if_neg hmapping] at h
    cases h
    refine ⟨rfl, ?_⟩
    cases metadata with
    | dict items repr => exact absurd rfl hmapping
    | leaf v => rfl
    | inf negative => rfl
    | nan => rfl
    | list items repr => rfl

/-- **The run.** -/
theorem scaled_of_scaledBy (hs : 0 < s) (hlegs : opp.legs = leg :: rest)
    (hread : read leg.amountIn = some n) {out : Opportunity}
    (h : scaledBy (exactTimes s) opp = .ok out) : Scaled s opp leg rest n out := by
  unfold scaledBy at h
  rw [hlegs] at h
  dsimp only at h
  rw [show pyInt 10 leg.amountIn = some n from hread] at h
  simp only [timesTextBy_exact, scaleOut1By_exact, scaleMinOutsBy_exact, bind_ok_iff] at h
  obtain ⟨_, hnew, _, hminOut, _, hout1, _, hrest, _, hprofit, m, hsync, _, hminOuts, m', hmark,
    h⟩ := h
  cases hnew
  cases hminOut
  cases hout1
  rw [scaleSecondBy_exact] at hrest
  cases hrest
  cases hprofit
  cases hminOuts
  cases h
  obtain ⟨hbrain, hafter⟩ := sync_spec hs hsync
  obtain ⟨hfits, hmarked⟩ := markBrain_spec hmark
  refine ⟨rfl, rfl, rfl, ?_, ?_⟩
  · rw [hmarked, hafter, settledAfterCosts_flooredOut1]
  · -- nothing before the mark changes whether there is a dictionary for it
    rw [← brainFits_flooredOut1 s, ← hbrain, hfits]

/-- There is a result where there is a dictionary for the mark. -/
theorem scaledBy_ok (hs : 0 < s) (hlegs : opp.legs = leg :: rest)
    (hread : read leg.amountIn = some n) (hbrain : brainFits opp.metadata = true) :
    ∃ out, scaledBy (exactTimes s) opp = .ok out := by
  obtain ⟨m, hsync⟩ := sync_ok hs (brainFits_flooredOut1 s opp.metadata ▸ hbrain)
  have hfits : brainFits m = true := by
    rw [(sync_spec hs hsync).1, brainFits_flooredOut1, hbrain]
  obtain ⟨m', hmark⟩ := markBrain_ok hfits
  unfold scaledBy
  rw [hlegs]
  dsimp only
  rw [show pyInt 10 leg.amountIn = some n from hread]
  simp only [timesTextBy_exact, scaleOut1By_exact, scaleMinOutsBy_exact, bind_ok_iff]
  exact ⟨_, _, rfl, _, rfl, _, rfl, _, scaleSecondBy_exact s _ rest, _, rfl, m, hsync, _, rfl,
    m', hmark, rfl⟩

end

end SovereignCapital.Admission
