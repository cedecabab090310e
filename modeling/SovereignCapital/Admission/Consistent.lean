import SovereignCapital.Admission.ExactRun

/-! # Consistent scaling

A smaller copy is consistent where every amount in it is at most its share of the original. The
first leg and the minimum outputs are scaled by their own amounts, the second leg by the amount
under `out1`. Later legs are not scaled at all, and a copy with one is consistent only where that
leg has no amounts.
-/

namespace SovereignCapital.Admission

open Bytes PyRaise Guarded

/-! ## The purpose -/

/-- The last leg gives what the last of the minimum outputs says. -/
def LastAgrees (opp : Opportunity) : Prop :=
  ∃ n, (opp.legs.getLast?.bind fun leg => read leg.minOut) = some n
    ∧ opp.minOuts.getLast?.bind read = some n

/-- A copy with at most `s` times the amounts, or one for the first amount in. -/
structure Consistent (s : ℚ) (opp out : Opportunity) : Prop where
  first : ∀ leg ∈ opp.legs.head?, ∀ leg' ∈ out.legs.head?,
    AtMost s (read leg.amountIn) (read leg'.amountIn) ∨ read leg'.amountIn = some 1
  amountIn : List.Forall₂ (fun leg leg' => AtMost s (read leg.amountIn) (read leg'.amountIn))
    opp.legs.tail out.legs.tail
  minOut : List.Forall₂ (fun leg leg' => AtMost s (read leg.minOut) (read leg'.minOut))
    opp.legs out.legs
  minOuts : List.Forall₂ (fun t t' => AtMost s (read t) (read t')) opp.minOuts out.minOuts
  expectedProfit : AtMost s (read opp.expectedProfitRaw) (read out.expectedProfitRaw)
  after : AtMost s (afterCosts opp.metadata).after (afterCosts out.metadata).after
  wei : AtMost s (afterCosts opp.metadata).wei (afterCosts out.metadata).wei
  usdMicro : AtMost s (afterCosts opp.metadata).usdMicro (afterCosts out.metadata).usdMicro
  last : LastAgrees opp → LastAgrees out
  lowered : List.Forall₂ (fun leg leg' => ∀ n ∈ read leg.minOut, 0 < n →
    ∀ m ∈ read leg'.minOut, m < n) opp.legs out.legs

/-- `scale_opportunity` returns a new object that is consistent, and leaves the objects there
were. -/
def ScalesDown (s : ℚ) (heap : List Opportunity) (opp : Fin heap.length) : Prop :=
  ∃ heap' ref out, scaleOpportunityAt exactTimes heap opp s = .ok (heap', ref)
    ∧ (∀ i < heap.length, heap'[i]? = heap[i]?) ∧ heap.length ≤ ref ∧ heap'[ref]? = some out
    ∧ Consistent s (heap.get opp) out

/-! ## The condition -/

/-- The share of the amount under `out1`, a missing one being zero, is at most that of the second
leg; without a readable one the leg is scaled by itself, or not at all. -/
def SecondFits (s : ℚ) (metadata : PyTree) (leg : RouteLeg) : Prop :=
  match readOut1 metadata with
  | some n => (∀ amount ∈ read leg.amountIn, (⌊s * (max 0 n : Int)⌋ : ℚ) ≤ s * amount)
      ∧ Unsigned (read leg.minOut)
  | none =>
    match read leg.amountIn with
    | some amount => 0 ≤ amount ∧ Unsigned (read leg.minOut)
    | none => Idle (read leg.minOut)

/-- The minimum outputs are scaled only where all of them are integers. -/
def MinOutsFit (minOuts : List Text) : Prop :=
  if ∀ t ∈ minOuts, (read t).isSome then ∀ t ∈ minOuts, Unsigned (read t)
  else ∀ t ∈ minOuts, Idle (read t)

/-- The profit after costs, in the metadata or else under `safety`, is scaled and written to both
places; the one in micro dollars is scaled only along with it. -/
def AfterCostsFit (s : ℚ) (metadata : PyTree) : Prop :=
  match rawAfter metadata with
  | none => Idle (afterCosts metadata).usdMicro
  | some raw =>
    match readValue raw with
    | none => Unsigned (afterCosts metadata).wei ∧ Idle (afterCosts metadata).usdMicro
    | some n => 0 ≤ n ∧ (∀ wei ∈ (afterCosts metadata).wei, (⌊s * n⌋ : ℚ) ≤ s * wei)
        ∧ Unsigned (afterCosts metadata).usdMicro

structure RouteFits (s : ℚ) (opp : Opportunity) (leg : RouteLeg) (rest : List RouteLeg) :
    Prop where
  brain : brainFits opp.metadata = true
  first : Unsigned (read leg.minOut)
  second : ∀ leg ∈ rest.head?, SecondFits s opp.metadata leg
  later : ∀ leg ∈ rest.tail, Idle (read leg.amountIn) ∧ Idle (read leg.minOut)
  minOuts : MinOutsFit opp.minOuts
  expectedProfit : Unsigned (read opp.expectedProfitRaw)
  afterCosts : AfterCostsFit s opp.metadata

structure Inert (opp : Opportunity) : Prop where
  amountIn : ∀ leg ∈ opp.legs.tail, Idle (read leg.amountIn)
  minOut : ∀ leg ∈ opp.legs, Idle (read leg.minOut)
  minOuts : ∀ t ∈ opp.minOuts, Idle (read t)
  expectedProfit : Idle (read opp.expectedProfitRaw)
  after : Idle (afterCosts opp.metadata).after
  wei : Idle (afterCosts opp.metadata).wei
  usdMicro : Idle (afterCosts opp.metadata).usdMicro

def Downscalable (s : ℚ) (opp : Opportunity) : Prop :=
  match opp.legs with
  | [] => False
  | leg :: rest => if (read leg.amountIn).isSome then RouteFits s opp leg rest else Inert opp

/-! ## Part by part -/

section

variable {s : ℚ}

theorem first_fits (hs : 0 < s) {t : Text} {n : Int} (hn : read t = some n) :
    AtMost s (read t) (some (max 1 (Double.trunc (n * s))))
      ∨ some (max 1 (Double.trunc (n * s))) = some (1 : Int) := by
  rcases le_or_gt (Double.trunc ((n : ℚ) * s)) 1 with hle | hgt
  · exact Or.inr (congrArg some (max_eq_left hle))
  · left
    rw [hn, atMost_some_iff, max_eq_right hgt.le]
    intro n' hn'
    cases hn'
    have hfloored : floored s n = Double.trunc (n * s) := max_eq_right (by omega)
    have hnonneg : 0 ≤ n := by
      by_contra hneg
      have hzero := floored_of_neg hs (not_le.1 hneg)
      omega
    rw [← hfloored]
    exact (floored_le_iff hs).2 hnonneg

theorem settled_text {t : Text} (h : Unsigned (read t)) :
    Settled s (read t) (read (flooredText s t)) := by
  rw [read_flooredText]
  exact .scaled h

theorem forall₂_map_iff {α β : Type} {R : α → β → Prop} {f : α → β} {l : List α} :
    List.Forall₂ R l (l.map f) ↔ ∀ a ∈ l, R a (f a) := by
  rw [List.forall₂_map_right_iff, List.forall₂_same]

theorem settled_minOuts {minOuts : List Text} (h : MinOutsFit minOuts) :
    List.Forall₂ (fun t t' => Settled s (read t) (read t')) minOuts (flooredMinOuts s minOuts) := by
  unfold MinOutsFit at h
  unfold flooredMinOuts
  split at h
  · rename_i hall
    rw [if_pos hall, forall₂_map_iff]
    intro t ht
    exact settled_text (h t ht)
  · rename_i hall
    rw [if_neg hall, List.forall₂_same]
    intro t ht
    exact .kept (h t ht)

theorem minOutsFit_of_atMost (hs : 0 < s) (hs' : s < 1) {minOuts : List Text}
    (h : List.Forall₂ (fun t t' => AtMost s (read t) (read t')) minOuts
      (flooredMinOuts s minOuts)) : MinOutsFit minOuts := by
  unfold flooredMinOuts at h
  unfold MinOutsFit
  split at h
  · rename_i hall
    rw [forall₂_map_iff] at h
    rw [if_pos hall]
    intro t ht
    have hle := h t ht
    rw [read_flooredText] at hle
    exact (atMost_floored_iff hs).1 hle
  · rename_i hall
    rw [List.forall₂_same] at h
    rw [if_neg hall]
    intro t ht
    exact (atMost_self_iff hs').1 (h t ht)

theorem secondFits_iff (hs : 0 < s) (hs' : s < 1) {metadata : PyTree} {leg : RouteLeg} :
    SecondFits s metadata leg
      ↔ AtMost s (read leg.amountIn) (read (secondLeg s metadata leg).amountIn)
        ∧ AtMost s (read leg.minOut) (read (secondLeg s metadata leg).minOut) := by
  unfold SecondFits secondLeg
  cases readOut1 metadata with
  | some n =>
    simp only [Option.orElse_some, read_pyDecimal, read_flooredText, atMost_some_iff,
      atMost_floored_iff hs, floored_eq hs]
  | none =>
    simp only [Option.orElse_none]
    cases hamount : read leg.amountIn with
    | none =>
      simp only [hamount]
      rw [atMost_self_iff (x := read leg.minOut) hs']
      exact ⟨fun h => ⟨atMost_none _ _, h⟩, fun h => h.2⟩
    | some amount =>
      simp only [read_pyDecimal, read_flooredText, atMost_some_iff, atMost_floored_iff hs]
      refine and_congr_left fun _ => ?_
      constructor
      · rintro h _ ⟨⟩
        exact (floored_le_iff hs).2 h
      · intro h
        exact (floored_le_iff hs).1 (h amount rfl)

theorem settled_second {metadata : PyTree} {leg : RouteLeg} (h : SecondFits s metadata leg) :
    Settled s (read leg.minOut) (read (secondLeg s metadata leg).minOut) := by
  unfold SecondFits at h
  unfold secondLeg
  cases hout : readOut1 metadata with
  | some n =>
    rw [hout] at h
    exact settled_text h.2
  | none =>
    rw [hout] at h
    rw [Option.orElse_none]
    cases hamount : read leg.amountIn with
    | none =>
      rw [hamount] at h
      exact .kept h
    | some amount =>
      rw [hamount] at h
      exact settled_text h.2

theorem rawAfter_cases (metadata : PyTree) :
    (rawAfter metadata = none ∧ (afterCosts metadata).after = none
        ∧ (afterCosts metadata).wei = none)
      ∨ ∃ raw, rawAfter metadata = some raw ∧ ((afterCosts metadata).after = readValue raw
        ∨ (afterCosts metadata).after = none ∧ (afterCosts metadata).wei = readValue raw) := by
  have hraw : rawAfter metadata = (PyMap.get? metadata.mapping "profit_after_costs").orElse
      fun _ => safetyItem metadata "profit_after_costs_wei" := rfl
  unfold afterCosts
  cases hafter : PyMap.get? metadata.mapping "profit_after_costs" with
  | some raw =>
    refine Or.inr ⟨raw, ?_, Or.inl rfl⟩
    rw [hraw, hafter, Option.orElse_some]
  | none =>
    rw [hafter, Option.orElse_none] at hraw
    cases hwei : safetyItem metadata "profit_after_costs_wei" with
    | none => exact Or.inl ⟨hraw.trans hwei, rfl, rfl⟩
    | some raw => exact Or.inr ⟨raw, hraw.trans hwei, Or.inr ⟨rfl, rfl⟩⟩

theorem mul_nonneg_iff_unsigned (hs : 0 < s) {x : Option Int} :
    (∀ n ∈ x, ((0 : Int) : ℚ) ≤ s * n) ↔ Unsigned x := by
  refine forall₂_congr fun n _ => ?_
  rw [Int.cast_zero, mul_nonneg_iff_of_pos_left hs, Int.cast_nonneg_iff]

/-- A profit in micro dollars is replaced by its share, or by zero where it is none. -/
theorem atMost_usd_iff (hs : 0 < s) {usd : Option PyTree} :
    AtMost s (usd.bind readValue) (usd.map (flooredUsd s)) ↔ Unsigned (usd.bind readValue) := by
  cases usd with
  | none => exact ⟨fun _ => unsigned_none, fun _ => atMost_none _ _⟩
  | some usd =>
    rw [Option.bind_some, Option.map_some, atMost_some_iff]
    cases htruthy : usd.truthy with
    | true =>
      have hread : read (usd.orElse (textValue ['0'])).str.toList = readValue usd := by
        rw [PyTree.orElse_of_truthy _ htruthy]
        rfl
      refine forall₂_congr fun n hn => ?_
      rw [flooredUsd, hread, hn]
      exact floored_le_iff hs
    | false =>
      have hzero : flooredUsd s usd = 0 := by
        rw [flooredUsd, PyTree.orElse_of_falsy _ htruthy]
        show floored s 0 = 0
        exact floored_zero s
      rw [hzero]
      exact mul_nonneg_iff_unsigned hs

/-- The profits after costs fit exactly where all three are at most their shares. -/
theorem afterCostsFit_iff (hs : 0 < s) (hs' : s < 1) {metadata : PyTree} :
    AfterCostsFit s metadata
      ↔ AtMost s (afterCosts metadata).after (settledAfterCosts s metadata).after
        ∧ AtMost s (afterCosts metadata).wei (settledAfterCosts s metadata).wei
        ∧ AtMost s (afterCosts metadata).usdMicro (settledAfterCosts s metadata).usdMicro := by
  unfold AfterCostsFit settledAfterCosts
  rcases rawAfter_cases metadata with ⟨hraw, hafter, hwei⟩ | ⟨raw, hraw, hread⟩
  · rw [hraw]
    dsimp only
    rw [hafter, hwei, atMost_self_iff (x := (afterCosts metadata).usdMicro) hs']
    exact ⟨fun h => ⟨atMost_none _ _, atMost_none _ _, h⟩, fun h => h.2.2⟩
  · rw [hraw]
    dsimp only
    cases hn : readValue raw with
    | none =>
      -- the profit is zeroed, and the scaling ends before the one in micro dollars
      have hafter : (afterCosts metadata).after = none := by
        rcases hread with h | h
        · rw [h, hn]
        · exact h.1
      dsimp only
      rw [hafter, atMost_some_iff (x := (afterCosts metadata).wei), mul_nonneg_iff_unsigned hs,
        atMost_self_iff hs']
      exact ⟨fun h => ⟨atMost_none _ _, h⟩, fun h => h.2⟩
    | some n =>
      dsimp only
      rw [atMost_some_iff, atMost_some_iff]
      rw [show AtMost s (afterCosts metadata).usdMicro _ ↔ _ from atMost_usd_iff hs]
      constructor
      · rintro ⟨hnonneg, hwei, husd⟩
        rw [floored_of_nonneg hs hnonneg]
        refine ⟨fun k hk => ?_, hwei, husd⟩
        rcases hread with h | h
        · rw [h, hn] at hk
          cases hk
          exact Int.floor_le _
        · rw [h.1] at hk
          cases hk
      · rintro ⟨hafter, hwei, husd⟩
        -- the share of the profit stands in for the profit it is read from
        have hle : (floored s n : ℚ) ≤ s * n := by
          rcases hread with h | h
          · exact hafter n (h.trans hn)
          · exact hwei n (h.2.trans hn)
        have hnonneg := (floored_le_iff hs).1 hle
        rw [floored_of_nonneg hs hnonneg] at hwei
        exact ⟨hnonneg, hwei, husd⟩

/-! ## The whole -/

theorem getLast?_of_forall₂ {α β : Type} {R : α → β → Prop} {l : List α} {l' : List β}
    (h : List.Forall₂ R l l') {a : α} (ha : l.getLast? = some a) :
    ∃ b, l'.getLast? = some b ∧ R a b := by
  induction h generalizing a with
  | nil => cases ha
  | cons hfirst hrest ih =>
    rename_i x y xs ys
    rw [List.getLast?_cons] at ha ⊢
    cases hxs : xs.getLast? with
    | none =>
      rw [List.getLast?_eq_none_iff] at hxs
      subst hxs
      cases hrest
      cases ha
      exact ⟨_, rfl, hfirst⟩
    | some c =>
      rw [hxs] at ha
      cases ha
      obtain ⟨b, hb, hR⟩ := ih hxs
      refine ⟨b, ?_, hR⟩
      rw [hb]
      rfl

/-- What is the same before is the same after. -/
theorem lastAgrees_of_settled {opp out : Opportunity}
    (hlegs : List.Forall₂ (fun leg leg' => Settled s (read leg.minOut) (read leg'.minOut))
      opp.legs out.legs)
    (houts : List.Forall₂ (fun t t' => Settled s (read t) (read t')) opp.minOuts out.minOuts)
    (h : LastAgrees opp) : LastAgrees out := by
  obtain ⟨n, hleg, hout⟩ := h
  obtain ⟨leg, hlast, hn⟩ := Option.bind_eq_some_iff.1 hleg
  obtain ⟨t, hlast', hn'⟩ := Option.bind_eq_some_iff.1 hout
  obtain ⟨leg', hleg', hsettled⟩ := getLast?_of_forall₂ hlegs hlast
  obtain ⟨t', ht', hsettled'⟩ := getLast?_of_forall₂ houts hlast'
  rw [hn] at hsettled
  rw [hn'] at hsettled'
  obtain ⟨m, hm⟩ := hsettled.some
  refine ⟨m, ?_, ?_⟩
  · rw [hleg', Option.bind_some, hm]
  · rw [ht', Option.bind_some, ← hm, hsettled.unique hsettled']

theorem lowered_of_atMost (hs' : s < 1) {x y : Option Int} (h : AtMost s x y) :
    ∀ n ∈ x, 0 < n → ∀ m ∈ y, m < n := by
  intro n hn hpos m hm
  obtain ⟨m', hm', hle⟩ := h n hn
  cases hm.symm.trans hm'
  have hcast : (0 : ℚ) < n := by exact_mod_cast hpos
  have hlt : (m : ℚ) < n := by
    calc (m : ℚ) ≤ s * n := hle
      _ < 1 * n := mul_lt_mul_of_pos_right hs' hcast
      _ = n := one_mul _
  exact_mod_cast hlt

variable {opp out : Opportunity} {leg : RouteLeg} {rest : List RouteLeg} {n : Int}

theorem settled_legs (hlegs : opp.legs = leg :: rest) (h : Scaled s opp leg rest n out)
    (hfits : RouteFits s opp leg rest) :
    List.Forall₂ (fun leg leg' => Settled s (read leg.minOut) (read leg'.minOut))
      opp.legs out.legs := by
  rw [hlegs, h.legs]
  refine .cons (settled_text hfits.first) ?_
  cases rest with
  | nil => exact .nil
  | cons second later =>
    rw [List.modifyHead_cons]
    refine .cons (settled_second (hfits.second second rfl)) ?_
    rw [List.forall₂_same]
    intro leg' hleg'
    exact .kept (hfits.later leg' hleg').2

theorem consistent_of_fits (hs : 0 < s) (hs' : s < 1) (hlegs : opp.legs = leg :: rest)
    (hread : read leg.amountIn = some n) (h : Scaled s opp leg rest n out)
    (hfits : RouteFits s opp leg rest) : Consistent s opp out := by
  have hsettled := settled_legs hlegs h hfits
  have houts : List.Forall₂ (fun t t' => Settled s (read t) (read t'))
      opp.minOuts out.minOuts := by
    rw [h.minOuts]
    exact settled_minOuts hfits.minOuts
  have hminOut : List.Forall₂ (fun leg leg' => AtMost s (read leg.minOut) (read leg'.minOut))
      opp.legs out.legs := hsettled.imp fun _ _ hleg => hleg.atMost hs hs'
  obtain ⟨hafter, hwei, husd⟩ := (afterCostsFit_iff hs hs').1 hfits.afterCosts
  refine {
    first := ?_
    amountIn := ?_
    minOut := hminOut
    minOuts := houts.imp fun _ _ ht => ht.atMost hs hs'
    expectedProfit := ?_
    after := ?_
    wei := ?_
    usdMicro := ?_
    last := lastAgrees_of_settled hsettled houts
    lowered := hminOut.imp fun _ _ hle => lowered_of_atMost hs' hle }
  · rw [hlegs, h.legs]
    rintro _ ⟨⟩ _ ⟨⟩
    rw [read_pyDecimal]
    exact first_fits hs hread
  · rw [hlegs, h.legs, List.tail_cons, List.tail_cons]
    cases rest with
    | nil => exact .nil
    | cons second later =>
      rw [List.modifyHead_cons]
      refine .cons ((secondFits_iff hs hs').1 (hfits.second second rfl)).1 ?_
      -- from the third leg on the copy has the amounts of the original
      rw [List.forall₂_same]
      intro leg' hleg'
      exact (atMost_self_iff hs').2 (hfits.later leg' hleg').1
  · rw [h.expectedProfitRaw, read_flooredText, atMost_floored_iff hs]
    exact hfits.expectedProfit
  · rw [h.afterCosts_eq]
    exact hafter
  · rw [h.afterCosts_eq]
    exact hwei
  · rw [h.afterCosts_eq]
    exact husd

theorem fits_of_consistent (hs : 0 < s) (hs' : s < 1) (hlegs : opp.legs = leg :: rest)
    (h : Scaled s opp leg rest n out) (hconsistent : Consistent s opp out) :
    RouteFits s opp leg rest := by
  have hminOut := hconsistent.minOut
  have hamountIn := hconsistent.amountIn
  rw [hlegs, h.legs] at hminOut hamountIn
  obtain ⟨hfirst, hrest⟩ := List.forall₂_cons.1 hminOut
  rw [read_flooredText, atMost_floored_iff hs] at hfirst
  have hminOuts := hconsistent.minOuts
  have hprofit := hconsistent.expectedProfit
  have hafter := hconsistent.after
  have hwei := hconsistent.wei
  have husd := hconsistent.usdMicro
  rw [h.minOuts] at hminOuts
  rw [h.expectedProfitRaw, read_flooredText, atMost_floored_iff hs] at hprofit
  rw [h.afterCosts_eq] at hafter hwei husd
  have hlegs' : (∀ leg ∈ rest.head?, SecondFits s opp.metadata leg)
      ∧ ∀ leg ∈ rest.tail, Idle (read leg.amountIn) ∧ Idle (read leg.minOut) := by
    cases rest with
    | nil =>
      constructor
      · rintro _ ⟨⟩
      · rintro _ ⟨⟩
    | cons second later =>
      rw [List.tail_cons, List.tail_cons, List.modifyHead_cons] at hamountIn
      rw [List.modifyHead_cons] at hrest
      obtain ⟨hsecond, hlater⟩ := List.forall₂_cons.1 hrest
      obtain ⟨hsecond', hlater'⟩ := List.forall₂_cons.1 hamountIn
      rw [List.forall₂_same] at hlater hlater'
      constructor
      · rintro _ ⟨⟩
        exact (secondFits_iff hs hs').2 ⟨hsecond', hsecond⟩
      · intro leg' hleg'
        exact ⟨(atMost_self_iff hs').1 (hlater' leg' hleg'),
          (atMost_self_iff hs').1 (hlater leg' hleg')⟩
  exact {
    brain := h.brain
    first := hfirst
    second := hlegs'.1
    later := hlegs'.2
    minOuts := minOutsFit_of_atMost hs hs' hminOuts
    expectedProfit := hprofit
    afterCosts := (afterCostsFit_iff hs hs').2 ⟨hafter, hwei, husd⟩ }

/-- A copy that is not scaled is consistent where there is nothing to scale. -/
theorem consistent_self_iff (hs' : s < 1)
    (hfirst : ∀ leg ∈ opp.legs.head?, read leg.amountIn = none) :
    Consistent s opp opp ↔ Inert opp := by
  constructor
  · intro h
    have hamountIn := h.amountIn
    have hminOut := h.minOut
    have hminOuts := h.minOuts
    rw [List.forall₂_same] at hamountIn hminOut hminOuts
    exact {
      amountIn := fun leg hleg => (atMost_self_iff hs').1 (hamountIn leg hleg)
      minOut := fun leg hleg => (atMost_self_iff hs').1 (hminOut leg hleg)
      minOuts := fun t ht => (atMost_self_iff hs').1 (hminOuts t ht)
      expectedProfit := (atMost_self_iff hs').1 h.expectedProfit
      after := (atMost_self_iff hs').1 h.after
      wei := (atMost_self_iff hs').1 h.wei
      usdMicro := (atMost_self_iff hs').1 h.usdMicro }
  · intro h
    have hminOut : List.Forall₂ (fun leg leg' => AtMost s (read leg.minOut) (read leg'.minOut))
        opp.legs opp.legs := by
      rw [List.forall₂_same]
      exact fun leg hleg => (atMost_self_iff hs').2 (h.minOut leg hleg)
    refine {
      first := ?_
      amountIn := ?_
      minOut := hminOut
      minOuts := ?_
      expectedProfit := (atMost_self_iff hs').2 h.expectedProfit
      after := (atMost_self_iff hs').2 h.after
      wei := (atMost_self_iff hs').2 h.wei
      usdMicro := (atMost_self_iff hs').2 h.usdMicro
      last := id
      lowered := hminOut.imp fun _ _ hle => lowered_of_atMost hs' hle }
    · intro leg hleg leg' hleg'
      left
      rw [hfirst leg hleg]
      exact atMost_none _ _
    · rw [List.forall₂_same]
      exact fun leg hleg => (atMost_self_iff hs').2 (h.amountIn leg hleg)
    · rw [List.forall₂_same]
      exact fun t ht => (atMost_self_iff hs').2 (h.minOuts t ht)

/-- The copy is a new object, and the others stay. -/
theorem scalesDown_iff (hs : 0 < s) (hs' : s < 1) {heap : List Opportunity}
    {opp : Fin heap.length} : ScalesDown s heap opp
      ↔ ∃ out, scaledBy (exactTimes s) (heap.get opp) = .ok out
        ∧ Consistent s (heap.get opp) out := by
  have hinside : ¬ (1 ≤ s ∨ s ≤ 0) := by
    rintro (hle | hle)
    · exact absurd hs' (not_lt.2 hle)
    · exact absurd hs (not_lt.2 hle)
  unfold ScalesDown scaleOpportunityAt
  rw [if_neg hinside]
  constructor
  · rintro ⟨heap', ref, out, hresult, -, -, hfound, hconsistent⟩
    obtain ⟨out', hscaled, heq⟩ := map_ok_iff.1 hresult
    cases heq
    rw [List.getElem?_append_right (Nat.le_refl _), Nat.sub_self] at hfound
    cases hfound
    exact ⟨_, hscaled, hconsistent⟩
  · rintro ⟨out, hscaled, hconsistent⟩
    refine ⟨heap ++ [out], heap.length, out, ?_, ?_, Nat.le_refl _, ?_, hconsistent⟩
    · rw [hscaled]
      rfl
    · intro i hi
      exact List.getElem?_append_left hi
    · rw [List.getElem?_append_right (Nat.le_refl _), Nat.sub_self]
      rfl

/-- **An opportunity is scaled down consistently** exactly where its amounts are not negative, the
second leg takes at least what is under `out1`, and no later leg has an amount. -/
theorem scalesDown_iff_downscalable (hs : 0 < s) (hs' : s < 1) {heap : List Opportunity}
    {opp : Fin heap.length} : ScalesDown s heap opp ↔ Downscalable s (heap.get opp) := by
  rw [scalesDown_iff hs hs']
  generalize heap.get opp = opp
  unfold Downscalable
  cases hlegs : opp.legs with
  | nil =>
    -- the look-up of the first leg raises, and no handler expects it
    dsimp only
    rw [iff_false]
    rintro ⟨out, hscaled, -⟩
    unfold scaledBy at hscaled
    rw [hlegs] at hscaled
    cases hscaled
  | cons leg rest =>
    dsimp only
    cases hread : read leg.amountIn with
    | none =>
      -- the copy is returned as it is
      rw [Option.isSome_none, if_neg Bool.false_ne_true]
      have hself : scaledBy (exactTimes s) opp = .ok opp := by
        unfold scaledBy
        rw [hlegs]
        dsimp only
        rw [show pyInt 10 leg.amountIn = none from hread]
      have hfirst : ∀ leg' ∈ opp.legs.head?, read leg'.amountIn = none := by
        rw [hlegs]
        rintro _ ⟨⟩
        exact hread
      rw [← consistent_self_iff hs' hfirst, hself]
      constructor
      · rintro ⟨out, hout, hconsistent⟩
        cases hout
        exact hconsistent
      · intro hconsistent
        exact ⟨opp, rfl, hconsistent⟩
    | some n =>
      rw [Option.isSome_some, if_pos rfl]
      constructor
      · rintro ⟨out, hscaled, hconsistent⟩
        exact fits_of_consistent hs hs' hlegs (scaled_of_scaledBy hs hlegs hread hscaled)
          hconsistent
      · intro hfits
        obtain ⟨out, hscaled⟩ := scaledBy_ok hs hlegs hread hfits.brain
        exact ⟨out, hscaled, consistent_of_fits hs hs' hlegs hread
          (scaled_of_scaledBy hs hlegs hread hscaled) hfits⟩

end

/-! ### Some routes -/

def legSample (amountIn minOut : Int) : RouteLeg :=
  ⟨['v'], pyDecimal amountIn, pyDecimal minOut⟩

/-- A route with the amount under `out1` and a profit. -/
def routeSample (legs : List RouteLeg) (out1 : Int) : Opportunity where
  legs := legs
  minOuts := legs.map RouteLeg.minOut
  expectedProfitRaw := pyDecimal 40
  metadata := putIn (putIn emptyDict "profit_after_costs" (textValue (pyDecimal 30))) "out1"
    (textValue (pyDecimal out1))

theorem unsigned_pyDecimal {n : Int} (h : 0 ≤ n) : Unsigned (read (pyDecimal n)) := by
  rw [read_pyDecimal]
  rintro _ ⟨⟩
  exact h

theorem minOutsFit_pyDecimal (ns : List Int) (h : ∀ n ∈ ns, 0 ≤ n) :
    MinOutsFit (ns.map pyDecimal) := by
  have hall : ∀ t ∈ ns.map pyDecimal, (read t).isSome := by
    intro t ht
    obtain ⟨n, -, rfl⟩ := List.mem_map.1 ht
    rw [read_pyDecimal]
    rfl
  unfold MinOutsFit
  rw [if_pos hall]
  intro t ht
  obtain ⟨n, hn, rfl⟩ := List.mem_map.1 ht
  exact unsigned_pyDecimal (h n hn)

theorem afterCostsFit_routeSample (s : ℚ) (legs : List RouteLeg) (out1 : Int) :
    AfterCostsFit s (routeSample legs out1).metadata := by
  have hraw : rawAfter (routeSample legs out1).metadata = some (textValue (pyDecimal 30)) := rfl
  have hread : readValue (textValue (pyDecimal 30)) = some 30 := by
    rw [readValue_textValue, read_pyDecimal]
  have hwei : (afterCosts (routeSample legs out1).metadata).wei = none := rfl
  have husd : (afterCosts (routeSample legs out1).metadata).usdMicro = none := rfl
  unfold AfterCostsFit
  rw [hraw]
  dsimp only
  rw [hread, hwei, husd]
  refine ⟨by norm_num, ?_, unsigned_none⟩
  rintro _ ⟨⟩

theorem readOut1_routeSample (legs : List RouteLeg) (out1 : Int) :
    readOut1 (routeSample legs out1).metadata = some out1 := by
  show read ((textValue (pyDecimal out1)).orElse (textValue ['0'])).str.toList = some out1
  exact readOr_textValue out1

theorem scalesDown_two_legs :
    ScalesDown (1 / 2) [routeSample [legSample 100 110, legSample 120 130] 120] 0 := by
  have hread : read (legSample 100 110).amountIn = some 100 := read_pyDecimal 100
  have hfits : RouteFits (1 / 2) (routeSample [legSample 100 110, legSample 120 130] 120)
      (legSample 100 110) [legSample 120 130] := by
    refine {
      brain := rfl
      first := unsigned_pyDecimal (n := 110) (by norm_num)
      second := ?_
      later := ?_
      minOuts := minOutsFit_pyDecimal [110, 130] (by decide)
      expectedProfit := unsigned_pyDecimal (n := 40) (by norm_num)
      afterCosts := afterCostsFit_routeSample _ _ _ }
    · rintro _ ⟨⟩
      have hamount : read (legSample 120 130).amountIn = some 120 := read_pyDecimal 120
      unfold SecondFits
      rw [readOut1_routeSample, hamount]
      refine ⟨?_, unsigned_pyDecimal (n := 130) (by norm_num)⟩
      rintro _ ⟨⟩
      norm_num
    · rintro _ ⟨⟩
  have hdown : Downscalable (1 / 2) (routeSample [legSample 100 110, legSample 120 130] 120)
      = if (read (legSample 100 110).amountIn).isSome then RouteFits (1 / 2)
          (routeSample [legSample 100 110, legSample 120 130] 120) (legSample 100 110)
          [legSample 120 130]
        else Inert (routeSample [legSample 100 110, legSample 120 130] 120) := rfl
  refine (scalesDown_iff_downscalable (by norm_num) (by norm_num)).2 ?_
  show Downscalable (1 / 2) (routeSample [legSample 100 110, legSample 120 130] 120)
  rw [hdown, hread, Option.isSome_some, if_pos rfl]
  exact hfits

/-- Of a route of three legs the third one keeps its minimum output of three hundred and ten, while
the last of the minimum outputs is halved. -/
theorem third_leg_kept :
    ((scaledBy (exactTimes (1 / 2)) (routeSample
        [legSample 100 110, legSample 200 210, legSample 300 310] 200)).toOption.map fun out =>
        (out.legs.map fun leg => read leg.minOut, out.minOuts.map read))
      = some ([some 55, some 105, some 310], [some 55, some 105, some 155])
    ∧ ¬ ScalesDown (1 / 2)
      [routeSample [legSample 100 110, legSample 200 210, legSample 300 310] 200] 0 := by
  have hrun : ((scaledBy (exactTimes (1 / 2)) (routeSample
        [legSample 100 110, legSample 200 210, legSample 300 310] 200)).toOption.map fun out =>
        (out.legs.map fun leg => read leg.minOut, out.minOuts.map read))
      = some ([some 55, some 105, some 310], [some 55, some 105, some 155]) := by decide +kernel
  refine ⟨hrun, ?_⟩
  intro h
  obtain ⟨out, hscaled, hconsistent⟩ := (scalesDown_iff (by norm_num) (by norm_num)).1 h
  change scaledBy _ (routeSample _ _) = _ at hscaled
  rw [hscaled] at hrun
  have hlegs := congrArg Prod.fst (Option.some.inj hrun)
  have hlowered : List.Forall₂ (fun x y => ∀ n ∈ x, 0 < n → ∀ m ∈ y, m < n)
      [some (110 : Int), some 210, some 310] (out.legs.map fun leg => read leg.minOut) := by
    have hbefore : [some (110 : Int), some 210, some 310]
        = [legSample 100 110, legSample 200 210, legSample 300 310].map
          fun leg => read leg.minOut := by decide +kernel
    rw [hbefore, List.forall₂_map_left_iff, List.forall₂_map_right_iff]
    exact hconsistent.lowered
  dsimp only at hlegs
  rw [hlegs] at hlowered
  simp only [List.forall₂_cons] at hlowered
  exact absurd (hlowered.2.2.1 310 rfl (by norm_num) 310 rfl) (by norm_num)

end SovereignCapital.Admission
