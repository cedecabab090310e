import SovereignCapital.Engine.Requote

/-! # Requoting in place

`requote_opportunity` over any source of quotes: a call may answer, find nothing or raise, and may
answer otherwise the next time. The loop threads the amount through the quotes and their probes
and writes nothing; the opportunity is rewritten only when every leg is quoted.
-/

namespace SovereignCapital.Engine

open Execute

/-! ## Quotes -/

/-- What a call of `quote_edge` comes to: a quote, none, or an error, which may be one of those that
the handler around a probe names. -/
inductive Asked where
  | quoted (quote : EdgeQuote)
  | missing
  | raised (named : Bool)

/-- The quote of a probe, none where the handler takes the error. -/
def Asked.quote? : Asked → Option EdgeQuote
  | .quoted quote => some quote
  | _ => none

/-- A source of quotes, which may change with every call. -/
abbrev Quoter (σ : Type) : Type := σ → Option Edge → Int → Asked × σ

/-- How a part of the call ends: it goes on, the call returns nothing, or it raises. -/
inductive Ended (α : Type) where
  | done (a : α)
  | nothing
  | raised

variable {σ : Type}

/-- A leg that is quoted again: the source as it was asked and the amount it was asked for, the
quote, and the slippage the leg is given. -/
structure QuotedLeg (σ : Type) where
  state : σ
  amountIn : Int
  quote : EdgeQuote
  impactBps : Int
  appliedBps : Int

def SlippageModel.probeAmount (model : SlippageModel) (amountIn : Int) : Int :=
  let scaled := amountIn * (10000 + model.probe) / 10000
  if scaled ≤ amountIn then amountIn + 1 else scaled

def SlippageModel.probes (model : SlippageModel) (amountIn out : Int) : Prop :=
  model.dynamic ∧ 0 < model.probe ∧ 0 < amountIn ∧ 0 < out

instance (model : SlippageModel) (amountIn out : Int) : Decidable (model.probes amountIn out) :=
  inferInstanceAs (Decidable (_ ∧ _))

/-- One round of the loop over the edges. -/
def quoteLeg (ask : Quoter σ) (model : SlippageModel) (slippageBps : Int) (s : σ)
    (e : Option Edge) (amountIn : Int) : Ended (QuotedLeg σ) × σ :=
  match ask s e amountIn with
  | (.missing, s') => (.nothing, s')
  | (.raised _, s') => (.raised, s')
  | (.quoted quote, s') =>
    if model.probes amountIn quote.amountOut then
      match ask s' e (model.probeAmount amountIn) with
      | (.raised false, s'') => (.raised, s'')
      | (probe, s'') =>
        let impact :=
          impactOf amountIn quote.amountOut (model.probeAmount amountIn) probe.quote?
        (.done ⟨s, amountIn, quote, impact, model.appliedBps slippageBps impact⟩, s'')
    else (.done ⟨s, amountIn, quote, 0, slippageBps⟩, s')

def quoteLegs (ask : Quoter σ) (model : SlippageModel) (slippageBps : Int) :
    σ → Int → List (Option Edge) → Ended (List (QuotedLeg σ)) × σ
  | s, _, [] => (.done [], s)
  | s, amountIn, e :: edges =>
    match quoteLeg ask model slippageBps s e amountIn with
    | (.nothing, s') => (.nothing, s')
    | (.raised, s') => (.raised, s')
    | (.done leg, s') =>
      match quoteLegs ask model slippageBps s' leg.quote.amountOut edges with
      | (.done legs, s'') => (.done (leg :: legs), s'')
      | (ended, s'') => (ended, s'')

/-! ## The opportunity -/

/-- `meta["slippage_model"]`. -/
structure SlippageNote where
  dynamic : Bool
  baseBps : Int
  probeBps : Int
  impactMult : PyFloat
  impactBpsPerLeg : List Int
  appliedBpsPerLeg : List Int
deriving DecidableEq

/-- An opportunity as it is held, with the entries of `meta` that only a requote writes. -/
structure Held where
  opportunity : Opportunity
  requotedAmountIn : Option String
  slippageModel : Option SlippageNote

/-- The entries of `meta` that are numbered by the legs: those of the legs are written, those
beyond them stay. -/
def overwrite {α : Type} (new old : List α) : List α := new ++ old.drop new.length

/-- The writes of the loop over `opp.route.legs`. -/
def rewriteLegs (newAmountIn : Int) (outs applied : List Int) (legs : List RouteLeg) :
    List RouteLeg :=
  List.zipWith (fun leg (w : Int × Int × Int) =>
    { leg with
      amountIn := decimalText w.1
      minOut := decimalText (applySlippage w.2.1 w.2.2) })
    legs ((newAmountIn :: outs).zip (outs.zip applied))

def Held.rewrite (held : Held) (model : SlippageModel) (newAmountIn slippageBps : Int)
    (legs : List (QuotedLeg σ)) : Held :=
  let outs := legs.map fun leg => leg.quote.amountOut
  let applied := legs.map QuotedLeg.appliedBps
  let opp := held.opportunity
  { opportunity :=
      { opp with
        legs := rewriteLegs newAmountIn outs applied opp.legs
        minOuts := List.zipWith (fun out bps => decimalText (applySlippage out bps)) outs applied
        expectedProfitRaw := decimalText (outs.getLastD 0 - newAmountIn)
        outs := overwrite (outs.map decimalText) opp.outs
        legQuotes := overwrite (legs.map fun leg => leg.quote.quote) opp.legQuotes }
    requotedAmountIn := some (decimalText newAmountIn)
    slippageModel := some
      { dynamic := model.dynamic
        baseBps := slippageBps
        probeBps := model.probe
        impactMult := model.mult
        impactBpsPerLeg := legs.map QuotedLeg.impactBps
        appliedBpsPerLeg := applied } }

inductive RequoteAnswer where
  | returned
  | nothing
  | raised
deriving DecidableEq

/-- What a call leaves: its answer, the opportunity and the source of quotes. -/
structure RequoteResult (σ : Type) where
  answer : RequoteAnswer
  held : Held
  state : σ

/-- `requote_opportunity`. -/
def requoteInPlace (ask : Quoter σ) (model : SlippageModel) (s : σ) (held : Held)
    (newAmountIn slippageBps : Int) : RequoteResult σ :=
  let opp := held.opportunity
  if newAmountIn ≤ 0 ∨ opp.legs = [] then ⟨.nothing, held, s⟩
  else
    match quoteLegs ask model slippageBps s newAmountIn
        (requoteEdges opp.legs opp.routeEdgeParams) with
    | (.nothing, s') => ⟨.nothing, held, s'⟩
    | (.raised, s') => ⟨.raised, held, s'⟩
    | (.done legs, s') =>
      if (legs.map fun leg => leg.quote.amountOut).getLastD 0 ≤ 0 then ⟨.nothing, held, s'⟩
      else ⟨.returned, held.rewrite model newAmountIn slippageBps legs, s'⟩

/-! ## The loop -/

/-- The slippage a leg is given: the impact model's where it is probed, the base slippage
elsewhere. -/
def slippageOf (model : SlippageModel) (slippageBps : Int) (leg : QuotedLeg σ) : Int :=
  if model.probes leg.amountIn leg.quote.amountOut then
    model.appliedBps slippageBps leg.impactBps
  else slippageBps

/-- Legs that were quoted one after the other, the first for an amount and each other for the
output of the one before. -/
inductive Threaded (ask : Quoter σ) (model : SlippageModel) (slippageBps : Int) :
    Int → List (Option Edge) → List (QuotedLeg σ) → Prop
  | nil (amountIn : Int) : Threaded ask model slippageBps amountIn [] []
  | cons (e : Option Edge) (edges : List (Option Edge)) (leg : QuotedLeg σ)
      (legs : List (QuotedLeg σ))
      (hasked : (ask leg.state e leg.amountIn).1 = .quoted leg.quote)
      (hslippage : leg.appliedBps = slippageOf model slippageBps leg)
      (hrest : Threaded ask model slippageBps leg.quote.amountOut edges legs) :
      Threaded ask model slippageBps leg.amountIn (e :: edges) (leg :: legs)

theorem quoteLeg_done {ask : Quoter σ} {model : SlippageModel} {slippageBps : Int} {s s' : σ}
    {e : Option Edge} {amountIn : Int} {leg : QuotedLeg σ}
    (h : quoteLeg ask model slippageBps s e amountIn = (.done leg, s')) :
    leg.amountIn = amountIn ∧ (ask leg.state e leg.amountIn).1 = .quoted leg.quote
      ∧ leg.appliedBps = slippageOf model slippageBps leg := by
  unfold quoteLeg at h
  cases hask : ask s e amountIn with
  | mk asked s1 =>
    rw [hask] at h
    cases asked with
    | missing => cases h
    | raised named => cases h
    | quoted quote =>
      dsimp only at h
      by_cases hprobes : model.probes amountIn quote.amountOut
      · rw [if_pos hprobes] at h
        -- whatever becomes of the probe, the leg is given the slippage of the impact model
        cases hprobe : ask s1 e (model.probeAmount amountIn) with
        | mk probe s2 =>
          rw [hprobe] at h
          cases probe with
          | raised named =>
            cases named with
            | false => cases h
            | true =>
              cases h
              exact ⟨rfl, congrArg Prod.fst hask, (if_pos hprobes).symm⟩
          | missing =>
            cases h
            exact ⟨rfl, congrArg Prod.fst hask, (if_pos hprobes).symm⟩
          | quoted quote' =>
            cases h
            exact ⟨rfl, congrArg Prod.fst hask, (if_pos hprobes).symm⟩
      · rw [if_neg hprobes] at h
        cases h
        exact ⟨rfl, congrArg Prod.fst hask, (if_neg hprobes).symm⟩

theorem quoteLegs_done {ask : Quoter σ} {model : SlippageModel} {slippageBps : Int} {s s' : σ}
    {amountIn : Int} {edges : List (Option Edge)} {legs : List (QuotedLeg σ)}
    (h : quoteLegs ask model slippageBps s amountIn edges = (.done legs, s')) :
    Threaded ask model slippageBps amountIn edges legs := by
  induction edges generalizing s amountIn legs with
  | nil =>
    cases h
    exact .nil amountIn
  | cons e edges ih =>
    rw [quoteLegs] at h
    cases hfirst : quoteLeg ask model slippageBps s e amountIn with
    | mk ended s1 =>
      rw [hfirst] at h
      cases ended with
      | nothing => cases h
      | raised => cases h
      | done leg =>
        dsimp only at h
        cases hrest : quoteLegs ask model slippageBps s1 leg.quote.amountOut edges with
        | mk ended' s2 =>
          rw [hrest] at h
          cases ended' with
          | nothing => cases h
          | raised => cases h
          | done rest =>
            cases h
            obtain ⟨rfl, hasked, hslippage⟩ := quoteLeg_done hfirst
            exact .cons e edges leg rest hasked hslippage (ih hrest)

variable {ask : Quoter σ} {model : SlippageModel} {slippageBps amountIn : Int}
  {edges : List (Option Edge)} {legs : List (QuotedLeg σ)}

theorem Threaded.length_eq (h : Threaded ask model slippageBps amountIn edges legs) :
    legs.length = edges.length := by
  induction h with
  | nil => rfl
  | cons e edges leg legs _ _ _ ih => rw [List.length_cons, List.length_cons, ih]

theorem Threaded.getElem? (h : Threaded ask model slippageBps amountIn edges legs) {k : Nat}
    {leg : QuotedLeg σ} (hk : legs[k]? = some leg) :
    ∃ e, edges[k]? = some e ∧ (ask leg.state e leg.amountIn).1 = .quoted leg.quote
      ∧ leg.appliedBps = slippageOf model slippageBps leg := by
  induction h generalizing k with
  | nil => cases hk
  | cons e edges first legs hasked hslippage _ ih =>
    cases k with
    | zero =>
      cases hk
      exact ⟨e, rfl, hasked, hslippage⟩
    | succ k => exact ih hk

theorem Threaded.amounts (h : Threaded ask model slippageBps amountIn edges legs) {k : Nat}
    {leg : QuotedLeg σ} (hk : legs[k]? = some leg) :
    (amountIn :: legs.map fun leg => leg.quote.amountOut)[k]? = some leg.amountIn := by
  induction h generalizing k with
  | nil => cases hk
  | cons e edges first legs _ _ _ ih =>
    cases k with
    | zero =>
      cases hk
      rfl
    | succ k => exact ih hk

/-! ## What is written -/

theorem applySlippage_le {amount bps : Int} (hamount : 0 ≤ amount) (hbps : 0 ≤ bps) :
    applySlippage amount bps ≤ amount := by
  refine max_le hamount ?_
  have hscaled : amount * (10000 - bps) ≤ amount * 10000 :=
    mul_le_mul_of_nonneg_left (by omega) hamount
  calc amount * (10000 - bps) / 10000 ≤ amount * 10000 / 10000 :=
        Int.ediv_le_ediv (by norm_num) hscaled
    _ = amount := Int.mul_ediv_cancel _ (by norm_num)

theorem appliedBps_of_rounded {model : SlippageModel} {slippageBps impactBps bps : Int}
    (hmax : model.maxBps ≠ 0) (hbps : model.roundedBps slippageBps impactBps = some bps) :
    model.appliedBps slippageBps impactBps = max model.minBps (min model.maxBps bps) := by
  unfold SlippageModel.appliedBps
  dsimp only
  generalize model.roundedBps slippageBps impactBps = rounded at hbps ⊢
  rw [hbps]
  show max model.minBps (min (if model.maxBps = 0 then slippageBps else model.maxBps) bps) = _
  rw [if_neg hmax]

theorem appliedBps_bounds {model : SlippageModel} {slippageBps impactBps : Int}
    (hbounds : model.minBps ≤ model.maxBps) (hmax : model.maxBps ≠ 0)
    (hrounds : (model.roundedBps slippageBps impactBps).isSome = true) :
    model.minBps ≤ model.appliedBps slippageBps impactBps
      ∧ model.appliedBps slippageBps impactBps ≤ model.maxBps := by
  obtain ⟨bps, hbps⟩ := Option.isSome_iff_exists.1 hrounds
  rw [appliedBps_of_rounded hmax hbps]
  exact ⟨le_max_left _ _, max_le hbounds (min_le_left _ _)⟩

theorem rewriteLegs_getElem? (h : Threaded ask model slippageBps amountIn edges legs)
    {old : List RouteLeg} {k : Nat} {leg : QuotedLeg σ} {before : RouteLeg}
    (hk : legs[k]? = some leg) (hold : old[k]? = some before) :
    (rewriteLegs amountIn (legs.map fun leg => leg.quote.amountOut)
        (legs.map QuotedLeg.appliedBps) old)[k]?
      = some { before with
          amountIn := decimalText leg.amountIn
          minOut := decimalText (applySlippage leg.quote.amountOut leg.appliedBps) } := by
  have hamount := h.amounts hk
  have hout : (legs.map fun leg => leg.quote.amountOut)[k]? = some leg.quote.amountOut := by
    rw [List.getElem?_map, hk]
    rfl
  have hbps : (legs.map QuotedLeg.appliedBps)[k]? = some leg.appliedBps := by
    rw [List.getElem?_map, hk]
    rfl
  simp only [rewriteLegs, List.zip, List.getElem?_zipWith, hold, hamount, hout, hbps]

structure Rewritten (ask : Quoter σ) (model : SlippageModel) (newAmountIn slippageBps : Int)
    (held held' : Held) (legs : List (QuotedLeg σ)) : Prop where
  /-- every leg of the route is quoted, rewritten and has its minimum -/
  lengths : legs.length = held.opportunity.legs.length
    ∧ held'.opportunity.legs.length = held.opportunity.legs.length
    ∧ held'.opportunity.minOuts.length = held.opportunity.legs.length
  /-- the quote of a leg is the answer for the leg's amount -/
  asked : ∀ (k : Nat) (leg : QuotedLeg σ), legs[k]? = some leg →
    ∃ e, (requoteEdges held.opportunity.legs held.opportunity.routeEdgeParams)[k]? = some e
      ∧ (ask leg.state e leg.amountIn).1 = .quoted leg.quote
  first : ∀ leg, legs[0]? = some leg → leg.amountIn = newAmountIn
  threaded : ∀ (k : Nat) (leg next : QuotedLeg σ), legs[k]? = some leg →
    legs[k + 1]? = some next → next.amountIn = leg.quote.amountOut
  /-- only the amounts of a leg are written, and its minimum is the entry of `min_outs` -/
  written : ∀ (k : Nat) (leg : QuotedLeg σ) (before : RouteLeg), legs[k]? = some leg →
    held.opportunity.legs[k]? = some before →
      held'.opportunity.legs[k]? = some { before with
        amountIn := decimalText leg.amountIn
        minOut := decimalText (applySlippage leg.quote.amountOut leg.appliedBps) }
      ∧ held'.opportunity.minOuts[k]?
        = some (decimalText (applySlippage leg.quote.amountOut leg.appliedBps))
  min_le : ∀ leg ∈ legs, 0 ≤ leg.quote.amountOut → 0 ≤ leg.appliedBps →
    applySlippage leg.quote.amountOut leg.appliedBps ≤ leg.quote.amountOut
  profit : ∃ last, legs.getLast? = some last
    ∧ held'.opportunity.expectedProfitRaw = decimalText (last.quote.amountOut - newAmountIn)
  /-- a leg that is probed has a haircut between the bounds -/
  bounded : model.minBps ≤ model.maxBps → model.maxBps ≠ 0 → ∀ leg ∈ legs,
    model.probes leg.amountIn leg.quote.amountOut →
      (model.roundedBps slippageBps leg.impactBps).isSome = true →
        model.minBps ≤ leg.appliedBps ∧ leg.appliedBps ≤ model.maxBps
  /-- a leg that is not probed has the base slippage -/
  base : ∀ leg ∈ legs, ¬ model.probes leg.amountIn leg.quote.amountOut →
    leg.appliedBps = slippageBps

theorem mem_slippage (h : Threaded ask model slippageBps amountIn edges legs) {leg : QuotedLeg σ}
    (hleg : leg ∈ legs) : leg.appliedBps = slippageOf model slippageBps leg := by
  obtain ⟨k, hk⟩ := List.getElem?_of_mem hleg
  obtain ⟨e, -, -, hslippage⟩ := h.getElem? hk
  exact hslippage

theorem length_rewriteLegs (newAmountIn : Int) {outs applied : List Int} {old : List RouteLeg}
    (houts : outs.length = old.length) (happlied : applied.length = old.length) :
    (rewriteLegs newAmountIn outs applied old).length = old.length := by
  simp only [rewriteLegs, List.length_zipWith, List.length_zip, List.length_cons]
  omega

theorem rewritten_rewrite {held : Held} (hsome : held.opportunity.legs ≠ [])
    (h : Threaded ask model slippageBps amountIn
      (requoteEdges held.opportunity.legs held.opportunity.routeEdgeParams) legs) :
    Rewritten ask model amountIn slippageBps held
      (held.rewrite model amountIn slippageBps legs) legs := by
  have hlength : legs.length = held.opportunity.legs.length := by
    rw [h.length_eq, length_requoteEdges]
  refine ⟨⟨hlength, ?_, ?_⟩, ?_, ?_, ?_, ?_, ?_, ?_, ?_, ?_⟩
  · exact length_rewriteLegs _ (by rw [List.length_map, hlength])
      (by rw [List.length_map, hlength])
  · simp only [Held.rewrite, List.length_zipWith, List.length_map, hlength, min_self]
  · intro k leg hk
    obtain ⟨e, he, hasked, -⟩ := h.getElem? hk
    exact ⟨e, he, hasked⟩
  · intro leg hk
    exact (Option.some.inj (h.amounts hk)).symm
  · intro k leg next hk hnext
    have hamount := h.amounts hnext
    rw [List.getElem?_cons_succ, List.getElem?_map, hk] at hamount
    exact (Option.some.inj hamount).symm
  · intro k leg before hk hbefore
    refine ⟨rewriteLegs_getElem? h hk hbefore, ?_⟩
    simp only [Held.rewrite, List.getElem?_zipWith, List.getElem?_map, hk, Option.map_some]
  · exact fun leg _ hout hbps => applySlippage_le hout hbps
  · have hlegs : legs ≠ [] := by
      rintro rfl
      exact hsome (List.length_eq_zero_iff.1 hlength.symm)
    refine ⟨legs.getLast hlegs, List.getLast?_eq_some_getLast hlegs, ?_⟩
    have hlast : (legs.map fun leg => leg.quote.amountOut).getLastD 0
        = (legs.getLast hlegs).quote.amountOut := by
      rw [List.getLastD_eq_getLast?, List.getLast?_map, List.getLast?_eq_some_getLast hlegs]
      rfl
    show decimalText ((legs.map fun leg => leg.quote.amountOut).getLastD 0 - amountIn) = _
    rw [hlast]
  · intro hbounds hmax leg hleg hprobes hrounds
    have hslippage := mem_slippage h hleg
    rw [slippageOf, if_pos hprobes] at hslippage
    rw [hslippage]
    exact appliedBps_bounds hbounds hmax hrounds
  · intro leg hleg hprobes
    have hslippage := mem_slippage h hleg
    rwa [slippageOf, if_neg hprobes] at hslippage

/-- **All or nothing.** Whatever the source of quotes answers, a call that does not return the
opportunity leaves it as it was, and one that does has rewritten it by the legs it quoted. -/
theorem requote_all_or_nothing (ask : Quoter σ) (model : SlippageModel) (s : σ) (held : Held)
    (newAmountIn slippageBps : Int) :
    ((requoteInPlace ask model s held newAmountIn slippageBps).answer ≠ .returned →
        (requoteInPlace ask model s held newAmountIn slippageBps).held = held)
      ∧ ((requoteInPlace ask model s held newAmountIn slippageBps).answer = .returned →
        ∃ legs, Rewritten ask model newAmountIn slippageBps held
          (requoteInPlace ask model s held newAmountIn slippageBps).held legs) := by
  unfold requoteInPlace
  dsimp only
  by_cases hguard : newAmountIn ≤ 0 ∨ held.opportunity.legs = []
  · rw [if_pos hguard]
    exact ⟨fun _ => rfl, fun h => by cases h⟩
  · rw [if_neg hguard]
    cases hquoted : quoteLegs ask model slippageBps s newAmountIn
        (requoteEdges held.opportunity.legs held.opportunity.routeEdgeParams) with
    | mk ended s' =>
      cases ended with
      | nothing => exact ⟨fun _ => rfl, fun h => by cases h⟩
      | raised => exact ⟨fun _ => rfl, fun h => by cases h⟩
      | done legs =>
        dsimp only
        by_cases hlast : (legs.map fun leg => leg.quote.amountOut).getLastD 0 ≤ 0
        · rw [if_pos hlast]
          exact ⟨fun _ => rfl, fun h => by cases h⟩
        · rw [if_neg hlast]
          exact ⟨fun h => absurd rfl h, fun _ =>
            ⟨legs, rewritten_rewrite (not_or.1 hguard).2 (quoteLegs_done hquoted)⟩⟩

/-! ## The node and its cache -/

def Asked.ofOption : Option EdgeQuote → Asked
  | some quote => .quoted quote
  | none => .missing

/-- `quote_edge` over a node and the cache of a block: an unknown protocol has no quote, and an
error inside is a missing quote. -/
def quoteEdgeAsked (rpc : Rpc) (cfg : ChainConfig) : Quoter QuoteCache
  | cache, none, _ => (.missing, cache)
  | cache, some e, amountIn =>
    (.ofOption (quoteEdge rpc cfg cache e amountIn).1, (quoteEdge rpc cfg cache e amountIn).2)

def RequoteStep.quotedLeg (step : RequoteStep) : QuotedLeg QuoteCache :=
  ⟨step.cache, step.amountIn, step.quote, step.impactBps, step.appliedBps⟩

/-- What was found, as the end of a round or of the loop. -/
def Ended.ofOption {α : Type} : Option α → Ended α
  | some a => .done a
  | none => .nothing

theorem quoteLeg_asked (rpc : Rpc) (cfg : ChainConfig) (model : SlippageModel)
    (slippageBps : Int) (cache : QuoteCache) (e : Edge) (amountIn : Int) :
    quoteLeg (quoteEdgeAsked rpc cfg) model slippageBps cache (some e) amountIn
      = (.ofOption ((requoteStep rpc cfg model slippageBps cache e amountIn).1.map
          RequoteStep.quotedLeg), (requoteStep rpc cfg model slippageBps cache e amountIn).2) := by
  have hasked : ∀ (cache : QuoteCache) (amountIn : Int),
      quoteEdgeAsked rpc cfg cache (some e) amountIn
        = (.ofOption (quoteEdge rpc cfg cache e amountIn).1,
          (quoteEdge rpc cfg cache e amountIn).2) := fun _ _ => rfl
  unfold quoteLeg requoteStep
  rw [hasked]
  cases hquote : quoteEdge rpc cfg cache e amountIn with
  | mk quote cache' =>
    cases quote with
    | none => rfl
    | some quote =>
      dsimp only [Asked.ofOption]
      by_cases hprobes : model.probes amountIn quote.amountOut
      · rw [if_pos hprobes, if_pos (show model.dynamic = true ∧ 0 < model.probe ∧ 0 < amountIn
          ∧ 0 < quote.amountOut from hprobes), hasked]
        have hamount : model.probeAmount amountIn
            = if amountIn * (10000 + model.probe) / 10000 ≤ amountIn then amountIn + 1
              else amountIn * (10000 + model.probe) / 10000 := rfl
        generalize model.appliedBps slippageBps = applied
        dsimp only
        rw [← hamount]
        cases hprobe : quoteEdge rpc cfg cache' e (model.probeAmount amountIn) with
        | mk probe cache'' => cases probe <;> rfl
      · rw [if_neg hprobes, if_neg (show ¬ (model.dynamic = true ∧ 0 < model.probe
          ∧ 0 < amountIn ∧ 0 < quote.amountOut) from hprobes)]
        rfl

theorem quoteLegs_asked (rpc : Rpc) (cfg : ChainConfig) (model : SlippageModel)
    (slippageBps : Int) (cache : QuoteCache) (amountIn : Int) (edges : List (Option Edge)) :
    quoteLegs (quoteEdgeAsked rpc cfg) model slippageBps cache amountIn edges
      = (.ofOption ((requoteSteps rpc cfg model slippageBps cache amountIn edges).1.map
          fun steps => steps.map RequoteStep.quotedLeg),
        (requoteSteps rpc cfg model slippageBps cache amountIn edges).2) := by
  induction edges generalizing cache amountIn with
  | nil => rfl
  | cons e edges ih =>
    cases e with
    | none => rfl
    | some e =>
      rw [quoteLegs, requoteSteps, quoteLeg_asked]
      cases hstep : requoteStep rpc cfg model slippageBps cache e amountIn with
      | mk step cache' =>
        cases step with
        | none => rfl
        | some step =>
          dsimp only [Option.map_some, Ended.ofOption]
          rw [show step.quotedLeg.quote.amountOut = step.quote.amountOut from rfl, ih]
          cases hrest : (requoteSteps rpc cfg model slippageBps cache'
            step.quote.amountOut edges).1 <;> rfl

theorem rewriteLegs_eq (newAmountIn : Int) (steps : List RequoteStep) (legs : List RouteLeg) :
    rewriteLegs newAmountIn (steps.map fun step => step.quote.amountOut)
        (steps.map RequoteStep.appliedBps) legs
      = List.zipWith (fun leg (w : String × String) =>
          { leg with amountIn := w.1, minOut := w.2 }) legs
        (((newAmountIn :: steps.map fun step => step.quote.amountOut).map decimalText).zip
          (steps.map fun step =>
            decimalText (applySlippage step.quote.amountOut step.appliedBps))) := by
  apply List.ext_getElem?
  intro k
  simp only [rewriteLegs, List.zip, List.getElem?_zipWith, List.getElem?_map]
  cases legs[k]? <;> cases (newAmountIn :: steps.map fun step => step.quote.amountOut)[k]? <;>
    cases steps[k]? <;> rfl

/-- Rewriting in place comes to the opportunity `requoteWith` makes. -/
theorem rewrite_requoteWith {held : Held} {model : SlippageModel} {newAmountIn slippageBps : Int}
    {steps : List RequoteStep} (houts : held.opportunity.outs.length ≤ steps.length)
    (hquotes : held.opportunity.legQuotes.length ≤ steps.length) :
    (held.rewrite model newAmountIn slippageBps (steps.map RequoteStep.quotedLeg)).opportunity
      = (requoteWith held.opportunity newAmountIn steps).opportunity := by
  have houtsMap : ((steps.map RequoteStep.quotedLeg).map fun leg => leg.quote.amountOut)
      = steps.map fun step => step.quote.amountOut := by
    rw [List.map_map]
    rfl
  have happlied : (steps.map RequoteStep.quotedLeg).map QuotedLeg.appliedBps
      = steps.map RequoteStep.appliedBps := by
    rw [List.map_map]
    rfl
  have hquotesMap : ((steps.map RequoteStep.quotedLeg).map fun leg => leg.quote.quote)
      = steps.map fun step => step.quote.quote := by
    rw [List.map_map]
    rfl
  have hminOuts : List.zipWith (fun out bps => decimalText (applySlippage out bps))
      (steps.map fun step => step.quote.amountOut) (steps.map RequoteStep.appliedBps)
      = steps.map fun step =>
          decimalText (applySlippage step.quote.amountOut step.appliedBps) := by
    rw [List.zipWith_map, List.zipWith_self]
  have hdropOuts : ∀ new : List String, new.length = steps.length →
      overwrite new held.opportunity.outs = new := by
    intro new hnew
    rw [overwrite, List.drop_eq_nil_of_le (by omega), List.append_nil]
  have hdropQuotes : ∀ new : List Meta, new.length = steps.length →
      overwrite new held.opportunity.legQuotes = new := by
    intro new hnew
    rw [overwrite, List.drop_eq_nil_of_le (by omega), List.append_nil]
  simp only [Held.rewrite, requoteWith, houtsMap, happlied, hquotesMap, hminOuts,
    rewriteLegs_eq]
  rw [hdropOuts _ (by rw [List.length_map, List.length_map]),
    hdropQuotes _ (by rw [List.length_map])]

/-- **The model of the scanners' opportunities.** Over a node and its cache, and for an opportunity
with no more numbered entries in `meta` than legs, the call is `requoteOpportunity`: either both
return the same opportunity, or both return nothing. -/
theorem requoteInPlace_asked (rpc : Rpc) (cfg : ChainConfig) (model : SlippageModel)
    (cache : QuoteCache) (held : Held) (newAmountIn slippageBps : Int)
    (houts : held.opportunity.outs.length ≤ held.opportunity.legs.length)
    (hquotes : held.opportunity.legQuotes.length ≤ held.opportunity.legs.length) :
    (∃ r held' cache', requoteOpportunity rpc cfg model cache held.opportunity newAmountIn
          slippageBps = (some r, cache')
        ∧ requoteInPlace (quoteEdgeAsked rpc cfg) model cache held newAmountIn slippageBps
          = ⟨.returned, held', cache'⟩
        ∧ held'.opportunity = r.opportunity)
      ∨ ∃ cache', requoteOpportunity rpc cfg model cache held.opportunity newAmountIn slippageBps
          = (none, cache')
        ∧ requoteInPlace (quoteEdgeAsked rpc cfg) model cache held newAmountIn slippageBps
          = ⟨.nothing, held, cache'⟩ := by
  unfold requoteInPlace requoteOpportunity
  dsimp only
  by_cases hguard : newAmountIn ≤ 0 ∨ held.opportunity.legs = []
  · rw [if_pos hguard, if_pos hguard]
    exact Or.inr ⟨cache, rfl, rfl⟩
  · rw [if_neg hguard, if_neg hguard, quoteLegs_asked]
    cases hsteps : requoteSteps rpc cfg model slippageBps cache newAmountIn
        (requoteEdges held.opportunity.legs held.opportunity.routeEdgeParams) with
    | mk steps cache' =>
      cases steps with
      | none => exact Or.inr ⟨cache', rfl, rfl⟩
      | some steps =>
        have hlength : steps.length = held.opportunity.legs.length := by
          rw [requoteSteps_length (congrArg Prod.fst hsteps), length_requoteEdges]
        have houtsMap : ((steps.map RequoteStep.quotedLeg).map fun leg =>
            leg.quote.amountOut) = steps.map fun step => step.quote.amountOut := by
          rw [List.map_map]
          rfl
        dsimp only [Option.map_some, Ended.ofOption]
        rw [houtsMap]
        by_cases hlast : (steps.map fun step => step.quote.amountOut).getLastD 0 ≤ 0
        · rw [if_pos hlast, if_pos hlast]
          exact Or.inr ⟨cache', rfl, rfl⟩
        · rw [if_neg hlast, if_neg hlast]
          exact Or.inl ⟨_, _, cache', rfl, rfl,
            rewrite_requoteWith (houts.trans hlength.ge) (hquotes.trans hlength.ge)⟩

/-! ## Runs beyond the bounds -/

/-- A source that gives the answers of a list, one a call. -/
def scripted : Quoter (List Asked)
  | [], _, _ => (.missing, [])
  | answer :: answers, _, _ => (answer, answers)

def scriptedQuote (out : Int) : Asked := .quoted ⟨out, Dict.empty⟩

def scriptedLeg : RouteLeg := ⟨"camelot_v2", "0xaa", "0xbb", "0xcc", "0", "0", "0x"⟩

def scriptedHeld (legs : Nat) : Held where
  opportunity :=
    { expectedProfitRaw := "0"
      legs := List.replicate legs scriptedLeg
      minOuts := []
      routeBytes := []
      outs := []
      legQuotes := []
      routeEdgeParams := []
      venues := []
      gasEstimateUnits := "0"
      gasCostEstimateWei := "0"
      profitAfterGasEstimateWei := "0" }
  requotedAmountIn := none
  slippageModel := none

def scriptedRun (model : SlippageModel) (answers : List Asked) (legs : Nat) (slippageBps : Int) :
    RequoteResult (List Asked) :=
  requoteInPlace scripted model answers (scriptedHeld legs) 1000 slippageBps

def RequoteResult.haircuts (r : RequoteResult σ) : RequoteAnswer × Option (List Int) :=
  (r.answer, r.held.slippageModel.map SlippageNote.appliedBpsPerLeg)

def RequoteResult.minimums (r : RequoteResult σ) : RequoteAnswer × List String :=
  (r.answer, r.held.opportunity.minOuts)

def scriptedModel (probeBps : Int) (impactMult : PyFloat) (minBps maxBps : Int) : SlippageModel :=
  ⟨true, probeBps, impactMult, minBps, maxBps⟩

def staticModel : SlippageModel := ⟨false, 0, .finite 1, 0, 0⟩

def noVenues : ChainConfig :=
  ⟨"", "", "", "", "", "", "", "", "", "", "", "", false, false, [], [], [], [], [], [], [], [], []⟩

theorem requoteInPlace_asked_scripted :
    (∃ r held' cache', requoteOpportunity ⟨fun _ => .failed none⟩ noVenues staticModel Dict.empty
          (scriptedHeld 2).opportunity 1000 50 = (some r, cache')
        ∧ requoteInPlace (quoteEdgeAsked ⟨fun _ => .failed none⟩ noVenues) staticModel Dict.empty
            (scriptedHeld 2) 1000 50 = ⟨.returned, held', cache'⟩
        ∧ held'.opportunity = r.opportunity)
      ∨ ∃ cache', requoteOpportunity ⟨fun _ => .failed none⟩ noVenues staticModel Dict.empty
            (scriptedHeld 2).opportunity 1000 50 = (none, cache')
        ∧ requoteInPlace (quoteEdgeAsked ⟨fun _ => .failed none⟩ noVenues) staticModel Dict.empty
            (scriptedHeld 2) 1000 50 = ⟨.nothing, scriptedHeld 2, cache'⟩ :=
  requoteInPlace_asked _ noVenues staticModel Dict.empty (scriptedHeld 2) 1000 50 (by decide)
    (by decide)

/-- With dynamic slippage on, a haircut of 500 beyond the bounds of 20 and 250: without a probe,
after an output of nothing, and under a multiplier that is no number; and one of 30 beyond bounds
of nothing. A minimum above the quoted output: of 1010 above 1000 with a slippage below zero, and
of 0 above an output of -5. -/
theorem haircut_out_of_bounds :
    (scriptedRun (scriptedModel 0 (.finite 1) 20 250) [scriptedQuote 1000] 1 500).haircuts
        = (.returned, some [500])
      ∧ (scriptedRun (scriptedModel 25 (.finite 1) 20 250)
          [scriptedQuote 0, scriptedQuote 1000] 2 500).haircuts = (.returned, some [500, 500])
      ∧ (scriptedRun (scriptedModel 25 .nan 20 250)
          [scriptedQuote 1000, .missing] 1 500).haircuts = (.returned, some [500])
      ∧ (scriptedRun (scriptedModel 25 (.finite 1) 0 0)
          [scriptedQuote 1000, .missing] 1 30).haircuts = (.returned, some [30])
      ∧ (scriptedRun staticModel [scriptedQuote 1000] 1 (-100)).minimums
        = (.returned, ["1010"])
      ∧ (scriptedRun staticModel [scriptedQuote (-5), scriptedQuote 1000] 2 50).minimums
        = (.returned, ["0", "995"]) := by
  refine ⟨?_, ?_, ?_, ?_, ?_, ?_⟩ <;> decide +kernel

end SovereignCapital.Engine
