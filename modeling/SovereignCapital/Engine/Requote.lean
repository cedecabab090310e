import SovereignCapital.Engine.LegData
import SovereignCapital.Lib.PyTree

/-! # Requoting an opportunity

`requote_opportunity` quotes the legs of an opportunity again for another amount. It writes the new
amounts into the legs and leaves their `data` as they are. A quote of a Curve pool may now be
answered by the other function of the pool.

* `data_binds_iff` : the legs of both builders execute what was quoted, those of a requoted
  opportunity exactly where each Curve pool answers with the function its leg names.
* `requote_switches` : a pool whose other function answers the requote.
-/

namespace SovereignCapital.Engine

open Bytes Abi Execute Decimal

/-! ## Edges of the legs -/

/-- `_decode_u256_b32` of `lg.data or "0x"`, zero where it raises. -/
def decodeU256B32 (leg : RouteLeg) : Nat :=
  match fromHex (pyRjust 64 '0' ((strip0x leg.aux).getD leg.aux)) with
  | some raw => beNat raw
  | none => 0

/-- The stored parameters of an edge, read from the data of the leg when there are none. -/
def requoteParams (leg : RouteLeg) (stored : PyDict) : PyDict :=
  if stored.entries ≠ [] then stored
  else
    let v := decodeU256B32 leg
    match leg.dex with
    | "univ3" => PyDict.literal
        [("fee", .int (if v &&& 0xFFFFFF = 0 then 3000 else (v &&& 0xFFFFFF : Nat)))]
    | "curve" => PyDict.literal
        [("i", .int (v &&& 0xFF : Nat)), ("j", .int (v >>> 8 &&& 0xFF : Nat)),
          ("underlying", .bool (v >>> 16 &&& 1 == 1))]
    | "balancer" => PyDict.literal [("pool_id", .text (String.ofList leg.aux))]
    | "slipstream" => PyDict.literal [("tick_spacing", .int (v &&& 0xFFFFFF : Nat))]
    | _ => stored

def Dex.ofName? : String → Option Dex
  | "univ3" => some univ3
  | "curve" => some curve
  | "balancer" => some balancer
  | "aerodrome" => some aerodrome
  | "slipstream" => some slipstream
  | "camelot_algebra" => some camelotAlgebra
  | "camelot_v2" => some camelotV2
  | "constant_product" => some constantProduct
  | _ => none

/-- The edge a leg is quoted on; nothing for an unknown `dex`, which has no quote. -/
def requoteEdge (leg : RouteLeg) (stored : PyDict) : Option Edge :=
  (Dex.ofName? leg.dex).map fun dex =>
    ⟨dex, leg.venue, leg.tokenIn, leg.tokenOut, requoteParams leg stored⟩

/-- The edges of the legs, an empty dictionary where none is stored. -/
def requoteEdges : List RouteLeg → List PyDict → List (Option Edge)
  | [], _ => []
  | leg :: legs, stored =>
    requoteEdge leg (stored.headD Dict.empty) :: requoteEdges legs stored.tail

/-! ## Slippage -/

/-- `cfg.safety`, as far as the slippage of a requote reads it; a missing maximum is zero. -/
structure SlippageModel where
  dynamic : Bool
  probeBps : Int
  impactMult : PyFloat
  minBps : Int
  maxBps : Int

/-- `probe_bps`. -/
def SlippageModel.probe (model : SlippageModel) : Int :=
  if model.dynamic then model.probeBps else 0

/-- `impact_mult`: a zero counts as missing. -/
def SlippageModel.mult (model : SlippageModel) : PyFloat :=
  if model.impactMult = .finite 0 then .finite 1 else model.impactMult

/-- `round(float(slippage_bps) + float(leg_impact_bps) * impact_mult)` in double precision; nothing
where it raises, because a float overflows or is no number. -/
def SlippageModel.roundedBps (model : SlippageModel) (slippageBps impactBps : Int) : Option Int :=
  match Double.ofInt slippageBps, Double.ofInt impactBps, model.mult with
  | some base, some impact, .finite mult =>
    match PyFloat.ofRat (impact * mult) with
    | .finite product =>
      match PyFloat.ofRat (base + product) with
      | .finite sum => some (roundHalfEven sum)
      | _ => none
    | _ => none
  | _, _, _ => none

/-- The slippage of a leg with a price impact; the base slippage where the rounding raises. -/
def SlippageModel.appliedBps (model : SlippageModel) (slippageBps impactBps : Int) : Int :=
  let maxBps := if model.maxBps = 0 then slippageBps else model.maxBps
  match model.roundedBps slippageBps impactBps with
  | some bps => max model.minBps (min maxBps bps)
  | none => slippageBps

/-- The impact of a probe in basis points; none where the probe has no quote. -/
def impactOf (amountIn out probeAmount : Int) (probe : Option EdgeQuote) : Int :=
  match probe with
  | none => 0
  | some probe =>
    let num := out * probeAmount - probe.amountOut * amountIn
    let den := out * probeAmount
    if 0 < num ∧ 0 < den then num * 10000 / den else 0

/-! ## The run over the legs -/

/-- A leg that is quoted again: the cache and the amount it is reached with, its quote, and the
slippage it is given. -/
structure RequoteStep where
  cache : QuoteCache
  amountIn : Int
  quote : EdgeQuote
  impactBps : Int
  appliedBps : Int

def requoteStep (rpc : Rpc) (cfg : ChainConfig) (model : SlippageModel) (slippageBps : Int)
    (cache : QuoteCache) (e : Edge) (amountIn : Int) : Option RequoteStep × QuoteCache :=
  match quoteEdge rpc cfg cache e amountIn with
  | (none, cache') => (none, cache')
  | (some quote, cache') =>
    if model.dynamic ∧ 0 < model.probe ∧ 0 < amountIn ∧ 0 < quote.amountOut then
      let scaled := amountIn * (10000 + model.probe) / 10000
      let probeAmount := if scaled ≤ amountIn then amountIn + 1 else scaled
      let probe := quoteEdge rpc cfg cache' e probeAmount
      let impact := impactOf amountIn quote.amountOut probeAmount probe.1
      (some ⟨cache, amountIn, quote, impact, model.appliedBps slippageBps impact⟩, probe.2)
    else (some ⟨cache, amountIn, quote, 0, slippageBps⟩, cache')

/-- The legs in order, each for the output of the one before. -/
def requoteSteps (rpc : Rpc) (cfg : ChainConfig) (model : SlippageModel) (slippageBps : Int) :
    QuoteCache → Int → List (Option Edge) → Option (List RequoteStep) × QuoteCache
  | cache, _, [] => (some [], cache)
  | cache, _, none :: _ => (none, cache)
  | cache, amountIn, some e :: edges =>
    match requoteStep rpc cfg model slippageBps cache e amountIn with
    | (none, cache') => (none, cache')
    | (some step, cache') =>
      let rest := requoteSteps rpc cfg model slippageBps cache' step.quote.amountOut edges
      (rest.1.map fun steps => step :: steps, rest.2)

/-- An opportunity that is quoted again, with what `meta` records of it. -/
structure Requoted where
  opportunity : Opportunity
  requotedAmountIn : Int
  impactBpsPerLeg : List Int
  appliedBpsPerLeg : List Int

def requoteWith (opp : Opportunity) (newAmountIn : Int) (steps : List RequoteStep) : Requoted :=
  let outs := steps.map fun step => step.quote.amountOut
  let minOuts := steps.map fun step =>
    decimalText (applySlippage step.quote.amountOut step.appliedBps)
  let amounts := (newAmountIn :: outs).map decimalText
  { opportunity := { opp with
      legs := List.zipWith (fun leg (w : String × String) =>
        { leg with amountIn := w.1, minOut := w.2 }) opp.legs (amounts.zip minOuts)
      minOuts := minOuts
      expectedProfitRaw := decimalText (outs.getLastD 0 - newAmountIn)
      outs := outs.map decimalText
      legQuotes := steps.map fun step => step.quote.quote }
    requotedAmountIn := newAmountIn
    impactBpsPerLeg := steps.map RequoteStep.impactBps
    appliedBpsPerLeg := steps.map RequoteStep.appliedBps }

def requoteOpportunity (rpc : Rpc) (cfg : ChainConfig) (model : SlippageModel) (cache : QuoteCache)
    (opp : Opportunity) (newAmountIn slippageBps : Int) : Option Requoted × QuoteCache :=
  if newAmountIn ≤ 0 ∨ opp.legs = [] then (none, cache)
  else
    match requoteSteps rpc cfg model slippageBps cache newAmountIn
        (requoteEdges opp.legs opp.routeEdgeParams) with
    | (none, cache') => (none, cache')
    | (some steps, cache') =>
      if (steps.map fun step => step.quote.amountOut).getLastD 0 ≤ 0 then (none, cache')
      else (some (requoteWith opp newAmountIn steps), cache')

/-! ## The function of a Curve pool -/

def PoolFunction.withUnderlying (underlying : Bool) : PoolFunction → PoolFunction
  | .curve i j _ => .curve i j underlying
  | f => f

/-- The flag of the metadata. -/
def usedUnderlying (quote : Meta) : Bool :=
  (quote.getD "used_underlying" (.bool false)).truthy

theorem quotedFunction_meta (e : Edge) (quote quote' : Meta) :
    quotedFunction e quote'
      = (quotedFunction e quote).map (PoolFunction.withUnderlying (usedUnderlying quote')) := by
  cases hdex : e.dex with
  | curve =>
    simp only [quotedFunction, hdex, usedUnderlying]
    cases e.params.get? "i" with
    | none => rfl
    | some i =>
      cases e.params.get? "j" with
      | none => simp
      | some j => cases hi : i.int? <;> cases hj : j.int? <;> simp [hi, hj,
          PoolFunction.withUnderlying]
  | univ3 => cases h : e.intParam "fee" 3000 <;> simp [quotedFunction, hdex, h,
      PoolFunction.withUnderlying]
  | slipstream => cases h : e.intParam "tick_spacing" 0 <;> simp [quotedFunction, hdex, h,
      PoolFunction.withUnderlying]
  | balancer =>
    simp only [quotedFunction, hdex]
    cases e.params.get? "pool_id" with
    | none => rfl
    | some v =>
      cases h : textOf? v with
      | none => simp [h]
      | some poolId =>
        simp only [h, Option.bind_eq_bind, Option.bind_some]
        cases fromHex ((strip0x poolId.toList).getD poolId.toList) <;> rfl
  | aerodrome =>
    simp only [quotedFunction, hdex]
    cases encAddress (e.textParam "factory").toList <;> rfl
  | _ => simp [quotedFunction, hdex, PoolFunction.withUnderlying]

def preferredAnswers (rpc : Rpc) (e : Edge) (amountIn : Int) : Bool :=
  (do
    let i ← (e.params.get? "i").bind PyValue.int?
    let j ← (e.params.get? "j").bind PyValue.int?
    let data ← curveCalldata i j amountIn (e.boolParam "underlying")
    parseCurve (rpc.ethCall e.venue data)).isSome

/-- The function of the pool that answers: the one of the cached quote, the preferred one when it
answers, else the other. -/
def pickedUnderlying (rpc : Rpc) (cache : QuoteCache) (e : Edge) (amountIn : Int) : Bool :=
  match cache.hit e amountIn with
  | some quote => usedUnderlying quote.quote
  | none =>
    if preferredAnswers rpc e amountIn then e.boolParam "underlying"
    else !e.boolParam "underlying"

variable {rpc : Rpc} {cfg : ChainConfig} {cache : QuoteCache} {e : Edge}
  {amountIn slippageBps : Int} {quote : EdgeQuote} {leg : RouteLeg} {data : String}
  {stored : PyDict} {model : SlippageModel} {opp : Opportunity} {n : Nat}

theorem usedUnderlying_quoteEdge (hdex : e.dex = .curve)
    (h : (quoteEdge rpc cfg cache e amountIn).1 = some quote) :
    usedUnderlying quote.quote = pickedUnderlying rpc cache e amountIn := by
  rw [quoteEdge] at h
  cases hhit : cache.hit e amountIn with
  | some cached =>
    simp only [hhit, Option.some.injEq] at h
    simp only [pickedUnderlying, hhit, h]
  | none =>
    simp only [hhit] at h
    obtain ⟨i, j, underlying, data, hi, hj, -, -, hflag, hdata, hanswer, hother⟩ :=
      fresh_curve hdex h
    have hused : usedUnderlying quote.quote = underlying := by
      rw [usedUnderlying, Dict.getD, hflag]
      rfl
    simp only [pickedUnderlying, hhit, hused, preferredAnswers, hi, hj, Option.bind_eq_bind,
      Option.bind_some]
    by_cases hprefer : underlying = e.boolParam "underlying"
    · rw [← hprefer, hdata, Option.bind_some,
        show parseCurve (rpc.ethCall e.venue data) = some quote.amountOut from hanswer]
      rfl
    · have hanswers : ((curveCalldata i j amountIn (e.boolParam "underlying")).bind fun data =>
          parseCurve (rpc.ethCall e.venue data)) = none := by
        rw [Option.bind_eq_none_iff]
        exact hother hprefer
      rw [hanswers]
      revert hprefer
      cases underlying <;> cases e.boolParam "underlying" <;> decide

/-! ## Legs of an opportunity -/

/-- A leg that one of the builders has made of a quoted edge, whatever its amounts are now. -/
def LegOf (cfg : ChainConfig) (leg : RouteLeg) (stored : PyDict) : Prop :=
  ∃ (e : Edge) (quotedAt : Int) (q : EdgeQuote) (amountIn minOut : Int) (data : String),
    QuoteOf cfg e quotedAt q ∧ InRange e ∧ stored = e.params
      ∧ (routeAuxForEdge e q.quote = some data ∨ auxFor e q.quote = some data)
      ∧ leg.dex = e.dex.name ∧ leg.venue = e.venue ∧ leg.tokenIn = e.tokenIn
      ∧ leg.tokenOut = e.tokenOut ∧ leg.data = (e.leg amountIn minOut data).data

theorem legFunction_congr {leg' : RouteLeg} (hdex : leg.dex = leg'.dex)
    (hdata : leg.data = leg'.data) : legFunction leg = legFunction leg' := by
  rw [legFunction, legFunction, RouteLeg.aux, RouteLeg.aux, hdex, hdata]

theorem Dex.ofName?_name (dex : Dex) : Dex.ofName? dex.name = some dex := by
  cases dex <;> rfl

theorem decodeU256B32_word {n : Int} (h : leg.data = auxU256ToB32Hex n) :
    decodeU256B32 leg = (n % 2 ^ 256).toNat := by
  have haux : leg.aux = with0x (toHex (beBytes 32 (n % 2 ^ 256).toNat)) := by
    have hne : leg.data ≠ "" := by
      intro hempty
      have hlist := congrArg String.toList (h.symm.trans hempty)
      rw [auxU256ToB32Hex, String.toList_ofList] at hlist
      cases hlist
    rw [RouteLeg.aux, if_neg hne, h, auxU256ToB32Hex, String.toList_ofList]
  have hlen : (toHex (beBytes 32 (n % 2 ^ 256).toNat)).length = 64 := by simp
  rw [decodeU256B32, haux, strip0x_with0x, Option.getD_some, pyRjust, hlen, Nat.sub_self,
    List.replicate_zero, List.nil_append, fromHex_toHex]
  exact beNat_beBytes_of_lt (by omega)

/-- An edge without parameters is read back from the data with those it was quoted with. -/
theorem requoteParams_empty {quotedAt : Int} {q : EdgeQuote} (hquote : QuoteOf cfg e quotedAt q)
    (hrange : InRange e)
    (hdata : routeAuxForEdge e q.quote = some data ∨ auxFor e q.quote = some data)
    (hdex : leg.dex = e.dex.name) (hleg : leg.data = data) (hempty : e.params.entries = []) :
    requoteParams leg e.params = e.params
      ∨ (e.dex = .univ3 ∧ e.intParam "fee" 3000 = some 3000
          ∧ requoteParams leg e.params = PyDict.literal [("fee", .int 3000)])
      ∨ (e.dex = .slipstream ∧ e.intParam "tick_spacing" 0 = some 0
          ∧ requoteParams leg e.params = PyDict.literal [("tick_spacing", .int 0)]) := by
  have hget : ∀ key, e.params.get? key = none := by
    intro key
    rw [Dict.get?, hempty]
    rfl
  have hnot : ¬ e.params.entries ≠ [] := not_not.2 hempty
  cases hd : e.dex with
  | univ3 =>
    have hfee : e.intParam "fee" 3000 = some 3000 := by
      rw [Edge.intParam, Dict.getD, hget]
      rfl
    obtain ⟨rpc, hfresh⟩ := hquote.fresh (by rw [hd]; decide) (by rw [hd]; decide)
    obtain ⟨fee, call, hfee', hmeta, -⟩ := fresh_univ3 hd hfresh
    rw [hfee] at hfee'
    cases hfee'
    have hword : data = auxU256ToB32Hex 3000 := by
      have hfeeOf : feeOf e q.quote = some 3000 := by
        rw [feeOf, Dict.getD, hmeta]
        rfl
      rcases hdata with h | h
      · rw [routeAuxForEdge, hd] at h
        simp only [hfeeOf, Option.map_some, auxUniv3Fee] at h
        exact (Option.some.inj h).symm
      · rw [auxFor, hd] at h
        simp only [hfeeOf, Option.map_some, auxUniv3Fee] at h
        exact (Option.some.inj h).symm
    refine Or.inr (Or.inl ⟨rfl, hfee, ?_⟩)
    rw [requoteParams, if_neg hnot, hdex, hd, decodeU256B32_word (hleg.trans hword)]
    rfl
  | slipstream =>
    have hspacing : e.intParam "tick_spacing" 0 = some 0 := by
      rw [Edge.intParam, Dict.getD, hget]
      rfl
    obtain ⟨rpc, hfresh⟩ := hquote.fresh (by rw [hd]; decide) (by rw [hd]; decide)
    obtain ⟨spacing, call, hspacing', hmeta, -⟩ := fresh_slipstream hd hfresh
    rw [hspacing] at hspacing'
    cases hspacing'
    have hword : data = auxU256ToB32Hex 0 := by
      have hquoted : quotedTickSpacing e q.quote = some 0 := by
        rw [quotedTickSpacing, Dict.getD, hmeta]
        rfl
      rcases hdata with h | h
      · rw [routeAuxForEdge, hd] at h
        simp only [show (e.params.getD "tick_spacing" (.int 0)).int? = some 0 from hspacing,
          Option.map_some] at h
        exact (Option.some.inj h).symm
      · rw [auxFor, hd] at h
        simp only [hquoted, Option.map_some] at h
        exact (Option.some.inj h).symm
    refine Or.inr (Or.inr ⟨rfl, hspacing, ?_⟩)
    rw [requoteParams, if_neg hnot, hdex, hd, decodeU256B32_word (hleg.trans hword)]
    rfl
  | curve =>
    obtain ⟨rpc, hfresh⟩ := hquote.fresh (by rw [hd]; decide) (by rw [hd]; decide)
    obtain ⟨i, j, underlying, call, hi, -⟩ := fresh_curve hd hfresh
    rw [hget] at hi
    cases hi
  | balancer =>
    obtain ⟨rpc, hfresh⟩ := hquote.fresh (by rw [hd]; decide) (by rw [hd]; decide)
    obtain ⟨poolId, raw, call, hpool, -⟩ := fresh_balancer hd hfresh
    rw [hget] at hpool
    cases hpool
  | aerodrome =>
    rw [InRange, hd] at hrange
    obtain ⟨s, hs⟩ := hrange
    rw [hget] at hs
    cases hs
  | _ =>
    refine Or.inl ?_
    rw [requoteParams, if_neg hnot, hdex, hd]
    rfl

/-- The data of a leg name the function its edge is quoted with again, up to the function of the
pool that answers. -/
theorem LegOf.function (h : LegOf cfg leg stored) :
    ∃ f e, legFunction leg = some f ∧ requoteEdge leg stored = some e
      ∧ leg.dex = e.dex.name
      ∧ ∀ quote, quotedFunction e quote = some (f.withUnderlying (usedUnderlying quote)) := by
  obtain ⟨e, quotedAt, q, amountIn, minOut, data, hquote, hrange, rfl, hdata, hdex, hvenue, hin,
    hout, hleg⟩ := h
  obtain ⟨f, hf, hquoted⟩ : ∃ f, legFunction (e.leg amountIn minOut data) = some f
      ∧ quotedFunction e q.quote = some f := by
    rcases hdata with hdata | hdata
    · exact legFunction_route hquote hrange hdata
    · exact legFunction_aux hquote hrange hdata
  have hfunction : legFunction leg = some f := by rw [← hf]; exact legFunction_congr hdex hleg
  have hsame : ∀ quote, quotedFunction e quote = some (f.withUnderlying (usedUnderlying quote)) := by
    intro quote
    rw [quotedFunction_meta e q.quote, hquoted, Option.map_some]
  have hedge : requoteEdge leg e.params
      = some ⟨e.dex, e.venue, e.tokenIn, e.tokenOut, requoteParams leg e.params⟩ := by
    rw [requoteEdge, hdex, Dex.ofName?_name, hvenue, hin, hout]
    rfl
  refine ⟨f, _, hfunction, hedge, hdex, ?_⟩
  have hparams : requoteParams leg e.params = e.params
      ∨ (e.dex = .univ3 ∧ e.intParam "fee" 3000 = some 3000
          ∧ requoteParams leg e.params = PyDict.literal [("fee", .int 3000)])
      ∨ (e.dex = .slipstream ∧ e.intParam "tick_spacing" 0 = some 0
          ∧ requoteParams leg e.params = PyDict.literal [("tick_spacing", .int 0)]) := by
    by_cases hempty : e.params.entries = []
    · exact requoteParams_empty hquote hrange hdata hdex hleg hempty
    · exact Or.inl (if_pos hempty)
  intro quote
  rcases hparams with hparams | ⟨hd, hfee, hparams⟩ | ⟨hd, hspacing, hparams⟩
  · rw [hparams]
    exact hsame quote
  · rw [← hsame quote, hparams, quotedFunction, quotedFunction, hd, hfee]
    rfl
  · rw [← hsame quote, hparams, quotedFunction, quotedFunction, hd, hspacing]
    rfl

/-! ## Opportunities -/

/-- A quote a builder is given, of an edge whose parameters fit into the data. -/
structure Quoted (cfg : ChainConfig) (p : QuotedEdge) : Prop where
  inRange : InRange p.edge
  quoteOf : ∃ quotedAt, QuoteOf cfg p.edge quotedAt ⟨p.amountOut, p.quote⟩

/-- The opportunities of the scanners, and those they are requoted to. -/
inductive Reached (cfg : ChainConfig) : Opportunity → Prop where
  | two (ctx : ScanContext) (amountIn : Int) (first second : QuotedEdge) (opp : Opportunity)
      (hfirst : Quoted cfg first) (hsecond : Quoted cfg second)
      (h : twoLegOpportunity ctx amountIn first second = some (some opp)) : Reached cfg opp
  | three (ctx : ScanContext) (amountIn : Int) (first second third : QuotedEdge)
      (opp : Opportunity) (hfirst : Quoted cfg first) (hsecond : Quoted cfg second)
      (hthird : Quoted cfg third)
      (h : threeLegOpportunity ctx amountIn first second third = some (some opp)) :
      Reached cfg opp
  | requoted (opp : Opportunity) (hopp : Reached cfg opp) (rpc : Rpc) (model : SlippageModel)
      (cache : QuoteCache) (newAmountIn slippageBps : Int) (r : Requoted) (cache' : QuoteCache)
      (h : requoteOpportunity rpc cfg model cache opp newAmountIn slippageBps
        = (some r, cache')) : Reached cfg r.opportunity

theorem Quoted.legOf {p : QuotedEdge} (h : Quoted cfg p) (amountIn minOut : Int)
    (hdata : routeAuxForEdge p.edge p.quote = some data ∨ auxFor p.edge p.quote = some data) :
    LegOf cfg (p.edge.leg amountIn minOut data) p.edge.params := by
  obtain ⟨quotedAt, hquote⟩ := h.quoteOf
  exact ⟨p.edge, quotedAt, ⟨p.amountOut, p.quote⟩, amountIn, minOut, data, hquote, h.inRange, rfl,
    hdata, rfl, rfl, rfl, rfl, rfl⟩

theorem requoteSteps_length {edges : List (Option Edge)} {steps : List RequoteStep}
    (h : (requoteSteps rpc cfg model slippageBps cache amountIn edges).1 = some steps) :
    steps.length = edges.length := by
  induction edges generalizing cache amountIn steps with
  | nil =>
    cases h
    rfl
  | cons e edges ih =>
    cases e with
    | none => cases h
    | some e =>
      rw [requoteSteps] at h
      split at h
      · cases h
      · obtain ⟨rest, hrest, rfl⟩ := Option.map_eq_some_iff.1 h
        rw [List.length_cons, List.length_cons, ih hrest]

theorem length_requoteEdges (legs : List RouteLeg) (stored : List PyDict) :
    (requoteEdges legs stored).length = legs.length := by
  induction legs generalizing stored with
  | nil => rfl
  | cons leg legs ih => rw [requoteEdges, List.length_cons, List.length_cons, ih]

theorem requoteOpportunity_some {cache' : QuoteCache} {newAmountIn : Int} {r : Requoted}
    (h : requoteOpportunity rpc cfg model cache opp newAmountIn slippageBps = (some r, cache')) :
    ∃ steps, (requoteSteps rpc cfg model slippageBps cache newAmountIn
        (requoteEdges opp.legs opp.routeEdgeParams)).1 = some steps
      ∧ r = requoteWith opp newAmountIn steps := by
  unfold requoteOpportunity at h
  split at h
  · cases h
  · split at h
    · cases h
    · rename_i steps cache'' hsteps
      split at h
      · cases h
      · cases h
        exact ⟨steps, by rw [hsteps], rfl⟩

theorem LegOf.amounts (h : LegOf cfg leg stored) (amountIn minOut : String) :
    LegOf cfg { leg with amountIn := amountIn, minOut := minOut } stored := h

theorem forall₂_zipWith {α β γ : Type} {R : α → β → Prop} {f : α → γ → α} {l : List α} {m : List β}
    (h : List.Forall₂ R l m) (hf : ∀ a b c, R a b → R (f a c) b) :
    ∀ ws : List γ, ws.length = l.length → List.Forall₂ R (List.zipWith f l ws) m := by
  induction h with
  | nil => intro ws _; exact .nil
  | cons hab hrest ih =>
    rintro (_ | ⟨w, ws⟩) hlen
    · cases hlen
    · exact .cons (hf _ _ w hab) (ih ws (Nat.succ.inj hlen))

theorem Reached.legs (h : Reached cfg opp) :
    List.Forall₂ (LegOf cfg) opp.legs opp.routeEdgeParams := by
  induction h with
  | two ctx amountIn first second opp hfirst hsecond h =>
    obtain ⟨aux1, aux2, hbuilt⟩ := twoLegOpportunity_built h
    rw [hbuilt.legs, hbuilt.params]
    exact .cons (hfirst.legOf _ _ (Or.inl hbuilt.data1))
      (.cons (hsecond.legOf _ _ (Or.inl hbuilt.data2)) .nil)
  | three ctx amountIn first second third opp hfirst hsecond hthird h =>
    obtain ⟨aux1, aux2, aux3, hbuilt⟩ := threeLegOpportunity_built h
    rw [hbuilt.legs, hbuilt.params]
    exact .cons (hfirst.legOf _ _ (Or.inr hbuilt.data1))
      (.cons (hsecond.legOf _ _ (Or.inr hbuilt.data2))
        (.cons (hthird.legOf _ _ (Or.inr hbuilt.data3)) .nil))
  | requoted opp hopp rpc model cache newAmountIn slippageBps r cache' h ih =>
    obtain ⟨steps, hsteps, rfl⟩ := requoteOpportunity_some h
    have hlen := requoteSteps_length hsteps
    rw [length_requoteEdges] at hlen
    refine forall₂_zipWith ih (fun leg stored (w : String × String) hleg => hleg.amounts w.1 w.2) _ ?_
    simp [hlen]

theorem requoteEdges_getElem? (legs : List RouteLeg) (stored : List PyDict) (k : Nat) :
    (requoteEdges legs stored)[k]?
      = legs[k]?.map fun leg => requoteEdge leg (stored[k]?.getD Dict.empty) := by
  induction legs generalizing stored k with
  | nil => rfl
  | cons leg legs ih =>
    rw [requoteEdges]
    cases k with
    | zero => cases stored <;> rfl
    | succ k =>
      rw [List.getElem?_cons_succ, List.getElem?_cons_succ, ih]
      cases stored <;> rfl

theorem requoteSteps_quote {edges : List (Option Edge)} {steps : List RequoteStep}
    (h : (requoteSteps rpc cfg model slippageBps cache amountIn edges).1 = some steps) {k : Nat}
    {step : RequoteStep} (he : edges[k]? = some (some e)) (hstep : steps[k]? = some step) :
    (quoteEdge rpc cfg step.cache e step.amountIn).1 = some step.quote := by
  induction edges generalizing cache amountIn steps k with
  | nil => cases he
  | cons e' edges ih =>
    cases e' with
    | none => cases h
    | some e' =>
      rw [requoteSteps] at h
      split at h
      · cases h
      · rename_i first cache' hfirst
        obtain ⟨rest, hrest, rfl⟩ := Option.map_eq_some_iff.1 h
        cases k with
        | zero =>
          cases he
          cases hstep
          unfold requoteStep at hfirst
          split at hfirst
          · cases hfirst
          · rename_i quote cache'' hquote
            split at hfirst
            all_goals
              cases hfirst
              rw [hquote]
        | succ k => exact ih hrest he hstep

/-! ## Data and quotes -/

def Names (leg : RouteLeg) (e : Edge) (quote : Meta) : Prop :=
  ∃ f, legFunction leg = some f ∧ quotedFunction e quote = some f

/-- A leg that is requoted executes the new quote, unless it names the other function of a Curve
pool. -/
theorem names_iff (h : LegOf cfg leg stored) (he : requoteEdge leg stored = some e) (quote : Meta) :
    Names leg e quote
      ↔ ∀ i j underlying, legFunction leg = some (.curve i j underlying) →
          usedUnderlying quote = underlying := by
  obtain ⟨f, e', hf, hedge, hdex, hquoted⟩ := h.function
  rw [he] at hedge
  cases hedge
  have hnames : Names leg e quote ↔ f.withUnderlying (usedUnderlying quote) = f := by
    rw [Names, hf, hquoted quote]
    constructor
    · rintro ⟨g, hg, hg'⟩
      rw [Option.some.inj hg', Option.some.inj hg]
    · intro hsame
      exact ⟨f, rfl, by rw [hsame]⟩
  rw [hnames, hf]
  cases f with
  | curve i j underlying =>
    constructor
    · rintro hsame i' j' underlying' hcurve
      cases hcurve
      exact (PoolFunction.curve.inj hsame).2.2
    · intro hflag
      rw [PoolFunction.withUnderlying, hflag i j underlying rfl]
  | _ =>
    refine ⟨fun _ i j underlying hcurve => ?_, fun _ => rfl⟩
    cases hcurve

theorem dex_of_curve {i j : Int} {underlying : Bool} (hdex : leg.dex = e.dex.name)
    (h : legFunction leg = some (.curve i j underlying)) : e.dex = .curve := by
  rw [legFunction, hdex, dexId_name, Option.bind_eq_bind, Option.bind_some] at h
  obtain ⟨aux, -, h⟩ := Option.bind_eq_some_iff.1 h
  cases hd : e.dex with
  | curve => rfl
  | _ =>
    rw [hd] at h
    cases h

/-- **Leg data bind the executed function to the quoted one**: in every opportunity of the two
builders; in a requoted opportunity exactly when every Curve leg names the function of its pool
that answers the requote. The function a quote is taken with is the one whose call the node
answers. -/
theorem data_binds_iff (cfg : ChainConfig) :
    (∀ rpc e amountIn q, InRange e → quoteEdgeFresh rpc cfg e amountIn = some q →
      ∃ f data, quotedFunction e q.quote = some f ∧ askedData e amountIn f = some data
        ∧ answerAmount e.dex amountIn (rpc.ethCall (callTarget cfg e) data) = some q.amountOut)
    ∧ (∀ ctx amountIn first second opp, Quoted cfg first → Quoted cfg second →
      twoLegOpportunity ctx amountIn first second = some (some opp) →
      List.Forall₂ (fun leg p => Names leg p.edge p.quote) opp.legs [first, second])
    ∧ (∀ ctx amountIn first second third opp, Quoted cfg first → Quoted cfg second →
      Quoted cfg third → threeLegOpportunity ctx amountIn first second third = some (some opp) →
      List.Forall₂ (fun leg p => Names leg p.edge p.quote) opp.legs [first, second, third])
    ∧ ∀ opp, Reached cfg opp → ∀ rpc model cache newAmountIn slippageBps r cache',
      requoteOpportunity rpc cfg model cache opp newAmountIn slippageBps = (some r, cache') →
      ∃ steps, (requoteSteps rpc cfg model slippageBps cache newAmountIn
          (requoteEdges opp.legs opp.routeEdgeParams)).1 = some steps
        ∧ ((∀ (k : Nat) (leg : RouteLeg) (e : Edge) (quote : Meta),
              r.opportunity.legs[k]? = some leg →
              (requoteEdges opp.legs opp.routeEdgeParams)[k]? = some (some e) →
              r.opportunity.legQuotes[k]? = some quote → Names leg e quote)
          ↔ ∀ (k : Nat) (leg : RouteLeg) (e : Edge) (step : RequoteStep), opp.legs[k]? = some leg →
              (requoteEdges opp.legs opp.routeEdgeParams)[k]? = some (some e) →
              steps[k]? = some step → ∀ i j underlying,
              legFunction leg = some (.curve i j underlying) →
              pickedUnderlying rpc step.cache e step.amountIn = underlying) := by
  have hroute : ∀ p : QuotedEdge, Quoted cfg p → ∀ amountIn minOut data,
      routeAuxForEdge p.edge p.quote = some data →
      Names (p.edge.leg amountIn minOut data) p.edge p.quote := by
    intro p hp amountIn minOut data hdata
    obtain ⟨quotedAt, hquote⟩ := hp.quoteOf
    exact legFunction_route hquote hp.inRange hdata
  have haux : ∀ p : QuotedEdge, Quoted cfg p → ∀ amountIn minOut data,
      auxFor p.edge p.quote = some data →
      Names (p.edge.leg amountIn minOut data) p.edge p.quote := by
    intro p hp amountIn minOut data hdata
    obtain ⟨quotedAt, hquote⟩ := hp.quoteOf
    exact legFunction_aux hquote hp.inRange hdata
  refine ⟨fun rpc e amountIn q hrange h => quoted_call hrange h, ?_, ?_, ?_⟩
  · intro ctx amountIn first second opp hfirst hsecond h
    obtain ⟨aux1, aux2, hbuilt⟩ := twoLegOpportunity_built h
    rw [hbuilt.legs]
    exact .cons (hroute first hfirst _ _ _ hbuilt.data1)
      (.cons (hroute second hsecond _ _ _ hbuilt.data2) .nil)
  · intro ctx amountIn first second third opp hfirst hsecond hthird h
    obtain ⟨aux1, aux2, aux3, hbuilt⟩ := threeLegOpportunity_built h
    rw [hbuilt.legs]
    exact .cons (haux first hfirst _ _ _ hbuilt.data1)
      (.cons (haux second hsecond _ _ _ hbuilt.data2)
        (.cons (haux third hthird _ _ _ hbuilt.data3) .nil))
  · intro opp hopp rpc model cache newAmountIn slippageBps r cache' h
    obtain ⟨steps, hsteps, rfl⟩ := requoteOpportunity_some h
    refine ⟨steps, hsteps, ?_⟩
    have hlen : steps.length = opp.legs.length := by
      rw [requoteSteps_length hsteps, length_requoteEdges]
    -- the legs keep their data, the quotes are those of the steps
    have hlegs : ∀ (k : Nat) (leg : RouteLeg) (step : RequoteStep), opp.legs[k]? = some leg →
        steps[k]? = some step →
        ∃ leg', (requoteWith opp newAmountIn steps).opportunity.legs[k]? = some leg'
          ∧ leg'.dex = leg.dex ∧ leg'.data = leg.data := by
      intro k leg step hleg hstep
      have hk : k < steps.length := (List.getElem?_eq_some_iff.1 hstep).1
      simp only [requoteWith, List.getElem?_zipWith, hleg]
      obtain ⟨w, hw⟩ : ∃ w, (((newAmountIn :: steps.map fun step => step.quote.amountOut).map
          decimalText).zip (steps.map fun step => decimalText
            (applySlippage step.quote.amountOut step.appliedBps)))[k]? = some w := by
        refine ⟨_, List.getElem?_eq_getElem ?_⟩
        simp
        omega
      rw [hw]
      exact ⟨_, rfl, rfl, rfl⟩
    have hquotes : ∀ k : Nat, (requoteWith opp newAmountIn steps).opportunity.legQuotes[k]?
        = steps[k]?.map fun step => step.quote.quote := fun k => List.getElem?_map ..
    have hleg : ∀ (k : Nat) (leg : RouteLeg) (e : Edge), opp.legs[k]? = some leg →
        (requoteEdges opp.legs opp.routeEdgeParams)[k]? = some (some e) →
        ∃ stored, LegOf cfg leg stored ∧ requoteEdge leg stored = some e := by
      intro k leg e hleg he
      have hk : k < opp.legs.length := (List.getElem?_eq_some_iff.1 hleg).1
      have hk' : k < opp.routeEdgeParams.length := by rwa [← hopp.legs.length_eq]
      have hlegOf := hopp.legs.get hk hk'
      rw [List.get_eq_getElem, List.get_eq_getElem] at hlegOf
      rw [requoteEdges_getElem?, hleg, List.getElem?_eq_getElem hk'] at he
      rw [(List.getElem?_eq_some_iff.1 hleg).2] at hlegOf
      exact ⟨_, hlegOf, Option.some.inj he⟩
    constructor
    · intro hnames k leg e step hkleg he hstep i j underlying hcurve
      obtain ⟨leg', hleg', hdex', hdata'⟩ := hlegs k leg step hkleg hstep
      obtain ⟨stored, hlegOf, hedge⟩ := hleg k leg e hkleg he
      obtain ⟨-, e', -, hedge', hdex, -⟩ := hlegOf.function
      rw [hedge] at hedge'
      cases hedge'
      have hname := hnames k leg' e step.quote.quote hleg' he (by rw [hquotes, hstep]; rfl)
      rw [Names, legFunction_congr hdex' hdata'] at hname
      rw [← usedUnderlying_quoteEdge (dex_of_curve hdex hcurve)
        (requoteSteps_quote hsteps he hstep)]
      exact (names_iff hlegOf hedge _).1 hname i j underlying hcurve
    · intro hpicked k leg' e quote hleg' he hquote
      rw [hquotes] at hquote
      obtain ⟨step, hstep, rfl⟩ := Option.map_eq_some_iff.1 hquote
      have hk : k < opp.legs.length := by
        rw [← hlen]
        exact (List.getElem?_eq_some_iff.1 hstep).1
      have hkleg : opp.legs[k]? = some opp.legs[k] := List.getElem?_eq_getElem hk
      obtain ⟨leg'', hleg'', hdex', hdata'⟩ := hlegs k _ step hkleg hstep
      rw [hleg'] at hleg''
      cases hleg''
      obtain ⟨stored, hlegOf, hedge⟩ := hleg k _ e hkleg he
      obtain ⟨-, e', -, hedge', hdex, -⟩ := hlegOf.function
      rw [hedge] at hedge'
      cases hedge'
      have hname := (names_iff hlegOf hedge step.quote.quote).2 fun i j underlying hcurve => by
        rw [usedUnderlying_quoteEdge (dex_of_curve hdex hcurve)
          (requoteSteps_quote hsteps he hstep)]
        exact hpicked k _ e step hkleg he hstep i j underlying hcurve
      rwa [Names, ← legFunction_congr hdex' hdata'] at hname

/-! ## A pool that answers with its other function -/

/-- A Curve pool whose plain function is preferred. -/
def curveSample (venue tokenIn tokenOut : String) : Edge where
  dex := .curve
  venue := venue
  tokenIn := tokenIn
  tokenOut := tokenOut
  params := PyDict.literal [("i", .int 0), ("j", .int 1), ("underlying", .bool false)]

def curveQuote (out : Int) (underlying : Bool) : EdgeQuote :=
  ⟨out, PyDict.literal [("used_underlying", .bool underlying), ("i", .int 0), ("j", .int 1)]⟩

def refusing (call : CallParam) (out : Nat) : Rpc where
  answer c := if c = call then .failed none else answerOf [out]

theorem parseCurve_answerOf (h : n < 256 ^ 32) : parseCurve (answerOf [n]) = some (n : Int) := by
  have hwords : ∀ w ∈ [n], w < 256 ^ 32 := by simpa using h
  have h0 := wordAt_words hwords (show [n][0]? = some n from rfl)
  have hlen := length_words [n]
  simp only [List.length_cons, List.length_nil] at hlen
  rw [parseCurve, raw_answerOf, Option.bind_eq_bind, Option.bind_some, if_neg (by omega)]
  exact congrArg (fun w : Nat => some (w : Int)) h0

theorem curveSample_preferred (cfg : ChainConfig) (venue tokenIn tokenOut : String)
    (hn : n < 256 ^ 32) (h : (curveCalldata 0 1 amountIn false).isSome = true) :
    quoteEdgeFresh ⟨fun _ => answerOf [n]⟩ cfg (curveSample venue tokenIn tokenOut) amountIn
      = some (curveQuote n false) := by
  obtain ⟨data, hdata⟩ := Option.isSome_iff_exists.1 h
  have hcall : curveCall ⟨fun _ => answerOf [n]⟩ venue 0 1 amountIn false = some (some (n : Int)) := by
    rw [curveCall, hdata, Option.map_some, Rpc.ethCall, parseCurve_answerOf hn]
  have hquote : quoteCurve ⟨fun _ => answerOf [n]⟩ venue 0 1 amountIn false
      = some ⟨(n : Int), false⟩ := by
    rw [quoteCurve, hcall]
    rfl
  have hfresh : quoteEdgeFresh ⟨fun _ => answerOf [n]⟩ cfg (curveSample venue tokenIn tokenOut)
      amountIn = (quoteCurve ⟨fun _ => answerOf [n]⟩ venue 0 1 amountIn false).bind fun q =>
        some ⟨q.amountOut, PyDict.literal
          [("used_underlying", .bool q.usedUnderlying), ("i", .int 0), ("j", .int 1)]⟩ := rfl
  rw [hfresh, hquote]
  rfl

theorem curveSample_other (cfg : ChainConfig) (venue tokenIn tokenOut : String)
    (hdata : curveCalldata 0 1 amountIn false = some data) (hn : n < 256 ^ 32) :
    quoteEdgeFresh (refusing (.object venue data) n) cfg (curveSample venue tokenIn tokenOut)
      amountIn = some (curveQuote n true) := by
  have hsome : (curveCalldata 0 1 amountIn true).isSome = true := by
    rw [curveCalldata_isSome _ _ _ _ false, hdata]
    rfl
  obtain ⟨data', hdata'⟩ := Option.isSome_iff_exists.1 hsome
  have hne : data' ≠ data := by
    rintro rfl
    exact absurd (curveCalldata_flag hdata' hdata) (by decide)
  have hfirst : curveCall (refusing (.object venue data) n) venue 0 1 amountIn false
      = some none := by
    rw [curveCall, hdata, Option.map_some, Rpc.ethCall, refusing]
    simp only [if_true]
    rfl
  have hsecond : curveCall (refusing (.object venue data) n) venue 0 1 amountIn (!false)
      = some (some (n : Int)) := by
    have hother : ¬ CallParam.object venue data' = CallParam.object venue data :=
      fun h => hne (CallParam.object.inj h).2
    rw [curveCall, show (!false) = true from rfl, hdata', Option.map_some, Rpc.ethCall, refusing]
    simp only [if_neg hother]
    rw [parseCurve_answerOf hn]
  have hquote : quoteCurve (refusing (.object venue data) n) venue 0 1 amountIn false
      = some ⟨(n : Int), true⟩ := by
    rw [quoteCurve, hfirst, Option.bind_eq_bind, Option.bind_some]
    simp only [hsecond]
    rfl
  have hfresh : quoteEdgeFresh (refusing (.object venue data) n) cfg
      (curveSample venue tokenIn tokenOut) amountIn
      = (quoteCurve (refusing (.object venue data) n) venue 0 1 amountIn false).bind fun q =>
        some ⟨q.amountOut, PyDict.literal
          [("used_underlying", .bool q.usedUnderlying), ("i", .int 0), ("j", .int 1)]⟩ := rfl
  rw [hfresh, hquote]
  rfl

def curveVenue1 : String := "0x00000000000000000000000000000000000000aa"

def curveVenue2 : String := "0x00000000000000000000000000000000000000dd"

def curveToken1 : String := "0x00000000000000000000000000000000000000bb"

def curveToken2 : String := "0x00000000000000000000000000000000000000cc"

theorem curveSample_quoted (cfg : ChainConfig) (venue tokenIn tokenOut : String) {quotedAt : Int}
    (hdata : (curveCalldata 0 1 quotedAt false).isSome = true) (hn : n < 256 ^ 32) :
    Quoted cfg ⟨curveSample venue tokenIn tokenOut, n, (curveQuote n true).quote⟩ := by
  obtain ⟨data, hdata⟩ := Option.isSome_iff_exists.1 hdata
  refine ⟨?_, quotedAt, .single _ (curveSample_other cfg venue tokenIn tokenOut hdata hn)⟩
  intro i j hi hj
  cases hi
  cases hj
  omega

theorem requoteStep_static (hstatic : model.dynamic = false) {cache' : QuoteCache}
    (h : quoteEdge rpc cfg cache e amountIn = (some quote, cache')) :
    requoteStep rpc cfg model slippageBps cache e amountIn
      = (some ⟨cache, amountIn, quote, 0, slippageBps⟩, cache') := by
  rw [requoteStep, h]
  simp [hstatic]

theorem quoteEdge_fresh (hhit : cache.hit e amountIn = none)
    (h : quoteEdgeFresh rpc cfg e amountIn = some quote) :
    quoteEdge rpc cfg cache e amountIn
      = (some quote, cache.set (edgeQuoteCacheKey e amountIn) (some quote)) := by
  simp only [quoteEdge, hhit, h]

/-- A node that answers everywhere with 1000 requotes the cycle. -/
theorem curveCycle_requoted (cfg : ChainConfig) (hstatic : model.dynamic = false)
    {aux1 aux2 : String}
    (hbuilt : BuiltTwo sampleContext 100
      ⟨curveSample curveVenue1 curveToken1 curveToken2, 200, (curveQuote 200 true).quote⟩
      ⟨curveSample curveVenue2 curveToken2 curveToken1, 300, (curveQuote 300 true).quote⟩
      opp aux1 aux2) :
    ∃ r cache' leg, requoteOpportunity ⟨fun _ => answerOf [1000]⟩ cfg model Dict.empty opp 150 50
        = (some r, cache')
      ∧ r.opportunity.legs[0]? = some leg ∧ leg.dex = "curve" ∧ leg.data = aux1
      ∧ (requoteEdges opp.legs opp.routeEdgeParams)[0]?
          = some (some (curveSample curveVenue1 curveToken1 curveToken2))
      ∧ r.opportunity.legQuotes[0]? = some (curveQuote 1000 false).quote := by
  have hedges : requoteEdges opp.legs opp.routeEdgeParams
      = [some (curveSample curveVenue1 curveToken1 curveToken2),
        some (curveSample curveVenue2 curveToken2 curveToken1)] := by
    rw [hbuilt.legs, hbuilt.params]
    rfl
  have hlegs : opp.legs ≠ [] := by
    rw [hbuilt.legs]
    exact List.cons_ne_nil _ _
  -- the first quote is taken, the second is taken or is the first
  have hfirst : ∃ cache1, quoteEdge ⟨fun _ => answerOf [1000]⟩ cfg Dict.empty
      (curveSample curveVenue1 curveToken1 curveToken2) 150
        = (some (curveQuote 1000 false), cache1)
      ∧ ∀ key quote, cache1.get? key = some (some quote) → quote = curveQuote 1000 false := by
    have hfresh : quoteEdgeFresh ⟨fun _ => answerOf [1000]⟩ cfg
        (curveSample curveVenue1 curveToken1 curveToken2) 150 = some (curveQuote 1000 false) :=
      curveSample_preferred cfg _ _ _ (show 1000 < 256 ^ 32 by norm_num) (by decide +kernel)
    refine ⟨_, quoteEdge_fresh rfl hfresh, ?_⟩
    intro key quote hkey
    rw [Dict.get?_set] at hkey
    split at hkey
    · exact (Option.some.inj (Option.some.inj hkey)).symm
    · cases hkey
  obtain ⟨cache1, hfirst, hcache⟩ := hfirst
  have hsecond : ∃ cache2, quoteEdge ⟨fun _ => answerOf [1000]⟩ cfg cache1
      (curveSample curveVenue2 curveToken2 curveToken1) 1000
        = (some (curveQuote 1000 false), cache2) := by
    have hfresh : quoteEdgeFresh ⟨fun _ => answerOf [1000]⟩ cfg
        (curveSample curveVenue2 curveToken2 curveToken1) 1000 = some (curveQuote 1000 false) :=
      curveSample_preferred cfg _ _ _ (show 1000 < 256 ^ 32 by norm_num) (by decide +kernel)
    cases hhit : QuoteCache.hit cache1 (curveSample curveVenue2 curveToken2 curveToken1) 1000 with
    | none => exact ⟨_, quoteEdge_fresh hhit hfresh⟩
    | some quote =>
      refine ⟨cache1, ?_⟩
      rw [quoteEdge, hhit]
      rw [QuoteCache.hit, Option.join_eq_some_iff] at hhit
      rw [hcache _ _ hhit]
  obtain ⟨cache2, hsecond⟩ := hsecond
  let steps : List RequoteStep := [⟨Dict.empty, 150, curveQuote 1000 false, 0, 50⟩,
    ⟨cache1, 1000, curveQuote 1000 false, 0, 50⟩]
  have hsteps : requoteSteps ⟨fun _ => answerOf [1000]⟩ cfg model 50 Dict.empty 150
      (requoteEdges opp.legs opp.routeEdgeParams) = (some steps, cache2) := by
    rw [hedges, requoteSteps, requoteStep_static hstatic hfirst]
    simp only
    rw [requoteSteps, show (curveQuote 1000 false).amountOut = 1000 from rfl,
      requoteStep_static hstatic hsecond]
    rfl
  refine ⟨requoteWith opp 150 steps, cache2,
    (curveSample curveVenue1 curveToken1 curveToken2).leg 150 (applySlippage 1000 50) aux1,
    ?_, ?_, rfl, rfl, by rw [hedges]; rfl, rfl⟩
  · rw [requoteOpportunity, if_neg (not_or.2 ⟨by decide, hlegs⟩), hsteps]
    rfl
  · rw [requoteWith, hbuilt.legs]
    rfl

theorem curveCycle_opportunity : ∃ opp, twoLegOpportunity sampleContext 100
    ⟨curveSample curveVenue1 curveToken1 curveToken2, 200, (curveQuote 200 true).quote⟩
    ⟨curveSample curveVenue2 curveToken2 curveToken1, 300, (curveQuote 300 true).quote⟩
      = some (some opp) := by
  have hsome : ((twoLegOpportunity sampleContext 100
    ⟨curveSample curveVenue1 curveToken1 curveToken2, 200, (curveQuote 200 true).quote⟩
    ⟨curveSample curveVenue2 curveToken2 curveToken1, 300, (curveQuote 300 true).quote⟩).bind
      id).isSome = true := by decide +kernel
  obtain ⟨opp, hopp⟩ := Option.isSome_iff_exists.1 hsome
  obtain ⟨_, hbuild, rfl⟩ := Option.bind_eq_some_iff.1 hopp
  exact ⟨opp, hbuild⟩

theorem requote_switches : ∃ opp, Reached (univ3Config []) opp
    ∧ ∃ rpc model cache newAmountIn slippageBps r cache' leg e quote,
      requoteOpportunity rpc (univ3Config []) model cache opp newAmountIn slippageBps
          = (some r, cache')
      ∧ r.opportunity.legs[0]? = some leg
      ∧ (requoteEdges opp.legs opp.routeEdgeParams)[0]? = some (some e)
      ∧ r.opportunity.legQuotes[0]? = some quote
      ∧ legFunction leg = some (.curve 0 1 true) ∧ quotedFunction e quote = some (.curve 0 1 false)
      ∧ ¬ Names leg e quote := by
  obtain ⟨opp, hopp⟩ := curveCycle_opportunity
  have hfirst : Quoted (univ3Config []) ⟨curveSample curveVenue1 curveToken1 curveToken2, 200,
      (curveQuote 200 true).quote⟩ :=
    curveSample_quoted _ _ _ _ (show (curveCalldata 0 1 100 false).isSome = true by
      decide +kernel) (show 200 < 256 ^ 32 by norm_num)
  have hsecond : Quoted (univ3Config []) ⟨curveSample curveVenue2 curveToken2 curveToken1, 300,
      (curveQuote 300 true).quote⟩ :=
    curveSample_quoted _ _ _ _ (show (curveCalldata 0 1 200 false).isSome = true by
      decide +kernel) (show 300 < 256 ^ 32 by norm_num)
  obtain ⟨aux1, aux2, hbuilt⟩ := twoLegOpportunity_built hopp
  let model : SlippageModel := ⟨false, 0, .finite 1, 0, 0⟩
  obtain ⟨r, cache', leg, hrequote, hleg, hdex, hdata, hedge, hquote⟩ :=
    curveCycle_requoted (univ3Config []) (rfl : model.dynamic = false) hbuilt
  obtain ⟨quotedAt, hquoteOf⟩ := hfirst.quoteOf
  obtain ⟨f, hf, hquoted⟩ : ∃ f, legFunction
      ((curveSample curveVenue1 curveToken1 curveToken2).leg 100 0 aux1) = some f
      ∧ quotedFunction (curveSample curveVenue1 curveToken1 curveToken2)
        (curveQuote 200 true).quote = some f :=
    legFunction_route hquoteOf hfirst.inRange hbuilt.data1
  have hcurve : f = .curve 0 1 true := (Option.some.inj hquoted).symm
  have hnamed : legFunction leg = some (.curve 0 1 true) := by
    rw [← hcurve, ← hf]
    exact legFunction_congr hdex hdata
  refine ⟨opp, .two sampleContext 100 _ _ opp hfirst hsecond hopp, _, model, _, 150, 50, r, cache',
    leg, _, _, hrequote, hleg, hedge, hquote, hnamed, rfl, ?_⟩
  rintro ⟨g, hg, hg'⟩
  rw [hnamed] at hg
  cases hg
  cases hg'

end SovereignCapital.Engine
