import SovereignCapital.Engine.Quoting

/-! # The batch of each family

What `quote_edges_batch` assigns to the edges of a family, for edges whose parameters have the
types the adapters read. A family that encodes all its requests before it sends one quotes all its
edges like `quote_edge` or none of them; Slipstream and Balancer quote each edge on its own.

* `networkWrites_covers` : the batch does not raise, and what it assigns `Settles` the edges.
-/

namespace SovereignCapital.Engine

open Bytes Abi Execute

/-! ## Lists of calls -/

variable {α β ρ : Type} {e : Edge} {amountIn : Int} {rpc : Rpc} {cfg : ChainConfig}
  {edges family missing : List Edge} {holds : Edge → Option EdgeQuote → Prop} {dex : Dex}

theorem mapM_eq_map {f : α → Option β} {g : α → β} {l : List α} (h : ∀ a ∈ l, f a = some (g a)) :
    l.mapM f = some (l.map g) := by
  induction l with
  | nil => rfl
  | cons a l ih =>
    have htail := ih fun b hb => h b (List.mem_cons_of_mem _ hb)
    rw [List.mapM_cons, h a List.mem_cons_self, htail]
    rfl

theorem mapM_eq_none {f : α → Option β} {l : List α} (h : ∃ a ∈ l, f a = none) :
    l.mapM f = none := by
  induction l with
  | nil =>
    obtain ⟨a, ha, -⟩ := h
    cases ha
  | cons a l ih =>
    rw [List.mapM_cons]
    cases hf : f a with
    | none => rfl
    | some b =>
      obtain ⟨c, hc, hnone⟩ := h
      have hmem : c ∈ l := by
        rcases List.mem_cons.1 hc with rfl | hmem
        · rw [hf] at hnone
          cases hnone
        · exact hmem
      rw [ih ⟨c, hmem, hnone⟩]
      rfl

theorem zipWith_map_self {γ : Type} (f : α → β → γ) (g : α → β) (l : List α) :
    List.zipWith f l (l.map g) = l.map fun a => f a (g a) := by
  induction l with
  | nil => rfl
  | cons a l ih => rw [List.map_cons, List.zipWith_cons_cons, ih, List.map_cons]

theorem zip_map_self (g : α → β) (l : List α) : l.zip (l.map g) = l.map fun a => (a, g a) := by
  rw [List.zip, zipWith_map_self]

theorem safeVenueQuoteBatch_some {n : Nat} {results : List (Option α)} (h : results.length = n) :
    safeVenueQuoteBatch n (some results) = results := by
  rw [safeVenueQuoteBatch, h, Nat.sub_self, List.replicate_zero, List.append_nil, ← h,
    List.take_length]

theorem scatter_calls (rpc : Rpc) (encode : ρ → Option CallParam) (parse : ρ → RpcResult → Option α)
    (reqs : List ρ) :
    scatter parse (reqs.zip (reqs.map encode))
        (rpc.ethCallBatch ((reqs.map encode).filterMap id))
      = reqs.map fun r => (encode r).bind fun call => parse r (rpc.answer call) := by
  induction reqs with
  | nil => rfl
  | cons r reqs ih =>
    cases hcall : encode r with
    | none =>
      simp only [List.map_cons, List.zip_cons_cons, hcall, List.filterMap_cons, id, scatter,
        Option.bind_none]
      exact congrArg (List.cons none) ih
    | some call =>
      simp only [Rpc.ethCallBatch] at ih ⊢
      simp only [List.map_cons, List.zip_cons_cons, hcall, List.filterMap_cons, id, scatter,
        Option.bind_some]
      exact congrArg (List.cons _) ih

theorem fillMissing_map (first second : ρ → Option CurveQuote) (reqs : List ρ) :
    fillMissing (reqs.map first) ((reqs.filter fun r => (first r).isNone).map second)
      = reqs.map fun r => (first r).or (second r) := by
  induction reqs with
  | nil => rfl
  | cons r reqs ih =>
    cases hfirst : first r with
    | none => simp [hfirst, fillMissing, ih]
    | some q => simp [hfirst, fillMissing, ih]

/-! ## Requests -/

/-- The data of the call an edge is quoted with; nothing where an encoder raises. -/
def requestData (e : Edge) (amountIn : Int) : Option String :=
  match e.dex with
  | .univ3 => (e.intParam "fee" 3000).bind fun fee =>
    univ3Calldata e.tokenIn e.tokenOut fee amountIn
  | .curve => (e.intParam "i" 0).bind fun i => (e.intParam "j" 0).bind fun j =>
    curveCalldata i j amountIn (e.boolParam "underlying")
  | .balancer => balancerCalldata (e.textParam "pool_id") e.tokenIn e.tokenOut amountIn
  | .aerodrome => aerodromeCalldata e.tokenIn e.tokenOut (e.boolParam "stable")
      (e.textParam "factory") amountIn
  | .slipstream => (e.intParam "tick_spacing" 0).bind fun spacing =>
    slipstreamCalldata e.tokenIn e.tokenOut spacing amountIn
  | .camelotAlgebra => camelotAlgebraCalldata e.tokenIn e.tokenOut amountIn
  | .camelotV2 => amountsOutCalldata e.tokenIn e.tokenOut amountIn
  | .constantProduct => amountsOutCalldata e.tokenIn e.tokenOut amountIn

def Encodable (e : Edge) (amountIn : Int) : Prop := (requestData e amountIn).isSome = true

instance (e : Edge) (amountIn : Int) : Decidable (Encodable e amountIn) :=
  inferInstanceAs (Decidable (_ = _))

/-- The parameters `build_edges` gives an edge have the types the adapters read. -/
def Readable (e : Edge) : Prop :=
  match e.dex with
  | .univ3 => ∃ fee, e.params.get? "fee" = some (.int fee)
  | .curve => ∃ i j, e.params.get? "i" = some (.int i) ∧ e.params.get? "j" = some (.int j)
  | .balancer => ∃ poolId, e.params.get? "pool_id" = some (.text poolId)
  | .slipstream => ∃ spacing, e.params.get? "tick_spacing" = some (.int spacing)
  | .aerodrome | .camelotAlgebra | .camelotV2 | .constantProduct => True

theorem intParam_of_get? {key : String} {n : Int} (h : e.params.get? key = some (.int n))
    (default : Int) : e.intParam key default = some n := by
  rw [Edge.intParam, Dict.getD, h]
  rfl

theorem textParam_of_get? {key s : String} (h : e.params.get? key = some (.text s)) :
    e.textParam key = s := by
  rw [Edge.textParam, PyDict.get, Dict.getD, h]
  by_cases hs : s = ""
  · subst hs
    rfl
  · rw [Option.getD_some, PyValue.orElse_of_truthy _ (by simpa [PyValue.truthy] using hs)]
    rfl

/-! ## The batch of each family -/

abbrev AllEncodable (edges : List Edge) (amountIn : Int) : Prop :=
  ∀ e ∈ edges, Encodable e amountIn

/-- A batch of calls, each answered on its own: every slot is filled when all requests can be
encoded, none otherwise. -/
theorem safe_calls (rpc : Rpc) (edges : List Edge) (amountIn : Int) (req : Edge → ρ)
    (encode : ρ → Option CallParam) (send : Edge → String → CallParam)
    (parse : Edge → RpcResult → Option α) (gather : List RpcResult → List (Option α))
    (hencode : ∀ e ∈ edges, encode (req e) = (requestData e amountIn).map (send e))
    (hgather : ∀ f : Edge → RpcResult, gather (edges.map f) = edges.map fun e => parse e (f e)) :
    safeVenueQuoteBatch edges.length (do
        let calls ← (edges.map req).mapM encode
        return gather (rpc.ethCallBatch calls))
      = edges.map fun e => if AllEncodable edges amountIn then
          (requestData e amountIn).bind fun data => parse e (rpc.answer (send e data))
        else none := by
  by_cases hall : AllEncodable edges amountIn
  · simp only [if_pos hall]
    let data : Edge → String := fun e => (requestData e amountIn).getD ""
    have hdata : ∀ e ∈ edges, requestData e amountIn = some (data e) := by
      intro e he
      obtain ⟨d, hd⟩ := Option.isSome_iff_exists.1 (hall e he)
      simp only [data, hd, Option.getD_some]
    have hcalls : (edges.map req).mapM encode = some (edges.map fun e => send e (data e)) := by
      rw [List.mapM_map]
      exact mapM_eq_map fun e he => by rw [Function.comp_apply, hencode e he, hdata e he]; rfl
    rw [hcalls, Option.bind_eq_bind, Option.bind_some, Rpc.ethCallBatch, List.map_map, hgather,
      Option.pure_def, safeVenueQuoteBatch_some (List.length_map ..)]
    refine List.map_congr_left fun e he => ?_
    rw [hdata e he]
    rfl
  · simp only [if_neg hall]
    have hnone : ∃ e ∈ edges, (encode ∘ req) e = none := by
      by_contra hcon
      refine hall fun e he => ?_
      rw [Encodable, Option.isSome_iff_ne_none]
      intro hdata
      refine hcon ⟨e, he, ?_⟩
      rw [Function.comp_apply, hencode e he, hdata]
      rfl
    rw [List.mapM_map, mapM_eq_none hnone, Option.bind_eq_bind, Option.bind_none,
      safeVenueQuoteBatch, List.map_const']

theorem zip_quotes (edges : List Edge) {quotes : Edge → Option α}
    {value : Edge → Option α → Option EdgeQuote} {fresh : Edge → Option EdgeQuote}
    (hnone : ∀ e, value e none = none) (hfresh : ∀ e ∈ edges, value e (quotes e) = fresh e) :
    edges.zip (edges.map fun e =>
        value e (if AllEncodable edges amountIn then quotes e else none))
      = edges.map fun e => (e, if AllEncodable edges amountIn then fresh e else none) := by
  rw [zip_map_self]
  refine List.map_congr_left fun e he => ?_
  by_cases hall : AllEncodable edges amountIn
  · simp only [if_pos hall, hfresh e he]
  · simp only [if_neg hall, hnone]

theorem univ3Batch_eq (hdex : ∀ e ∈ edges, e.dex = .univ3) (hread : ∀ e ∈ edges, Readable e) :
    univ3Batch rpc cfg edges amountIn = some (edges.map fun e =>
      (e, if AllEncodable edges amountIn then quoteEdgeFresh rpc cfg e amountIn else none)) := by
  let fee : Edge → Int := fun e => (e.intParam "fee" 3000).getD 0
  have hfee : ∀ e ∈ edges, e.intParam "fee" 3000 = some (fee e) := by
    intro e he
    have hdict := hread e he
    rw [Readable, hdex e he] at hdict
    obtain ⟨n, hn⟩ := hdict
    simp only [fee, intParam_of_get? hn, Option.getD_some]
  have hdata : ∀ e ∈ edges, requestData e amountIn
      = univ3Calldata e.tokenIn e.tokenOut (fee e) amountIn := by
    intro e he
    simp only [requestData, hdex e he, hfee e he, Option.bind_some]
  have hquotes : safeVenueQuoteBatch edges.length
      (quoteExactInputSingleBatch rpc cfg.univ3QuoterV2
        (edges.map fun e => (e.tokenIn, e.tokenOut, fee e, amountIn)))
      = edges.map fun e => if AllEncodable edges amountIn then
          (requestData e amountIn).bind fun data =>
            UniV3Quote.parse (rpc.ethCall cfg.univ3QuoterV2 data)
        else none := by
    rw [quoteExactInputSingleBatch]
    exact safe_calls rpc edges amountIn _ _ (fun _ => CallParam.object cfg.univ3QuoterV2)
      (fun _ => UniV3Quote.parse) (List.map UniV3Quote.parse)
      (fun e he => by rw [hdata e he]) (fun f => List.map_map ..)
  rw [univ3Batch, mapM_eq_map hfee]
  simp only [Option.bind_eq_bind, Option.bind_some, zipWith_map_self]
  rw [hquotes, List.zipWith_map, List.zipWith_self]
  refine congrArg some (zip_quotes edges (fun _ => rfl) fun e he => ?_)
  rw [quoteEdgeFresh, hdex e he]
  simp only [hfee e he, hdata e he, quoteExactInputSingle, Option.bind_eq_bind, Option.bind_some,
    Option.pure_def, Option.map_eq_bind, Function.comp_def]

/-! ### Curve -/

/-- Whether a request can be encoded does not depend on the function that is asked. -/
theorem curveCalldata_isSome (i j dx : Int) (u v : Bool) :
    (curveCalldata i j dx u).isSome = (curveCalldata i j dx v).isSome := by
  simp only [curveCalldata, callData, Option.isSome_map]

theorem quoteCurve_eq (rpc : Rpc) (r : CurveRequest) {first second : CallParam}
    (hfirst : r.call r.preferUnderlying = some first)
    (hsecond : r.call (!r.preferUnderlying) = some second) :
    quoteCurve rpc r.pool r.i r.j r.dx r.preferUnderlying
      = (CurveRequest.quote r.preferUnderlying (parseCurve (rpc.answer first))).or
          (CurveRequest.quote (!r.preferUnderlying) (parseCurve (rpc.answer second))) := by
  have hcall : ∀ u p, r.call u = some p →
      curveCall rpc r.pool r.i r.j r.dx u = some (parseCurve (rpc.answer p)) := by
    intro u p hp
    obtain ⟨data, hdata, rfl⟩ := Option.map_eq_some_iff.1 hp
    rw [curveCall, hdata]
    rfl
  rw [quoteCurve, hcall _ _ hfirst, hcall _ _ hsecond]
  cases parseCurve (rpc.answer first) with
  | some out => rfl
  | none => cases parseCurve (rpc.answer second) <;> rfl

/-- The batch asks every function the single quote asks. -/
theorem quoteCurveMany_eq (rpc : Rpc) {reqs : List CurveRequest}
    (h : ∀ r ∈ reqs, (r.call r.preferUnderlying).isSome = true) :
    quoteCurveMany rpc reqs
      = some (reqs.map fun r => quoteCurve rpc r.pool r.i r.j r.dx r.preferUnderlying) := by
  let call : Bool → CurveRequest → CallParam := fun u r => (r.call u).getD (.bare "")
  have hcall : ∀ u, ∀ r ∈ reqs, r.call u = some (call u r) := by
    intro u r hr
    have hsome : (r.call u).isSome = true := by
      have hpreferred := h r hr
      rw [CurveRequest.call, Option.isSome_map] at hpreferred ⊢
      rw [curveCalldata_isSome _ _ _ _ r.preferUnderlying]
      exact hpreferred
    obtain ⟨p, hp⟩ := Option.isSome_iff_exists.1 hsome
    simp only [call, hp, Option.getD_some]
  let first : CurveRequest → Option CurveQuote := fun r =>
    CurveRequest.quote r.preferUnderlying (parseCurve (rpc.answer (call r.preferUnderlying r)))
  let second : CurveRequest → Option CurveQuote := fun r =>
    CurveRequest.quote (!r.preferUnderlying) (parseCurve (rpc.answer (call (!r.preferUnderlying) r)))
  have hfirst : reqs.mapM (fun r => r.call r.preferUnderlying)
      = some (reqs.map fun r => call r.preferUnderlying r) :=
    mapM_eq_map fun r hr => hcall _ r hr
  have hsecond : ((reqs.filter fun r => (first r).isNone).mapM fun r => r.call (!r.preferUnderlying))
      = some ((reqs.filter fun r => (first r).isNone).map fun r => call (!r.preferUnderlying) r) :=
    mapM_eq_map fun r hr => hcall _ r (List.mem_of_mem_filter hr)
  -- the requests without a first answer
  have hneed : (((reqs.zip (reqs.map first)).filter fun p => p.2.isNone).map Prod.fst)
      = reqs.filter fun r => (first r).isNone := by
    rw [zip_map_self, List.filter_map, List.map_map]
    exact List.map_id' _
  rw [quoteCurveMany, hfirst]
  simp only [Option.bind_eq_bind, Option.bind_some, Rpc.ethCallBatch, List.map_map,
    zipWith_map_self, Function.comp_apply]
  rw [hneed, hsecond]
  simp only [Option.bind_some, List.map_map, zipWith_map_self, Function.comp_apply, Option.pure_def]
  rw [fillMissing_map first second]
  refine congrArg some (List.map_congr_left fun r hr => ?_)
  exact (quoteCurve_eq rpc r (hcall _ r hr) (hcall _ r hr)).symm

/-- The request `quote_edges_batch` makes of a Curve edge. -/
def curveRequestOf (e : Edge) (amountIn : Int) : CurveRequest :=
  ⟨e.venue, (e.intParam "i" 0).getD 0, (e.intParam "j" 0).getD 0, amountIn,
    e.boolParam "underlying"⟩

theorem curveBatch_eq (hdex : ∀ e ∈ edges, e.dex = .curve) (hread : ∀ e ∈ edges, Readable e) :
    curveBatch rpc edges amountIn = some (edges.map fun e =>
      (e, if AllEncodable edges amountIn then quoteEdgeFresh rpc cfg e amountIn else none)) := by
  have hdict : ∀ e ∈ edges, ∃ i j, e.params.get? "i" = some (.int i)
      ∧ e.params.get? "j" = some (.int j) := by
    intro e he
    have hdict := hread e he
    rwa [Readable, hdex e he] at hdict
  have hreqs : (edges.mapM fun e => do
      return CurveRequest.mk e.venue (← e.intParam "i" 0) (← e.intParam "j" 0) amountIn
        (e.boolParam "underlying")) = some (edges.map fun e => curveRequestOf e amountIn) := by
    refine mapM_eq_map fun e he => ?_
    obtain ⟨i, j, hi, hj⟩ := hdict e he
    simp only [curveRequestOf, intParam_of_get? hi, intParam_of_get? hj, Option.bind_eq_bind,
      Option.bind_some, Option.pure_def, Option.getD_some]
  have hcall : ∀ e ∈ edges, (curveRequestOf e amountIn).call (e.boolParam "underlying")
      = (requestData e amountIn).map (CallParam.object e.venue) := by
    intro e he
    obtain ⟨i, j, hi, hj⟩ := hdict e he
    simp only [CurveRequest.call, curveRequestOf, requestData, hdex e he, intParam_of_get? hi,
      intParam_of_get? hj, Option.bind_some, Option.getD_some]
  have hquotes : safeVenueQuoteBatch edges.length
      (quoteCurveMany rpc (edges.map fun e => curveRequestOf e amountIn))
      = edges.map fun e => if AllEncodable edges amountIn then
          quoteCurve rpc e.venue (curveRequestOf e amountIn).i (curveRequestOf e amountIn).j amountIn
            (e.boolParam "underlying")
        else none := by
    by_cases hall : AllEncodable edges amountIn
    · simp only [if_pos hall]
      rw [quoteCurveMany_eq rpc, List.map_map, safeVenueQuoteBatch_some (List.length_map ..)]
      · rfl
      · intro r hr
        obtain ⟨e, he, rfl⟩ := List.mem_map.1 hr
        have hsome := hall e he
        rw [Encodable, ← Option.isSome_map (f := CallParam.object e.venue), ← hcall e he] at hsome
        exact hsome
    · simp only [if_neg hall]
      obtain ⟨e, he, hbad⟩ : ∃ e ∈ edges, ¬ Encodable e amountIn := by
        by_contra hcon
        exact hall fun e he => by_contra fun h => hcon ⟨e, he, h⟩
      have hnone : (curveRequestOf e amountIn).call (curveRequestOf e amountIn).preferUnderlying
          = none := by
        have hdata : requestData e amountIn = none := by
          simpa only [Encodable, Option.isSome_iff_ne_none, ne_eq, not_not] using hbad
        rw [show (curveRequestOf e amountIn).preferUnderlying = e.boolParam "underlying" from rfl,
          hcall e he, hdata]
        rfl
      rw [quoteCurveMany, mapM_eq_none ⟨_, List.mem_map_of_mem he, hnone⟩, Option.bind_eq_bind,
        Option.bind_none, safeVenueQuoteBatch, List.map_const']
  rw [curveBatch, hreqs]
  simp only [Option.bind_eq_bind, Option.bind_some]
  rw [hquotes, List.zipWith_map, List.zipWith_self]
  refine congrArg some (zip_quotes edges (fun _ => rfl) fun e he => ?_)
  obtain ⟨i, j, hi, hj⟩ := hdict e he
  rw [quoteEdgeFresh, hdex e he]
  simp only [curveRequestOf, hi, hj, intParam_of_get? hi, intParam_of_get? hj, PyValue.int?,
    Option.getD_some, Option.bind_eq_bind, Option.bind_some, Option.pure_def, Option.map_eq_bind,
    Function.comp_def]

/-! ### The other families -/

theorem aerodromeBatch_eq (hdex : ∀ e ∈ edges, e.dex = .aerodrome) :
    aerodromeBatch rpc cfg edges amountIn = edges.map fun e =>
      (e, if AllEncodable edges amountIn then quoteEdgeFresh rpc cfg e amountIn else none) := by
  let parse : Edge → RpcResult → Option AerodromeQuote := fun e result =>
    (parseAmountsOut 96 result).map fun out => ⟨out, e.boolParam "stable", e.textParam "factory"⟩
  have hquotes : safeVenueQuoteBatch edges.length
      (quoteAerodromeMany rpc cfg.aerodromeRouter (edges.map fun e =>
        (e.tokenIn, e.tokenOut, amountIn, e.boolParam "stable", e.textParam "factory")))
      = edges.map fun e => if AllEncodable edges amountIn then
          (requestData e amountIn).bind fun data =>
            parse e (rpc.ethCall cfg.aerodromeRouter data)
        else none := by
    rw [quoteAerodromeMany]
    refine safe_calls rpc edges amountIn _ _ (fun _ => CallParam.object cfg.aerodromeRouter)
      parse (List.zipWith _ _) (fun e he => ?_) fun f => ?_
    · rw [requestData, hdex e he]
    · rw [List.zipWith_map, List.zipWith_self]
  rw [aerodromeBatch, hquotes, List.map_map]
  refine zip_quotes edges (fun _ => rfl) fun e he => ?_
  rw [quoteEdgeFresh, requestData, hdex e he]
  simp only [parse, quoteAerodrome, Option.bind_eq_bind, Option.pure_def, Option.map_eq_bind,
    Function.comp_def, Option.bind_assoc, Option.bind_some]

theorem quoteRouterMany_eq (size : Nat) (rpc : Rpc) (router : String)
    (hdex : ∀ e ∈ edges, e.dex = .camelotV2 ∨ e.dex = .constantProduct) :
    safeVenueQuoteBatch edges.length
      (quoteRouterMany size rpc router (edges.map fun e => (e.tokenIn, e.tokenOut, amountIn)))
      = edges.map fun e => if AllEncodable edges amountIn then
          quoteRouter size rpc router e.tokenIn e.tokenOut amountIn
        else none := by
  have hdata : ∀ e ∈ edges, requestData e amountIn
      = amountsOutCalldata e.tokenIn e.tokenOut amountIn := by
    intro e he
    rcases hdex e he with h | h <;> rw [requestData, h]
  rw [quoteRouterMany, safe_calls rpc edges amountIn _ _ (fun _ => CallParam.object router)
    (fun _ => parseAmountsOut size) (List.map (parseAmountsOut size))
    (fun e he => by rw [hdata e he]) fun f => List.map_map ..]
  refine List.map_congr_left fun e he => ?_
  rw [hdata e he]
  rfl

theorem camelotV2Batch_eq (hdex : ∀ e ∈ edges, e.dex = .camelotV2) :
    camelotV2Batch rpc cfg edges amountIn = edges.map fun e =>
      (e, if AllEncodable edges amountIn then quoteEdgeFresh rpc cfg e amountIn else none) := by
  rw [camelotV2Batch, quoteCamelotV2Many,
    quoteRouterMany_eq 96 rpc cfg.camelotV2Router fun e he => Or.inl (hdex e he),
    List.zipWith_map_right, List.zipWith_self]
  refine zip_quotes edges (fun _ => rfl) fun e he => ?_
  rw [quoteEdgeFresh, hdex e he]
  simp only [quoteCamelotV2, routerMeta, Option.bind_eq_bind, Option.pure_def, Option.map_eq_bind,
    Function.comp_def]

theorem slipstreamBatch_eq (hdex : ∀ e ∈ edges, e.dex = .slipstream)
    (hread : ∀ e ∈ edges, Readable e) :
    slipstreamBatch rpc cfg edges amountIn
      = some (edges.map fun e => (e, quoteEdgeFresh rpc cfg e amountIn)) := by
  let spacing : Edge → Int := fun e => (e.intParam "tick_spacing" 0).getD 0
  have hspacing : ∀ e ∈ edges, e.intParam "tick_spacing" 0 = some (spacing e) := by
    intro e he
    have hdict := hread e he
    rw [Readable, hdex e he] at hdict
    obtain ⟨n, hn⟩ := hdict
    simp only [spacing, intParam_of_get? hn, Option.getD_some]
  rw [slipstreamBatch, mapM_eq_map hspacing]
  simp only [Option.bind_eq_bind, Option.bind_some, zipWith_map_self, quoteSlipstreamMany]
  rw [scatter_calls rpc (fun (r : String × String × Int × Int) =>
    (slipstreamCalldata r.1 r.2.1 r.2.2.1 r.2.2.2).map
      (CallParam.object cfg.slipstreamQuoterV2)), safeVenueQuoteBatch_some (by simp),
    List.map_map, zipWith_map_self, zip_map_self]
  refine congrArg some (List.map_congr_left fun e he => ?_)
  rw [quoteEdgeFresh, hdex e he]
  simp only [hspacing e he, quoteSlipstream, Function.comp_apply, Option.bind_eq_bind,
    Option.bind_some, Option.pure_def, Option.map_eq_bind, Option.bind_assoc, Rpc.ethCall]

theorem balancerBatch_eq (hdex : ∀ e ∈ edges, e.dex = .balancer) (hread : ∀ e ∈ edges, Readable e) :
    balancerBatch rpc cfg edges amountIn
      = edges.map fun e => (e, quoteEdgeFresh rpc cfg e amountIn) := by
  rw [balancerBatch]
  simp only [quoteBalancerGivenInMany]
  rw [scatter_calls rpc (fun (r : String × String × String × Int) =>
    (balancerCalldata r.1 r.2.1 r.2.2.1 r.2.2.2).map (CallParam.object cfg.balancerVault)),
    safeVenueQuoteBatch_some (by simp), List.map_map, zipWith_map_self, zip_map_self]
  refine List.map_congr_left fun e he => ?_
  have hdict := hread e he
  rw [Readable, hdex e he] at hdict
  obtain ⟨poolId, hpool⟩ := hdict
  rw [quoteEdgeFresh, hdex e he]
  simp only [hpool, textParam_of_get? hpool, textOf?, quoteBalancerGivenIn, Function.comp_apply,
    Option.bind_eq_bind, Option.bind_some, Option.pure_def, Option.map_eq_bind, Option.bind_assoc,
    Rpc.ethCall]

/-! ## All families -/

/-- The families whose batch checks each request on its own. -/
def Dex.isolated : Dex → Bool
  | slipstream | balancer => true
  | _ => false

def siblings (edges : List Edge) (e : Edge) : List Edge :=
  edges.filter fun e' => decide (e'.dex = e.dex)
    && (decide (e.dex ≠ .constantProduct) || e'.venue == e.venue)

def sentAmount (rpc : Rpc) (cfg : ChainConfig) (amountIn : Int) (e : Edge) : Option Int :=
  if e.dex = .camelotAlgebra then
    (requestData e amountIn).bind fun data =>
      (CamelotAlgebraQuote.parse (rpc.answer (.bare data))).map CamelotAlgebraQuote.amountOut
  else (quoteEdgeFresh rpc cfg e amountIn).map EdgeQuote.amountOut

def settledAmount (rpc : Rpc) (cfg : ChainConfig) (missing : List Edge) (amountIn : Int)
    (e : Edge) : Option Int :=
  if e.dex.isolated = true ∨ AllEncodable (siblings missing e) amountIn then
    sentAmount rpc cfg amountIn e
  else none

/-- What the batch records for an edge that is not in the cache: a quote of the settled amount,
and outside the constant-product and Camelot Algebra families the quote `quote_edge` takes. -/
structure Settles (rpc : Rpc) (cfg : ChainConfig) (missing : List Edge) (amountIn : Int) (e : Edge)
    (quote : Option EdgeQuote) : Prop where
  amount : quote.map EdgeQuote.amountOut = settledAmount rpc cfg missing amountIn e
  fresh : ∀ q, quote = some q → e.dex ≠ .constantProduct → e.dex ≠ .camelotAlgebra →
    quoteEdgeFresh rpc cfg e amountIn = some q

/-- The assignments of a family: one for each of its edges at least, each as it should be. -/
structure Covers (family : List Edge) (holds : Edge → Option EdgeQuote → Prop)
    (writes : List (Edge × Option EdgeQuote)) : Prop where
  sound : ∀ w ∈ writes, w.1 ∈ family ∧ holds w.1 w.2
  complete : ∀ e ∈ family, ∃ quote, (e, quote) ∈ writes

theorem covers_map {quote : Edge → Option EdgeQuote} (h : ∀ e ∈ family, holds e (quote e)) :
    Covers family holds (family.map fun e => (e, quote e)) where
  sound := by
    intro w hw
    obtain ⟨e, he, rfl⟩ := List.mem_map.1 hw
    exact ⟨he, h e he⟩
  complete := fun e he => ⟨quote e, List.mem_map_of_mem (f := fun e => (e, quote e)) he⟩

theorem Covers.append {family' : List Edge} {writes writes' : List (Edge × Option EdgeQuote)}
    (h : Covers family holds writes) (h' : Covers family' holds writes') :
    Covers (family ++ family') holds (writes ++ writes') where
  sound := by
    intro w hw
    rcases List.mem_append.1 hw with hw | hw
    · exact ⟨List.mem_append_left _ (h.sound w hw).1, (h.sound w hw).2⟩
    · exact ⟨List.mem_append_right _ (h'.sound w hw).1, (h'.sound w hw).2⟩
  complete := by
    intro e he
    rcases List.mem_append.1 he with he | he
    · obtain ⟨quote, hquote⟩ := h.complete e he
      exact ⟨quote, List.mem_append_left _ hquote⟩
    · obtain ⟨quote, hquote⟩ := h'.complete e he
      exact ⟨quote, List.mem_append_right _ hquote⟩

theorem familyBatch_covers {configured : Bool}
    {batch : List Edge → Option (List (Edge × Option EdgeQuote))}
    (hconf : family ≠ [] → configured = true)
    (h : ∃ writes, batch family = some writes ∧ Covers family holds writes) :
    ∃ writes, familyBatch configured family batch = some writes ∧ Covers family holds writes := by
  by_cases hempty : family = []
  · subst hempty
    refine ⟨[], if_neg (by simp), ?_⟩
    exact ⟨fun w hw => absurd hw List.not_mem_nil, fun e he => absurd he List.not_mem_nil⟩
  · rw [familyBatch, if_pos ⟨hconf hempty, hempty⟩]
    exact h

/-! ### Routers of constant-product pools -/

theorem byRouter_getD (edges : List Edge) (router : String) :
    (byRouter edges).getD router [] = edges.filter fun e => e.venue == router := by
  suffices h : ∀ groups : Dict String (List Edge),
      (edges.foldl (fun groups e => groups.set e.venue (groups.getD e.venue [] ++ [e]))
        groups).getD router [] = groups.getD router [] ++ edges.filter fun e => e.venue == router by
    rw [byRouter, h, Dict.getD, Dict.get?_empty]
    rfl
  induction edges with
  | nil =>
    intro groups
    rw [List.foldl_nil, List.filter_nil, List.append_nil]
  | cons e edges ih =>
    intro groups
    rw [List.foldl_cons, ih, Dict.getD_set]
    by_cases hrouter : router = e.venue
    · rw [if_pos hrouter, hrouter, List.filter_cons_of_pos (by simp), List.append_assoc,
        List.singleton_append]
    · rw [if_neg hrouter, List.filter_cons_of_neg (by simpa using Ne.symm hrouter)]

theorem constantProductGroup_eq (rpc : Rpc) (cfg : ChainConfig) (amountIn : Int) {router : String}
    (hdex : ∀ e ∈ edges, e.dex = .constantProduct) (hrouter : ∀ e ∈ edges, e.venue = router) :
    ∃ quote : Edge → Option EdgeQuote,
      constantProductGroup rpc router edges amountIn = edges.map (fun e => (e, quote e))
      ∧ ∀ e ∈ edges, (quote e).map EdgeQuote.amountOut
          = if AllEncodable edges amountIn then
              (quoteEdgeFresh rpc cfg e amountIn).map EdgeQuote.amountOut
            else none := by
  refine ⟨fun e => (if AllEncodable edges amountIn then
      quoteRouter 128 rpc router e.tokenIn e.tokenOut amountIn else none).map fun out =>
    EdgeQuote.mk out (PyDict.literal
      (routerMeta e ++ [("venue_name", .text (e.textParam "venue_name"))])), ?_, ?_⟩
  · rw [constantProductGroup, quoteConstantProductMany,
      quoteRouterMany_eq 128 rpc router fun e he => Or.inr (hdex e he), List.zipWith_map_right,
      List.zipWith_self, zip_map_self]
  · intro e he
    by_cases hall : AllEncodable edges amountIn
    · simp only [if_pos hall]
      rw [quoteEdgeFresh, hdex e he, hrouter e he]
      simp only [quoteConstantProduct, Option.bind_eq_bind, Option.pure_def, Option.map_eq_bind,
        Option.bind_assoc, Function.comp_def, Option.bind_some]
    · simp only [if_neg hall, Option.map_none]

theorem constantProductBatch_covers :
    Covers (missing.filter fun e => decide (e.dex = .constantProduct))
      (Settles rpc cfg missing amountIn)
      (constantProductBatch rpc (missing.filter fun e => decide (e.dex = .constantProduct))
        amountIn) := by
  generalize hfamily : (missing.filter fun e => decide (e.dex = .constantProduct)) = family
  have hdex : ∀ e ∈ family, e.dex = .constantProduct := by
    intro e he
    rw [← hfamily] at he
    simpa using (List.mem_filter.1 he).2
  -- the group of a router holds the siblings of each of its edges
  have hgroup : ∀ router grouped, (byRouter family).get? router = some grouped →
      grouped = family.filter fun e => e.venue == router := by
    intro router grouped h
    rw [← byRouter_getD, Dict.getD, h, Option.getD_some]
  have hcovers : ∀ router grouped, (byRouter family).get? router = some grouped →
      Covers grouped (Settles rpc cfg missing amountIn)
        (constantProductGroup rpc router grouped amountIn) := by
    intro router grouped hget
    have hgrouped := hgroup router grouped hget
    have hin : ∀ e ∈ grouped, e.dex = .constantProduct ∧ e.venue = router := by
      intro e he
      rw [hgrouped, List.mem_filter] at he
      exact ⟨hdex e he.1, by simpa using he.2⟩
    obtain ⟨quote, hmap, hamount⟩ := constantProductGroup_eq rpc cfg amountIn
      (fun e he => (hin e he).1) (fun e he => (hin e he).2)
    rw [hmap]
    refine covers_map fun e he => ?_
    have hsiblings : siblings missing e = grouped := by
      rw [hgrouped, ← hfamily, List.filter_filter, siblings, (hin e he).1, (hin e he).2]
      refine List.filter_congr fun e' _ => ?_
      rw [Bool.and_comm]
      simp
    refine ⟨?_, fun q _ hproduct _ => absurd (hin e he).1 hproduct⟩
    rw [hamount e he, settledAmount, hsiblings, sentAmount, (hin e he).1]
    simp [Dex.isolated]
  refine ⟨fun w hw => ?_, fun e he => ?_⟩
  · obtain ⟨⟨router, grouped⟩, hentry, hw⟩ := List.mem_flatMap.1 hw
    have hget := (Dict.mem_entries_iff _).1 hentry
    obtain ⟨hmem, hamount⟩ := (hcovers router grouped hget).sound w hw
    rw [hgroup router grouped hget] at hmem
    exact ⟨List.mem_of_mem_filter hmem, hamount⟩
  · have hmem : e ∈ (byRouter family).getD e.venue [] := by
      rw [byRouter_getD, List.mem_filter]
      exact ⟨he, beq_self_eq_true _⟩
    cases hget : (byRouter family).get? e.venue with
    | none =>
      rw [Dict.getD, hget] at hmem
      exact absurd hmem List.not_mem_nil
    | some grouped =>
      rw [Dict.getD, hget, Option.getD_some] at hmem
      obtain ⟨quote, hquote⟩ := (hcovers e.venue grouped hget).complete e hmem
      exact ⟨quote, List.mem_flatMap.2 ⟨(e.venue, grouped), (Dict.mem_entries_iff _).2 hget,
        hquote⟩⟩

/-! ### All assignments -/

theorem mem_family :
    e ∈ missing.filter (fun e => decide (e.dex = dex)) ↔ e ∈ missing ∧ e.dex = dex := by
  rw [List.mem_filter, decide_eq_true_eq]

theorem siblings_family (h : e.dex ≠ .constantProduct) :
    siblings missing e = missing.filter fun e' => decide (e'.dex = e.dex) := by
  rw [siblings, decide_eq_true h]
  simp

theorem encodedFamily_covers (hproduct : dex ≠ .constantProduct) (hcamelot : dex ≠ .camelotAlgebra)
    (hisolated : dex.isolated = false) :
    Covers (missing.filter fun e => decide (e.dex = dex))
      (Settles rpc cfg missing amountIn)
      ((missing.filter fun e => decide (e.dex = dex)).map fun e =>
        (e, if AllEncodable (missing.filter fun e => decide (e.dex = dex)) amountIn then
          quoteEdgeFresh rpc cfg e amountIn else none)) := by
  refine covers_map fun e he => ?_
  obtain ⟨-, rfl⟩ := mem_family.1 he
  refine ⟨?_, fun q hq _ _ => ?_⟩
  · rw [settledAmount, siblings_family hproduct, sentAmount, if_neg hcamelot, hisolated]
    by_cases hall : AllEncodable (missing.filter fun e' => decide (e'.dex = e.dex)) amountIn
    · rw [if_pos hall, if_pos (Or.inr hall)]
    · rw [if_neg hall, if_neg (by simpa using hall)]
      rfl
  · split at hq
    · exact hq
    · cases hq

theorem isolatedFamily_covers (hdex : ∀ e ∈ family, e.dex = dex) (hisolated : dex.isolated = true) :
    Covers family (Settles rpc cfg missing amountIn)
      (family.map fun e => (e, quoteEdgeFresh rpc cfg e amountIn)) := by
  refine covers_map fun e he => ?_
  have hcamelot : e.dex ≠ .camelotAlgebra := by
    rw [hdex e he]
    rintro rfl
    cases hisolated
  refine ⟨?_, fun q hq _ _ => hq⟩
  rw [settledAmount, hdex e he, if_pos (Or.inl hisolated), sentAmount, if_neg hcamelot]

theorem camelotAlgebraBatch_covers :
    Covers (missing.filter fun e => decide (e.dex = .camelotAlgebra))
      (Settles rpc cfg missing amountIn)
      (camelotAlgebraBatch rpc (missing.filter fun e => decide (e.dex = .camelotAlgebra))
        amountIn) := by
  generalize hfamily : (missing.filter fun e => decide (e.dex = .camelotAlgebra)) = family
  have hdex : ∀ e ∈ family, e.dex = .camelotAlgebra := by
    intro e he
    rw [← hfamily] at he
    exact (mem_family.1 he).2
  have hquotes : safeVenueQuoteBatch family.length
      (quoteCamelotAlgebraMany rpc (family.map fun e => (e.tokenIn, e.tokenOut, amountIn)))
      = family.map fun e => if AllEncodable family amountIn then
          (requestData e amountIn).bind fun data =>
            CamelotAlgebraQuote.parse (rpc.answer (.bare data))
        else none := by
    rw [quoteCamelotAlgebraMany]
    refine safe_calls rpc family amountIn _ _ (fun _ => CallParam.bare)
      (fun _ => CamelotAlgebraQuote.parse) (List.map CamelotAlgebraQuote.parse)
      (fun e he => ?_) fun f => List.map_map ..
    rw [requestData, hdex e he]
  rw [camelotAlgebraBatch, hquotes, List.zipWith_map_right, List.zipWith_self, zip_map_self]
  refine covers_map fun e he => ?_
  have hsiblings : siblings missing e = family := by
    rw [siblings_family (by rw [hdex e he]; decide), hdex e he, hfamily]
  refine ⟨?_, fun q _ _ hcamelot => absurd (hdex e he) hcamelot⟩
  rw [settledAmount, hsiblings, hdex e he, sentAmount, if_pos (hdex e he)]
  by_cases hall : AllEncodable family amountIn
  · rw [if_pos hall, if_pos (Or.inr hall)]
    simp only [Option.map_eq_bind, Option.bind_assoc, Function.comp_def, Option.bind_some]
  · rw [if_neg hall, if_neg (by simpa [Dex.isolated] using hall)]
    rfl

/-- The edges the batch assigns a quote after asking the node. -/
def asked (missing : List Edge) (amountIn : Int) : List Edge :=
  missing.filter fun e => decide (e.dex ≠ .balancer ∨ Encodable e amountIn)

/-- The batch of calls does not raise, and each of its assignments is of the settled amount. -/
theorem networkWrites_covers (rpc : Rpc) (amountIn : Int) (hread : ∀ e ∈ missing, Readable e)
    (havailable : ∀ e ∈ missing, adapterAvailable cfg e = true) :
    ∃ writes, networkWrites rpc cfg missing amountIn = some writes
      ∧ (∀ w ∈ writes, w.1 ∈ missing ∧ Settles rpc cfg missing amountIn w.1 w.2)
      ∧ ∀ e ∈ asked missing amountIn, ∃ quote, (e, quote) ∈ writes := by
  let family (dex : Dex) : List Edge := missing.filter fun e => decide (e.dex = dex)
  have hdex : ∀ dex, ∀ e ∈ family dex, e.dex = dex := fun dex e he => (mem_family.1 he).2
  have hfamilyRead : ∀ dex, ∀ e ∈ family dex, Readable e :=
    fun dex e he => hread e (mem_family.1 he).1
  -- a family with an edge is configured
  have hconf : ∀ dex (configured : Bool), (∀ e, e.dex = dex → adapterAvailable cfg e = configured) →
      family dex ≠ [] → configured = true := by
    intro dex configured hadapter hne
    obtain ⟨e, he⟩ := List.exists_mem_of_ne_nil _ hne
    rw [← hadapter e (hdex dex e he)]
    exact havailable e (mem_family.1 he).1
  obtain ⟨univ3, huniv3, hcov⟩ : ∃ writes,
      familyBatch (cfg.univ3QuoterV2 != "") (family .univ3)
        (fun edges => univ3Batch rpc cfg edges amountIn) = some writes
      ∧ Covers (family .univ3) (Settles rpc cfg missing amountIn) writes :=
    familyBatch_covers (hconf .univ3 _ fun e he => by rw [adapterAvailable, he])
      ⟨_, univ3Batch_eq (hdex .univ3) (hfamilyRead .univ3),
        encodedFamily_covers (by decide) (by decide) rfl⟩
  obtain ⟨curve, hcurve, hcovCurve⟩ : ∃ writes,
      familyBatch true (family .curve) (fun edges => curveBatch rpc edges amountIn) = some writes
      ∧ Covers (family .curve) (Settles rpc cfg missing amountIn) writes :=
    familyBatch_covers (fun _ => rfl)
      ⟨_, curveBatch_eq (hdex .curve) (hfamilyRead .curve),
        encodedFamily_covers (by decide) (by decide) rfl⟩
  obtain ⟨aerodrome, haerodrome, hcovAerodrome⟩ : ∃ writes,
      familyBatch (cfg.aerodromeRouter != "") (family .aerodrome)
        (fun edges => some (aerodromeBatch rpc cfg edges amountIn)) = some writes
      ∧ Covers (family .aerodrome) (Settles rpc cfg missing amountIn) writes :=
    familyBatch_covers (hconf .aerodrome _ fun e he => by rw [adapterAvailable, he])
      ⟨_, congrArg some (aerodromeBatch_eq (hdex .aerodrome)),
        encodedFamily_covers (by decide) (by decide) rfl⟩
  obtain ⟨slipstream, hslipstream, hcovSlipstream⟩ : ∃ writes,
      familyBatch (cfg.slipstreamQuoterV2 != "") (family .slipstream)
        (fun edges => slipstreamBatch rpc cfg edges amountIn) = some writes
      ∧ Covers (family .slipstream) (Settles rpc cfg missing amountIn) writes :=
    familyBatch_covers (hconf .slipstream _ fun e he => by rw [adapterAvailable, he])
      ⟨_, slipstreamBatch_eq (hdex .slipstream) (hfamilyRead .slipstream),
        isolatedFamily_covers (hdex .slipstream) rfl⟩
  obtain ⟨algebra, halgebra, hcovAlgebra⟩ : ∃ writes,
      familyBatch (cfg.camelotAlgebraQuoterV2 != "") (family .camelotAlgebra)
        (fun edges => some (camelotAlgebraBatch rpc edges amountIn)) = some writes
      ∧ Covers (family .camelotAlgebra) (Settles rpc cfg missing amountIn) writes :=
    familyBatch_covers (hconf .camelotAlgebra _ fun e he => by rw [adapterAvailable, he])
      ⟨_, rfl, camelotAlgebraBatch_covers⟩
  obtain ⟨camelotV2, hcamelotV2, hcovCamelotV2⟩ : ∃ writes,
      familyBatch (cfg.camelotV2Router != "") (family .camelotV2)
        (fun edges => some (camelotV2Batch rpc cfg edges amountIn)) = some writes
      ∧ Covers (family .camelotV2) (Settles rpc cfg missing amountIn) writes :=
    familyBatch_covers (hconf .camelotV2 _ fun e he => by rw [adapterAvailable, he])
      ⟨_, congrArg some (camelotV2Batch_eq (hdex .camelotV2)),
        encodedFamily_covers (by decide) (by decide) rfl⟩
  obtain ⟨product, hproduct, hcovProduct⟩ : ∃ writes,
      familyBatch true (family .constantProduct)
        (fun edges => some (constantProductBatch rpc edges amountIn)) = some writes
      ∧ Covers (family .constantProduct) (Settles rpc cfg missing amountIn) writes :=
    familyBatch_covers (fun _ => rfl) ⟨_, rfl, constantProductBatch_covers⟩
  let valid : List Edge := (family .balancer).filter fun e =>
    (balancerCalldata (e.textParam "pool_id") e.tokenIn e.tokenOut amountIn).isSome
  have hvalid : ∀ e, e ∈ valid → e ∈ family .balancer := fun e he => List.mem_of_mem_filter he
  obtain ⟨balancer, hbalancer, hcovBalancer⟩ : ∃ writes,
      familyBatch (cfg.balancerVault != "") valid
        (fun edges => some (balancerBatch rpc cfg edges amountIn)) = some writes
      ∧ Covers valid (Settles rpc cfg missing amountIn) writes := by
    refine familyBatch_covers (fun hne => ?_) ⟨_, congrArg some (balancerBatch_eq
      (fun e he => hdex _ e (hvalid e he)) fun e he => hfamilyRead _ e (hvalid e he)),
      isolatedFamily_covers (fun e he => hdex _ e (hvalid e he)) rfl⟩
    obtain ⟨e, he⟩ := List.exists_mem_of_ne_nil _ hne
    exact hconf .balancer _ (fun e he => by rw [adapterAvailable, he])
      (List.ne_nil_of_mem (hvalid e he))
  have hall := ((((((hcov.append hcovCurve).append hcovAerodrome).append hcovSlipstream).append
    hcovAlgebra).append hcovCamelotV2).append hcovProduct).append hcovBalancer
  refine ⟨_, ?_, fun w hw => ⟨?_, (hall.sound w hw).2⟩, fun e he => hall.complete e ?_⟩
  · simp only [networkWrites]
    rw [huniv3, hcurve, haerodrome, hslipstream, halgebra, hcamelotV2, hproduct, hbalancer]
    rfl
  · have hmem := (hall.sound w hw).1
    simp only [List.mem_append] at hmem
    rcases hmem with (((((((h | h) | h) | h) | h) | h) | h) | h)
    all_goals first
      | exact (mem_family.1 h).1
      | exact (mem_family.1 (hvalid _ h)).1
  · obtain ⟨hmem, hvalidity⟩ := List.mem_filter.1 he
    simp only [List.mem_append, family, mem_family, hmem, true_and]
    cases hd : e.dex with
    | balancer =>
      refine Or.inr (List.mem_filter.2 ⟨mem_family.2 ⟨hmem, hd⟩, ?_⟩)
      simpa only [Encodable, requestData, hd, decide_eq_true_eq, ne_eq, not_true_eq_false,
        false_or] using hvalidity
    | _ => simp

end SovereignCapital.Engine
