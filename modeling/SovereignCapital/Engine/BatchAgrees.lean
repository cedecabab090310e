import SovereignCapital.Engine.Families

/-! # The batch against the single quote

For edges of a configuration, the amount `quote_edges_batch` returns for an edge and the one
`quote_edge` returns for it alone.

* `batch_agrees_iff` : they agree under every behaviour of the node exactly when the edges that
  are not in the cache are `Separable`.
* `sibling_spoils` : a malformed edge takes the quote of another.
-/

namespace SovereignCapital.Engine

open Bytes Abi Execute

/-! ## Edges of a configuration -/

/-- What `build_edges` promises of an edge. -/
structure Suited (cfg : ChainConfig) (e : Edge) : Prop where
  readable : Readable e
  available : adapterAvailable cfg e = true

variable {edges : List Edge} {e e' : Edge} {cfg : ChainConfig} {i j amountIn : Int} {data : String}
  {call : CallParam} {cache : QuoteCache} {rpc : Rpc}

theorem mem_of_mem_dedupEdges {seen : List Edge} (h : e ∈ dedupEdges seen edges) : e ∈ edges := by
  induction edges generalizing seen with
  | nil => exact h
  | cons a edges ih =>
    rw [dedupEdges] at h
    split at h
    · exact List.mem_cons_of_mem _ (ih h)
    · rcases List.mem_cons.1 h with rfl | h
      · exact List.mem_cons_self
      · exact List.mem_cons_of_mem _ (ih h)

theorem literal_get?_poolEntry (row : PoolRow) (items : List (String × PyValue)) {key : String}
    (hkey : key ≠ "pool") :
    (PyDict.literal (items ++ poolEntry row)).get? key = (PyDict.literal items).get? key := by
  rw [poolEntry]
  split
  · rw [List.append_nil]
  · rw [PyDict.literal, PyDict.literal, List.foldl_append, List.foldl_cons, List.foldl_nil,
      Dict.get?_set_of_ne _ _ hkey]

/-- What an adapter of `generate_edges` writes on an edge besides the tokens: its name, the venue
and the parameters. -/
inductive Generated (cfg : ChainConfig) : Dex → String → PyDict → Prop
  | univ3 (row : PoolRow) : Generated cfg .univ3 (textOr cfg.univ3SwapRouter cfg.univ3QuoterV2)
      (PyDict.literal ([("fee", .int row.fee)] ++ poolEntry row))
  | curve (venue : String) (i j : Int) (underlying : Bool) : Generated cfg .curve venue
      (PyDict.literal [("i", .int i), ("j", .int j), ("underlying", .bool underlying)])
  | balancer (row : PoolRow) : Generated cfg .balancer cfg.balancerVault
      (PyDict.literal [("pool_id", .text row.poolId)])
  | aerodrome (row : PoolRow) (factory : String) : Generated cfg .aerodrome cfg.aerodromeRouter
      (PyDict.literal ([("stable", .bool row.stable), ("factory", .text factory)] ++ poolEntry row))
  | slipstream (row : PoolRow) :
      Generated cfg .slipstream (textOr cfg.slipstreamSwapRouter cfg.slipstreamQuoterV2)
        (PyDict.literal
          ([("tick_spacing", .int row.tickSpacing), ("factory", .text row.factory)]
            ++ poolEntry row))
  | camelotAlgebra (row : PoolRow) (factory : String) : Generated cfg .camelotAlgebra
      (textOr cfg.camelotAlgebraSwapRouter cfg.camelotAlgebraQuoterV2)
      (PyDict.literal
        ([("factory", .text factory), ("tick_spacing", .int row.tickSpacing)] ++ poolEntry row))
  | camelotV2 (row : PoolRow) (factory : String) : Generated cfg .camelotV2 cfg.camelotV2Router
      (PyDict.literal ([("factory", .text factory)] ++ poolEntry row))
  | constantProduct (row : PoolRow) (name : String) : Generated cfg .constantProduct row.router
      (PyDict.literal [("pool", .text row.pool), ("factory", .text row.factory),
        ("venue_name", .text name)])

theorem generated_of_mem (h : e ∈ cfg.generatedEdges) :
    Generated cfg e.dex e.venue e.params ∧ adapterAvailable cfg e = true := by
  have hwritten : ∀ {dex venue row params}, e ∈ bothWays dex venue row params →
      Generated cfg dex venue (PyDict.literal params) → adapterAvailable cfg
        ⟨dex, venue, "", "", PyDict.literal []⟩ = true →
      Generated cfg e.dex e.venue e.params ∧ adapterAvailable cfg e = true := by
    intro dex venue row params hmem hgenerated havailable
    simp only [bothWays, List.mem_cons, List.not_mem_nil, or_false] at hmem
    rcases hmem with rfl | rfl <;> exact ⟨hgenerated, havailable⟩
  simp only [ChainConfig.generatedEdges, List.mem_append, ChainConfig.univ3Edges,
    ChainConfig.curveEdges, ChainConfig.balancerEdges, ChainConfig.aerodromeEdges,
    ChainConfig.slipstreamEdges, ChainConfig.camelotAlgebraEdges, ChainConfig.camelotV2Edges,
    ChainConfig.constantProductEdges, List.mem_ite_nil_left, List.mem_ite_nil_right,
    List.mem_flatMap] at h
  rcases h with (((((((⟨hconf, row, -, h⟩ | ⟨-, row, -, h⟩) | ⟨hconf, row, -, h⟩)
    | ⟨hconf, row, -, -, h⟩) | ⟨hconf, row, -, -, h⟩) | ⟨hconf, row, -, -, h⟩)
    | ⟨hconf, row, -, -, h⟩) | ⟨row, -, hnames, -, h⟩)
  · exact hwritten h (.univ3 row) (bne_iff_ne.2 hconf)
  · simp only [List.mem_cons, List.not_mem_nil, or_false] at h
    rcases h with rfl | rfl <;> exact ⟨.curve .., rfl⟩
  · exact hwritten h (.balancer row) (Bool.and_eq_true_iff.1 hconf).2
  · exact hwritten h (.aerodrome row _) (bne_iff_ne.2 hconf)
  · exact hwritten h (.slipstream row) (bne_iff_ne.2 hconf)
  · exact hwritten h (.camelotAlgebra row _) (bne_iff_ne.2 hconf)
  · exact hwritten h (.camelotV2 row _) (bne_iff_ne.2 hconf)
  · exact hwritten h (.constantProduct row _)
      (bne_iff_ne.2 fun hrouter => hnames (Or.inr (Or.inl hrouter)))

theorem suited_of_generated (h : e ∈ cfg.generatedEdges) : Suited cfg e := by
  obtain ⟨hgenerated, havailable⟩ := generated_of_mem h
  refine ⟨?_, havailable⟩
  rcases e with ⟨dex, venue, tokenIn, tokenOut, params⟩
  cases hgenerated with
  | univ3 row => exact ⟨row.fee, literal_get?_poolEntry row [_] (by decide)⟩
  | curve _ i j _ => exact ⟨i, j, rfl, rfl⟩
  | balancer row => exact ⟨row.poolId, rfl⟩
  | slipstream row => exact ⟨row.tickSpacing, literal_get?_poolEntry row [_, _] (by decide)⟩
  | aerodrome | camelotAlgebra | camelotV2 | constantProduct => trivial

theorem suited_of_mem_buildEdges (h : e ∈ buildEdges cfg) : Suited cfg e :=
  suited_of_generated (List.mem_of_mem_filter (mem_of_mem_dedupEdges h))

/-! ## Requests and their answers -/

def callTarget (cfg : ChainConfig) (e : Edge) : String :=
  match e.dex with
  | .univ3 => cfg.univ3QuoterV2
  | .curve => e.venue
  | .balancer => cfg.balancerVault
  | .aerodrome => cfg.aerodromeRouter
  | .slipstream => cfg.slipstreamQuoterV2
  | .camelotAlgebra => cfg.camelotAlgebraQuoterV2
  | .camelotV2 => cfg.camelotV2Router
  | .constantProduct => e.venue

/-- The call an edge is quoted with; nothing where an encoder raises. -/
def request (cfg : ChainConfig) (amountIn : Int) (e : Edge) : Option CallParam :=
  (requestData e amountIn).map (CallParam.object (callTarget cfg e))

/-- The call to the other function of a Curve pool. -/
def otherRequest (amountIn : Int) (e : Edge) : Option CallParam :=
  if e.dex = .curve then
    (curveRequestOf e amountIn).call (!e.boolParam "underlying")
  else none

def answerAmount (dex : Dex) (amountIn : Int) (result : RpcResult) : Option Int :=
  match dex with
  | .univ3 => (UniV3Quote.parse result).map UniV3Quote.amountOut
  | .curve => parseCurve result
  | .balancer => decodeBalancerRpcResult amountIn result
  | .aerodrome | .camelotV2 => parseAmountsOut 96 result
  | .slipstream => (SlipstreamQuote.parse result 0).map SlipstreamQuote.amountOut
  | .camelotAlgebra => (CamelotAlgebraQuote.parse result).map CamelotAlgebraQuote.amountOut
  | .constantProduct => parseAmountsOut 128 result

theorem slipstream_amountOut (result : RpcResult) (tickSpacing : Int) :
    (SlipstreamQuote.parse result tickSpacing).map SlipstreamQuote.amountOut
      = (SlipstreamQuote.parse result 0).map SlipstreamQuote.amountOut := by
  simp only [SlipstreamQuote.parse]
  cases result.raw with
  | none => rfl
  | some raw =>
    simp only [Option.bind_eq_bind, Option.bind_some]
    split
    · rfl
    · split <;> rfl

theorem curveRequestOf_eq (hi : e.params.get? "i" = some (.int i))
    (hj : e.params.get? "j" = some (.int j)) (amountIn : Int) :
    curveRequestOf e amountIn = ⟨e.venue, i, j, amountIn, e.boolParam "underlying"⟩ := by
  rw [curveRequestOf, intParam_of_get? hi, intParam_of_get? hj, Option.getD_some, Option.getD_some]

theorem request_curve (hdex : e.dex = .curve) (hi : e.params.get? "i" = some (.int i))
    (hj : e.params.get? "j" = some (.int j)) :
    request cfg amountIn e
      = (curveCalldata i j amountIn (e.boolParam "underlying")).map (CallParam.object e.venue) := by
  simp only [request, requestData, callTarget, hdex, intParam_of_get? hi, intParam_of_get? hj,
    Option.bind_some]

theorem otherRequest_curve (hdex : e.dex = .curve) (hi : e.params.get? "i" = some (.int i))
    (hj : e.params.get? "j" = some (.int j)) :
    otherRequest amountIn e
      = (curveCalldata i j amountIn (!e.boolParam "underlying")).map
          (CallParam.object e.venue) := by
  rw [otherRequest, if_pos hdex, curveRequestOf_eq hi hj, CurveRequest.call]

/-- The amount of a quote is read from the answer to the request, for Curve from the answer of
the other function when the first has none. -/
theorem quoteEdgeFresh_amount (hread : Readable e) (rpc : Rpc) (amountIn : Int) :
    (quoteEdgeFresh rpc cfg e amountIn).map EdgeQuote.amountOut
      = (request cfg amountIn e).bind fun call =>
          (answerAmount e.dex amountIn (rpc.answer call)).or
            ((otherRequest amountIn e).bind fun other => parseCurve (rpc.answer other)) := by
  cases hdex : e.dex with
  | curve =>
    simp only [Readable, hdex] at hread
    obtain ⟨i, j, hi, hj⟩ := hread
    have hfresh : (quoteEdgeFresh rpc cfg e amountIn).map EdgeQuote.amountOut
        = (quoteCurve rpc e.venue i j amountIn (e.boolParam "underlying")).map
            CurveQuote.amountOut := by
      simp only [quoteEdgeFresh, hdex, hi, hj, PyValue.int?, Option.bind_eq_bind,
        Option.bind_some, Option.pure_def, Option.map_eq_bind, Option.bind_assoc,
        Function.comp_def]
    rw [hfresh, request_curve hdex hi hj, otherRequest_curve hdex hi hj]
    cases hdata : curveCalldata i j amountIn (e.boolParam "underlying") with
    | none =>
      rw [quoteCurve, curveCall, hdata]
      rfl
    | some data =>
      obtain ⟨data', hdata'⟩ : ∃ data', curveCalldata i j amountIn (!e.boolParam "underlying")
          = some data' := by
        rw [← Option.isSome_iff_exists, curveCalldata_isSome _ _ _ _ (e.boolParam "underlying"),
          hdata]
        rfl
      let req : CurveRequest := ⟨e.venue, i, j, amountIn, e.boolParam "underlying"⟩
      have hfirst : req.call req.preferUnderlying = some (.object e.venue data) := by
        rw [CurveRequest.call, hdata]
        rfl
      have hsecond : req.call (!req.preferUnderlying) = some (.object e.venue data') := by
        rw [CurveRequest.call, hdata']
        rfl
      rw [quoteCurve_eq rpc req hfirst hsecond, hdata']
      simp only [Option.map_some, Option.bind_some, answerAmount, CurveRequest.quote]
      cases parseCurve (rpc.answer (.object e.venue data)) with
      | some out => rfl
      | none => cases parseCurve (rpc.answer (.object e.venue data')) <;> rfl
  | univ3 =>
    simp only [Readable, hdex] at hread
    obtain ⟨fee, hfee⟩ := hread
    simp [quoteEdgeFresh, request, requestData, callTarget, otherRequest, answerAmount, hdex,
      intParam_of_get? hfee, quoteExactInputSingle, Rpc.ethCall, Option.map_eq_bind,
      Option.bind_assoc]
  | balancer =>
    simp only [Readable, hdex] at hread
    obtain ⟨poolId, hpool⟩ := hread
    simp [quoteEdgeFresh, request, requestData, callTarget, otherRequest, answerAmount, hdex,
      hpool, textParam_of_get? hpool, textOf?, quoteBalancerGivenIn, Rpc.ethCall,
      Option.map_eq_bind, Option.bind_assoc]
  | slipstream =>
    simp only [Readable, hdex] at hread
    obtain ⟨spacing, hspacing⟩ := hread
    have hfresh : (quoteEdgeFresh rpc cfg e amountIn).map EdgeQuote.amountOut
        = (slipstreamCalldata e.tokenIn e.tokenOut spacing amountIn).bind fun data =>
            (SlipstreamQuote.parse (rpc.ethCall cfg.slipstreamQuoterV2 data) spacing).map
              SlipstreamQuote.amountOut := by
      simp only [quoteEdgeFresh, hdex, intParam_of_get? hspacing, quoteSlipstream,
        Option.bind_eq_bind, Option.bind_some, Option.pure_def, Option.map_eq_bind,
        Option.bind_assoc, Function.comp_def]
    have hdata : requestData e amountIn
        = slipstreamCalldata e.tokenIn e.tokenOut spacing amountIn := by
      simp only [requestData, hdex, intParam_of_get? hspacing, Option.bind_some]
    rw [hfresh, request, hdata]
    cases slipstreamCalldata e.tokenIn e.tokenOut spacing amountIn with
    | none => rfl
    | some data =>
      simp only [Option.bind_some, Option.map_some, slipstream_amountOut _ spacing,
        otherRequest, callTarget, answerAmount, hdex, Rpc.ethCall]
      exact Option.or_none.symm
  | _ =>
    simp [quoteEdgeFresh, request, requestData, callTarget, otherRequest, answerAmount, hdex,
      quoteAerodrome, quoteCamelotAlgebra, quoteCamelotV2, quoteConstantProduct, quoteRouter,
      Rpc.ethCall, Option.map_eq_bind, Option.bind_assoc]

theorem quoteEdgeFresh_none (hread : Readable e) (rpc : Rpc) (h : ¬ Encodable e amountIn) :
    (quoteEdgeFresh rpc cfg e amountIn).map EdgeQuote.amountOut = none := by
  have hdata : requestData e amountIn = none := by
    simpa only [Encodable, Option.isSome_iff_ne_none, ne_eq, not_not] using h
  rw [quoteEdgeFresh_amount hread, request, hdata]
  rfl

theorem callData_eq_some {signature : String} {arguments : List (Option (List Byte))}
    (h : callData signature arguments = some data) :
    ∃ words, arguments.mapM id = some words
      ∧ data = String.ofList (with0x (toHex (selector signature.toList ++ words.flatten))) := by
  obtain ⟨words, hwords, rfl⟩ := Option.map_eq_some_iff.1 h
  exact ⟨words, hwords, rfl⟩

theorem callData_injective {signature signature' : String}
    {arguments arguments' : List (Option (List Byte))}
    (h : callData signature arguments = some data)
    (h' : callData signature' arguments' = some data) :
    selector signature.toList = selector signature'.toList
      ∧ ∀ other, callData other arguments = callData other arguments' := by
  obtain ⟨words, hwords, rfl⟩ := callData_eq_some h
  obtain ⟨words', hwords', heq⟩ := callData_eq_some h'
  have htext := String.ofList_injective heq
  have hbytes := toHex_injective (with0x_injective htext)
  obtain ⟨hsel, hargs⟩ := List.append_inj hbytes (by rw [length_selector, length_selector])
  refine ⟨hsel, fun other => ?_⟩
  rw [callData, callData, hwords, hwords', Option.map_some, Option.map_some, hargs]

theorem curve_selectors_differ :
    selector "get_dy_underlying(int128,int128,uint256)".toList
      ≠ selector "get_dy(int128,int128,uint256)".toList := by
  -- the first bytes already differ
  have hunderlying : (selector "get_dy_underlying(int128,int128,uint256)".toList).headD 0 = 0x07 := by
    decide +kernel
  have hplain : (selector "get_dy(int128,int128,uint256)".toList).headD 0 = 0x5e := by
    decide +kernel
  intro h
  rw [h, hplain] at hunderlying
  exact absurd hunderlying (by decide)

/-- The data of a call name the function of the pool. -/
theorem curveCalldata_flag {dx i' j' dx' : Int} {u u' : Bool}
    (h : curveCalldata i j dx u = some data) (h' : curveCalldata i' j' dx' u' = some data) :
    u = u' := by
  have hsel := (callData_injective h h').1
  cases u <;> cases u'
  · rfl
  · exact absurd hsel.symm curve_selectors_differ
  · exact absurd hsel curve_selectors_differ
  · rfl

/-- Calls to one function of a pool that agree come from calls to the other that agree. -/
theorem curveCalldata_other {dx i' j' dx' : Int} {u u' : Bool}
    (h : curveCalldata i j dx u = some data) (h' : curveCalldata i' j' dx' u' = some data) :
    curveCalldata i j dx (!u) = curveCalldata i' j' dx' (!u') := by
  obtain rfl := curveCalldata_flag h h'
  exact (callData_injective h h').2 _

/-- Edges of one family with one request ask the other function of a Curve pool alike. -/
theorem otherRequest_eq (hread : Readable e) (hread' : Readable e') (hdex : e'.dex = e.dex)
    (hcall : request cfg amountIn e = some call) (hcall' : request cfg amountIn e' = some call) :
    otherRequest amountIn e' = otherRequest amountIn e := by
  by_cases hcurve : e.dex = .curve
  · have hcurve' : e'.dex = .curve := hdex.trans hcurve
    simp only [Readable, hcurve, hcurve'] at hread hread'
    obtain ⟨i, j, hi, hj⟩ := hread
    obtain ⟨i', j', hi', hj'⟩ := hread'
    rw [request_curve hcurve hi hj] at hcall
    rw [request_curve hcurve' hi' hj'] at hcall'
    obtain ⟨data, hdata, rfl⟩ := Option.map_eq_some_iff.1 hcall
    obtain ⟨data', hdata', hsame⟩ := Option.map_eq_some_iff.1 hcall'
    obtain ⟨htarget, rfl⟩ := CallParam.object.inj hsame
    rw [otherRequest_curve hcurve hi hj, otherRequest_curve hcurve' hi' hj', htarget,
      curveCalldata_other hdata' hdata]
  · rw [otherRequest, otherRequest, if_neg hcurve, if_neg (by rwa [hdex])]

theorem amount_of_request_eq (hread : Readable e) (hread' : Readable e') (hdex : e'.dex = e.dex)
    (hreq : request cfg amountIn e' = request cfg amountIn e) (rpc : Rpc) :
    (quoteEdgeFresh rpc cfg e' amountIn).map EdgeQuote.amountOut
      = (quoteEdgeFresh rpc cfg e amountIn).map EdgeQuote.amountOut := by
  rw [quoteEdgeFresh_amount hread, quoteEdgeFresh_amount hread', hreq, hdex]
  cases hcall : request cfg amountIn e with
  | none => rw [Option.bind_none, Option.bind_none]
  | some call => rw [otherRequest_eq hread hread' hdex hcall (hreq.trans hcall)]

/-! ## Keys -/

theorem Dex.name_injective : Function.Injective Dex.name := by
  intro a b h
  cases a <;> cases b <;> first | rfl | exact absurd h (by decide)

theorem dex_name_no_colon (dex : Dex) : ∀ c ∈ dex.name.toList, (c != ':') = true := by
  have hall : dex.name.toList.all (fun c => c != ':') = true := by cases dex <;> decide
  exact List.all_eq_true.1 hall

theorem dex_eq_of_edgeKey (h : edgeKey e' = edgeKey e) : e'.dex = e.dex := by
  have hname : ∀ e : Edge, (edgeKey e).toList.takeWhile (fun c => c != ':')
      = e.dex.name.toList := by
    intro e
    simp only [edgeKey, String.append_assoc]
    rw [String.toList_append, String.toList_append, List.takeWhile_append_of_pos
      (dex_name_no_colon e.dex)]
    exact List.append_nil _
  refine Dex.name_injective (String.toList_injective ?_)
  rw [← hname e', ← hname e, h]

theorem hit_of_edgeKey (cache : QuoteCache) (amountIn : Int) (h : edgeKey e' = edgeKey e) :
    cache.hit e' amountIn = cache.hit e amountIn := by
  rw [QuoteCache.hit, QuoteCache.hit, edgeQuoteCacheKey, edgeQuoteCacheKey, h]

/-! ## The result of a batch -/

def uncached (cache : QuoteCache) (edges : List Edge) (amountIn : Int) : List Edge :=
  edges.filter fun e => (cache.hit e amountIn).isNone

theorem mem_uncached :
    e ∈ uncached cache edges amountIn ↔ e ∈ edges ∧ cache.hit e amountIn = none := by
  rw [uncached, List.mem_filter, Option.isNone_iff_eq_none]

/-- The amount `quote_edges_batch` returns for an edge. -/
def batchAmount (rpc : Rpc) (cfg : ChainConfig) (cache : QuoteCache) (edges : List Edge)
    (amountIn : Int) (e : Edge) : Option Int :=
  ((quoteEdgesBatch rpc cfg cache edges amountIn).bind fun result =>
    (result.1.get? (edgeKey e)).join).map EdgeQuote.amountOut

/-- The amount `quote_edge` returns for an edge. -/
def singleAmount (rpc : Rpc) (cfg : ChainConfig) (cache : QuoteCache) (amountIn : Int) (e : Edge) :
    Option Int :=
  (quoteEdge rpc cfg cache e amountIn).1.map EdgeQuote.amountOut

theorem singleAmount_hit {quote : EdgeQuote} (h : cache.hit e amountIn = some quote) :
    singleAmount rpc cfg cache amountIn e = some quote.amountOut := by
  rw [singleAmount, quoteEdge, h]
  rfl

theorem singleAmount_fresh (h : cache.hit e amountIn = none) :
    singleAmount rpc cfg cache amountIn e
      = (quoteEdgeFresh rpc cfg e amountIn).map EdgeQuote.amountOut := by
  rw [singleAmount, quoteEdge, h]

/-- The amount a batch records for an edge: that of the cache, or the settled one. -/
def recordedAmount (rpc : Rpc) (cfg : ChainConfig) (cache : QuoteCache) (edges : List Edge)
    (amountIn : Int) (e : Edge) : Option Int :=
  match cache.hit e amountIn with
  | some quote => some quote.amountOut
  | none => settledAmount rpc cfg (uncached cache edges amountIn) amountIn e

/-- After a run of assignments a key has the value of one of them, or of none. -/
theorem foldl_set_cases {α β : Type} (key : α → String) (writes : List (α × β))
    (d : Dict String β) (k : String) :
    (∃ w ∈ writes, key w.1 = k
        ∧ (writes.foldl (fun d w => d.set (key w.1) w.2) d).get? k = some w.2)
      ∨ (∀ w ∈ writes, key w.1 ≠ k)
        ∧ (writes.foldl (fun d w => d.set (key w.1) w.2) d).get? k = d.get? k := by
  induction writes generalizing d with
  | nil => exact Or.inr ⟨fun w hw => absurd hw List.not_mem_nil, rfl⟩
  | cons a writes ih =>
    rw [List.foldl_cons]
    rcases ih (d.set (key a.1) a.2) with ⟨w, hw, hkey, hget⟩ | ⟨hne, hget⟩
    · exact Or.inl ⟨w, List.mem_cons_of_mem _ hw, hkey, hget⟩
    · by_cases hk : key a.1 = k
      · refine Or.inl ⟨a, List.mem_cons_self, hk, ?_⟩
        rw [hget, ← hk, Dict.get?_set_self]
      · refine Or.inr ⟨fun w hw => ?_, ?_⟩
        · rcases List.mem_cons.1 hw with rfl | hw
          · exact hk
          · exact hne w hw
        · rw [hget, Dict.get?_set_of_ne _ _ (Ne.symm hk)]

/-- `setdefault` does not touch a key that is present. -/
theorem foldl_setdefault_get? (edges : List Edge) {d : Dict String (Option EdgeQuote)} {k : String}
    {v : Option EdgeQuote} (h : d.get? k = some v) :
    (edges.foldl (fun d e => if d.contains (edgeKey e) then d else d.set (edgeKey e) none) d).get? k
      = some v := by
  induction edges generalizing d with
  | nil => exact h
  | cons e edges ih =>
    rw [List.foldl_cons]
    refine ih ?_
    split
    · exact h
    · rename_i habsent
      have hne : k ≠ edgeKey e := by
        rintro rfl
        rw [Dict.contains, h] at habsent
        exact habsent rfl
      rw [Dict.get?_set_of_ne _ _ hne, h]

/-- The assignments without a call record the right amounts. -/
theorem localWrites_sound (hsuited : ∀ e ∈ edges, Suited cfg e) {w : Edge × Option EdgeQuote}
    (hw : w ∈ localWrites cfg cache edges amountIn) :
    w.1 ∈ edges
      ∧ w.2.map EdgeQuote.amountOut = recordedAmount rpc cfg cache edges amountIn w.1 := by
  simp only [localWrites, List.mem_append, List.mem_filterMap, List.mem_map] at hw
  rcases hw with ⟨e, he, hhit⟩ | ⟨e, he, rfl⟩
  · obtain ⟨quote, hquote, rfl⟩ := Option.map_eq_some_iff.1 hhit
    refine ⟨he, ?_⟩
    simp only [recordedAmount, hquote, Option.map_some]
  · rcases he with he | he
    · -- a Balancer request that cannot be encoded
      obtain ⟨hmem, hinvalid⟩ := List.mem_filter.1 he
      obtain ⟨hedge, hhit⟩ := mem_uncached.1 hmem
      obtain ⟨hdex, hdata⟩ : e.dex = .balancer ∧ balancerCalldata (e.textParam "pool_id") e.tokenIn
          e.tokenOut amountIn = none := by simpa using hinvalid
      have hbad : ¬ Encodable e amountIn := by
        rw [Encodable, requestData, hdex]
        simp only [hdata]
        decide
      have hisolated : e.dex.isolated = true := by
        rw [hdex]
        rfl
      refine ⟨hedge, ?_⟩
      simp only [recordedAmount, hhit]
      rw [settledAmount, if_pos (Or.inl hisolated), sentAmount, if_neg (by rw [hdex]; decide),
        quoteEdgeFresh_none (hsuited e hedge).readable rpc hbad]
      rfl
    · obtain ⟨hmem, hunavailable⟩ := List.mem_filter.1 he
      have hedge := (mem_uncached.1 hmem).1
      rw [(hsuited e hedge).available] at hunavailable
      cases hunavailable

theorem batchAmount_recorded (rpc : Rpc) (cache : QuoteCache) (amountIn : Int)
    (hsuited : ∀ e ∈ edges, Suited cfg e) (he : e ∈ edges) :
    ∃ e' ∈ edges, edgeKey e' = edgeKey e
      ∧ batchAmount rpc cfg cache edges amountIn e
          = recordedAmount rpc cfg cache edges amountIn e' := by
  have hmissing : ∀ e ∈ uncached cache edges amountIn, Suited cfg e :=
    fun e he => hsuited e (mem_uncached.1 he).1
  obtain ⟨network, hnetwork, hsound, hcomplete⟩ := networkWrites_covers rpc amountIn
    (fun e he => (hmissing e he).readable)
    (fun e he => (hmissing e he).available)
  have hwrites : ∀ w ∈ localWrites cfg cache edges amountIn ++ network, w.1 ∈ edges
      ∧ w.2.map EdgeQuote.amountOut = recordedAmount rpc cfg cache edges amountIn w.1 := by
    intro w hw
    rcases List.mem_append.1 hw with hw | hw
    · exact localWrites_sound hsuited hw
    · obtain ⟨hmem, hsettles⟩ := hsound w hw
      obtain ⟨hedge, hhit⟩ := mem_uncached.1 hmem
      refine ⟨hedge, ?_⟩
      simp only [recordedAmount, hhit]
      exact hsettles.amount
  -- every edge is assigned
  have hassigned : ∃ quote, (e, quote) ∈ localWrites cfg cache edges amountIn ++ network := by
    simp only [List.mem_append]
    cases hhit : cache.hit e amountIn with
    | some quote =>
      refine ⟨some quote, Or.inl (List.mem_append_left _ (List.mem_filterMap.2 ⟨e, he, ?_⟩))⟩
      rw [hhit]
      rfl
    | none =>
      have hmem : e ∈ uncached cache edges amountIn := mem_uncached.2 ⟨he, hhit⟩
      by_cases hasked : e.dex ≠ .balancer ∨ Encodable e amountIn
      · obtain ⟨quote, hquote⟩ :=
          hcomplete e (List.mem_filter.2 ⟨hmem, decide_eq_true hasked⟩)
        exact ⟨quote, Or.inr hquote⟩
      · obtain ⟨hdex, hbad⟩ := not_or.1 hasked
        have hdex : e.dex = .balancer := not_not.1 hdex
        refine ⟨none, Or.inl (List.mem_append_right _ (List.mem_map_of_mem
          (List.mem_append_left _ (List.mem_filter.2 ⟨hmem, ?_⟩))))⟩
        rw [Encodable, requestData, hdex] at hbad
        simpa [hdex] using hbad
  have hbatch : batchAmount rpc cfg cache edges amountIn e
      = ((edges.foldl (fun d e => if d.contains (edgeKey e) then d else d.set (edgeKey e) none)
          ((localWrites cfg cache edges amountIn ++ network).foldl
            (fun d w => d.set (edgeKey w.1) w.2) Dict.empty)).get? (edgeKey e)).join.map
          EdgeQuote.amountOut := by
    have hrun : networkWrites rpc cfg (edges.filter fun e => (cache.hit e amountIn).isNone) amountIn
        = some network := hnetwork
    simp only [batchAmount, quoteEdgesBatch, hrun, Option.bind_eq_bind, Option.bind_some,
      Option.pure_def]
  rcases foldl_set_cases edgeKey (localWrites cfg cache edges amountIn ++ network) Dict.empty
    (edgeKey e) with ⟨w, hw, hkey, hget⟩ | ⟨hne, -⟩
  · obtain ⟨hedge, hamount⟩ := hwrites w hw
    refine ⟨w.1, hedge, hkey, ?_⟩
    rw [hbatch, foldl_setdefault_get? edges hget, Option.join_some, hamount]
  · obtain ⟨quote, hquote⟩ := hassigned
    exact absurd (rfl : edgeKey e = edgeKey e) (hne (e, quote) hquote)

/-! ## Separable edges -/

/-- No edge can take the quote of another: edges with one key make one request, no edge needs the
Camelot Algebra batch, and an edge whose family encodes all requests first has no sibling that
cannot be encoded. -/
structure Separable (cfg : ChainConfig) (missing : List Edge) (amountIn : Int) : Prop where
  request_eq : ∀ e ∈ missing, ∀ e' ∈ missing, edgeKey e' = edgeKey e →
    request cfg amountIn e' = request cfg amountIn e
  addressed : ∀ e ∈ missing, Encodable e amountIn → e.dex ≠ .camelotAlgebra
  encodable : ∀ e ∈ missing, Encodable e amountIn → e.dex.isolated = false →
    AllEncodable (siblings missing e) amountIn

theorem Separable.settledAmount_eq {missing : List Edge} (h : Separable cfg missing amountIn)
    (he : e ∈ missing) (hread : Readable e) (rpc : Rpc) :
    settledAmount rpc cfg missing amountIn e
      = (quoteEdgeFresh rpc cfg e amountIn).map EdgeQuote.amountOut := by
  by_cases hencodable : Encodable e amountIn
  · have hbatch : e.dex.isolated = true ∨ AllEncodable (siblings missing e) amountIn := by
      cases hisolated : e.dex.isolated with
      | true => exact Or.inl rfl
      | false => exact Or.inr (h.encodable e he hencodable hisolated)
    rw [settledAmount, if_pos hbatch, sentAmount, if_neg (h.addressed e he hencodable)]
  · have hsent : sentAmount rpc cfg amountIn e = none := by
      rw [sentAmount]
      split
      · have hdata : requestData e amountIn = none := by
          simpa only [Encodable, Option.isSome_iff_ne_none, ne_eq, not_not] using hencodable
        rw [hdata, Option.bind_none]
      · exact quoteEdgeFresh_none hread rpc hencodable
    rw [settledAmount, hsent, quoteEdgeFresh_none hread rpc hencodable, ite_self]

/-! ## A node that answers one call -/

def answerOf (words : List Nat) : RpcResult :=
  .answered (some (String.ofList (with0x (toHex (words.flatMap (beBytes 32))))))

/-- An answer every adapter reads a quote in. -/
def generous (dex : Dex) (amountIn : Int) : RpcResult :=
  if dex = .balancer then .failed (some [amountIn, -1]) else answerOf [32, 2, 0, 1]

/-- An answer of one word; only Curve reads a quote in it. -/
def meagre : RpcResult := answerOf [64]

def answering (call : CallParam) (result : RpcResult) : Rpc where
  answer c := if c = call then result else meagre

theorem raw_answerOf (words : List Nat) :
    (answerOf words).raw = some (words.flatMap (beBytes 32)) := by
  rw [answerOf, RpcResult.raw, Option.bind_some, String.toList_ofList, strip0x_with0x,
    Option.getD_some, fromHex_toHex]

theorem length_words (words : List Nat) :
    (words.flatMap (beBytes 32)).length = 32 * words.length := by
  have hlen : ∀ w ∈ words.map (beBytes 32), w.length = 32 := by simp
  rw [List.flatMap, length_flatten_of_length hlen, List.length_map]

theorem wordAt_words {words : List Nat} (h : ∀ w ∈ words, w < 256 ^ 32) {i n : Nat}
    (hn : words[i]? = some n) : wordAt (words.flatMap (beBytes 32)) (32 * i) = n := by
  rw [wordAt, List.flatMap, take_drop_flatten (by simp), List.getElem?_map, hn, Option.map_some,
    Option.getD_some, beNat_beBytes_of_lt (h n (List.mem_of_getElem? hn))]

theorem answerAmount_generous (h : Encodable e amountIn) :
    ∃ out, answerAmount e.dex amountIn (generous e.dex amountIn) = some out ∧ out ≠ 64 := by
  by_cases hbalancer : e.dex = .balancer
  · have hpos : ¬ amountIn ≤ 0 := by
      intro hle
      rw [Encodable, requestData, hbalancer] at h
      simp only [balancerCalldata, if_pos hle, Option.isSome_none, Bool.false_eq_true] at h
    refine ⟨1, ?_, by decide⟩
    simp [hbalancer, answerAmount, generous, decodeBalancerRpcResult, quoteFromDeltas, hpos]
  · have hraw := raw_answerOf [32, 2, 0, 1]
    have hlen := length_words [32, 2, 0, 1]
    have hwords : ∀ w ∈ [32, 2, 0, 1], w < 256 ^ 32 := by decide
    have h0 := wordAt_words hwords (show [32, 2, 0, 1][0]? = some 32 from rfl)
    have h1 := wordAt_words hwords (show [32, 2, 0, 1][1]? = some 2 from rfl)
    have h3 := wordAt_words hwords (show [32, 2, 0, 1][3]? = some 1 from rfl)
    generalize [32, 2, 0, 1].flatMap (beBytes 32) = raw at hraw hlen h0 h1 h3
    rw [generous, if_neg hbalancer]
    simp only [List.length_cons, List.length_nil] at hlen
    cases hdex : e.dex with
    | balancer => exact absurd hdex hbalancer
    | univ3 =>
      refine ⟨32, ?_, by decide⟩
      simp [answerAmount, UniV3Quote.parse, hraw, hlen, h0]
    | curve =>
      refine ⟨32, ?_, by decide⟩
      simp [answerAmount, parseCurve, hraw, hlen, h0]
    | slipstream =>
      refine ⟨32, ?_, by decide⟩
      simp [answerAmount, SlipstreamQuote.parse, hraw, hlen, h0]
    | camelotAlgebra =>
      refine ⟨32, ?_, by decide⟩
      simp [answerAmount, CamelotAlgebraQuote.parse, hraw, hlen, h0]
    | _ =>
      refine ⟨1, ?_, by decide⟩
      simp [answerAmount, parseAmountsOut, hraw, hlen, h0, h1, h3]

theorem answerAmount_meagre (dex : Dex) (amountIn : Int) :
    answerAmount dex amountIn meagre = if dex = .curve then some 64 else none := by
  have hraw := raw_answerOf [64]
  have hlen := length_words [64]
  have h0 := wordAt_words (show ∀ w ∈ [64], w < 256 ^ 32 by decide)
    (show [64][0]? = some 64 from rfl)
  generalize [64].flatMap (beBytes 32) = raw at hraw hlen h0
  simp only [List.length_cons, List.length_nil] at hlen
  rw [meagre]
  cases dex with
  | curve => simp [answerAmount, parseCurve, hraw, hlen, h0]
  | balancer =>
    have hanswer : decodeBalancerRpcResult amountIn (answerOf [64])
        = ((answerOf [64]).raw.bind decodeBalancerSwapDeltas).bind
            (quoteFromDeltas amountIn) := by
      rw [answerOf, decodeBalancerRpcResult]
    rw [answerAmount, hanswer, hraw, Option.bind_some, decodeBalancerSwapDeltas,
      if_pos (Or.inl (by omega)), Option.bind_none, if_neg (by decide)]
  | _ =>
    simp [answerAmount, UniV3Quote.parse, SlipstreamQuote.parse, CamelotAlgebraQuote.parse,
      parseAmountsOut, hraw, hlen]

theorem amount_answering (hread : Readable e) (hcall : request cfg amountIn e = some call) :
    ∃ out, (quoteEdgeFresh (answering call (generous e.dex amountIn)) cfg e amountIn).map
        EdgeQuote.amountOut = some out ∧ out ≠ 64 := by
  have hencodable : Encodable e amountIn := by
    obtain ⟨data, hdata, -⟩ := Option.map_eq_some_iff.1 hcall
    rw [Encodable, hdata]
    rfl
  obtain ⟨out, hout, hne⟩ := answerAmount_generous hencodable
  refine ⟨out, ?_, hne⟩
  rw [quoteEdgeFresh_amount hread, hcall, Option.bind_some]
  have hanswer : (answering call (generous e.dex amountIn)).answer call
      = generous e.dex amountIn := if_pos rfl
  rw [hanswer, hout, Option.some_or]

theorem amount_not_answering (result : RpcResult) (hread : Readable e)
    (hcall : request cfg amountIn e ≠ some call) :
    (quoteEdgeFresh (answering call result) cfg e amountIn).map EdgeQuote.amountOut = none
      ∨ (quoteEdgeFresh (answering call result) cfg e amountIn).map EdgeQuote.amountOut
          = some 64 := by
  rw [quoteEdgeFresh_amount hread]
  cases hrequest : request cfg amountIn e with
  | none => exact Or.inl (Option.bind_none _)
  | some call' =>
    have hother : call' ≠ call := fun h => hcall (by rw [hrequest, h])
    have hanswer : (answering call result).answer call' = meagre := if_neg hother
    rw [Option.bind_some, hanswer, answerAmount_meagre]
    by_cases hcurve : e.dex = .curve
    · rw [if_pos hcurve, Option.some_or]
      exact Or.inr rfl
    · rw [if_neg hcurve, otherRequest, if_neg hcurve, Option.bind_none, Option.or_none]
      exact Or.inl rfl

/-- The batch returns one amount for a key, so edges with one key have the amount of each alone. -/
theorem Separable.of_agrees (hsuited : ∀ e ∈ edges, Suited cfg e)
    (h : ∀ rpc, ∀ e ∈ edges, batchAmount rpc cfg cache edges amountIn e
      = singleAmount rpc cfg cache amountIn e) :
    Separable cfg (uncached cache edges amountIn) amountIn := by
  have hfresh : ∀ rpc, ∀ e ∈ uncached cache edges amountIn,
      batchAmount rpc cfg cache edges amountIn e
        = (quoteEdgeFresh rpc cfg e amountIn).map EdgeQuote.amountOut := by
    intro rpc e he
    obtain ⟨hedge, hhit⟩ := mem_uncached.1 he
    rw [h rpc e hedge, singleAmount_fresh hhit]
  have hread : ∀ e ∈ uncached cache edges amountIn, Readable e :=
    fun e he => (hsuited e (mem_uncached.1 he).1).readable
  -- what is recorded for an edge with a call is its quote
  have hrecorded : ∀ e ∈ uncached cache edges amountIn, ∀ rpc, ∃ e' ∈ uncached cache edges amountIn,
      edgeKey e' = edgeKey e
      ∧ settledAmount rpc cfg (uncached cache edges amountIn) amountIn e'
          = (quoteEdgeFresh rpc cfg e amountIn).map EdgeQuote.amountOut := by
    intro e he rpc
    obtain ⟨hedge, hhit⟩ := mem_uncached.1 he
    obtain ⟨e', he', hkey, hbatch⟩ := batchAmount_recorded rpc cache amountIn hsuited hedge
    have hhit' : cache.hit e' amountIn = none := by rw [hit_of_edgeKey cache amountIn hkey, hhit]
    refine ⟨e', mem_uncached.2 ⟨he', hhit'⟩, hkey, ?_⟩
    rw [← hfresh rpc e he, hbatch, recordedAmount, hhit']
  have hcall : ∀ e ∈ uncached cache edges amountIn, Encodable e amountIn →
      ∃ call, request cfg amountIn e = some call := by
    intro e he hencodable
    obtain ⟨data, hdata⟩ := Option.isSome_iff_exists.1 hencodable
    exact ⟨_, by rw [request, hdata]; rfl⟩
  have hrequest : ∀ e ∈ uncached cache edges amountIn, ∀ e' ∈ uncached cache edges amountIn,
      edgeKey e' = edgeKey e → ∀ call, request cfg amountIn e = some call →
        request cfg amountIn e' = some call := by
    intro e he e' he' hkey call hcall
    by_contra hother
    obtain ⟨out, hout, hne⟩ := amount_answering (hread e he) hcall
    have hsame : (quoteEdgeFresh (answering call (generous e.dex amountIn)) cfg e' amountIn).map
        EdgeQuote.amountOut = some out := by
      rw [← hout, ← hfresh _ e' he', ← hfresh _ e he, batchAmount, batchAmount, hkey]
    rcases amount_not_answering (generous e.dex amountIn) (hread e' he') hother
      with hnone | hmeagre
    · rw [hnone] at hsame
      cases hsame
    · rw [hmeagre] at hsame
      exact hne (Option.some.inj hsame).symm
  refine ⟨fun e he e' he' hkey => ?_, fun e he hencodable hdex => ?_,
    fun e he hencodable hisolated => ?_⟩
  · -- one key, one request
    cases hreq : request cfg amountIn e with
    | some call => exact hrequest e he e' he' hkey call hreq
    | none =>
      cases hreq' : request cfg amountIn e' with
      | none => rfl
      | some call =>
        have hback := hrequest e' he' e he hkey.symm call hreq'
        rw [hreq] at hback
        cases hback
  · -- the Camelot Algebra batch asks nothing of the quoter
    obtain ⟨call, hreq⟩ := hcall e he hencodable
    obtain ⟨out, hout, -⟩ := amount_answering (hread e he) hreq
    obtain ⟨e', he', hkey, hsettled⟩ := hrecorded e he (answering call (generous e.dex amountIn))
    have hdex' : e'.dex = .camelotAlgebra := (dex_eq_of_edgeKey hkey).trans hdex
    obtain ⟨data, -, hdata⟩ := Option.map_eq_some_iff.1 hreq
    have hsent : sentAmount (answering call (generous e.dex amountIn)) cfg amountIn e' = none := by
      rw [sentAmount, if_pos hdex', Option.bind_eq_none_iff]
      intro text _
      have hbare : (answering call (generous e.dex amountIn)).answer (.bare text) = meagre := by
        refine if_neg ?_
        rw [← hdata]
        exact CallParam.noConfusion
      rw [hbare]
      exact answerAmount_meagre .camelotAlgebra amountIn
    rw [settledAmount, hsent, ite_self, hout] at hsettled
    cases hsettled
  · -- a sibling that cannot be encoded empties the batch
    obtain ⟨call, hreq⟩ := hcall e he hencodable
    obtain ⟨out, hout, -⟩ := amount_answering (hread e he) hreq
    obtain ⟨e', he', hkey, hsettled⟩ := hrecorded e he (answering call (generous e.dex amountIn))
    have hdex := dex_eq_of_edgeKey hkey
    have hsiblings : siblings (uncached cache edges amountIn) e'
        = siblings (uncached cache edges amountIn) e := by
      by_cases hproduct : e.dex = .constantProduct
      · have hreq' := hrequest e he e' he' hkey call hreq
        obtain ⟨data, -, hdata⟩ := Option.map_eq_some_iff.1 hreq
        obtain ⟨data', -, hdata'⟩ := Option.map_eq_some_iff.1 hreq'
        have htarget := (CallParam.object.inj (hdata'.trans hdata.symm)).1
        simp only [callTarget, hdex, hproduct] at htarget
        rw [siblings, siblings, hdex, htarget]
      · rw [siblings_family hproduct, siblings_family (by rwa [hdex]), hdex]
    by_contra hspoiled
    have hbatch : ¬ (e'.dex.isolated = true
        ∨ AllEncodable (siblings (uncached cache edges amountIn) e') amountIn) := by
      rw [hdex, hisolated, hsiblings]
      rintro (hfalse | hall)
      · cases hfalse
      · exact hspoiled hall
    rw [settledAmount, if_neg hbatch, hout] at hsettled
    cases hsettled

/-- **The batch agrees with the single quote exactly when** the edges that are not in the cache
are separable. -/
theorem batch_agrees_iff {cfg : ChainConfig} {edges : List Edge}
    (hedges : ∀ e ∈ edges, e ∈ buildEdges cfg) (cache : QuoteCache) (amountIn : Int) :
    (∀ rpc, ∀ e ∈ edges, batchAmount rpc cfg cache edges amountIn e
        = singleAmount rpc cfg cache amountIn e)
      ↔ Separable cfg (uncached cache edges amountIn) amountIn := by
  have hsuited : ∀ e ∈ edges, Suited cfg e := fun e he => suited_of_mem_buildEdges (hedges e he)
  refine ⟨Separable.of_agrees hsuited, fun hseparable rpc e he => ?_⟩
  obtain ⟨e', he', hkey, hbatch⟩ := batchAmount_recorded rpc cache amountIn hsuited he
  have hhit := hit_of_edgeKey cache amountIn hkey
  cases hcached : cache.hit e amountIn with
  | some quote =>
    rw [hbatch, recordedAmount, hhit, hcached, singleAmount_hit hcached]
  | none =>
    have hmem : e ∈ uncached cache edges amountIn := mem_uncached.2 ⟨he, hcached⟩
    have hmem' : e' ∈ uncached cache edges amountIn :=
      mem_uncached.2 ⟨he', hhit.trans hcached⟩
    have hread := (hsuited e he).readable
    have hread' := (hsuited e' he').readable
    calc batchAmount rpc cfg cache edges amountIn e
        = settledAmount rpc cfg (uncached cache edges amountIn) amountIn e' := by
          rw [hbatch, recordedAmount, hhit, hcached]
      _ = (quoteEdgeFresh rpc cfg e' amountIn).map EdgeQuote.amountOut :=
          hseparable.settledAmount_eq hmem' hread' rpc
      _ = (quoteEdgeFresh rpc cfg e amountIn).map EdgeQuote.amountOut :=
          amount_of_request_eq hread hread' (dex_eq_of_edgeKey hkey)
            (hseparable.request_eq e hmem e' hmem' hkey) rpc
      _ = singleAmount rpc cfg cache amountIn e := (singleAmount_fresh hcached).symm

def univ3Config (pairs : List PoolRow) : ChainConfig where
  univ3QuoterV2 := "0x1111111111111111111111111111111111111111"
  univ3SwapRouter := ""
  balancerVault := ""
  aerodromeRouter := ""
  aerodromeDefaultFactory := ""
  slipstreamQuoterV2 := ""
  slipstreamSwapRouter := ""
  camelotAlgebraQuoterV2 := ""
  camelotAlgebraSwapRouter := ""
  camelotAlgebraFactory := ""
  camelotV2Router := ""
  camelotV2Factory := ""
  enableCurveAutogen := false
  enableBalancerAutogen := false
  constantProductVenues := []
  v3Pairs := pairs
  curvePools := []
  balancerPools := []
  aerodromePools := []
  slipstreamPools := []
  camelotAlgebraPools := []
  camelotV2Pools := []
  constantProductPools := []

def pairRow (tokenIn tokenOut : String) : PoolRow where
  tokenIn := tokenIn
  tokenOut := tokenOut
  pool := ""
  poolId := ""
  factory := ""
  router := ""
  venueName := ""
  fee := 500
  tickSpacing := 0
  i := 0
  j := 0
  underlying := false
  stable := false

/-- Two pairs; a token of the second is not an address. -/
def spoiledConfig : ChainConfig := univ3Config
  [pairRow "0x2222222222222222222222222222222222222222" "0x3333333333333333333333333333333333333333",
    pairRow "0xunknown" "0x3333333333333333333333333333333333333333"]

def pairEdge (tokenIn tokenOut : String) : Edge where
  dex := .univ3
  venue := "0x1111111111111111111111111111111111111111"
  tokenIn := tokenIn
  tokenOut := tokenOut
  params := PyDict.literal [("fee", .int 500)]

def soundEdge : Edge := pairEdge
  "0x2222222222222222222222222222222222222222" "0x3333333333333333333333333333333333333333"

def malformedEdge : Edge := pairEdge "0xunknown" "0x3333333333333333333333333333333333333333"

theorem soundEdge_mem : soundEdge ∈ buildEdges spoiledConfig :=
  List.mem_of_getElem? (show (buildEdges spoiledConfig)[0]? = some soundEdge by rfl)

theorem malformedEdge_mem : malformedEdge ∈ buildEdges spoiledConfig :=
  List.mem_of_getElem? (show (buildEdges spoiledConfig)[2]? = some malformedEdge by rfl)

theorem soundEdge_encodable : Encodable soundEdge 1000 := by decide +kernel

theorem malformedEdge_not_encodable : ¬ Encodable malformedEdge 1000 := by decide +kernel

/-- The edge alone is separable. -/
theorem batch_agrees_sample :
    (∀ e ∈ [soundEdge], e ∈ buildEdges spoiledConfig)
      ∧ ∀ rpc, ∀ e ∈ [soundEdge], batchAmount rpc spoiledConfig Dict.empty [soundEdge] 1000 e
          = singleAmount rpc spoiledConfig Dict.empty 1000 e := by
  have hmem : ∀ e ∈ [soundEdge], e ∈ buildEdges spoiledConfig := by
    intro e he
    rw [List.mem_singleton.1 he]
    exact soundEdge_mem
  have hone : ∀ e ∈ uncached Dict.empty [soundEdge] 1000, e = soundEdge :=
    fun e he => List.mem_singleton.1 (mem_uncached.1 he).1
  refine ⟨hmem, (batch_agrees_iff hmem Dict.empty 1000).2 ⟨?_, ?_, ?_⟩⟩
  · intro e he e' he' _
    rw [hone e he, hone e' he']
  · intro e he _
    rw [hone e he]
    decide
  · intro e _ _ _ e' he'
    rw [hone e' (List.mem_of_mem_filter he')]
    exact soundEdge_encodable

/-- An edge that is quoted alone has no quote beside the malformed edge. -/
theorem sibling_spoils :
    (∀ e ∈ [soundEdge, malformedEdge], e ∈ buildEdges spoiledConfig)
      ∧ batchAmount ⟨fun _ => generous .univ3 1000⟩ spoiledConfig Dict.empty
          [soundEdge, malformedEdge] 1000 soundEdge = none
      ∧ (singleAmount ⟨fun _ => generous .univ3 1000⟩ spoiledConfig Dict.empty 1000
          soundEdge).isSome = true := by
  have hmem : ∀ e ∈ [soundEdge, malformedEdge], e ∈ buildEdges spoiledConfig := by
    intro e he
    rcases List.mem_pair.1 he with rfl | rfl
    · exact soundEdge_mem
    · exact malformedEdge_mem
  refine ⟨hmem, ?_, ?_⟩
  · obtain ⟨e, he, -, hbatch⟩ := batchAmount_recorded ⟨fun _ => generous .univ3 1000⟩
      Dict.empty 1000 (fun e he => suited_of_mem_buildEdges (hmem e he))
      (List.mem_cons_self (a := soundEdge))
    have hdex : e.dex = .univ3 := by rcases List.mem_pair.1 he with rfl | rfl <;> rfl
    have hsibling : malformedEdge
        ∈ siblings (uncached Dict.empty [soundEdge, malformedEdge] 1000) e := by
      rw [siblings_family (by rw [hdex]; decide), hdex]
      exact mem_family.2 ⟨mem_uncached.2 ⟨List.mem_pair.2 (Or.inr rfl), rfl⟩, rfl⟩
    rw [hbatch, recordedAmount]
    refine if_neg ?_
    rintro (hisolated | hall)
    · rw [hdex] at hisolated
      cases hisolated
    · exact malformedEdge_not_encodable (hall _ hsibling)
  · obtain ⟨data, hdata⟩ := Option.isSome_iff_exists.1 soundEdge_encodable
    obtain ⟨out, hout, -⟩ := answerAmount_generous soundEdge_encodable
    rw [singleAmount_fresh rfl,
      quoteEdgeFresh_amount (suited_of_mem_buildEdges soundEdge_mem).readable, request, hdata,
      Option.map_some, Option.bind_some, show answerAmount soundEdge.dex 1000 (generous .univ3 1000)
        = some out from hout]
    rfl

end SovereignCapital.Engine
