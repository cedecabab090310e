import SovereignCapital.Engine.Adapters

/-! # Quoting edges

`build_edges` turns the pools of a configuration into edges. `quote_edge` quotes one of them,
`quote_edges_batch` many for one amount, each through a cache of the block. The batch is written
as the list of its assignments to the result, in the order of the code.
-/

namespace SovereignCapital.Engine

open Bytes Abi Execute

/-! ## Keys -/

def jsonKey (d : PyDict) : String :=
  ",".intercalate
    ((d.entries.insertionSort fun a b => textLe a.1.toList b.1.toList).map fun e =>
      e.1 ++ "=" ++ e.2.str)

def edgeKey (e : Edge) : String :=
  e.dex.name ++ ":" ++ e.venue ++ ":" ++ e.tokenIn ++ ":" ++ e.tokenOut ++ ":" ++ jsonKey e.params

def edgeQuoteCacheKey (e : Edge) (amountIn : Int) : String :=
  "edge:" ++ edgeKey e ++ ":" ++ decimalText amountIn

/-! ## Configuration -/

/-- A row of a pool list, its values as `build_edges` converts them; a text that is missing is
empty. -/
structure PoolRow where
  tokenIn : String
  tokenOut : String
  pool : String
  poolId : String
  factory : String
  router : String
  venueName : String
  fee : Int
  tickSpacing : Int
  i : Int
  j : Int
  underlying : Bool
  stable : Bool

/-- `cfg.chain` and `cfg.flags`, the configured and the discovered pools of each family. -/
structure ChainConfig where
  univ3QuoterV2 : String
  univ3SwapRouter : String
  balancerVault : String
  aerodromeRouter : String
  aerodromeDefaultFactory : String
  slipstreamQuoterV2 : String
  slipstreamSwapRouter : String
  camelotAlgebraQuoterV2 : String
  camelotAlgebraSwapRouter : String
  camelotAlgebraFactory : String
  camelotV2Router : String
  camelotV2Factory : String
  enableCurveAutogen : Bool
  enableBalancerAutogen : Bool
  /-- `(name, router)`, both in lower case -/
  constantProductVenues : List (String × String)
  v3Pairs : List PoolRow
  curvePools : List PoolRow
  balancerPools : List PoolRow
  aerodromePools : List PoolRow
  slipstreamPools : List PoolRow
  camelotAlgebraPools : List PoolRow
  camelotV2Pools : List PoolRow
  constantProductPools : List PoolRow

/-- `a or b`. -/
def textOr (a b : String) : String := if a = "" then b else a

def lowerText (s : String) : String := String.ofList (pyLower s.toList)

/-- The entry `pool` of the parameters, where the row has one. -/
def poolEntry (row : PoolRow) : List (String × PyValue) :=
  if row.pool = "" then [] else [("pool", .text row.pool)]

def bothWays (dex : Dex) (venue : String) (row : PoolRow) (params : List (String × PyValue)) :
    List Edge :=
  [⟨dex, venue, row.tokenIn, row.tokenOut, PyDict.literal params⟩,
    ⟨dex, venue, row.tokenOut, row.tokenIn, PyDict.literal params⟩]

namespace ChainConfig

def univ3Edges (cfg : ChainConfig) : List Edge :=
  if cfg.univ3QuoterV2 = "" then []
  else cfg.v3Pairs.flatMap fun p =>
    bothWays .univ3 (textOr cfg.univ3SwapRouter cfg.univ3QuoterV2) p
      (("fee", .int p.fee) :: poolEntry p)

/-- The second direction of a Curve pool has the indices swapped. -/
def curveEdges (cfg : ChainConfig) : List Edge :=
  if cfg.enableCurveAutogen then
    cfg.curvePools.flatMap fun p =>
      [⟨.curve, p.pool, p.tokenIn, p.tokenOut,
          PyDict.literal [("i", .int p.i), ("j", .int p.j), ("underlying", .bool p.underlying)]⟩,
        ⟨.curve, p.pool, p.tokenOut, p.tokenIn,
          PyDict.literal [("i", .int p.j), ("j", .int p.i), ("underlying", .bool p.underlying)]⟩]
  else []

def balancerEdges (cfg : ChainConfig) : List Edge :=
  if cfg.enableBalancerAutogen && cfg.balancerVault != "" then
    cfg.balancerPools.flatMap fun p =>
      bothWays .balancer cfg.balancerVault p [("pool_id", .text p.poolId)]
  else []

def aerodromeEdges (cfg : ChainConfig) : List Edge :=
  if cfg.aerodromeRouter = "" then []
  else cfg.aerodromePools.flatMap fun p =>
    let factory := textOr p.factory cfg.aerodromeDefaultFactory
    if factory = "" then []
    else bothWays .aerodrome cfg.aerodromeRouter p
      ([("stable", .bool p.stable), ("factory", .text factory)] ++ poolEntry p)

def slipstreamEdges (cfg : ChainConfig) : List Edge :=
  if cfg.slipstreamQuoterV2 = "" then []
  else cfg.slipstreamPools.flatMap fun p =>
    if p.tickSpacing ≤ 0 ∨ p.factory = "" then []
    else bothWays .slipstream (textOr cfg.slipstreamSwapRouter cfg.slipstreamQuoterV2) p
      ([("tick_spacing", .int p.tickSpacing), ("factory", .text p.factory)] ++ poolEntry p)

def camelotAlgebraEdges (cfg : ChainConfig) : List Edge :=
  if cfg.camelotAlgebraQuoterV2 = "" then []
  else cfg.camelotAlgebraPools.flatMap fun p =>
    let factory := textOr p.factory cfg.camelotAlgebraFactory
    if factory = "" ∨ p.tickSpacing ≤ 0 then []
    else bothWays .camelotAlgebra
      (textOr cfg.camelotAlgebraSwapRouter cfg.camelotAlgebraQuoterV2) p
      ([("factory", .text factory), ("tick_spacing", .int p.tickSpacing)] ++ poolEntry p)

def camelotV2Edges (cfg : ChainConfig) : List Edge :=
  if cfg.camelotV2Router = "" then []
  else cfg.camelotV2Pools.flatMap fun p =>
    let factory := textOr p.factory cfg.camelotV2Factory
    if factory = "" then []
    else bothWays .camelotV2 cfg.camelotV2Router p ([("factory", .text factory)] ++ poolEntry p)

def constantProductEdges (cfg : ChainConfig) : List Edge :=
  cfg.constantProductPools.flatMap fun p =>
    let name := lowerText p.venueName
    if name = "" ∨ p.router = "" ∨ p.factory = "" then []
    else if cfg.constantProductVenues ≠ []
        ∧ (name, lowerText p.router) ∉ cfg.constantProductVenues then []
    else bothWays .constantProduct p.router p
      [("pool", .text p.pool), ("factory", .text p.factory), ("venue_name", .text name)]

/-- The edges before those without a token are dropped. -/
def generatedEdges (cfg : ChainConfig) : List Edge :=
  cfg.univ3Edges ++ cfg.curveEdges ++ cfg.balancerEdges ++ cfg.aerodromeEdges
    ++ cfg.slipstreamEdges ++ cfg.camelotAlgebraEdges ++ cfg.camelotV2Edges
    ++ cfg.constantProductEdges

end ChainConfig

deriving instance DecidableEq for PyValue

/-- The key of the de-duplication. -/
def Edge.same (a b : Edge) : Bool :=
  decide (a.dex = b.dex) && a.venue == b.venue && a.tokenIn == b.tokenIn
    && a.tokenOut == b.tokenOut && a.params.same b.params

def dedupEdges : List Edge → List Edge → List Edge
  | _, [] => []
  | seen, e :: edges =>
    if seen.any e.same then dedupEdges seen edges else e :: dedupEdges (e :: seen) edges

def buildEdges (cfg : ChainConfig) : List Edge :=
  dedupEdges [] (cfg.generatedEdges.filter fun e => e.tokenIn != "" && e.tokenOut != "")

/-! ## One edge -/

structure EdgeQuote where
  amountOut : Int
  quote : Meta

/-- `PerBlockCache`: an entry without a quote reads like no entry. -/
abbrev QuoteCache := Dict String (Option EdgeQuote)

def QuoteCache.hit (cache : QuoteCache) (e : Edge) (amountIn : Int) : Option EdgeQuote :=
  (cache.get? (edgeQuoteCacheKey e amountIn)).join

/-- `int(params.get(key, default))`. -/
def Edge.intParam (e : Edge) (key : String) (default : Int) : Option Int :=
  (e.params.getD key (.int default)).int?

/-- `str(params.get(key) or "")`. -/
def Edge.textParam (e : Edge) (key : String) : String := ((e.params.get key).orElse (.text "")).str

/-- `bool(params.get(key, False))`. -/
def Edge.boolParam (e : Edge) (key : String) : Bool := (e.params.getD key (.bool false)).truthy

def textOf? : PyValue → Option String
  | .text s => some s
  | _ => none

/-- The quote of an edge that is not in the cache; nothing also where an adapter raises. -/
def quoteEdgeFresh (rpc : Rpc) (cfg : ChainConfig) (e : Edge) (amountIn : Int) :
    Option EdgeQuote :=
  match e.dex with
  | .univ3 => do
    let fee ← e.intParam "fee" 3000
    let q ← quoteExactInputSingle rpc cfg.univ3QuoterV2 e.tokenIn e.tokenOut fee amountIn
    return ⟨q.amountOut, PyDict.literal [("gas_estimate", .int q.gasEstimate), ("fee", .int fee)]⟩
  | .curve => do
    let i ← (← e.params.get? "i").int?
    let j ← (← e.params.get? "j").int?
    let q ← quoteCurve rpc e.venue i j amountIn (e.boolParam "underlying")
    return ⟨q.amountOut, PyDict.literal
      [("used_underlying", .bool q.usedUnderlying), ("i", .int i), ("j", .int j)]⟩
  | .constantProduct => do
    let out ← quoteConstantProduct rpc e.venue e.tokenIn e.tokenOut amountIn
    return ⟨out, PyDict.literal
      [("fee_model", .text "router_observed"), ("pool", .text (e.textParam "pool"))]⟩
  | .balancer => do
    let poolId ← textOf? (← e.params.get? "pool_id")
    let out ← quoteBalancerGivenIn rpc cfg.balancerVault poolId e.tokenIn e.tokenOut amountIn
    return ⟨out, PyDict.literal [("pool_id", .text poolId)]⟩
  | .aerodrome => do
    let q ← quoteAerodrome rpc cfg.aerodromeRouter e.tokenIn e.tokenOut amountIn
      (e.boolParam "stable") (e.textParam "factory")
    return ⟨q.amountOut, PyDict.literal [("stable", .bool q.stable), ("factory", .text q.factory)]⟩
  | .slipstream => do
    let tickSpacing ← e.intParam "tick_spacing" 0
    let q ← quoteSlipstream rpc cfg.slipstreamQuoterV2 e.tokenIn e.tokenOut tickSpacing amountIn
    return ⟨q.amountOut, PyDict.literal
      [("gas_estimate", .int q.gasEstimate), ("tick_spacing", .int q.tickSpacing),
        ("factory", .text (e.textParam "factory"))]⟩
  | .camelotAlgebra => do
    let q ← quoteCamelotAlgebra rpc cfg.camelotAlgebraQuoterV2 e.tokenIn e.tokenOut amountIn
    return ⟨q.amountOut, PyDict.literal
      [("gas_estimate", .int q.gasEstimate), ("fee", .int q.fee),
        ("factory", .text (e.textParam "factory"))]⟩
  | .camelotV2 => do
    let out ← quoteCamelotV2 rpc cfg.camelotV2Router e.tokenIn e.tokenOut amountIn
    return ⟨out, PyDict.literal
      [("fee_model", .text "router_observed"), ("pool", .text (e.textParam "pool"))]⟩

def quoteEdge (rpc : Rpc) (cfg : ChainConfig) (cache : QuoteCache) (e : Edge) (amountIn : Int) :
    Option EdgeQuote × QuoteCache :=
  match cache.hit e amountIn with
  | some quote => (some quote, cache)
  | none =>
    let out := quoteEdgeFresh rpc cfg e amountIn
    (out, cache.set (edgeQuoteCacheKey e amountIn) out)

/-! ## Many edges -/

/-- `_safe_venue_quote_batch`: a slot for every edge, empty ones where the adapter raised. -/
def safeVenueQuoteBatch {α : Type} (expected : Nat) : Option (List (Option α)) → List (Option α)
  | none => List.replicate expected none
  | some results => (results ++ List.replicate (expected - results.length) none).take expected

/-- The quotes of the UniV3 edges; nothing where `int(fee)` raises. -/
def univ3Batch (rpc : Rpc) (cfg : ChainConfig) (edges : List Edge) (amountIn : Int) :
    Option (List (Edge × Option EdgeQuote)) := do
  let fees ← edges.mapM fun e => e.intParam "fee" 3000
  let quotes := safeVenueQuoteBatch edges.length
    (quoteExactInputSingleBatch rpc cfg.univ3QuoterV2
      (List.zipWith (fun e fee => (e.tokenIn, e.tokenOut, fee, amountIn)) edges fees))
  let values := List.zipWith (fun fee (q : Option UniV3Quote) => q.map fun q =>
    EdgeQuote.mk q.amountOut
      (PyDict.literal [("gas_estimate", .int q.gasEstimate), ("fee", .int fee)])) fees quotes
  return edges.zip values

def curveBatch (rpc : Rpc) (edges : List Edge) (amountIn : Int) :
    Option (List (Edge × Option EdgeQuote)) := do
  let reqs ← edges.mapM fun e => do
    return CurveRequest.mk e.venue (← e.intParam "i" 0) (← e.intParam "j" 0) amountIn
      (e.boolParam "underlying")
  let quotes := safeVenueQuoteBatch edges.length (quoteCurveMany rpc reqs)
  let values := List.zipWith (fun r (q : Option CurveQuote) => q.map fun q =>
    EdgeQuote.mk q.amountOut (PyDict.literal [("used_underlying", .bool q.usedUnderlying),
      ("i", .int (CurveRequest.i r)), ("j", .int r.j)])) reqs quotes
  return edges.zip values

def aerodromeBatch (rpc : Rpc) (cfg : ChainConfig) (edges : List Edge) (amountIn : Int) :
    List (Edge × Option EdgeQuote) :=
  let reqs := edges.map fun e =>
    (e.tokenIn, e.tokenOut, amountIn, e.boolParam "stable", e.textParam "factory")
  let quotes := safeVenueQuoteBatch edges.length (quoteAerodromeMany rpc cfg.aerodromeRouter reqs)
  edges.zip (quotes.map fun q => q.map fun q => EdgeQuote.mk q.amountOut
    (PyDict.literal [("stable", .bool q.stable), ("factory", .text q.factory)]))

def slipstreamBatch (rpc : Rpc) (cfg : ChainConfig) (edges : List Edge) (amountIn : Int) :
    Option (List (Edge × Option EdgeQuote)) := do
  let spacings ← edges.mapM fun e => e.intParam "tick_spacing" 0
  let quotes := safeVenueQuoteBatch edges.length
    (quoteSlipstreamMany rpc cfg.slipstreamQuoterV2
      (List.zipWith (fun e spacing => (e.tokenIn, e.tokenOut, spacing, amountIn)) edges spacings))
  let values := List.zipWith (fun (e : Edge) (q : Option SlipstreamQuote) => q.map fun q =>
    EdgeQuote.mk q.amountOut (PyDict.literal [("gas_estimate", .int q.gasEstimate),
      ("tick_spacing", .int q.tickSpacing), ("factory", .text (e.textParam "factory"))]))
    edges quotes
  return edges.zip values

def camelotAlgebraBatch (rpc : Rpc) (edges : List Edge) (amountIn : Int) :
    List (Edge × Option EdgeQuote) :=
  let quotes := safeVenueQuoteBatch edges.length
    (quoteCamelotAlgebraMany rpc (edges.map fun e => (e.tokenIn, e.tokenOut, amountIn)))
  edges.zip (List.zipWith (fun (e : Edge) (q : Option CamelotAlgebraQuote) => q.map fun q =>
    EdgeQuote.mk q.amountOut (PyDict.literal [("gas_estimate", .int q.gasEstimate),
      ("fee", .int q.fee), ("factory", .text (e.textParam "factory"))])) edges quotes)

def routerMeta (e : Edge) : List (String × PyValue) :=
  [("fee_model", .text "router_observed"), ("pool", .text (e.textParam "pool"))]

def camelotV2Batch (rpc : Rpc) (cfg : ChainConfig) (edges : List Edge) (amountIn : Int) :
    List (Edge × Option EdgeQuote) :=
  let quotes := safeVenueQuoteBatch edges.length
    (quoteCamelotV2Many rpc cfg.camelotV2Router
      (edges.map fun e => (e.tokenIn, e.tokenOut, amountIn)))
  edges.zip (List.zipWith (fun (e : Edge) (out : Option Int) =>
    out.map fun out => EdgeQuote.mk out (PyDict.literal (routerMeta e))) edges quotes)

def byRouter (edges : List Edge) : Dict String (List Edge) :=
  edges.foldl (fun groups e => groups.set e.venue (groups.getD e.venue [] ++ [e])) Dict.empty

def constantProductGroup (rpc : Rpc) (router : String) (edges : List Edge) (amountIn : Int) :
    List (Edge × Option EdgeQuote) :=
  let quotes := safeVenueQuoteBatch edges.length
    (quoteConstantProductMany rpc router (edges.map fun e => (e.tokenIn, e.tokenOut, amountIn)))
  edges.zip (List.zipWith (fun (e : Edge) (out : Option Int) =>
    out.map fun out => EdgeQuote.mk out (PyDict.literal
      (routerMeta e ++ [("venue_name", .text (e.textParam "venue_name"))]))) edges quotes)

def constantProductBatch (rpc : Rpc) (edges : List Edge) (amountIn : Int) :
    List (Edge × Option EdgeQuote) :=
  (byRouter edges).entries.flatMap fun (router, grouped) =>
    constantProductGroup rpc router grouped amountIn

def balancerBatch (rpc : Rpc) (cfg : ChainConfig) (edges : List Edge) (amountIn : Int) :
    List (Edge × Option EdgeQuote) :=
  let quotes := safeVenueQuoteBatch edges.length
    (quoteBalancerGivenInMany rpc cfg.balancerVault
      (edges.map fun e => (e.textParam "pool_id", e.tokenIn, e.tokenOut, amountIn)))
  edges.zip (List.zipWith (fun (e : Edge) (out : Option Int) => out.map fun out =>
    EdgeQuote.mk out (PyDict.literal [("pool_id", .text (e.textParam "pool_id"))])) edges quotes)

def adapterAvailable (cfg : ChainConfig) (e : Edge) : Bool :=
  match e.dex with
  | .univ3 => cfg.univ3QuoterV2 != ""
  | .curve => true
  | .balancer => cfg.balancerVault != ""
  | .aerodrome => cfg.aerodromeRouter != ""
  | .slipstream => cfg.slipstreamQuoterV2 != ""
  | .camelotAlgebra => cfg.camelotAlgebraQuoterV2 != ""
  | .camelotV2 => cfg.camelotV2Router != ""
  | .constantProduct => e.venue != ""

def familyBatch (configured : Bool) (edges : List Edge)
    (batch : List Edge → Option (List (Edge × Option EdgeQuote))) :
    Option (List (Edge × Option EdgeQuote)) :=
  if configured ∧ edges ≠ [] then batch edges else some []

/-- The assignments `out[edge_key(e)] = q` of the families in the order of the code; nothing where
the batch raises. They are stored in the cache as well. -/
def networkWrites (rpc : Rpc) (cfg : ChainConfig) (missing : List Edge) (amountIn : Int) :
    Option (List (Edge × Option EdgeQuote)) := do
  let family dex := missing.filter fun e => decide (e.dex = dex)
  let validBalancer := (family .balancer).filter fun e =>
    (balancerCalldata (e.textParam "pool_id") e.tokenIn e.tokenOut amountIn).isSome
  let univ3 ← familyBatch (cfg.univ3QuoterV2 != "") (family .univ3) fun edges =>
    univ3Batch rpc cfg edges amountIn
  let curve ← familyBatch true (family .curve) fun edges => curveBatch rpc edges amountIn
  let aerodrome ← familyBatch (cfg.aerodromeRouter != "") (family .aerodrome) fun edges =>
    some (aerodromeBatch rpc cfg edges amountIn)
  let slipstream ← familyBatch (cfg.slipstreamQuoterV2 != "") (family .slipstream) fun edges =>
    slipstreamBatch rpc cfg edges amountIn
  let camelotAlgebra ← familyBatch (cfg.camelotAlgebraQuoterV2 != "") (family .camelotAlgebra)
    fun edges => some (camelotAlgebraBatch rpc edges amountIn)
  let camelotV2 ← familyBatch (cfg.camelotV2Router != "") (family .camelotV2) fun edges =>
    some (camelotV2Batch rpc cfg edges amountIn)
  let constantProduct ← familyBatch true (family .constantProduct) fun edges =>
    some (constantProductBatch rpc edges amountIn)
  let balancer ← familyBatch (cfg.balancerVault != "") validBalancer fun edges =>
    some (balancerBatch rpc cfg edges amountIn)
  return univ3 ++ curve ++ aerodrome ++ slipstream ++ camelotAlgebra ++ camelotV2
    ++ constantProduct ++ balancer

/-- The assignments that need no call: hits of the cache, Balancer requests that cannot be encoded,
and edges without an adapter. -/
def localWrites (cfg : ChainConfig) (cache : QuoteCache) (edges : List Edge) (amountIn : Int) :
    List (Edge × Option EdgeQuote) :=
  let missing := edges.filter fun e => (cache.hit e amountIn).isNone
  let hits := edges.filterMap fun e => (cache.hit e amountIn).map fun quote => (e, some quote)
  let invalid := missing.filter fun e => decide (e.dex = .balancer)
    && (balancerCalldata (e.textParam "pool_id") e.tokenIn e.tokenOut amountIn).isNone
  let unavailable := missing.filter fun e => !adapterAvailable cfg e
  hits ++ (invalid ++ unavailable).map fun e => (e, none)

/-- `quote_edges_batch`: the result and the cache after it. -/
def quoteEdgesBatch (rpc : Rpc) (cfg : ChainConfig) (cache : QuoteCache) (edges : List Edge)
    (amountIn : Int) : Option (Dict String (Option EdgeQuote) × QuoteCache) := do
  let missing := edges.filter fun e => (cache.hit e amountIn).isNone
  let network ← networkWrites rpc cfg missing amountIn
  let out := (localWrites cfg cache edges amountIn ++ network).foldl
    (fun d w => d.set (edgeKey w.1) w.2) Dict.empty
  -- `setdefault` for every edge
  let out := edges.foldl
    (fun d e => if d.contains (edgeKey e) then d else d.set (edgeKey e) none) out
  let cache := network.foldl (fun d w => d.set (edgeQuoteCacheKey w.1 amountIn) w.2) cache
  return (out, cache)

end SovereignCapital.Engine
