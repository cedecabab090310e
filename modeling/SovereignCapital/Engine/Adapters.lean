import SovereignCapital.Engine.Edge

/-! # Quote adapters

Every venue has an adapter that quotes one edge and one that quotes many in a batch of calls. A
request that cannot be encoded makes the adapter raise, but for the adapters that check each
request of a batch on its own. The node is a function of the call; the batch of
`quote_camelot_algebra_many` does not send calls but bare texts.
-/

namespace SovereignCapital.Engine

open Bytes Abi Execute

/-! ## The node -/

/-- The first parameter of an `eth_call`. -/
inductive CallParam where
  | object (target data : String)
  | bare (data : String)
  deriving DecidableEq

/-- An answer of the node, missing when it is not a text, or an error with the deltas of the
`QueryError` it carries. -/
inductive RpcResult where
  | answered (result : Option String)
  | failed (deltas : Option (List Int))

structure Rpc where
  answer : CallParam → RpcResult

def Rpc.ethCall (rpc : Rpc) (target data : String) : RpcResult :=
  rpc.answer (.object target data)

def Rpc.ethCallBatch (rpc : Rpc) (calls : List CallParam) : List RpcResult := calls.map rpc.answer

def RpcResult.raw : RpcResult → Option (List Byte)
  | answered result => result.bind fun t => fromHex ((strip0x t.toList).getD t.toList)
  | failed _ => none

/-- `int.from_bytes(raw[offset:offset + 32], "big")`. -/
def wordAt (raw : List Byte) (offset : Nat) : Nat := beNat ((raw.drop offset).take 32)

/-- A selector and its arguments; nothing where an encoder raises. -/
def callData (signature : String) (arguments : List (Option (List Byte))) : Option String :=
  (arguments.mapM id).map fun words =>
    String.ofList (with0x (toHex (selector signature.toList ++ words.flatten)))

def encBool (b : Bool) : Option (List Byte) := encUint (if b then 1 else 0)

def encInt (n : Int) : Option (List Byte) := if 0 ≤ n then encUint n else encUint (2 ^ 256 + n)

/-! ## Uniswap V3 -/

structure UniV3Quote where
  amountOut : Int
  gasEstimate : Int

def univ3Calldata (tokenIn tokenOut : String) (fee amountIn : Int) : Option String :=
  callData "quoteExactInputSingle((address,address,uint256,uint24,uint160))"
    [encAddress tokenIn.toList, encAddress tokenOut.toList, encUint amountIn, encUint fee,
      encUint 0]

def UniV3Quote.parse (result : RpcResult) : Option UniV3Quote := do
  let raw ← result.raw
  if raw.length < 128 then none
  else return ⟨wordAt raw 0, wordAt raw 96⟩

def quoteExactInputSingle (rpc : Rpc) (quoter tokenIn tokenOut : String) (fee amountIn : Int) :
    Option UniV3Quote := do
  UniV3Quote.parse (rpc.ethCall quoter (← univ3Calldata tokenIn tokenOut fee amountIn))

def quoteExactInputSingleBatch (rpc : Rpc) (quoter : String)
    (reqs : List (String × String × Int × Int)) : Option (List (Option UniV3Quote)) := do
  let calls ← reqs.mapM fun (tokenIn, tokenOut, fee, amountIn) =>
    (univ3Calldata tokenIn tokenOut fee amountIn).map (CallParam.object quoter)
  return (rpc.ethCallBatch calls).map UniV3Quote.parse

/-! ## Curve -/

structure CurveQuote where
  amountOut : Int
  usedUnderlying : Bool

/-- `build_curve_quote_calldata`. -/
def curveCalldata (i j dx : Int) (underlying : Bool) : Option String :=
  callData
    (if underlying then "get_dy_underlying(int128,int128,uint256)"
      else "get_dy(int128,int128,uint256)")
    [encInt i, encInt j, encUint dx]

/-- `parse_curve_quote_result`. -/
def parseCurve (result : RpcResult) : Option Int := do
  let raw ← result.raw
  if raw.length < 32 then none
  else return wordAt raw 0

/-- `_call`; nothing where it raises. -/
def curveCall (rpc : Rpc) (pool : String) (i j dx : Int) (underlying : Bool) :
    Option (Option Int) :=
  (curveCalldata i j dx underlying).map fun data => parseCurve (rpc.ethCall pool data)

/-- `quote_curve`: the other function is asked when the preferred one has no answer. -/
def quoteCurve (rpc : Rpc) (pool : String) (i j amountIn : Int) (preferUnderlying : Bool) :
    Option CurveQuote := do
  match ← curveCall rpc pool i j amountIn preferUnderlying with
  | some out => return ⟨out, preferUnderlying⟩
  | none =>
    match ← curveCall rpc pool i j amountIn (!preferUnderlying) with
    | some out => return ⟨out, !preferUnderlying⟩
    | none => none

structure CurveRequest where
  pool : String
  i : Int
  j : Int
  dx : Int
  preferUnderlying : Bool

def CurveRequest.call (r : CurveRequest) (underlying : Bool) : Option CallParam :=
  (curveCalldata r.i r.j r.dx underlying).map (CallParam.object r.pool)

def CurveRequest.quote (underlying : Bool) (out : Option Int) : Option CurveQuote :=
  out.map fun out => ⟨out, underlying⟩

/-- The second answers go to the requests without a first one, in order. -/
def fillMissing : List (Option CurveQuote) → List (Option CurveQuote) → List (Option CurveQuote)
  | [], _ => []
  | some q :: first, second => some q :: fillMissing first second
  | none :: first, [] => none :: fillMissing first []
  | none :: first, q :: second => q :: fillMissing first second

def quoteCurveMany (rpc : Rpc) (reqs : List CurveRequest) :
    Option (List (Option CurveQuote)) := do
  let calls ← reqs.mapM fun r => r.call r.preferUnderlying
  let first := List.zipWith
    (fun r result => CurveRequest.quote r.preferUnderlying (parseCurve result))
    reqs (rpc.ethCallBatch calls)
  let needFallback :=
    ((reqs.zip first).filter fun p => p.2.isNone).map Prod.fst
  let calls2 ← needFallback.mapM fun r => r.call (!r.preferUnderlying)
  let second := List.zipWith
    (fun r result => CurveRequest.quote (!r.preferUnderlying) (parseCurve result))
    needFallback (rpc.ethCallBatch calls2)
  return fillMissing first second

/-! ## Routers with `getAmountsOut` -/

/-- The last amount of a `uint256[]` of two, in an answer of at least `size` bytes. -/
def parseAmountsOut (size : Nat) (result : RpcResult) : Option Int := do
  let raw ← result.raw
  if raw.length < size then none
  else
    let offset := wordAt raw 0
    if raw.length < offset + 96 then none
    else if wordAt raw offset < 2 then none
    else if 0 < wordAt raw (offset + 64) then return wordAt raw (offset + 64)
    else none

structure AerodromeQuote where
  amountOut : Int
  stable : Bool
  factory : String

/-- `_route_calldata`. -/
def aerodromeCalldata (tokenIn tokenOut : String) (stable : Bool) (factory : String)
    (amountIn : Int) : Option String :=
  callData "getAmountsOut(uint256,(address,address,bool,address)[])"
    [encUint amountIn, encUint 64, encUint 1, encAddress tokenIn.toList, encAddress tokenOut.toList,
      encBool stable, encAddress factory.toList]

def quoteAerodrome (rpc : Rpc) (router tokenIn tokenOut : String) (amountIn : Int) (stable : Bool)
    (factory : String) : Option AerodromeQuote := do
  let data ← aerodromeCalldata tokenIn tokenOut stable factory amountIn
  let out ← parseAmountsOut 96 (rpc.ethCall router data)
  return ⟨out, stable, factory⟩

def quoteAerodromeMany (rpc : Rpc) (router : String)
    (reqs : List (String × String × Int × Bool × String)) :
    Option (List (Option AerodromeQuote)) := do
  let calls ← reqs.mapM fun (tokenIn, tokenOut, amountIn, stable, factory) =>
    (aerodromeCalldata tokenIn tokenOut stable factory amountIn).map (CallParam.object router)
  return List.zipWith (fun (_, _, _, stable, factory) result =>
    (parseAmountsOut 96 result).map fun out => ⟨out, stable, factory⟩) reqs (rpc.ethCallBatch calls)

/-- `_calldata` of the two constant-product adapters. -/
def amountsOutCalldata (tokenIn tokenOut : String) (amountIn : Int) : Option String :=
  callData "getAmountsOut(uint256,address[])"
    [encUint amountIn, encUint 64, encUint 2, encAddress tokenIn.toList, encAddress tokenOut.toList]

def quoteRouter (size : Nat) (rpc : Rpc) (router tokenIn tokenOut : String) (amountIn : Int) :
    Option Int := do
  parseAmountsOut size (rpc.ethCall router (← amountsOutCalldata tokenIn tokenOut amountIn))

def quoteRouterMany (size : Nat) (rpc : Rpc) (router : String)
    (reqs : List (String × String × Int)) : Option (List (Option Int)) := do
  let calls ← reqs.mapM fun (tokenIn, tokenOut, amountIn) =>
    (amountsOutCalldata tokenIn tokenOut amountIn).map (CallParam.object router)
  return (rpc.ethCallBatch calls).map (parseAmountsOut size)

def quoteCamelotV2 : Rpc → String → String → String → Int → Option Int := quoteRouter 96

def quoteCamelotV2Many : Rpc → String → List (String × String × Int) → Option (List (Option Int)) :=
  quoteRouterMany 96

def quoteConstantProduct : Rpc → String → String → String → Int → Option Int := quoteRouter 128

def quoteConstantProductMany :
    Rpc → String → List (String × String × Int) → Option (List (Option Int)) :=
  quoteRouterMany 128

/-! ## Slipstream -/

structure SlipstreamQuote where
  amountOut : Int
  gasEstimate : Int
  tickSpacing : Int

def encTickSpacing (value : Int) : Option (List Byte) :=
  if value < -2 ^ 23 ∨ 2 ^ 23 ≤ value then none
  else encUint (if 0 ≤ value then value else 2 ^ 256 + value)

def slipstreamCalldata (tokenIn tokenOut : String) (tickSpacing amountIn : Int) : Option String :=
  callData "quoteExactInputSingle((address,address,uint256,int24,uint160))"
    [encAddress tokenIn.toList, encAddress tokenOut.toList, encUint amountIn,
      encTickSpacing tickSpacing, encUint 0]

def SlipstreamQuote.parse (result : RpcResult) (tickSpacing : Int) : Option SlipstreamQuote := do
  let raw ← result.raw
  if raw.length < 128 then none
  else if 0 < wordAt raw 0 then return ⟨wordAt raw 0, wordAt raw 96, tickSpacing⟩
  else none

def quoteSlipstream (rpc : Rpc) (quoter tokenIn tokenOut : String) (tickSpacing amountIn : Int) :
    Option SlipstreamQuote := do
  let data ← slipstreamCalldata tokenIn tokenOut tickSpacing amountIn
  SlipstreamQuote.parse (rpc.ethCall quoter data) tickSpacing

/-- The answers go to the requests that were sent, in order. -/
def scatter {ρ α : Type} (parse : ρ → RpcResult → Option α) :
    List (ρ × Option CallParam) → List RpcResult → List (Option α)
  | [], _ => []
  | (_, none) :: reqs, results => none :: scatter parse reqs results
  | (_, some _) :: reqs, [] => none :: scatter parse reqs []
  | (r, some _) :: reqs, result :: results => parse r result :: scatter parse reqs results

/-- `quote_slipstream_many`: a request that cannot be encoded fails in its own slot. (An amount
above 256 bits makes the source raise, which leaves every slot empty as well.) -/
def quoteSlipstreamMany (rpc : Rpc) (quoter : String)
    (reqs : List (String × String × Int × Int)) : Option (List (Option SlipstreamQuote)) :=
  let calls := reqs.map fun (tokenIn, tokenOut, tickSpacing, amountIn) =>
    (slipstreamCalldata tokenIn tokenOut tickSpacing amountIn).map (CallParam.object quoter)
  some (scatter (fun (_, _, tickSpacing, _) result => SlipstreamQuote.parse result tickSpacing)
    (reqs.zip calls) (rpc.ethCallBatch (calls.filterMap id)))

/-! ## Camelot Algebra -/

structure CamelotAlgebraQuote where
  amountOut : Int
  fee : Int
  gasEstimate : Int

def camelotAlgebraCalldata (tokenIn tokenOut : String) (amountIn : Int) : Option String :=
  callData "quoteExactInputSingle((address,address,uint256,uint160))"
    [encAddress tokenIn.toList, encAddress tokenOut.toList, encUint amountIn, encUint 0]

def CamelotAlgebraQuote.parse (result : RpcResult) : Option CamelotAlgebraQuote := do
  let raw ← result.raw
  if raw.length < 128 then none
  else if 0 < wordAt raw 0 then return ⟨wordAt raw 0, wordAt raw 32, wordAt raw 96⟩
  else none

def quoteCamelotAlgebra (rpc : Rpc) (quoter tokenIn tokenOut : String) (amountIn : Int) :
    Option CamelotAlgebraQuote := do
  let data ← camelotAlgebraCalldata tokenIn tokenOut amountIn
  CamelotAlgebraQuote.parse (rpc.ethCall quoter data)

/-- `quote_camelot_algebra_many`: what it sends has no quoter. -/
def quoteCamelotAlgebraMany (rpc : Rpc) (reqs : List (String × String × Int)) :
    Option (List (Option CamelotAlgebraQuote)) := do
  let calls ← reqs.mapM fun (tokenIn, tokenOut, amountIn) =>
    (camelotAlgebraCalldata tokenIn tokenOut amountIn).map CallParam.bare
  return (rpc.ethCallBatch calls).map CamelotAlgebraQuote.parse

/-! ## Balancer -/

/-- `build_balancer_query_batchswap_calldata`: the head of seven words, one swap, two assets. -/
def balancerCalldata (poolId tokenIn tokenOut : String) (amountIn : Int) : Option String :=
  let pool := (fromHex ((strip0x poolId.toList).getD poolId.toList)).filter fun raw =>
    raw.length == 32
  let zero := encAddress "0x0000000000000000000000000000000000000000".toList
  if amountIn ≤ 0 then none
  else
    callData
      ("queryBatchSwap(uint8,(bytes32,uint256,uint256,uint256,bytes)[],address[],"
        ++ "(address,bool,address,bool))")
      [encUint 0, encUint (32 * 7), encUint (32 * 7 + 32 * 8), zero, encBool false, zero,
        encBool false, encUint 1, encUint 32, pool, encUint 0, encUint 1, encUint amountIn,
        encUint (32 * 5), encUint 0, encUint 2, encAddress tokenIn.toList,
        encAddress tokenOut.toList]

def signedWordAt (raw : List Byte) (offset : Nat) : Int :=
  if 2 ^ 255 ≤ wordAt raw offset then wordAt raw offset - 2 ^ 256 else wordAt raw offset

/-- `_decode_balancer_swap_deltas`; nothing where it raises. -/
def decodeBalancerSwapDeltas (raw : List Byte) : Option (List Int) :=
  if raw.length < 64 ∨ raw.length % 32 ≠ 0 ∨ wordAt raw 0 ≠ 32
      ∨ raw.length ≠ 64 + wordAt raw 32 * 32 then none
  else some ((List.range (wordAt raw 32)).map fun k => signedWordAt raw (64 + 32 * k))

def quoteFromDeltas (expectedAmountIn : Int) : List Int → Option Int
  | [d0, d1] =>
    if expectedAmountIn ≤ 0 ∨ d0 ≠ expectedAmountIn then none
    else if 0 < -d1 then some (-d1) else none
  | _ => none

def decodeBalancerRpcResult (expectedAmountIn : Int) : RpcResult → Option Int
  | .failed deltas => deltas.bind (quoteFromDeltas expectedAmountIn)
  | .answered result =>
    ((RpcResult.answered result).raw.bind decodeBalancerSwapDeltas).bind
      (quoteFromDeltas expectedAmountIn)

def quoteBalancerGivenIn (rpc : Rpc) (vault poolId tokenIn tokenOut : String) (amountIn : Int) :
    Option Int := do
  let data ← balancerCalldata poolId tokenIn tokenOut amountIn
  decodeBalancerRpcResult amountIn (rpc.ethCall vault data)

/-- `quote_balancer_given_in_many`: a request that cannot be encoded fails in its own slot. -/
def quoteBalancerGivenInMany (rpc : Rpc) (vault : String)
    (reqs : List (String × String × String × Int)) : Option (List (Option Int)) :=
  let calls := reqs.map fun (poolId, tokenIn, tokenOut, amountIn) =>
    (balancerCalldata poolId tokenIn tokenOut amountIn).map (CallParam.object vault)
  some (scatter (fun (_, _, _, amountIn) result => decodeBalancerRpcResult amountIn result)
    (reqs.zip calls) (rpc.ethCallBatch (calls.filterMap id)))

end SovereignCapital.Engine
