import SovereignCapital.Abi.Ethabi
import SovereignCapital.Discovery.Manager
import SovereignCapital.Lib.Routines

/-! # The discovery routines

The programs of the eight routines: each reads the configuration, asks the chain, and makes
operations on the manager. What a routine does between two questions is made of operations that
may come one by one here. A routine that returns, or raises what the handler around it catches or
not, just ends: what it has done so far stays.
-/

namespace SovereignCapital.Discovery

open Bytes Abi Routine

/-! ## Operations -/

/-- What is done to the manager at once. -/
inductive Op where
  | look
  /-- `_last_…_run_block` -/
  | mark (venue : Venue) (block : Int)
  /-- The tokens of a pool are observed, and it is filed unless its key is taken. -/
  | take (source : Text) (p : Pool)
  /-- A pool is filed whatever is there. -/
  | put (p : Pool)
  /-- The coins of a Curve pool are observed and its pairs filed. -/
  | curve (pool : Text) (coins : List Text) (balances : List Nat) (block : Int)
  /-- The tokens of a Balancer pool are observed and its pairs filed. -/
  | balancer (poolId pool : Text) (tokens : List Text) (balances : List Nat) (block : Int)
  | save

/-- What happens to the process. -/
inductive Outer where
  | disk (ok : Bool)
  | restart (config : Config) (cap : Nat)

def World.observe (w : World) (source : Text) (tokens : List Text) : World :=
  { w with manager := Manager.observe source tokens w.manager }

def curvePools (pool : Text) (block : Int) (pairs : List (Nat × Text × Nat × Text)) : List Pool :=
  pairs.flatMap fun p =>
    [⟨pool, p.2.1, p.2.2.2, block, block, .curve p.1 p.2.2.1⟩,
      ⟨pool, p.2.2.2, p.2.1, block, block, .curve p.2.2.1 p.1⟩]

def balancerPools (poolId pool : Text) (block : Int) (pairs : List (Nat × Text × Nat × Text)) :
    List Pool :=
  pairs.flatMap fun p =>
    [⟨pool, p.2.1, p.2.2.2, block, block, .balancer poolId⟩,
      ⟨pool, p.2.2.2, p.2.1, block, block, .balancer poolId⟩]

section Hash

variable (stableHash : Text → Nat)

/-- The records that an operation files where their keys are free. -/
def Op.files (w : World) : Op → List Pool
  | .take _ p => [p]
  | .curve pool coins balances block =>
    curvePools pool block
      ((w.observe "curve_pool_candidate".toList coins).supportedDiscoveryPairs stableHash coins
        balances)
  | .balancer poolId pool tokens balances block =>
    balancerPools poolId pool block
      ((w.observe "balancer_pool_candidate".toList tokens).supportedDiscoveryPairs stableHash
        tokens balances)
  | _ => []

/-- The source and the tokens that an operation observes. -/
def Op.observes : Op → Text × List Text
  | .take source p => (source, [p.tokenIn, p.tokenOut])
  | .curve _ coins _ _ => ("curve_pool_candidate".toList, coins)
  | .balancer _ _ tokens _ _ => ("balancer_pool_candidate".toList, tokens)
  | _ => ([], [])

def Op.apply (op : Op) (w : World) : World :=
  match op with
  | .look => w
  | .mark venue block =>
    { w with
      manager := { w.manager with
        lastRun := fun v => if v = venue then block else w.manager.lastRun v } }
  | .put p => { w with manager := w.manager.file p.table p.key p }
  | .save => if w.diskOk then { w with saved := some w.manager.document } else w
  | op =>
    { w with
      manager := (Manager.observe op.observes.1 op.observes.2 w.manager).addAll
        (op.files stableHash w) }

def Outer.apply (e : Outer) (w : World) : World :=
  match e with
  | .disk ok => { w with diskOk := ok }
  | .restart config cap => { w with config := config, manager := Manager.load cap w.saved }

def Outer.fatal : Outer → Bool
  | .disk _ => false
  | .restart _ _ => true

end Hash

/-! ## Questions to the chain -/

inductive Request where
  | call (target signature : Text) (args : List (List Byte))
  | logs (address : Text) (fromBlock toBlock : Int) (topic : Text)
  | batch (calls : List Request)

/-- `caught`: the exception is one of `_SAFE_DISCOVERY_RUNTIME_EXCEPTIONS`. A call that is not `ok`
has no result. -/
inductive Reply where
  | raised (caught : Bool)
  | call (result : Option PyTree)
  | logs (logs : List PyTree)
  | batch (results : List (Option PyTree))

abbrev Program (β : Type) := Routine Op World Request Reply β

def ethCall (target signature : Text) (args : List (List Byte)) : Program (Option PyTree) :=
  await (.call target signature args) fun
    | .call result => done result
    | _ => stop

/-- `rpc.eth_get_logs` under its own handler; nothing where that catches an exception. -/
def ethGetLogs (address : Text) (fromBlock toBlock : Int) (topic : Text) :
    Program (Option (List PyTree)) :=
  await (.logs address fromBlock toBlock topic) fun
    | .logs logs => done (some logs)
    | .raised true => done none
    | _ => stop

def ethCallBatch (calls : List Request) : Program (List (Option PyTree)) :=
  await (.batch calls) fun
    | .batch results => done results
    | _ => stop

/-- `_decode_address(r.result) if r.ok else ""`. -/
def decodedCall (r : Option PyTree) : Text := r.elim [] decodeAddress

/-- `int(r.result, 16)` of an answer that is `ok` and a text; the inner option is nothing where the
conversion raises. -/
def hexAnswer (r : Option PyTree) : Option (Option Int) :=
  match r with
  | some (.leaf (.text s)) => some (pyInt 16 s.toList)
  | _ => none

/-! ## Events -/

/-- What is read of a log: it is passed over, or the routine ends, or there is a pool. -/
inductive Reading where
  | skip
  | stop
  | pool (p : Pool)

def topicsOf (log : PyTree) (count : Nat) : Option (List PyTree) :=
  match log with
  | .dict items _ =>
    match PyMap.get items "topics" with
    | .list topics _ => if topics.length < count then none else some topics
    | _ => none
  | _ => none

/-- `str(topics[i] or default)`. -/
def topicText (topics : List PyTree) (i : Nat) (default : String) : PyTree :=
  .leaf (.text ((topics[i]?.getD (.leaf .none)).orElse (.leaf (.text default))).str)

/-- `int(str(topics[i] or "0"), 16)`. -/
def topicInt (topics : List PyTree) (i : Nat) : Option Int :=
  pyInt 16 ((topics[i]?.getD (.leaf .none)).orElse (.leaf (.text "0"))).str.toList

def dataAddress (log : PyTree) (i : Nat) : Text :=
  match (words (PyMap.get log.mapping "data"))[i]? with
  | none => []
  | some word => lastTwenty word

/-- `list(logs or [])[-count:]`. -/
def lastLogs (logs : List PyTree) (count : Int) : List PyTree :=
  logs.drop (logs.length - count.toNat)

structure Seen where
  token0 : Text
  token1 : Text
  pool : Text

def seenIn (topics : List PyTree) (log : PyTree) (dataWord : Nat) : Seen where
  token0 := decodeAddress (topicText topics 1 "")
  token1 := decodeAddress (topicText topics 2 "")
  pool := dataAddress log dataWord

def Seen.Complete (seen : Seen) : Prop := seen.token0 ≠ [] ∧ seen.token1 ≠ [] ∧ seen.pool ≠ []

instance (seen : Seen) : Decidable seen.Complete := by unfold Seen.Complete; infer_instance

def Seen.Full (seen : Seen) : Prop := ¬ Blank seen.token0 ∧ ¬ Blank seen.token1 ∧ ¬ Blank seen.pool

instance (seen : Seen) : Decidable seen.Full := by unfold Seen.Full; infer_instance

def Seen.record (seen : Seen) (block : Int) (detail : Detail) : Pool :=
  ⟨seen.pool, seen.token0, seen.token1, block, block, detail⟩

/-- `{token0.lower(), token1.lower()} & tokens`. -/
def Seen.Touches (seen : Seen) (tokens : List Text) : Prop :=
  pyLower seen.token0 ∈ tokens ∨ pyLower seen.token1 ∈ tokens

instance (seen : Seen) (tokens : List Text) : Decidable (seen.Touches tokens) := by
  unfold Seen.Touches
  infer_instance

def readAerodrome (anchors : List Text) (factory : Text) (block : Int) (log : PyTree) : Reading :=
  match topicsOf log 4 with
  | none => .skip
  | some topics =>
    match topicInt topics 3 with
    | none => .stop
    | some stable =>
      if (seenIn topics log 0).Complete ∧ (seenIn topics log 0).Touches anchors then
        .pool ((seenIn topics log 0).record block (.aerodrome (decide (stable ≠ 0)) factory))
      else .skip

/-- An `int24` in a word. -/
def signed (n : Int) : Int := if 2 ^ 255 ≤ n then n - 2 ^ 256 else n

def readSlipstream (anchors : List Text) (factory : Text) (block : Int) (log : PyTree) : Reading :=
  match topicsOf log 4 with
  | none => .skip
  | some topics =>
    match topicInt topics 3 with
    | none => .skip
    | some spacing =>
      if (seenIn topics log 0).Complete ∧ 0 < signed spacing
          ∧ (seenIn topics log 0).Touches anchors then
        .pool ((seenIn topics log 0).record block (.slipstream (signed spacing) factory))
      else .skip

/-- The tick spacing is asked for afterwards. -/
def readCamelotAlgebra (anchors : List Text) (log : PyTree) : Option Seen :=
  match topicsOf log 3 with
  | none => none
  | some topics =>
    if (seenIn topics log 0).Complete ∧ (seenIn topics log 0).Touches anchors then
      some (seenIn topics log 0)
    else none

def readUniv3 (anchors : List Text) (block : Int) (log : PyTree) : Reading :=
  match topicsOf log 4 with
  | none => .skip
  | some topics =>
    match topicInt topics 3 with
    | none => .skip
    | some fee =>
      if (seenIn topics log 1).Full ∧ 0 < fee ∧ (seenIn topics log 1).Touches anchors then
        .pool ((seenIn topics log 1).record block (.v3 fee))
      else .skip

/-! ## Loops over events -/

/-- The pools of some logs are taken up; the result says whether one was new. -/
def takeEach (source : Text) (read : PyTree → Reading) : List PyTree → Bool → Program Bool
  | [], changed => done changed
  | log :: rest, changed =>
    match read log with
    | .skip => takeEach source read rest changed
    | .stop => stop
    | .pool p =>
      act (.take source p) fun w => takeEach source read rest (changed || !w.manager.has p)

def aerodromeFactories (cfg : Config) (anchors : List Text) (block : Int) :
    List Text → Bool → Program Bool
  | [], changed => done changed
  | factory :: rest, changed => do
    let logs ← ethGetLogs factory
      (max 0 (block - max 1 (orInt cfg.discoveryLogWindowBlocks 50000))) block
      (topic0 "PoolCreated(address,address,bool,address,uint256)".toList)
    match logs with
    | none => aerodromeFactories cfg anchors block rest changed
    | some logs => do
      let changed ← takeEach "aerodrome_pool_created".toList
        (readAerodrome anchors factory block)
        (lastLogs logs (max 1 (orInt cfg.discoveryPoolMaxCandidates 48))) changed
      aerodromeFactories cfg anchors block rest changed

/-- A pool of Slipstream is verified before it is taken up. -/
def slipstreamLogs (anchors : List Text) (factory : Text) (block : Int) :
    List PyTree → Bool → Program Bool
  | [], changed => done changed
  | log :: rest, changed =>
    match readSlipstream anchors factory block log with
    | .skip => slipstreamLogs anchors factory block rest changed
    | .stop => stop
    | .pool p => do
      let membership ← ethCall factory "isPool(address)".toList (encAddress p.pool).toList
      match hexAnswer membership with
      | none => slipstreamLogs anchors factory block rest changed
      | some none => stop
      | some (some n) =>
        if n = 0 then slipstreamLogs anchors factory block rest changed
        else do
          let liquidity ← ethCall p.pool "liquidity()".toList []
          match hexAnswer liquidity with
          | none => slipstreamLogs anchors factory block rest changed
          | some none => stop
          | some (some n) =>
            if n ≤ 0 then slipstreamLogs anchors factory block rest changed
            else
              act (.take "slipstream_pool_created".toList p) fun w =>
                slipstreamLogs anchors factory block rest (changed || !w.manager.has p)

def slipstreamFactories (cfg : Config) (anchors : List Text) (block : Int) :
    List Text → Bool → Program Bool
  | [], changed => done changed
  | factory :: rest, changed => do
    let logs ← ethGetLogs factory
      (max 0 (block - max 1 (orInt cfg.discoveryLogWindowBlocks 50000))) block
      (topic0 "PoolCreated(address,address,int24,address)".toList)
    match logs with
    | none => slipstreamFactories cfg anchors block rest changed
    | some logs => do
      let changed ← slipstreamLogs anchors factory block
        (lastLogs logs (max 1 (orInt cfg.discoveryPoolMaxCandidates 48))) changed
      slipstreamFactories cfg anchors block rest changed

/-- A pool of Camelot is asked for its tick spacing and liquidity before it is taken up. -/
def camelotAlgebraLogs (anchors : List Text) (factory : Text) (block : Int) :
    List PyTree → Bool → Program Bool
  | [], changed => done changed
  | log :: rest, changed =>
    match readCamelotAlgebra anchors log with
    | none => camelotAlgebraLogs anchors factory block rest changed
    | some seen => do
      let spacingCall ← ethCall seen.pool "tickSpacing()".toList []
      let liquidityCall ← ethCall seen.pool "liquidity()".toList []
      match hexAnswer spacingCall, hexAnswer liquidityCall with
      | some (some spacing), some (some liquidity) =>
        if spacing ≤ 0 ∨ liquidity ≤ 0 then
          camelotAlgebraLogs anchors factory block rest changed
        else
          act (.take "camelot_algebra_pool_created".toList
              (seen.record block (.camelotAlgebra spacing factory))) fun w =>
            camelotAlgebraLogs anchors factory block rest
              (changed
                || !w.manager.has (seen.record block (.camelotAlgebra spacing factory)))
      | _, _ => camelotAlgebraLogs anchors factory block rest changed

/-! ## Loops over pairs -/

def pairsOf : List Text → List (Text × Text)
  | [] => []
  | a :: rest => rest.map (fun b => (a, b)) ++ pairsOf rest

/-- The two words of a pair; nothing where one is no address. -/
def encPair (a b : Text) : Option (List (List Byte)) := do
  let a ← encAddress a
  let b ← encAddress b
  return [a, b]

def camelotV2Pairs (factory : Text) (block : Int) : List (Text × Text) → Bool → Program Bool
  | [], changed => done changed
  | (a, b) :: rest, changed =>
    match encPair a b with
    | none => stop
    | some args => do
      let result ← ethCall factory "getPair(address,address)".toList args
      if Blank (decodedCall result) then camelotV2Pairs factory block rest changed
      else
        act (.take "camelot_v2_pair".toList
            ⟨decodedCall result, a, b, block, block, .camelotV2 factory⟩) fun w =>
          camelotV2Pairs factory block rest
            (changed
              || !w.manager.has ⟨decodedCall result, a, b, block, block, .camelotV2 factory⟩)

def constantProductResults (venue : ConstantProductVenue) (block : Int) :
    List (Text × Text) → List (Option PyTree) → Bool → Program Bool
  | (a, b) :: pairs, result :: results, changed =>
    if Blank (decodedCall result) then constantProductResults venue block pairs results changed
    else
      act (.take (venue.name ++ "_pair".toList)
          ⟨decodedCall result, a, b, block, block,
            .constantProduct venue.factory venue.router venue.name⟩) fun w =>
        constantProductResults venue block pairs results
          (changed || !w.manager.has ⟨decodedCall result, a, b, block, block,
            .constantProduct venue.factory venue.router venue.name⟩)
  | _, _, changed => done changed

def constantProductVenues (block : Int) (pairs : List (Text × Text)) :
    List ConstantProductVenue → Bool → Program Bool
  | [], changed => done changed
  | venue :: rest, changed =>
    if venue.factory = [] ∨ venue.router = [] ∨ venue.name = [] ∨ pairs = [] then
      constantProductVenues block pairs rest changed
    else
      match pairs.mapM fun pair => encPair pair.1 pair.2 with
      | none => stop
      | some args => do
        let results ← ethCallBatch
          (args.map fun a => .call venue.factory "getPair(address,address)".toList a)
        let changed ← constantProductResults venue block pairs results changed
        constantProductVenues block pairs rest changed

/-- The pairs of UniswapV3 at every fee: what is left to ask for, and how often it still may be
asked. Between the look at the table and the record stands the question. -/
def univ3Pools (factory : Text) (block : Int) :
    List ((Text × Text) × Int) → Nat → Bool → Program Bool
  | [], _, added => done added
  | _ :: _, 0, added => done added
  | ((a, b), fee) :: rest, calls + 1, added =>
    act .look fun w =>
      if w.manager.has ⟨[], a, b, block, block, .v3 fee⟩ then
        univ3Pools factory block rest (calls + 1) added
      else
        match encPair a b, encUint fee with
        | some args, some word => do
          let r ← ethCall factory "getPool(address,address,uint24)".toList (args ++ [word])
          if Blank (decodedCall r) then univ3Pools factory block rest calls added
          else
            act (.put ⟨decodedCall r, a, b, block, block, .v3 fee⟩) fun _ =>
              univ3Pools factory block rest calls true
        | _, _ => stop

/-! ## The tokens that are paired -/

/-- `max(1, min(8, …))` of the cap; eight where the setting is no integer. -/
def smallCap (setting : Option Text) : Nat :=
  (max 1 (min 8 ((intSetting setting 8).getD 8))).toNat

/-- The tokens that the constant-product venues pair; nothing where the setting is no integer. -/
def World.constantProductTokens (w : World) : Option (List Text) :=
  (intSetting w.config.frontierTokenCap 8).map fun cap =>
    (w.config.tokenUniverse.filter fun t => t != [])
      ++ ((w.outside.insertionSort fun a b => textLe a b).take (max 1 (min 8 cap)).toNat)

section Hash

variable (stableHash : Text → Nat)

def World.camelotV2Tokens (w : World) : List Text :=
  w.config.anchors
    ++ (sortedBy
        (fun t => stableHash ("camelot-v2-frontier:".toList ++ w.config.chainName ++ ':' :: t))
        ((w.researchFrontierTokens stableHash).filter fun t => decide (t ∉ w.config.anchors))).take
      (smallCap w.config.frontierTokenCap)

/-- `f"disc:{block}:{chain}"`. -/
def seed (cfg : Config) (block : Int) : Text :=
  "disc:".toList ++ pyDecimal block ++ ':' :: cfg.chainName

/-- The pairs of a configured and an observed token. -/
def World.frontierPairs (w : World) (block : Int) : List (Text × Text) :=
  ((sortedBy (fun t => stableHash (seed w.config block ++ ":frontier:".toList ++ t)) w.outside).take
      (smallCap w.config.frontierTokenCap)).flatMap fun token =>
    (sortedBy (fun t => stableHash (seed w.config block ++ ":anchor:".toList ++ t))
      w.config.anchors.dedup).map fun anchor => (anchor, token)

def wethPairs (cfg : Config) (block : Int) : List (Text × Text) :=
  if cfg.weth ≠ [] ∧ cfg.tokenUniverse.any (fun t => pyLower t == pyLower cfg.weth) then
    ((sortedBy (fun t => stableHash (seed cfg block ++ ":weth:".toList ++ t))
        ((cfg.tokenUniverse.map pyLower).filter fun t => t != pyLower cfg.weth)).take 12).map
      fun t => (pyLower cfg.weth, t)
  else []

/-- The `k`th of the pairs that are drawn from the configured tokens. -/
def drawnPair (cfg : Config) (block : Int) (tokens : List Text) (k : Nat) : Option (Text × Text) :=
  let i := stableHash (seed cfg block ++ ":i:".toList ++ pyDecimal k) % tokens.length
  let j := stableHash (seed cfg block ++ ":j:".toList ++ pyDecimal k) % tokens.length
  match tokens[i]?, tokens[if i = j then (j + 1) % tokens.length else j]? with
  | some a, some b => if textLe a b then some (a, b) else some (b, a)
  | _, _ => none

def addDrawn (pairs : List (Text × Text)) : Option (Text × Text) → List (Text × Text)
  | none => pairs
  | some (a, b) => if a = b ∨ (a, b) ∈ pairs then pairs else pairs ++ [(a, b)]

def World.univ3Pairs (w : World) (block : Int) : List (Text × Text) :=
  ((List.range (min 250 (orInt w.config.discoveryMaxCalls 24 * 4)).toNat).map
      (drawnPair stableHash w.config block
        (sortedBy (fun t => stableHash (seed w.config block ++ ":tok:".toList ++ t))
          w.config.anchors.dedup))).foldl addDrawn
    (w.frontierPairs stableHash block ++ wethPairs stableHash w.config block)

end Hash

/-! ## Curve and Balancer -/

/-- The pools of the registry at some positions. -/
def curveIndices (registry : Text) (block : Int) : List Nat → Program Unit
  | [] => done ()
  | idx :: rest =>
    (encUint idx).elim stop fun word => do
      let poolCall ← ethCall registry "pool_list(uint256)".toList [word]
      if Blank (decodedCall poolCall) then curveIndices registry block rest
      else do
        let coins ← ethCall registry "get_coins(address)".toList
          (encAddress (decodedCall poolCall)).toList
        let balances ← ethCall registry "get_balances(address)".toList
          (encAddress (decodedCall poolCall)).toList
        act (.curve (decodedCall poolCall) (coins.elim [] fun v => decodeFixedAddresses v 8)
            (balances.elim [] fun v => decodeFixedUints v 8) block) fun _ =>
          curveIndices registry block rest

/-- The number of pools in an answer: the digits after the first two signs. -/
def poolCount (r : Option PyTree) : Option Nat :=
  match r with
  | some (.leaf (.text s)) => (fromHex (s.toList.drop 2)).map beNat
  | _ => none

/-- `str(topics[1] or "")`. -/
def poolIdOf (topics : List PyTree) : Text :=
  ((topics[1]?.getD (PyTree.leaf .none)).orElse (.leaf (.text ""))).str.toList

def balancerLogs (vault : Text) (block : Int) : List PyTree → Program Unit
  | [] => done ()
  | log :: rest =>
    match topicsOf log 3 with
    | none => balancerLogs vault block rest
    | some topics =>
      if poolIdOf topics = [] ∨ Blank (decodeAddress (topicText topics 2 "")) then
        balancerLogs vault block rest
      else
        match fromHex ((poolIdOf topics).drop 2) with
        | none => stop
        | some word => do
          let r ← ethCall vault "getPoolTokens(bytes32)".toList [word]
          match r with
          | none => balancerLogs vault block rest
          | some v =>
            act (.balancer (poolIdOf topics) (decodeAddress (topicText topics 2 ""))
                (decodeBalancerPoolTokens v).1 (decodeBalancerPoolTokens v).2
                block) fun _ =>
              balancerLogs vault block rest

/-! ## The routines -/

/-- The routine runs unless it did so not long ago; it is marked before it goes on. -/
def whenDue (venue : Venue) (block interval : Int) (body : World → Program Unit) : Program Unit :=
  act .look fun w =>
    if w.manager.lastRun venue ≠ 0 ∧ block - w.manager.lastRun venue < interval then done ()
    else act (.mark venue block) body

/-- `if changed: self._save()`. -/
def saveIf (changed : Bool) : Program Unit :=
  if changed then act .save fun _ => done () else done ()

section Hash

variable (stableHash : Text → Nat)

def discoverAerodrome (block : Int) : Program Unit :=
  act .look fun w =>
    if w.config.aerodromeRouter = [] ∨ w.config.enableDiscovery = false then done ()
    else
      whenDue .aerodrome block (orInt w.config.discoveryIntervalBlocks 50) fun w => do
        let registryCall ← ethCall w.config.aerodromeRouter "factoryRegistry()".toList []
        let registry :=
          if decodedCall registryCall = [] then w.config.aerodromeFactoryRegistry
          else decodedCall registryCall
        if registry = [] then done ()
        else do
          let factoriesCall ← ethCall registry "poolFactories()".toList []
          let factories :=
            ((factoriesCall.elim [] fun v => decodeDynamicArray v 0).map lastTwenty).take 16
          let w ← perform .look
          let changed ← aerodromeFactories w.config (w.frontier stableHash) block factories false
          saveIf changed

def discoverSlipstream (block : Int) : Program Unit :=
  act .look fun w =>
    if (w.config.slipstreamFactories.filter fun t => t != []) = []
        ∨ w.config.enableDiscovery = false then done ()
    else
      whenDue .slipstream block (orInt w.config.discoveryIntervalBlocks 50) fun w => do
        let changed ← slipstreamFactories w.config (w.frontier stableHash) block
          ((w.config.slipstreamFactories.filter fun t => t != []).take 8) false
        saveIf changed

def discoverCamelotV2 (block : Int) : Program Unit :=
  act .look fun w =>
    if w.config.camelotV2Factory = [] ∨ w.config.enableDiscovery = false then done ()
    else
      whenDue .camelotV2 block (orInt w.config.discoveryIntervalBlocks 50) fun w => do
        let changed ← camelotV2Pairs w.config.camelotV2Factory block
          ((pairsOf (w.camelotV2Tokens stableHash)).eraseDups.take
            (max 1 (orInt w.config.discoveryMaxCalls 24)).toNat) false
        saveIf changed

def discoverCamelotAlgebra (block : Int) : Program Unit :=
  act .look fun w =>
    if w.config.camelotAlgebraFactory = [] ∨ w.config.enableDiscovery = false then done ()
    else
      whenDue .camelotAlgebra block (orInt w.config.discoveryIntervalBlocks 50) fun w => do
        let logs ← ethGetLogs w.config.camelotAlgebraFactory
          (max 0 (block - max 1 (orInt w.config.discoveryLogWindowBlocks 50000))) block
          "0x91ccaa7a278130b65168c3a0c8d3bcae84cf5e43704342bd3ec0b59e59c036db".toList
        match logs with
        | none => done ()
        | some logs => do
          let changed ← camelotAlgebraLogs w.config.anchors w.config.camelotAlgebraFactory block
            (lastLogs logs (max 1 (orInt w.config.discoveryPoolMaxCandidates 48))) false
          saveIf changed

def discoverUniv3PoolEvents (cfg : Config) (block : Int) : Program Unit := do
  let logs ← ethGetLogs cfg.univ3Factory
    (max 0 (block - max 1 (orInt cfg.discoveryLogWindowBlocks 50000))) block
    "0x783cca1c0412dd0d695e784568c96da2e9c22ff989357a2e8b1d9b2b4e6b7118".toList
  match logs with
  | none => done ()
  | some logs => do
    let w ← perform .look
    let changed ← takeEach "univ3_pool_created".toList
      (readUniv3 (w.frontier stableHash) block)
      (lastLogs logs (max 1 (orInt cfg.discoveryPoolMaxCandidates 24))) false
    saveIf changed

def discoverUniv3 (block : Int) : Program Unit :=
  act .look fun w =>
    if w.config.enableDiscovery = false ∨ w.config.univ3Factory = []
        ∨ w.config.tokenUniverse.length < 2 ∨ orInt w.config.discoveryMaxCalls 24 ≤ 0 then done ()
    else
      whenDue .univ3 block (orInt w.config.discoveryIntervalBlocks 50) fun w => do
        discoverUniv3PoolEvents stableHash w.config block
        let w ← perform .look
        let added ← univ3Pools w.config.univ3Factory block
          ((w.univ3Pairs stableHash block).flatMap fun pair =>
            [100, 500, 3000, 10000].map fun fee => (pair, fee))
          (orInt w.config.discoveryMaxCalls 24).toNat false
        saveIf added

end Hash

def ConstantProductVenue.named (venue : ConstantProductVenue) : ConstantProductVenue :=
  { venue with name := pyLower (pyStrip venue.name) }

def discoverConstantProduct (block : Int) : Program Unit :=
  act .look fun w =>
    if w.config.constantProductVenues = [] ∨ w.config.enableDiscovery = false then done ()
    else
      whenDue .constantProduct block (orInt w.config.discoveryIntervalBlocks 50) fun w =>
        match w.constantProductTokens with
        | none => stop
        | some tokens => do
          let changed ← constantProductVenues block
            ((pairsOf tokens).take
              (max 4 (max 1 (orInt w.config.discoveryMaxCalls 24)
                / max 1 (w.config.constantProductVenues.length : Int))).toNat)
            (w.config.constantProductVenues.map ConstantProductVenue.named) false
          saveIf changed

def discoverCurve (block : Int) : Program Unit :=
  act .look fun w =>
    whenDue .curve block (max 1 (orInt w.config.discoveryIntervalBlocks 50)) fun w =>
      if w.config.curveAddressProvider = [] then done ()
      else do
        let registryCall ← ethCall w.config.curveAddressProvider "get_registry()".toList []
        if Blank (decodedCall registryCall) then done ()
        else do
          let countCall ← ethCall (decodedCall registryCall) "pool_count()".toList []
          match poolCount countCall with
          | none => done ()
          | some count =>
            curveIndices (decodedCall registryCall) block
              (List.range' (count - (max 1 (orInt w.config.discoveryPoolMaxCandidates 24)).toNat)
                (min count (max 1 (orInt w.config.discoveryPoolMaxCandidates 24)).toNat)).reverse

def discoverBalancer (block : Int) : Program Unit :=
  act .look fun w =>
    whenDue .balancer block (max 1 (orInt w.config.discoveryIntervalBlocks 50)) fun w =>
      if w.config.balancerVault = [] then done ()
      else do
        let logs ← ethGetLogs w.config.balancerVault
          (max 0 (block - max 1 (orInt w.config.discoveryLogWindowBlocks 50000))) block
          "0x3c13bc30b8e878c53fd2a36b679409c073afd75950be43d8858768e956fbc20e".toList
        match logs with
        | none => stop
        | some logs =>
          balancerLogs w.config.balancerVault block
            (lastLogs logs (max 1 (orInt w.config.discoveryPoolMaxCandidates 24)))

/-- What is started: a routine at a block, or the save after the stages. -/
inductive Start where
  | discover (venue : Venue) (block : Int)
  | persist

def Start.program (stableHash : Text → Nat) : Start → Program Unit
  | .discover .univ3 block => discoverUniv3 stableHash block
  | .discover .curve block => discoverCurve block
  | .discover .balancer block => discoverBalancer block
  | .discover .aerodrome block => discoverAerodrome stableHash block
  | .discover .slipstream block => discoverSlipstream stableHash block
  | .discover .camelotAlgebra block => discoverCamelotAlgebra block
  | .discover .camelotV2 block => discoverCamelotV2 stableHash block
  | .discover .constantProduct block => discoverConstantProduct block
  | .persist => act .save fun _ => done ()

def machine (stableHash : Text → Nat) :
    Routines.Machine Op World Request Reply Start Outer where
  apply := Op.apply stableHash
  outer := Outer.apply
  fatal := Outer.fatal
  code := Start.program stableHash

end SovereignCapital.Discovery
