import SovereignCapital.Lib.Keccak
import SovereignCapital.Lib.PyValue

/-! # The event-fed state of the pools

`PoolStateEventCache`: what `refresh_edges` tracks, what `_apply_log` makes of one log, how
`_reconcile` moves the cursor, and the loop `_run` as a machine of its awaits. Between two awaits
the code runs without a break, so one event of the machine is what happens up to the next await.
-/

namespace SovereignCapital.Pools

open Bytes

/-! ## Logs -/

def topic (signature : String) : Text :=
  with0x (toHex (Keccak.keccak256 (encodeUtf8 signature.toList)))

def syncTopic : Text := topic "Sync(uint112,uint112)"

def v2SwapTopic : Text := topic "Swap(address,uint256,uint256,uint256,uint256,address)"

def v3SwapTopic : Text := topic "Swap(address,address,int256,int256,uint160,uint128,int24)"

def balancerSwapTopic : Text := topic "Swap(bytes32,address,address,uint256,uint256)"

def eventTopics : List Text := [syncTopic, v2SwapTopic, v3SwapTopic, balancerSwapTopic]

/-- A log as the node writes it. `topics` is missing where `list(..)` raises; the index, which tells
two logs of one block apart, is not read. -/
structure Log where
  address : PyValue
  blockNumber : PyValue
  logIndex : PyValue
  topics : Option (List PyValue)
  data : PyValue
  transactionHash : PyValue

namespace Log

def pool (log : Log) : Text := pyLower (pyStrip (log.address.orElse (.text "")).str.toList)

/-- `int(str(log.get("blockNumber") or "0"), 16)`; nothing where it raises. -/
def block (log : Log) : Option Int := pyInt 16 (log.blockNumber.orElse (.text "0")).str.toList

/-- The first topic in lower case, empty without one. -/
def topic0 (log : Log) : Text :=
  match log.topics with
  | some (first :: _) => pyLower first.str.toList
  | _ => []

def dataText (log : Log) : Text := (log.data.orElse (.text "0x")).str.toList

end Log

/-- `_words`: the whole words of the data, up to the first that is not a number. -/
def words (data : Text) : List Int :=
  let raw := (strip0x data).getD data
  (((List.range (raw.length / 64)).map fun i => pyInt 16 ((raw.drop (64 * i)).take 64)).takeWhile
    Option.isSome).filterMap id

def signedWord (value : Int) : Int := if 2 ^ 255 ≤ value then value - 2 ^ 256 else value

def signedInt24 (value : Int) : Int :=
  if 2 ^ 23 ≤ value % 2 ^ 24 then value % 2 ^ 24 - 2 ^ 24 else value % 2 ^ 24

/-! ## States of pools -/

inductive EventType where
  | unknown
  | sync
  | v2Swap
  | v3Swap
  | balancerSwap
  deriving DecidableEq

/-- What the logs of a pool tell about it. -/
structure Reading where
  lastEventType : Option EventType := none
  lastTxHash : String := ""
  reserve0 : Option Int := none
  reserve1 : Option Int := none
  sqrtPriceX96 : Option Int := none
  liquidity : Option Int := none
  tick : Option Int := none
  amount0 : Option Int := none
  amount1 : Option Int := none

structure PoolEventState extends Reading where
  address : Text
  kind : Text := "unknown".toList
  token0 : Text := []
  token1 : Text := []
  lastBlock : Int := 0

/-- The part of `_apply_log` that decodes the event. -/
def Reading.decode (reading : Reading) (log : Log) : Reading :=
  if log.topic0 = syncTopic then
    match words log.dataText with
    | w0 :: w1 :: _ =>
      { reading with lastEventType := some .sync, reserve0 := some w0, reserve1 := some w1 }
    | _ => { reading with lastEventType := some .sync }
  else if log.topic0 = v2SwapTopic then
    match words log.dataText with
    | w0 :: w1 :: _ :: _ :: _ =>
      { reading with
        lastEventType := some .v2Swap
        amount0 := some (signedWord w0)
        amount1 := some (signedWord w1) }
    | _ => { reading with lastEventType := some .v2Swap }
  else if log.topic0 = v3SwapTopic then
    match words log.dataText with
    | w0 :: w1 :: w2 :: w3 :: w4 :: _ =>
      { reading with
        lastEventType := some .v3Swap
        amount0 := some (signedWord w0)
        amount1 := some (signedWord w1)
        sqrtPriceX96 := some w2
        liquidity := some w3
        tick := some (signedInt24 w4) }
    | _ => { reading with lastEventType := some .v3Swap }
  else if log.topic0 = balancerSwapTopic then
    match words log.dataText with
    | w0 :: w1 :: _ =>
      { reading with
        lastEventType := some .balancerSwap
        amount0 := some w0
        amount1 := some w1 }
    | _ => { reading with lastEventType := some .balancerSwap }
  else { reading with lastEventType := some .unknown }

def Reading.read (reading : Reading) (log : Log) : Reading :=
  { reading.decode log with lastTxHash := (log.transactionHash.orElse (.text "")).str }

/-! ## The cache -/

/-- An entry of `_tracked`. -/
structure Entry where
  kind : Text
  tokens : List Text
  deriving DecidableEq

/-- The fields of the constructor that the cursor depends on. -/
structure Settings where
  wsUrls : List Text
  rpcUrls : List Text
  maxAddresses : Int
  reconcileMaxBlocks : Int

/-- `__post_init__`. -/
def Settings.normalized (settings : Settings) : Settings where
  wsUrls := (settings.wsUrls.map pyStrip).filter fun url => url != []
  rpcUrls := (settings.rpcUrls.map pyStrip).filter fun url => url != []
  maxAddresses := max 16 (min 1024 settings.maxAddresses)
  reconcileMaxBlocks := max 1 (min 2000 settings.reconcileMaxBlocks)

structure Cache where
  settings : Settings
  tracked : Dict Text Entry
  states : Dict Text PoolEventState
  lastSeenBlock : Int
  eventCount : Nat
  reconcileCount : Nat
  reconcileMissed : Int
  addressVersion : Nat

namespace Cache

/-- The cache after `__post_init__`. -/
def new (settings : Settings) : Cache where
  settings := settings.normalized
  tracked := Dict.empty
  states := Dict.empty
  lastSeenBlock := 0
  eventCount := 0
  reconcileCount := 0
  reconcileMissed := 0
  addressVersion := 0

def blockOf (cache : Cache) (log : Log) : Int := log.block.getD cache.lastSeenBlock

def tracks (cache : Cache) (log : Log) : Bool :=
  log.pool != [] && cache.tracked.contains log.pool

/-- `state.token0`, `state.token1` from the tracked tokens. -/
def withTokens (state : PoolEventState) : List Text → PoolEventState
  | [] => state
  | [token0] => { state with token0 := token0 }
  | token0 :: token1 :: _ => { state with token0 := token0, token1 := token1 }

def stateAfter (cache : Cache) (log : Log) : PoolEventState :=
  let found := cache.states.getD log.pool { address := log.pool }
  let state := withTokens found ((cache.tracked.get? log.pool).elim [] Entry.tokens)
  { state with
    toReading := state.toReading.read log
    lastBlock := max state.lastBlock (cache.blockOf log) }

/-- `_apply_log`; nothing where it raises. -/
def applyLog (cache : Cache) (log : Log) : Option Cache :=
  if cache.tracks log then
    match log.topics with
    | none => none
    | some _ =>
      some
        { cache with
          states := cache.states.set log.pool (cache.stateAfter log)
          lastSeenBlock := max cache.lastSeenBlock (cache.blockOf log)
          eventCount := cache.eventCount + 1 }
  else some cache

/-- `_apply_log` over the items of an answer, up to the first that raises; whether one did. -/
def applyLogs (cache : Cache) : List Log → Cache × Bool
  | [] => (cache, false)
  | log :: logs =>
    match cache.applyLog log with
    | none => (cache, true)
    | some cache' => cache'.applyLogs logs

/-! ## Tracking -/

/-- An edge, as far as `_edge_pool_address` and `refresh_edges` read it. -/
structure Edge where
  dex : Text
  venue : Text
  tokenIn : Text
  tokenOut : Text
  pool : PyValue
  poolAddress : PyValue

def edgePoolAddress (edge : Edge) : Text :=
  let pool := (edge.pool.orElse (.text "")).str.toList
  let address :=
    if pyLower edge.dex = "curve".toList then if edge.venue != [] then edge.venue else pool
    else if pyLower edge.dex = "balancer".toList then
      (edge.poolAddress.orElse (.text "")).str.toList
    else pool
  let address := pyLower (pyStrip address)
  if (strip0x address).isSome && address.length == 42 then address else []

/-- `tracked` with one more edge: the kind is that of the first edge of a pool. -/
def trackEdge (tracked : Dict Text Entry) (edge : Edge) : Dict Text Entry :=
  let address := edgePoolAddress edge
  if address = [] then tracked
  else
    let entry := tracked.getD address ⟨if edge.dex != [] then edge.dex else "unknown".toList, []⟩
    let tokens := entry.tokens ++ [pyLower edge.tokenIn, pyLower edge.tokenOut]
    tracked.set address { entry with tokens := tokens }

/-- `tracked` with the vault, unless an edge has its address. -/
def trackVault (tracked : Dict Text Entry) (vault : Text) : Dict Text Entry :=
  let vault := pyLower (pyStrip vault)
  if vault != [] && !tracked.contains vault then tracked.set vault ⟨"balancer_vault".toList, []⟩
  else tracked

/-- The entry with its first two tokens in order. -/
def normalizedEntry (entry : Entry) : Entry where
  kind := if entry.kind != [] then entry.kind else "unknown".toList
  tokens :=
    ((entry.tokens.filter fun t => t != []).dedup.insertionSort fun a b => textLe a b).take 2

/-- What `refresh_edges` tracks from now on. -/
def normalizedTracked (edges : List Edge) (vault : Text) : Dict Text Entry :=
  (trackVault (edges.foldl trackEdge Dict.empty) vault).mapVal normalizedEntry

def withEntry (states : Dict Text PoolEventState) (item : Text × Entry) :
    Dict Text PoolEventState :=
  let state := states.getD item.1 { address := item.1 }
  states.set item.1
    (withTokens { state with kind := if item.2.kind != [] then item.2.kind else state.kind }
      item.2.tokens)

def refreshEdges (cache : Cache) (edges : List Edge) (vault : Text) : Cache :=
  let tracked := normalizedTracked edges vault
  { cache with
    tracked := tracked
    states := tracked.entries.foldl withEntry cache.states
    addressVersion :=
      if tracked.same cache.tracked then cache.addressVersion else cache.addressVersion + 1 }

/-! ## Reconciliation -/

/-- The last block of a pool, zero for one without a state. -/
def lastBlockOf (cache : Cache) (address : Text) : Int :=
  (cache.states.get? address).elim 0 PoolEventState.lastBlock

/-- The order of `_subscription_addresses`: the pool that changed last comes first. -/
def subscribedBefore (cache : Cache) (a b : Text) : Bool :=
  decide (cache.lastBlockOf b < cache.lastBlockOf a)
    || (decide (cache.lastBlockOf a = cache.lastBlockOf b) && textLe a b)

def subscriptionAddresses (cache : Cache) : List Text :=
  ((cache.tracked.entries.map Prod.fst).insertionSort fun a b => cache.subscribedBefore a b).take
    cache.settings.maxAddresses.toNat

/-- What `_reconcile` does with the head of the chain: it is done, or it asks for the logs of a
range. -/
inductive Ask where
  | done
  | logs (start current : Int)

/-- `_reconcile` from the answer to `eth_blockNumber` to the request of the logs. -/
def atHead (cache : Cache) (current : Int) : Cache × Ask :=
  let previous := cache.lastSeenBlock
  let start := previous + 1
  let limit := cache.settings.reconcileMaxBlocks
  if previous ≤ 0 then ({ cache with lastSeenBlock := max 0 (current - 1) }, .done)
  else if current < start then (cache, .done)
  else if limit < current - start + 1 then
    ({ cache with reconcileMissed := cache.reconcileMissed + (current - start + 1 - limit) },
      .logs (current - limit + 1) current)
  else (cache, .logs start current)

/-- The items of an answer that are applied: the first two thousand that are dictionaries. -/
def itemsOf (answer : List (Option Log)) : List Log := (answer.take 2000).filterMap id

/-- `_reconcile` from the answer to `eth_getLogs`, whether it raised. The cursor moves to the head
also when the node did not answer. -/
def atLogs (cache : Cache) (current : Int) (answer : Option (List (Option Log))) : Cache × Bool :=
  match answer with
  | none => ({ cache with lastSeenBlock := max cache.lastSeenBlock current }, false)
  | some items =>
    let counted := { cache with reconcileCount := cache.reconcileCount + 1 }
    match counted.applyLogs (itemsOf items) with
    | (cache', true) => (cache', true)
    | (cache', false) =>
      ({ cache' with lastSeenBlock := max cache'.lastSeenBlock current }, false)

end Cache

/-! ## The loop -/

/-- Where `_run` waits. -/
inductive Phase where
  | idle
  | awaitHead (addresses : List Text) (version : Nat)
  | awaitLogs (addresses : List Text) (version : Nat) (start current : Int)
  | connecting (addresses : List Text) (version : Nat)
  | connected (addresses : List Text) (version : Nat)

/-- What happens next. -/
inductive Event where
  /-- the scanner calls `refresh_edges` -/
  | refresh (edges : List Cache.Edge) (vault : Text)
  /-- the loop starts a round -/
  | round
  /-- the node answers `eth_blockNumber`, missing when it is not a text -/
  | head (answer : Option Text)
  /-- the node answers `eth_getLogs`, missing when it is not a list -/
  | logs (answer : Option (List (Option Log)))
  /-- the node acknowledges the subscription -/
  | subscribed
  /-- a message of the subscription, missing when it has no log -/
  | message (result : Option Log)
  /-- the connection is closed, a wait times out or a call raises -/
  | dropped

structure Service where
  cache : Cache
  phase : Phase

namespace Service

/-- The service before its first round. -/
def start (settings : Settings) : Service := ⟨Cache.new settings, .idle⟩

/-- The loop of `_connect_once` ends when the tracked pools have changed. -/
def listen (cache : Cache) (addresses : List Text) (version : Nat) : Service :=
  if version = cache.addressVersion then ⟨cache, .connected addresses version⟩ else ⟨cache, .idle⟩

/-- After the head: the logs of the range are asked for, or the round connects. -/
def afterHead (addresses : List Text) (version : Nat) : Cache × Cache.Ask → Service
  | (cache, .done) => ⟨cache, .connecting addresses version⟩
  | (cache, .logs start current) => ⟨cache, .awaitLogs addresses version start current⟩

/-- After the logs: the round connects, or it ends where an item raised. -/
def afterLogs (addresses : List Text) (version : Nat) : Cache × Bool → Service
  | (cache, true) => ⟨cache, .idle⟩
  | (cache, false) => ⟨cache, .connecting addresses version⟩

def step (s : Service) (event : Event) : Service :=
  match event, s.phase with
  | .refresh edges vault, phase => ⟨s.cache.refreshEdges edges vault, phase⟩
  | .round, .idle =>
    let addresses := s.cache.subscriptionAddresses
    if s.cache.settings.wsUrls = [] || addresses = [] then s
    else if s.cache.settings.rpcUrls = [] then
      ⟨s.cache, .connecting addresses s.cache.addressVersion⟩
    else ⟨s.cache, .awaitHead addresses s.cache.addressVersion⟩
  | .head none, .awaitHead addresses version => ⟨s.cache, .connecting addresses version⟩
  | .head (some text), .awaitHead addresses version =>
    match pyInt 16 text with
    | none => ⟨s.cache, .idle⟩
    | some current => afterHead addresses version (s.cache.atHead current)
  | .logs answer, .awaitLogs addresses version _ current =>
    afterLogs addresses version (s.cache.atLogs current answer)
  | .subscribed, .connecting addresses version => listen s.cache addresses version
  | .message result, .connected addresses version =>
    -- what `_apply_log` raises is swallowed, and it raises before it changes anything
    listen ((result.bind s.cache.applyLog).getD s.cache) addresses version
  | .dropped, _ => ⟨s.cache, .idle⟩
  | _, _ => s

end Service

end SovereignCapital.Pools
