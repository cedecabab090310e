import SovereignCapital.Lib.LatestWrite
import SovereignCapital.Pools.LostLogs

/-! # Logs out of order

`_apply_log` takes the values of every log as it comes and keeps the highest block beside them.
`Keeps` says what a field of a pool is to hold whatever the order of the logs: the value of the
log that stands last on the chain.

* `keeps_iff` : a field keeps it exactly when the logs that set it are `Orderly`.
* `late_log_replaces` : a log of block 9 after one of block 10 replaces the reserves.
-/

namespace SovereignCapital.Pools

open Bytes Runs LatestWrite

/-! ## What a log sets -/

/-- The chain of tests of `_apply_log`. -/
def Log.eventType (log : Log) : EventType :=
  if log.topic0 = syncTopic then .sync
  else if log.topic0 = v2SwapTopic then .v2Swap
  else if log.topic0 = v3SwapTopic then .v3Swap
  else if log.topic0 = balancerSwapTopic then .balancerSwap
  else .unknown

/-- Where a log stands in its block. The code does not read it. -/
def Log.index (log : Log) : Int :=
  (pyInt 16 (log.logIndex.orElse (.text "0")).str.toList).getD 0

/-- The values of a state that are set together. -/
inductive Field where
  | reserves
  | price
  | amounts
  | event

namespace Field

def value (reading : Reading) : Field → Reading
  | .reserves => { reserve0 := reading.reserve0, reserve1 := reading.reserve1 }
  | .price =>
    { sqrtPriceX96 := reading.sqrtPriceX96, liquidity := reading.liquidity, tick := reading.tick }
  | .amounts => { amount0 := reading.amount0, amount1 := reading.amount1 }
  | .event => { lastEventType := reading.lastEventType, lastTxHash := reading.lastTxHash }

/-- The log sets the field: it is of an event that does, and long enough. -/
def setBy (log : Log) (field : Field) : Bool :=
  let length := (words log.dataText).length
  match field, log.eventType with
  | .reserves, .sync => decide (2 ≤ length)
  | .price, .v3Swap => decide (5 ≤ length)
  | .amounts, .v2Swap => decide (4 ≤ length)
  | .amounts, .v3Swap => decide (5 ≤ length)
  | .amounts, .balancerSwap => decide (2 ≤ length)
  | .event, _ => true
  | _, _ => false

def given (log : Log) (field : Field) : Reading := field.value (({} : Reading).read log)

theorem value_read (field : Field) (reading : Reading) (log : Log) :
    field.value (reading.read log)
      = if field.setBy log then field.given log else field.value reading := by
  unfold given setBy Log.eventType Reading.read Reading.decode
  by_cases hsync : log.topic0 = syncTopic
  · simp only [if_pos hsync]
    rcases words log.dataText with _ | ⟨w0, _ | ⟨w1, rest⟩⟩ <;> cases field <;> simp [value]
  by_cases hv2 : log.topic0 = v2SwapTopic
  · simp only [if_neg hsync, if_pos hv2]
    rcases words log.dataText with _ | ⟨w0, _ | ⟨w1, _ | ⟨w2, _ | ⟨w3, rest⟩⟩⟩⟩ <;>
      cases field <;> simp [value]
  by_cases hv3 : log.topic0 = v3SwapTopic
  · simp only [if_neg hsync, if_neg hv2, if_pos hv3]
    rcases words log.dataText with
        _ | ⟨w0, _ | ⟨w1, _ | ⟨w2, _ | ⟨w3, _ | ⟨w4, rest⟩⟩⟩⟩⟩ <;>
      cases field <;> simp [value]
  by_cases hbalancer : log.topic0 = balancerSwapTopic
  · simp only [if_neg hsync, if_neg hv2, if_neg hv3, if_pos hbalancer]
    rcases words log.dataText with _ | ⟨w0, _ | ⟨w1, rest⟩⟩ <;> cases field <;> simp [value]
  · simp only [if_neg hsync, if_neg hv2, if_neg hv3, if_neg hbalancer]
    cases field <;> simp [value]

end Field

/-! ## The logs that are applied -/

/-- The log is of a tracked pool, and `_apply_log` does not raise on it. -/
def applies (tracked : Dict Text Entry) (log : Log) : Bool :=
  log.pool != [] && tracked.contains log.pool && log.topics.isSome

def seenAfter (tracked : Dict Text Entry) (seen : Int) (log : Log) : Int :=
  if applies tracked log then max seen (log.block.getD seen) else seen

/-- The logs that are applied, each with its block. A log whose block cannot be read has that of
the highest before it. -/
def booked (tracked : Dict Text Entry) : Int → List Log → List (Int × Log)
  | _, [] => []
  | seen, log :: logs =>
    (if applies tracked log then [(log.block.getD seen, log)] else [])
      ++ booked tracked (seenAfter tracked seen log) logs

def writeOf (field : Field) (entry : Int × Log) : Option (Write Int Int Reading) :=
  if field.setBy entry.2 then some ⟨entry.1, entry.2.index, field.given entry.2⟩ else none

def bookedOf (pool : Text) (entries : List (Int × Log)) : List (Int × Log) :=
  entries.filter fun entry => entry.2.pool = pool

def writesTo (pool : Text) (field : Field) (entries : List (Int × Log)) :
    List (Write Int Int Reading) :=
  (bookedOf pool entries).filterMap (writeOf field)

namespace Cache

theorem lastBlock_withTokens (state : PoolEventState) (tokens : List Text) :
    (withTokens state tokens).lastBlock = state.lastBlock := by
  unfold withTokens
  split <;> rfl

/-- One delivery; what `_apply_log` raises changes nothing. -/
def deliver (cache : Cache) (log : Log) : Cache := (cache.applyLog log).getD cache

/-- The cache of a service that tracks the pools of the edges, before any log. -/
def tracking (settings : Settings) (edges : List Edge) (vault : Text) : Cache :=
  (Cache.new settings).refreshEdges edges vault

def writes (start : Cache) (pool : Text) (field : Field) (logs : List Log) :
    List (Write Int Int Reading) :=
  writesTo pool field (booked start.tracked start.lastSeenBlock logs)

def highest (start : Cache) (pool : Text) (logs : List Log) : Int :=
  ((bookedOf pool (booked start.tracked start.lastSeenBlock logs)).map Prod.fst).foldl max
    (start.lastBlockOf pool)

/-! ## What a run of logs does -/

theorem deliver_eq (cache : Cache) (log : Log) :
    cache.deliver log =
      if applies cache.tracked log then
        { cache with
          states := cache.states.set log.pool (cache.stateAfter log)
          lastSeenBlock := max cache.lastSeenBlock (cache.blockOf log)
          eventCount := cache.eventCount + 1 }
      else cache := by
  unfold deliver applyLog applies tracks
  cases log.pool != [] && cache.tracked.contains log.pool with
  | false => rfl
  | true => cases log.topics <;> rfl

@[simp] theorem tracked_deliver (cache : Cache) (log : Log) :
    (cache.deliver log).tracked = cache.tracked := by
  rw [deliver_eq]
  split <;> rfl

@[simp] theorem lastSeenBlock_deliver (cache : Cache) (log : Log) :
    (cache.deliver log).lastSeenBlock = seenAfter cache.tracked cache.lastSeenBlock log := by
  rw [deliver_eq, seenAfter]
  split <;> rfl

theorem deliver_pool (cache : Cache) (pool : Text) (log : Log) :
    let entries := bookedOf pool (booked cache.tracked cache.lastSeenBlock [log])
    (cache.deliver log).reading pool
        = entries.foldl (fun reading entry => reading.read entry.2) (cache.reading pool)
      ∧ (cache.deliver log).lastBlockOf pool
        = (entries.map Prod.fst).foldl max (cache.lastBlockOf pool) := by
  rw [deliver_eq]
  unfold booked booked bookedOf
  by_cases happlies : applies cache.tracked log = true
  · simp only [happlies, if_true, List.append_nil, List.filter_cons, List.filter_nil]
    by_cases hpool : log.pool = pool
    · subst hpool
      simp only [decide_true, if_true, List.foldl_cons, List.foldl_nil, List.map_cons,
        List.map_nil, reading, lastBlockOf, Dict.get?_set_self, Option.elim_some, stateAfter,
        toReading_withTokens, lastBlock_withTokens, Dict.getD, blockOf]
      cases cache.states.get? log.pool <;> exact ⟨rfl, rfl⟩
    · simp only [hpool, decide_false, Bool.false_eq_true, if_false, List.foldl_nil, List.map_nil,
        reading, lastBlockOf, Dict.get?_set_of_ne _ _ (Ne.symm hpool), and_self]
  · simp only [happlies, Bool.false_eq_true, if_false, List.append_nil, List.filter_nil,
      List.foldl_nil, List.map_nil, and_self]

theorem booked_cons (tracked : Dict Text Entry) (seen : Int) (log : Log) (logs : List Log) :
    booked tracked seen (log :: logs)
      = booked tracked seen [log] ++ booked tracked (seenAfter tracked seen log) logs := by
  simp only [booked, List.append_nil]

/-- The state of a pool after a run of logs is made of its booked logs, one after the other. -/
theorem run_pool (logs : List Log) (start : Cache) (pool : Text) :
    let entries := bookedOf pool (booked start.tracked start.lastSeenBlock logs)
    (run deliver start logs).reading pool
        = entries.foldl (fun reading entry => reading.read entry.2) (start.reading pool)
      ∧ (run deliver start logs).lastBlockOf pool
        = (entries.map Prod.fst).foldl max (start.lastBlockOf pool) := by
  induction logs generalizing start with
  | nil => exact ⟨rfl, rfl⟩
  | cons log logs ih =>
    obtain ⟨hreading, hblock⟩ := ih (start.deliver log)
    obtain ⟨hfirst, hfirstBlock⟩ := deliver_pool start pool log
    rw [tracked_deliver, lastSeenBlock_deliver] at hreading hblock
    dsimp only
    rw [booked_cons, bookedOf, List.filter_append, List.foldl_append, List.map_append,
      List.foldl_append, run_cons]
    exact ⟨hreading.trans (by rw [hfirst]; rfl), hblock.trans (by rw [hfirstBlock]; rfl)⟩

theorem bookedOf_logs (tracked : Dict Text Entry) (seen : Int) (pool : Text) (logs : List Log) :
    (bookedOf pool (booked tracked seen logs)).map Prod.snd
      = logs.filter fun log => decide (log.pool = pool) && applies tracked log := by
  induction logs generalizing seen with
  | nil => rfl
  | cons log logs ih =>
    rw [booked, bookedOf, List.filter_append, List.map_append, List.filter_cons]
    have htail := ih (seenAfter tracked seen log)
    rw [bookedOf] at htail
    rw [htail]
    by_cases happlies : applies tracked log = true
    · by_cases hpool : log.pool = pool
      · simp [happlies, hpool]
      · simp [happlies, hpool]
    · simp [happlies]

/-- **Pools do not meet.** After any run of logs the values of a pool are what its own logs have
made of them, one after the other, however the logs of other pools come in between. -/
theorem reading_run_own (start : Cache) (logs : List Log) (pool : Text) :
    (run deliver start logs).reading pool
      = (logs.filter fun log => decide (log.pool = pool) && applies start.tracked log).foldl
        Reading.read (start.reading pool) := by
  rw [(run_pool logs start pool).1, ← bookedOf_logs start.tracked start.lastSeenBlock,
    List.foldl_map]

theorem value_run (start : Cache) (logs : List Log) (pool : Text) (field : Field) :
    field.value ((run deliver start logs).reading pool)
      = current (field.value (start.reading pool)) (start.writes pool field logs) := by
  have hfold : ∀ (entries : List (Int × Log)) (reading : Reading),
      field.value (entries.foldl (fun reading entry => reading.read entry.2) reading)
        = current (field.value reading) (entries.filterMap (writeOf field)) := by
    intro entries
    induction entries with
    | nil => exact fun _ => rfl
    | cons entry entries ih =>
      intro reading
      rw [List.foldl_cons, ih, Field.value_read, List.filterMap_cons, writeOf]
      cases field.setBy entry.2 <;> rfl
  rw [(run_pool logs start pool).1, hfold]
  rfl

theorem seen_append (tracked : Dict Text Entry) (seen : Int) (logs logs' : List Log) :
    booked tracked seen (logs ++ logs')
      = booked tracked seen logs ++ booked tracked (logs.foldl (seenAfter tracked) seen) logs' := by
  induction logs generalizing seen with
  | nil => rfl
  | cons log logs ih =>
    rw [List.cons_append, booked_cons, ih, booked_cons tracked seen log logs, List.append_assoc]
    rfl

theorem writes_append (start : Cache) (pool : Text) (field : Field) (logs : List Log) (log : Log) :
    ∃ write : Option (Write Int Int Reading),
      start.writes pool field (logs ++ [log]) = start.writes pool field logs ++ write.toList := by
  unfold writes writesTo bookedOf
  rw [seen_append, List.filter_append, List.filterMap_append]
  simp only [booked, List.append_nil]
  split
  · rw [List.filter_cons]
    split
    · rw [List.filter_nil, List.filterMap_cons]
      split
      · exact ⟨none, rfl⟩
      · rename_i write _
        exact ⟨some write, rfl⟩
    · exact ⟨none, rfl⟩
  · exact ⟨none, rfl⟩

end Cache

/-! ## What a field is to hold -/

/-- **The order of the logs does not matter.** On every part of the run the field holds the value
of the log that stands last on the chain, the state has the highest block, and no value is replaced
by one of an older block. -/
structure Keeps (start : Cache) (logs : List Log) (pool : Text) (field : Field) : Prop where
  latest : ∀ reached, reached <+: logs → start.writes pool field reached ≠ [] →
    Latest (start.writes pool field reached)
      (field.value ((run Cache.deliver start reached).reading pool))
  lastBlock : ∀ reached, reached <+: logs →
    (run Cache.deliver start reached).lastBlockOf pool = start.highest pool reached
  kept : ∀ reached log w, reached ++ [log] <+: logs →
    start.writes pool field (reached ++ [log]) = start.writes pool field reached ++ [w] →
    (∃ e ∈ start.writes pool field reached, w.block < e.block) →
    field.value ((run Cache.deliver start (reached ++ [log])).reading pool)
      = field.value ((run Cache.deliver start reached).reading pool)

/-- Every log that sets the field comes in turn, or repeats a latest value. -/
def Orderly (start : Cache) (logs : List Log) (pool : Text) (field : Field) : Prop :=
  ∀ reached log w, reached ++ [log] <+: logs →
    start.writes pool field (reached ++ [log]) = start.writes pool field reached ++ [w] →
    InTurn (start.writes pool field reached) w
      ∨ Repeats (field.value {}) (start.writes pool field reached) w

/-- **When the order does not matter**, for each field of each pool. -/
theorem keeps_iff (settings : Settings) (edges : List Cache.Edge) (vault : Text) (logs : List Log)
    (pool : Text) (field : Field) :
    Keeps (Cache.tracking settings edges vault) logs pool field
      ↔ Orderly (Cache.tracking settings edges vault) logs pool field := by
  generalize hstart : Cache.tracking settings edges vault = start
  have hreading : start.reading pool = {} := by
    rw [← hstart]
    exact Cache.reading_refreshEdges _ edges vault pool
  have hvalue : ∀ reached, field.value ((run Cache.deliver start reached).reading pool)
      = current (field.value {}) (start.writes pool field reached) := by
    intro reached
    rw [Cache.value_run, hreading]
  constructor
  · intro h reached log w hinit hwrites
    refine (takes_latest_iff (field.value {}) (start.writes pool field reached) w).1 ⟨?_, ?_⟩
    · have hlatest := h.latest (reached ++ [log]) hinit (by simp [hwrites])
      rwa [hvalue, hwrites] at hlatest
    · intro holder
      have hkept := h.kept reached log w hinit hwrites holder
      rwa [hvalue, hvalue, hwrites] at hkept
  · intro h
    refine ⟨fun reached => ?_, fun reached _ => (Cache.run_pool reached start pool).2, ?_⟩
    · -- the last log of the part is a write, or the writes are those before it
      induction reached using List.reverseRecOn with
      | nil => exact fun _ hne => absurd rfl hne
      | append_singleton reached log ih =>
        intro hinit hne
        obtain ⟨write, hwrites⟩ := start.writes_append pool field reached log
        rw [hvalue, hwrites]
        cases write with
        | none =>
          rw [Option.toList_none, List.append_nil] at hwrites ⊢
          rw [hwrites] at hne
          rw [← hvalue]
          exact ih ((List.prefix_append reached [log]).trans hinit) hne
        | some w => exact ((takes_latest_iff _ _ w).2 (h reached log w hinit hwrites)).1
    · intro reached log w hinit hwrites holder
      rw [hvalue, hvalue, hwrites]
      exact ((takes_latest_iff _ _ w).2 (h reached log w hinit hwrites)).2 holder

/-! Two `Sync` logs of one pool: that of block 10 comes first, that of block 9 after it. -/

def syncLog (block data : String) : Log where
  address := .text samplePool
  blockNumber := .text block
  logIndex := .text "0x0"
  topics := some [.text (String.ofList syncTopic)]
  data := .text data
  transactionHash := .text "0x01"

def wordText (value : Nat) : String :=
  String.ofList (List.replicate 63 '0' ++ [Nat.digitChar value])

def newLog : Log := syncLog "0xa" ("0x" ++ wordText 7 ++ wordText 7)

def oldLog : Log := syncLog "0x9" ("0x" ++ wordText 5 ++ wordText 5)

theorem reserves_of_sync {log : Log} {w0 w1 : Int} (htopic : log.topic0 = syncTopic)
    (hwords : words log.dataText = [w0, w1]) :
    Field.reserves.setBy log = true ∧ (Field.reserves.given log).reserve0 = some w0 := by
  simp [Field.setBy, Field.given, Field.value, Log.eventType, Reading.read, Reading.decode, htopic,
    hwords]

/-- A log that comes late replaces the reserves: the pool has the highest block and the values of
an older one. -/
theorem late_log_replaces :
    ¬∀ (settings : Settings) (edges : List Cache.Edge) (vault : Text) (logs : List Log)
      (pool : Text) (field : Field),
      Keeps (Cache.tracking settings edges vault) logs pool field := by
  intro h
  have hkeeps := h sampleSettings [sampleEdge] [] [newLog, oldLog] samplePool.toList .reserves
  generalize hstart : Cache.tracking sampleSettings [sampleEdge] [] = start at hkeeps
  have happlies : applies start.tracked newLog = true ∧ applies start.tracked oldLog = true := by
    rw [← hstart]
    decide +kernel
  have hblocks : newLog.block = some 10 ∧ oldLog.block = some 9 := by decide +kernel
  have hpools : newLog.pool = samplePool.toList ∧ oldLog.pool = samplePool.toList := by
    decide +kernel
  have hnew := reserves_of_sync (topic0_sync rfl)
    (show words newLog.dataText = [7, 7] by decide +kernel)
  have hold := reserves_of_sync (topic0_sync rfl)
    (show words oldLog.dataText = [5, 5] by decide +kernel)
  have hwrites : start.writes samplePool.toList .reserves [newLog, oldLog]
      = [⟨10, newLog.index, Field.reserves.given newLog⟩,
        ⟨9, oldLog.index, Field.reserves.given oldLog⟩] := by
    simp [Cache.writes, writesTo, bookedOf, booked, writeOf, happlies, hblocks, hpools,
      hnew.1, hold.1]
  have hlatest := hkeeps.latest [newLog, oldLog] List.prefix_rfl (by simp [hwrites])
  rw [Cache.value_run, hwrites] at hlatest
  obtain ⟨w, hw, hvalue, hmax⟩ := hlatest
  rcases List.mem_pair.1 hw with rfl | rfl
  · have hreserve : (Field.reserves.given newLog).reserve0
        = (Field.reserves.given oldLog).reserve0 := congrArg Reading.reserve0 hvalue
    rw [hnew.2, hold.2] at hreserve
    exact absurd hreserve (by decide)
  · have hle := Write.block_le (hmax _ List.mem_cons_self)
    exact absurd hle (by decide)

end SovereignCapital.Pools
