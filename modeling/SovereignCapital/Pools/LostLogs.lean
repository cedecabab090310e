import SovereignCapital.Lib.Runs
import SovereignCapital.Pools.EventCache

/-! # Logs the event cache loses

`Watched` is the service with a history the code does not keep: the logs applied, the blocks
booked as missed, where the cursor started, since when a pool is tracked, and the last block a
reconciliation ended at. `Lossless` says what the cache is to guarantee about it.

* `lossless_iff` : it holds in every state a run reaches exactly when every delivery is `Complete`.
* `failed_fetch_loses` : a fetch that fails is not repeated.
-/

namespace SovereignCapital.Pools

open Bytes Runs

namespace Cache

/-! ## What logs do to the cache -/

/-- The log is of a tracked pool and `_apply_log` raises on it. -/
def unreadable (cache : Cache) (log : Log) : Bool := cache.tracks log && log.topics.isNone

def taken (cache : Cache) (logs : List Log) : List Log :=
  (logs.takeWhile fun log => !cache.unreadable log).filter cache.tracks

/-- What the logs of a pool have told so far. -/
def reading (cache : Cache) (address : Text) : Reading :=
  (cache.states.get? address).elim {} PoolEventState.toReading

/-- `cache'` is `cache` with the logs of the list, and nothing else that matters here. -/
structure Absorbs (cache cache' : Cache) (logs : List Log) : Prop where
  settings : cache'.settings = cache.settings
  tracked : cache'.tracked = cache.tracked
  missed : cache'.reconcileMissed = cache.reconcileMissed
  count : cache'.eventCount = cache.eventCount + logs.length
  seen : ∀ x, cache'.lastSeenBlock ≤ x ↔
    cache.lastSeenBlock ≤ x ∧ ∀ log ∈ logs, ∀ n, log.block = some n → n ≤ x
  reading : ∀ a, cache'.reading a
    = (logs.filter fun log => log.pool = a).foldl Reading.read (cache.reading a)

theorem Absorbs.refl (cache : Cache) : cache.Absorbs cache [] :=
  ⟨rfl, rfl, rfl, rfl, by simp, fun _ => rfl⟩

theorem Absorbs.trans {c₁ c₂ c₃ : Cache} {l₁ l₂ : List Log} (h₁ : c₁.Absorbs c₂ l₁)
    (h₂ : c₂.Absorbs c₃ l₂) : c₁.Absorbs c₃ (l₁ ++ l₂) where
  settings := h₂.settings.trans h₁.settings
  tracked := h₂.tracked.trans h₁.tracked
  missed := h₂.missed.trans h₁.missed
  count := by rw [h₂.count, h₁.count, List.length_append, Nat.add_assoc]
  seen x := by
    rw [h₂.seen, h₁.seen, and_assoc]
    simp only [List.mem_append, or_imp, forall_and]
  reading a := by rw [h₂.reading, h₁.reading, List.filter_append, List.foldl_append]

theorem tracks_congr {cache cache' : Cache} (h : cache'.tracked = cache.tracked) (log : Log) :
    cache'.tracks log = cache.tracks log := by
  simp only [tracks, h]

theorem taken_congr {cache cache' : Cache} (h : cache'.tracked = cache.tracked)
    (logs : List Log) : cache'.taken logs = cache.taken logs := by
  have htracks : cache'.tracks = cache.tracks := funext (tracks_congr h)
  simp only [taken, unreadable, htracks]

theorem toReading_withTokens (state : PoolEventState) (tokens : List Text) :
    (withTokens state tokens).toReading = state.toReading := by
  unfold withTokens
  split <;> rfl

/-- One log: it is applied, it is not of a tracked pool, or `_apply_log` raises. -/
theorem applyLog_cases (cache : Cache) (log : Log) :
    (cache.tracks log = true ∧ cache.unreadable log = false ∧
        ∃ cache', cache.applyLog log = some cache' ∧ cache.Absorbs cache' [log])
      ∨ (cache.tracks log = false ∧ cache.unreadable log = false ∧ cache.applyLog log = some cache)
      ∨ (cache.unreadable log = true ∧ cache.applyLog log = none) := by
  unfold unreadable applyLog
  cases htracks : cache.tracks log with
  | false => exact .inr (.inl ⟨rfl, rfl, rfl⟩)
  | true =>
    cases htopics : log.topics with
    | none => exact .inr (.inr ⟨rfl, rfl⟩)
    | some topics =>
      refine .inl ⟨rfl, rfl, _, rfl, rfl, rfl, rfl, rfl, ?_, ?_⟩
      · intro x
        -- a block that cannot be read is booked under the cursor, which then stays
        simp only [blockOf, List.forall_mem_singleton]
        cases log.block with
        | none => simp
        | some n => simp
      · intro a
        by_cases ha : log.pool = a
        · subst ha
          simp only [reading, stateAfter, Dict.get?_set_self, Option.elim_some, Dict.getD,
            toReading_withTokens, List.filter_cons, decide_true, if_true, List.filter_nil,
            List.foldl_cons, List.foldl_nil]
          cases cache.states.get? log.pool <;> rfl
        · simp [reading, Dict.get?_set_of_ne _ _ (Ne.symm ha), ha]

/-- The items of an answer are applied one by one, up to the first that raises. -/
theorem applyLogs_spec (logs : List Log) (cache : Cache) :
    (cache.applyLogs logs).2 = logs.any cache.unreadable
      ∧ cache.Absorbs (cache.applyLogs logs).1 (cache.taken logs) := by
  induction logs generalizing cache with
  | nil => exact ⟨rfl, Absorbs.refl cache⟩
  | cons log logs ih =>
    rcases applyLog_cases cache log with ⟨htracks, hread, cache', happly, habsorb⟩ |
      ⟨htracks, hread, happly⟩ | ⟨hunread, happly⟩
    · obtain ⟨hraised, hrest⟩ := ih cache'
      have htaken : cache.taken (log :: logs) = [log] ++ cache'.taken logs := by
        rw [taken_congr habsorb.tracked]
        simp [taken, hread, htracks]
      have hany : cache'.unreadable = cache.unreadable := by
        funext l
        simp only [unreadable, tracks_congr habsorb.tracked]
      simp only [applyLogs, happly, List.any_cons, hread, Bool.false_or, htaken]
      exact ⟨hany ▸ hraised, habsorb.trans hrest⟩
    · obtain ⟨hraised, hrest⟩ := ih cache
      have htaken : cache.taken (log :: logs) = cache.taken logs := by
        simp [taken, hread, htracks]
      simp only [applyLogs, happly, List.any_cons, hread, Bool.false_or, htaken]
      exact ⟨hraised, hrest⟩
    · have htaken : cache.taken (log :: logs) = [] := by simp [taken, hunread]
      simp only [applyLogs, happly, List.any_cons, hunread, Bool.true_or, htaken]
      exact ⟨trivial, Absorbs.refl cache⟩

/-- Tracking other pools leaves what is neither the kind nor the tokens of a state. -/
theorem elim_refreshEdges {β : Type} {g : PoolEventState → β} {start : β}
    (hnew : ∀ address, g { address := address } = start)
    (hkeep : ∀ state kind tokens, g (withTokens { state with kind := kind } tokens) = g state)
    (cache : Cache) (edges : List Edge) (vault a : Text) :
    ((cache.refreshEdges edges vault).states.get? a).elim start g
      = (cache.states.get? a).elim start g := by
  have hfold : ∀ (items : List (Text × Entry)) (states : Dict Text PoolEventState),
      ((items.foldl withEntry states).get? a).elim start g = (states.get? a).elim start g := by
    intro items
    induction items with
    | nil => exact fun _ => rfl
    | cons item items ih =>
      intro states
      rw [List.foldl_cons, ih]
      by_cases ha : item.1 = a
      · subst ha
        simp only [withEntry, Dict.get?_set_self, Option.elim_some, hkeep, Dict.getD]
        cases states.get? item.1 with
        | none => exact hnew item.1
        | some state => rfl
      · simp only [withEntry, Dict.get?_set_of_ne _ _ (Ne.symm ha)]
  exact hfold _ _

/-- Tracking other pools leaves what the logs told. -/
theorem reading_refreshEdges (cache : Cache) (edges : List Edge) (vault a : Text) :
    (cache.refreshEdges edges vault).reading a = cache.reading a :=
  elim_refreshEdges (fun _ => rfl) (fun _ _ _ => toReading_withTokens _ _) cache edges vault a

end Cache

/-! ## The history of a run -/

/-- The items an event delivers to `_apply_log`. -/
def delivered (s : Service) (event : Event) : List Log :=
  match event, s.phase with
  | .logs (some answer), .awaitLogs _ _ _ _ => Cache.itemsOf answer
  | .message (some log), .connected _ _ => [log]
  | _, _ => []

def takenBy (s : Service) (event : Event) : List Log := s.cache.taken (delivered s event)

/-- The head of the reconciliation that an event ends. One that raises does not end. -/
def headBy (s : Service) (event : Event) : Option Int :=
  match event, s.phase with
  | .logs _, .awaitLogs _ _ _ current =>
    if (delivered s event).any s.cache.unreadable then none else some current
  | _, _ => none

def blocksFrom (start : Int) (n : Nat) : List Int :=
  (List.range n).map fun i : Nat => start + (i : Int)

@[simp] theorem length_blocksFrom (start : Int) (n : Nat) : (blocksFrom start n).length = n := by
  simp [blocksFrom]

/-- The blocks an event books as missed. -/
def skippedBy (s : Service) (event : Event) : List Int :=
  match event, s.phase with
  | .head (some text), .awaitHead _ _ =>
    match pyInt 16 text with
    | none => []
    | some current =>
      let previous := s.cache.lastSeenBlock
      if 0 < previous ∧ previous < current then
        blocksFrom (previous + 1)
          (current - previous - s.cache.settings.reconcileMaxBlocks).toNat
      else []
  | _, _ => []

structure Watched where
  service : Service
  applied : List Log
  skipped : List Int
  /-- the cursor starts after this block -/
  origin : Option Int
  /-- the cursor when the pool was tracked -/
  since : Text → Int
  /-- the head of the last reconciliation -/
  reconciled : Int

namespace Watched

def lastSeen (w : Watched) : Int := w.service.cache.lastSeenBlock

/-- The service before its first round, nothing seen. -/
def start (settings : Settings) : Watched := ⟨Service.start settings, [], [], none, fun _ => 0, 0⟩

/-- Where the cursor starts when an event moves it for the first time. What the first head of the
chain has below it is history; of the block of a first log all logs count. -/
def originAfter (service : Service) (event : Event) : Option Int :=
  if 0 < service.cache.lastSeenBlock then
    match event with
    | .head _ => some service.cache.lastSeenBlock
    | _ => some (service.cache.lastSeenBlock - 1)
  else none

def advance (w : Watched) (event : Event) : Watched where
  service := w.service.step event
  applied := w.applied ++ takenBy w.service event
  skipped := w.skipped ++ skippedBy w.service event
  origin := w.origin.or (originAfter (w.service.step event) event)
  since a :=
    if w.service.cache.tracked.contains a then w.since a
    else (w.service.step event).cache.lastSeenBlock
  reconciled := (headBy w.service event).elim w.reconciled (max w.reconciled)

end Watched

/-! ## What the cache is to guarantee -/

/-- The log is one the cache has to know: of a tracked pool, of an event it listens to, in a block
after the cursor started and after the pool was tracked. -/
structure Due (w : Watched) (log : Log) (b : Int) : Prop where
  block : log.block = some b
  event : log.topic0 ∈ eventTopics
  tracked : w.service.cache.tracks log = true
  started : ∃ o, w.origin = some o ∧ o < b
  since : w.since log.pool < b

/-- The log is applied to the state of its pool, or its block is counted as missed. -/
def Accounted (w : Watched) (log : Log) (b : Int) : Prop := log ∈ w.applied ∨ b ∈ w.skipped

variable (chain : Set Log)

/-- **No tracked log is lost.** Up to the last reconciled block every log is accounted for, and
before the cursor passes a block, all its logs are. Applied logs are what the states of the pools
are made of, and the counter counts the blocks missed. -/
structure Lossless (w : Watched) : Prop where
  reconciled : ∀ log ∈ chain, ∀ b, Due w log b → b ≤ w.reconciled → Accounted w log b
  passed : ∀ log ∈ chain, ∀ b, Due w log b → b < w.lastSeen → Accounted w log b
  counted : w.service.cache.reconcileMissed = w.skipped.length
  applied : w.service.cache.eventCount = w.applied.length
    ∧ ∀ a, w.service.cache.reading a
      = (w.applied.filter fun log => log.pool = a).foldl Reading.read {}

/-- A log the cache has to know and has not accounted for. -/
def Missing (w : Watched) (log : Log) (b : Int) : Prop :=
  log ∈ chain ∧ Due w log b ∧ ¬Accounted w log b

/-- **A delivery is complete** when a missing log that it does not bring lies in no block below one
that it brings, and, where it ends a reconciliation, in no block up to the head. -/
def Complete (w : Watched) (event : Event) : Prop :=
  ∀ log b, Missing chain w log b → log ∉ takenBy w.service event →
    (∀ head ∈ headBy w.service event, head < b)
      ∧ ∀ l ∈ takenBy w.service event, ∀ n, l.block = some n → n ≤ b

/-! ## What one event does -/

/-- `s'` is the service after an event: the logs it brings are in the states, the blocks it skips
in the counter, and the cursor is at the last of its blocks, unless the event is the first head. -/
structure Effect (s s' : Service) (event : Event) : Prop where
  tracked : (∀ edges vault, event ≠ .refresh edges vault) → s'.cache.tracked = s.cache.tracked
  count : s'.cache.eventCount = s.cache.eventCount + (takenBy s event).length
  missed : s'.cache.reconcileMissed = s.cache.reconcileMissed + (skippedBy s event).length
  reading : ∀ a, s'.cache.reading a
    = ((takenBy s event).filter fun log => log.pool = a).foldl Reading.read (s.cache.reading a)
  seen : (∀ x, s'.cache.lastSeenBlock ≤ x ↔ s.cache.lastSeenBlock ≤ x
      ∧ (∀ log ∈ takenBy s event, ∀ n, log.block = some n → n ≤ x)
      ∧ ∀ head ∈ headBy s event, head ≤ x)
    ∨ (s.cache.lastSeenBlock ≤ 0 ∧ 0 ≤ s'.cache.lastSeenBlock)
  asking : ∀ a v start current, s'.phase = .awaitLogs a v start current →
    s.phase = .awaitLogs a v start current ∨ 0 < s.cache.lastSeenBlock

variable {s : Service} {event : Event} {addresses : List Text} {version : Nat} {w : Watched}

/-- An event that brings nothing and leaves the cache. -/
theorem Effect.of_cache {s' : Service} (hcache : s'.cache = s.cache)
    (hdelivered : delivered s event = []) (hhead : headBy s event = none)
    (hskipped : skippedBy s event = [])
    (hasking : ∀ a v start current, s'.phase = .awaitLogs a v start current →
      s.phase = .awaitLogs a v start current) :
    Effect s s' event where
  tracked _ := by rw [hcache]
  count := by rw [hcache, takenBy, hdelivered]; rfl
  missed := by rw [hcache, hskipped]; simp
  reading a := by rw [hcache, takenBy, hdelivered]; rfl
  seen := .inl fun x => by rw [hcache, takenBy, hdelivered, hhead]; simp [Cache.taken]
  asking a v start current h := .inl (hasking a v start current h)

theorem listen_cache (cache : Cache) (addresses : List Text) (version : Nat) :
    (Service.listen cache addresses version).cache = cache := by
  unfold Service.listen
  split <;> rfl

theorem listen_phase (cache : Cache) (addresses : List Text) (version : Nat) :
    ∀ a v start current,
      (Service.listen cache addresses version).phase ≠ .awaitLogs a v start current := by
  unfold Service.listen
  split <;> exact fun _ _ _ _ h => Phase.noConfusion h

theorem effect_message (hphase : s.phase = .connected addresses version) (result : Option Log) :
    Effect s (s.step (.message result)) (.message result) := by
  have hstep : s.step (.message result)
      = Service.listen ((result.bind s.cache.applyLog).getD s.cache) addresses version := by
    simp only [Service.step, hphase]
  have hasking := listen_phase ((result.bind s.cache.applyLog).getD s.cache) addresses version
  rw [hstep]
  cases result with
  | none =>
    refine Effect.of_cache (listen_cache _ _ _) ?_ ?_ rfl fun a v start current h => ?_
    · simp only [delivered]
    · simp only [headBy]
    · exact absurd h (hasking a v start current)
  | some log =>
    have habsorb : s.cache.Absorbs (((some log).bind s.cache.applyLog).getD s.cache)
        (takenBy s (.message (some log))) := by
      simp only [takenBy, delivered, hphase, Option.bind_some]
      rcases Cache.applyLog_cases s.cache log with ⟨htracks, hread, cache', happly, habsorb⟩ |
        ⟨htracks, hread, happly⟩ | ⟨hunread, happly⟩
      · simpa [Cache.taken, hread, htracks, happly] using habsorb
      · simpa [Cache.taken, hread, htracks, happly] using Cache.Absorbs.refl s.cache
      · simpa [Cache.taken, hunread, happly] using Cache.Absorbs.refl s.cache
    have hhead : headBy s (.message (some log)) = none := by simp only [headBy]
    have hskipped : skippedBy s (.message (some log)) = [] := by simp only [skippedBy]
    constructor
    · exact fun _ => by rw [listen_cache, habsorb.tracked]
    · rw [listen_cache, habsorb.count]
    · rw [listen_cache, habsorb.missed, hskipped]
      simp
    · exact fun a => by rw [listen_cache, habsorb.reading]
    · left
      intro x
      rw [listen_cache, habsorb.seen, hhead]
      simp
    · exact fun a v start current h => absurd h (hasking a v start current)

example : headBy (Service.start ⟨[], [], 256, 200⟩) (.message none) = none := by decide +kernel

theorem effect_logs {start current : Int}
    (hphase : s.phase = .awaitLogs addresses version start current)
    (answer : Option (List (Option Log))) : Effect s (s.step (.logs answer)) (.logs answer) := by
  have hskipped : skippedBy s (.logs answer) = [] := by simp only [skippedBy]
  cases answer with
  | none =>
    have hhead : headBy s (.logs none) = some current := by
      simp [headBy, hphase, delivered]
    have htaken : takenBy s (.logs none) = [] := by simp [takenBy, delivered, Cache.taken]
    have hstep : s.step (.logs none)
        = ⟨{ s.cache with lastSeenBlock := max s.cache.lastSeenBlock current },
            .connecting addresses version⟩ := by
      simp only [Service.step, hphase, Cache.atLogs, Service.afterLogs]
    rw [hstep]
    refine ⟨fun _ => rfl, ?_, ?_, fun a => ?_, .inl fun x => ?_, nofun⟩
    · rw [htaken]; rfl
    · rw [hskipped]; simp
    · rw [htaken]; rfl
    · rw [htaken, hhead]; simp
  | some items =>
    let counted : Cache := { s.cache with reconcileCount := s.cache.reconcileCount + 1 }
    obtain ⟨hraised, habsorb⟩ := Cache.applyLogs_spec (Cache.itemsOf items) counted
    have hdelivered : delivered s (.logs (some items)) = Cache.itemsOf items := by
      simp only [delivered, hphase]
    have htaken : takenBy s (.logs (some items)) = counted.taken (Cache.itemsOf items) := by
      rw [takenBy, hdelivered]
      exact (Cache.taken_congr rfl _).symm
    have hunreadable : counted.unreadable = s.cache.unreadable := rfl
    cases hout : (Cache.itemsOf items).any s.cache.unreadable with
    | true =>
      have hpair : counted.applyLogs (Cache.itemsOf items)
          = ((counted.applyLogs (Cache.itemsOf items)).1, true) := by
        rw [← hout, ← hunreadable, ← hraised]
      have hhead : headBy s (.logs (some items)) = none := by
        simp [headBy, hphase, hdelivered, hout]
      have hstep : s.step (.logs (some items))
          = ⟨(counted.applyLogs (Cache.itemsOf items)).1, .idle⟩ := by
        simp only [Service.step, hphase, Cache.atLogs, Service.afterLogs]
        rw [show ({ s.cache with reconcileCount := s.cache.reconcileCount + 1 } : Cache)
          = counted from rfl, hpair]
      rw [hstep]
      refine ⟨fun _ => habsorb.tracked, ?_, ?_, fun a => ?_, .inl fun x => ?_, nofun⟩
      · rw [htaken]; exact habsorb.count
      · rw [hskipped]; simpa using habsorb.missed
      · rw [htaken]; exact habsorb.reading a
      · rw [htaken, hhead, habsorb.seen]; simp [counted]
    | false =>
      have hpair : counted.applyLogs (Cache.itemsOf items)
          = ((counted.applyLogs (Cache.itemsOf items)).1, false) := by
        rw [← hout, ← hunreadable, ← hraised]
      have hhead : headBy s (.logs (some items)) = some current := by
        simp [headBy, hphase, hdelivered, hout]
      have hstep : s.step (.logs (some items))
          = ⟨{ (counted.applyLogs (Cache.itemsOf items)).1 with
                lastSeenBlock :=
                  max (counted.applyLogs (Cache.itemsOf items)).1.lastSeenBlock current },
              .connecting addresses version⟩ := by
        simp only [Service.step, hphase, Cache.atLogs, Service.afterLogs]
        rw [show ({ s.cache with reconcileCount := s.cache.reconcileCount + 1 } : Cache)
          = counted from rfl, hpair]
      rw [hstep]
      refine ⟨fun _ => habsorb.tracked, ?_, ?_, fun a => ?_, .inl fun x => ?_, nofun⟩
      · rw [htaken]; exact habsorb.count
      · rw [hskipped]; simpa using habsorb.missed
      · rw [htaken]; exact habsorb.reading a
      · rw [htaken, hhead, max_le_iff, habsorb.seen]; simp [counted, and_assoc]

theorem effect_head (hphase : s.phase = .awaitHead addresses version) (answer : Option Text) :
    Effect s (s.step (.head answer)) (.head answer) := by
  have hdelivered : delivered s (.head answer) = [] := by simp only [delivered]
  have hhead : headBy s (.head answer) = none := by simp only [headBy]
  have htaken : takenBy s (.head answer) = [] := by rw [takenBy, hdelivered]; rfl
  cases answer with
  | none =>
    have hstep : s.step (.head none) = ⟨s.cache, .connecting addresses version⟩ := by
      simp only [Service.step, hphase]
    rw [hstep]
    exact Effect.of_cache rfl hdelivered hhead rfl nofun
  | some text =>
    cases hread : pyInt 16 text with
    | none =>
      have hstep : s.step (.head (some text)) = ⟨s.cache, .idle⟩ := by
        simp only [Service.step, hphase, hread]
      rw [hstep]
      exact Effect.of_cache rfl hdelivered hhead (by simp [skippedBy, hphase, hread]) nofun
    | some current =>
      have hskipped : skippedBy s (.head (some text))
          = if 0 < s.cache.lastSeenBlock ∧ s.cache.lastSeenBlock < current then
              blocksFrom (s.cache.lastSeenBlock + 1) (current - s.cache.lastSeenBlock
                - s.cache.settings.reconcileMaxBlocks).toNat
            else [] := by
        simp only [skippedBy, hphase, hread]
      have hstep : s.step (.head (some text))
          = Service.afterHead addresses version (s.cache.atHead current) := by
        simp only [Service.step, hphase, hread]
      rw [hstep, Cache.atHead]
      by_cases hprevious : s.cache.lastSeenBlock ≤ 0
      · -- the first head: the cursor starts below it
        rw [if_pos hprevious]
        refine ⟨fun _ => rfl, ?_, ?_, fun a => ?_, .inr ⟨hprevious, le_max_left 0 _⟩, nofun⟩
        · rw [htaken]; rfl
        · rw [hskipped, if_neg (by omega)]; simp [Service.afterHead]
        · rw [htaken]; rfl
      rw [if_neg hprevious]
      by_cases hbehind : current < s.cache.lastSeenBlock + 1
      · rw [if_pos hbehind]
        exact Effect.of_cache rfl hdelivered hhead (by rw [hskipped, if_neg (by omega)]) nofun
      rw [if_neg hbehind]
      have hlength : ((skippedBy s (.head (some text))).length : Int)
          = max 0 (current - s.cache.lastSeenBlock - s.cache.settings.reconcileMaxBlocks) := by
        rw [hskipped, if_pos (by omega), length_blocksFrom, Int.toNat_eq_max, max_comm]
      by_cases hlimit : s.cache.settings.reconcileMaxBlocks
          < current - (s.cache.lastSeenBlock + 1) + 1
      · rw [if_pos hlimit]
        refine ⟨fun _ => rfl, ?_, ?_, fun a => ?_, .inl fun x => ?_, ?_⟩
        · rw [htaken]; rfl
        · rw [hlength]
          simp only [Service.afterHead]
          omega
        · rw [htaken]; rfl
        · rw [htaken, hhead]; simp [Service.afterHead]
        · exact fun _ _ _ _ _ => .inr (by omega)
      · rw [if_neg hlimit]
        refine ⟨fun _ => rfl, ?_, ?_, fun a => ?_, .inl fun x => ?_, ?_⟩
        · rw [htaken]; rfl
        · rw [hlength]
          simp only [Service.afterHead]
          omega
        · rw [htaken]; rfl
        · rw [htaken, hhead]; simp [Service.afterHead]
        · exact fun _ _ _ _ _ => .inr (by omega)

theorem effect_refresh (s : Service) (edges : List Cache.Edge) (vault : Text) :
    Effect s (s.step (.refresh edges vault)) (.refresh edges vault) where
  tracked h := absurd rfl (h edges vault)
  count := rfl
  missed := (Int.add_zero _).symm
  reading a := s.cache.reading_refreshEdges edges vault a
  seen := .inl fun x => by simp [takenBy, delivered, headBy, Service.step, Cache.refreshEdges,
    Cache.taken]
  asking a v start current h := .inl h

/-- **One event.** Every event has its effect; one that does not fit the phase has none. -/
theorem effect (s : Service) (event : Event) : Effect s (s.step event) event := by
  cases event with
  | refresh edges vault => exact effect_refresh s edges vault
  | head answer =>
    cases hphase : s.phase with
    | awaitHead addresses version => exact effect_head hphase answer
    | _ =>
      have hstep : s.step (.head answer) = s := by
        cases answer <;> simp only [Service.step, hphase]
      rw [hstep]
      refine Effect.of_cache rfl ?_ ?_ ?_ fun _ _ _ _ h => h
      · simp only [delivered]
      · simp only [headBy]
      · cases answer <;> simp only [skippedBy, hphase]
  | logs answer =>
    cases hphase : s.phase with
    | awaitLogs addresses version start current => exact effect_logs hphase answer
    | _ =>
      have hstep : s.step (.logs answer) = s := by simp only [Service.step, hphase]
      rw [hstep]
      refine Effect.of_cache rfl ?_ ?_ ?_ fun _ _ _ _ h => h
      · cases answer <;> simp only [delivered, hphase]
      · simp only [headBy, hphase]
      · simp only [skippedBy]
  | message result =>
    cases hphase : s.phase with
    | connected addresses version => exact effect_message hphase result
    | _ =>
      have hstep : s.step (.message result) = s := by simp only [Service.step, hphase]
      rw [hstep]
      refine Effect.of_cache rfl ?_ ?_ ?_ fun _ _ _ _ h => h
      · cases result <;> simp only [delivered, hphase]
      · simp only [headBy]
      · simp only [skippedBy]
  | round =>
    have hcache : (s.step .round).cache = s.cache := by
      simp only [Service.step]
      cases s.phase with
      | idle =>
        dsimp only
        split
        · rfl
        · split <;> rfl
      | _ => rfl
    refine Effect.of_cache hcache rfl rfl rfl fun a v start current h => ?_
    cases hphase : s.phase with
    | idle =>
      simp only [Service.step, hphase] at h
      split at h
      · exact absurd (hphase.symm.trans h) nofun
      · split at h <;> exact absurd h nofun
    | _ =>
      simp only [Service.step, hphase] at h
      exact h
  | subscribed =>
    cases hphase : s.phase with
    | connecting addresses version =>
      have hstep : s.step .subscribed = Service.listen s.cache addresses version := by
        simp only [Service.step, hphase]
      rw [hstep]
      refine Effect.of_cache (listen_cache _ _ _) rfl rfl rfl fun a v start current h => ?_
      exact absurd h (listen_phase s.cache addresses version a v start current)
    | _ =>
      have hstep : s.step .subscribed = s := by simp only [Service.step, hphase]
      rw [hstep]
      exact Effect.of_cache rfl rfl rfl rfl fun _ _ _ _ h => h
  | dropped => exact Effect.of_cache (by simp only [Service.step]) rfl rfl rfl nofun

/-! ## What every event keeps -/

/-- What holds of the cursor, the counters and the states whatever is delivered. -/
structure Books (w : Watched) : Prop where
  counted : w.service.cache.reconcileMissed = w.skipped.length
  count : w.service.cache.eventCount = w.applied.length
  reading : ∀ a, w.service.cache.reading a
    = (w.applied.filter fun log => log.pool = a).foldl Reading.read {}
  nonneg : 0 ≤ w.lastSeen
  started : w.origin = none ↔ w.lastSeen = 0
  reconciled : w.reconciled ≤ w.lastSeen
  asking : ∀ a v start current, w.service.phase = .awaitLogs a v start current → 0 < w.lastSeen

theorem books_start (settings : Settings) : Books (Watched.start settings) :=
  ⟨rfl, rfl, fun _ => rfl, le_rfl, ⟨fun _ => rfl, fun _ => rfl⟩, le_rfl, nofun⟩

/-- The cursor never goes back. -/
theorem lastSeen_le (w : Watched) (event : Event) :
    w.lastSeen ≤ (w.advance event).lastSeen := by
  rcases (effect w.service event).seen with hseen | ⟨hzero, hnonneg⟩
  · exact ((hseen _).1 le_rfl).1
  · exact le_trans hzero hnonneg

theorem headBy_some {head : Int} (h : headBy s event = some head) :
    ∃ a v start, s.phase = .awaitLogs a v start head := by
  unfold headBy at h
  split at h
  · rename_i hphase
    split at h
    · cases h
    · cases h
      exact ⟨_, _, _, hphase⟩
  · cases h

/-- A reconciliation ends at or below the cursor. -/
theorem Books.headBy_le (h : Books w) {head : Int} (hhead : headBy w.service event = some head) :
    head ≤ (w.advance event).lastSeen := by
  obtain ⟨a, v, start, hphase⟩ := headBy_some hhead
  have hpos := h.asking a v start head hphase
  rcases (effect w.service event).seen with hseen | ⟨hzero, -⟩
  · exact ((hseen _).1 le_rfl).2.2 head hhead
  · exact absurd hzero (not_le.2 hpos)

theorem Books.advance (h : Books w) (event : Event) : Books (w.advance event) := by
  have heffect := effect w.service event
  have hle := lastSeen_le w event
  refine ⟨?_, ?_, fun a => ?_, le_trans h.nonneg hle, ?_, ?_, ?_⟩
  · show (w.service.step event).cache.reconcileMissed = _
    rw [heffect.missed, h.counted, Watched.advance, List.length_append, Nat.cast_add]
  · show (w.service.step event).cache.eventCount = _
    rw [heffect.count, h.count, Watched.advance, List.length_append]
  · show (w.service.step event).cache.reading a = _
    rw [heffect.reading, h.reading, Watched.advance, List.filter_append, List.foldl_append]
  · have horigin : (w.advance event).origin
        = w.origin.or (Watched.originAfter (w.service.step event) event) := rfl
    have hafter : Watched.originAfter (w.service.step event) event = none
        ↔ ¬0 < (w.advance event).lastSeen := by
      unfold Watched.originAfter
      split
      · rename_i hpos
        refine ⟨fun hnone => ?_, fun hneg => absurd hpos hneg⟩
        split at hnone
        · cases hnone
        · cases hnone
      · rename_i hneg
        exact ⟨fun _ => hneg, fun _ => rfl⟩
    rw [horigin, Option.or_eq_none_iff, h.started, hafter]
    have := h.nonneg
    omega
  · show (headBy w.service event).elim w.reconciled (max w.reconciled) ≤ _
    cases hhead : headBy w.service event with
    | none => exact le_trans h.reconciled hle
    | some head => exact max_le (le_trans h.reconciled hle) (h.headBy_le hhead)
  · intro a v start current hphase
    rcases heffect.asking a v start current hphase with hbefore | hpos
    · exact lt_of_lt_of_le (h.asking a v start current hbefore) hle
    · exact lt_of_lt_of_le hpos hle

/-! ## Missing logs -/

/-- A missing log lies above the last reconciled block and not below the cursor. -/
def Settled (w : Watched) : Prop :=
  ∀ log b, Missing chain w log b → w.reconciled < b ∧ w.lastSeen ≤ b

variable {chain}

theorem lossless_iff_settled (h : Books w) : Lossless chain w ↔ Settled chain w := by
  constructor
  · rintro hlossless log b ⟨hchain, hdue, hnot⟩
    constructor
    · by_contra hle
      exact hnot (hlossless.reconciled log hchain b hdue (not_lt.1 hle))
    · by_contra hlt
      exact hnot (hlossless.passed log hchain b hdue (not_le.1 hlt))
  · intro hsettled
    refine ⟨fun log hchain b hdue hle => ?_, fun log hchain b hdue hlt => ?_, h.counted, h.count,
      h.reading⟩
    · by_contra hnot
      exact absurd hle (not_le.2 (hsettled log b ⟨hchain, hdue, hnot⟩).1)
    · by_contra hnot
      exact absurd hlt (not_lt.2 (hsettled log b ⟨hchain, hdue, hnot⟩).2)

/-- Only the first head skips and starts the cursor; an event that skips brings nothing. -/
theorem skips_or_brings (s : Service) (event : Event) :
    skippedBy s event = [] ∨ (takenBy s event = [] ∧ headBy s event = none) := by
  cases event with
  | head answer =>
    refine .inr ⟨?_, by simp only [headBy]⟩
    rw [takenBy, show delivered s (.head answer) = [] by simp only [delivered]]
    rfl
  | _ => exact .inl (by simp only [skippedBy])

/-- Logs are due after an event as before it, once the cursor has started. -/
theorem due_advance_iff (hevent : ∀ edges vault, event ≠ .refresh edges vault) {o : Int}
    (horigin : w.origin = some o) (log : Log) (b : Int) :
    Due (w.advance event) log b ↔ Due w log b := by
  have htracked := (effect w.service event).tracked hevent
  have htracks : (w.advance event).service.cache.tracks log = w.service.cache.tracks log :=
    Cache.tracks_congr htracked log
  have horigin' : (w.advance event).origin = w.origin := by
    rw [Watched.advance, horigin, Option.some_or]
  have hsince : w.service.cache.tracks log = true →
      (w.advance event).since log.pool = w.since log.pool := by
    intro h
    simp only [Cache.tracks, Bool.and_eq_true] at h
    exact if_pos h.2
  constructor
  · rintro ⟨hblock, htopic, htracked', hstarted, hsince'⟩
    rw [htracks] at htracked'
    exact ⟨hblock, htopic, htracked', horigin' ▸ hstarted, hsince htracked' ▸ hsince'⟩
  · rintro ⟨hblock, htopic, htracked', hstarted, hsince'⟩
    exact ⟨hblock, htopic, htracks.trans htracked', horigin'.symm ▸ hstarted,
      (hsince htracked').symm ▸ hsince'⟩

/-- Tracking other pools only asks for what is above the cursor. -/
theorem settled_refresh (h : Books w) (hsettled : Settled chain w) (edges : List Cache.Edge)
    (vault : Text) : Settled chain (w.advance (.refresh edges vault)) := by
  rintro log b ⟨hchain, hdue, hnot⟩
  have hreconciled : (w.advance (.refresh edges vault)).reconciled = w.reconciled := rfl
  have hseen : (w.advance (.refresh edges vault)).lastSeen = w.lastSeen := rfl
  have hskipped : (w.advance (.refresh edges vault)).skipped = w.skipped := List.append_nil _
  have happlied : (w.advance (.refresh edges vault)).applied = w.applied := List.append_nil _
  rw [hreconciled, hseen]
  rw [Accounted, hskipped, happlied] at hnot
  by_cases htracked : w.service.cache.tracked.contains log.pool = true
  · have hbefore : Due w log b := by
      refine ⟨hdue.block, hdue.event, ?_, ?_, ?_⟩
      · have hpool := hdue.tracked
        simp only [Cache.tracks, Bool.and_eq_true] at hpool ⊢
        exact ⟨hpool.1, htracked⟩
      · obtain ⟨o, ho, hlt⟩ := hdue.started
        cases horigin : w.origin with
        | some o' =>
          simp only [Watched.advance, horigin, Option.some_or, Option.some.injEq] at ho
          exact ⟨o', rfl, ho ▸ hlt⟩
        | none =>
          -- the cursor has not started, and tracking pools does not start it
          have hzero := h.started.1 horigin
          have hafter : Watched.originAfter (w.service.step (.refresh edges vault))
              (.refresh edges vault) = none := if_neg (by
            show ¬0 < w.lastSeen
            omega)
          simp only [Watched.advance, horigin, Option.none_or, hafter] at ho
          cases ho
      · have hsince : (w.advance (.refresh edges vault)).since log.pool = w.since log.pool :=
          if_pos htracked
        exact hsince ▸ hdue.since
    exact hsettled log b ⟨hchain, hbefore, hnot⟩
  · have hnew : w.lastSeen < b := by
      have hsince : (w.advance (.refresh edges vault)).since log.pool = w.lastSeen :=
        if_neg htracked
      exact hsince ▸ hdue.since
    exact ⟨lt_of_le_of_lt h.reconciled hnew, le_of_lt hnew⟩

theorem originAfter_some {service : Service} {o : Int}
    (h : Watched.originAfter service event = some o) :
    0 < service.cache.lastSeenBlock ∧ service.cache.lastSeenBlock - 1 ≤ o := by
  unfold Watched.originAfter at h
  split at h
  · rename_i hpos
    split at h
    · cases h
      exact ⟨hpos, by omega⟩
    · cases h
      exact ⟨hpos, le_rfl⟩
  · cases h

/-- When an event starts the cursor, nothing is missing above it. -/
theorem settled_of_start (h : Books w) (horigin : w.origin = none) (event : Event) :
    Settled chain (w.advance event) := by
  rintro log b ⟨-, hdue, -⟩
  have hzero : w.lastSeen = 0 := h.started.1 horigin
  have hhead : headBy w.service event = none := by
    cases hhead : headBy w.service event with
    | none => rfl
    | some head =>
      obtain ⟨a, v, start, hphase⟩ := headBy_some hhead
      have := h.asking a v start head hphase
      omega
  have hreconciled : (w.advance event).reconciled = w.reconciled := by
    simp only [Watched.advance, hhead, Option.elim_none]
  obtain ⟨o, ho, hlt⟩ := hdue.started
  have hafter : Watched.originAfter (w.service.step event) event = some o := by
    simpa only [Watched.advance, horigin, Option.none_or] using ho
  obtain ⟨hpos, ho'⟩ : 0 < (w.advance event).lastSeen ∧ (w.advance event).lastSeen - 1 ≤ o :=
    originAfter_some hafter
  have hle := h.reconciled
  omega

/-- **One event keeps every log accounted for exactly when** what it delivers is complete. -/
theorem settled_advance_iff (h : Books w) (hsettled : Settled chain w) (event : Event) :
    Settled chain (w.advance event) ↔ Complete chain w event := by
  by_cases hrefresh : ∃ edges vault, event = .refresh edges vault
  · obtain ⟨edges, vault, rfl⟩ := hrefresh
    refine iff_of_true (settled_refresh h hsettled edges vault) fun _ _ _ _ => ⟨nofun, ?_⟩
    rw [show takenBy w.service (.refresh edges vault) = [] from rfl]
    exact fun _ hmem => absurd hmem List.not_mem_nil
  cases horigin : w.origin with
  | none =>
    refine iff_of_true (settled_of_start h horigin event) fun log b hmissing _ => ?_
    obtain ⟨o, ho, -⟩ := hmissing.2.1.started
    rw [horigin] at ho
    cases ho
  | some o =>
    have hdue := due_advance_iff (w := w)
      (fun edges vault heq => hrefresh ⟨edges, vault, heq⟩) horigin
    have hpos : 0 < w.lastSeen := by
      have hne : w.lastSeen ≠ 0 := fun hzero => by
        rw [h.started.2 hzero] at horigin
        cases horigin
      have := h.nonneg
      omega
    have hseen : ∀ x, (w.advance event).lastSeen ≤ x ↔ w.lastSeen ≤ x
        ∧ (∀ log ∈ takenBy w.service event, ∀ n, log.block = some n → n ≤ x)
        ∧ ∀ head ∈ headBy w.service event, head ≤ x :=
      (effect w.service event).seen.resolve_right fun hzero => absurd hzero.1 (not_le.2 hpos)
    have hreconciled : ∀ x, (w.advance event).reconciled < x ↔
        w.reconciled < x ∧ ∀ head ∈ headBy w.service event, head < x := by
      intro x
      show (headBy w.service event).elim w.reconciled (max w.reconciled) < x ↔ _
      cases headBy w.service event <;> simp
    constructor
    · intro hafter log b hmissing hnot
      rcases skips_or_brings w.service event with hskip | ⟨hnone, hhead⟩
      · have hmissing' : Missing chain (w.advance event) log b := by
          refine ⟨hmissing.1, (hdue log b).2 hmissing.2.1, ?_⟩
          rintro (happlied | hskipped)
          · rcases List.mem_append.1 happlied with hold | hnew
            · exact hmissing.2.2 (.inl hold)
            · exact hnot hnew
          · rw [Watched.advance, hskip, List.append_nil] at hskipped
            exact hmissing.2.2 (.inr hskipped)
        obtain ⟨habove, hbelow⟩ := hafter log b hmissing'
        exact ⟨((hreconciled b).1 habove).2, ((hseen b).1 hbelow).2.1⟩
      · rw [hnone, hhead]
        exact ⟨nofun, fun _ hmem => absurd hmem List.not_mem_nil⟩
    · rintro hcomplete log b ⟨hchain, hdue', hnot⟩
      have hmissing : Missing chain w log b := by
        refine ⟨hchain, (hdue log b).1 hdue', ?_⟩
        rintro (happlied | hskipped)
        · exact hnot (.inl (List.mem_append_left _ happlied))
        · exact hnot (.inr (List.mem_append_left _ hskipped))
      have hout : log ∉ takenBy w.service event := fun hmem =>
        hnot (.inl (List.mem_append_right _ hmem))
      obtain ⟨habove, hbelow⟩ := hsettled log b hmissing
      obtain ⟨hhead, hbrought⟩ := hcomplete log b hmissing hout
      refine ⟨(hreconciled b).2 ⟨habove, hhead⟩, (hseen b).2 ⟨hbelow, hbrought, ?_⟩⟩
      exact fun head hmem => le_of_lt (hhead head hmem)

/-! ## Runs -/

/-- **When no log is lost.** In every state a run reaches all logs are accounted for exactly when
everything that is delivered, by the stream or by a fetch, is complete. -/
theorem lossless_iff (chain : Set Log) (settings : Settings) (events : List Event) :
    (∀ reached, reached <+: events →
        Lossless chain (run Watched.advance (Watched.start settings) reached))
      ↔ AllSteps Watched.advance (Complete chain) (Watched.start settings) events := by
  have hstart : Books (Watched.start settings) ∧ Settled chain (Watched.start settings) := by
    refine ⟨books_start settings, fun log b hmissing => ?_⟩
    obtain ⟨o, ho, -⟩ := hmissing.2.1.started
    cases ho
  refine @reached_iff _ _ Watched.advance (fun _ _ => True) (Complete chain)
    (fun w => Books w ∧ Settled chain w) (Lossless chain)
    (fun w h => (lossless_iff_settled h.1).2 h.2) ?_ ?_ _ hstart _
    (allSteps_of_forall (fun _ _ => trivial) _ _)
  · rintro w event ⟨hbooks, hsettled⟩ - hcomplete
    exact ⟨hbooks.advance event, (settled_advance_iff hbooks hsettled event).2 hcomplete⟩
  · rintro w event ⟨hbooks, hsettled⟩ - hlossless
    exact (settled_advance_iff hbooks hsettled event).1
      ((lossless_iff_settled (hbooks.advance event)).1 hlossless)

/-! A pool whose log of block 105 is lost: the cursor starts at 99, the stream breaks off, and the
fetch of the blocks up to 110 fails. -/

def samplePool : String := "0x00000000000000000000000000000000000000aa"

def sampleLog : Log where
  address := .text samplePool
  blockNumber := .text "0x69"
  logIndex := .text "0x0"
  topics := some [.text (String.ofList syncTopic)]
  data := .text "0x"
  transactionHash := .text "0x01"

def sampleSettings : Settings := ⟨["wss://node".toList], ["https://node".toList], 256, 200⟩

def sampleEdge : Cache.Edge := ⟨"univ3".toList, [], ['a'], ['b'], .text samplePool, .none⟩

def sampleRun : List Event :=
  [.refresh [sampleEdge] [], .round, .head (some "0x64".toList), .dropped, .round,
    .head (some "0x6e".toList), .logs none]

/-- The topic of an event is spelled in lower case. -/
theorem topic0_sync {log : Log} (h : log.topics = some [.text (String.ofList syncTopic)]) :
    log.topic0 = syncTopic := by
  have hlower : pyLower syncTopic = syncTopic := by
    show pyLower ['0', 'x'] ++ (toHex _).map Char.toLower = _
    rw [toHex_map_toLower]
    rfl
  have htopic : log.topic0 = pyLower (String.ofList syncTopic).toList := by
    unfold Log.topic0
    rw [h]
    rfl
  rw [htopic, String.toList_ofList, hlower]

theorem sampleLog_event : sampleLog.topic0 ∈ eventTopics := by
  rw [topic0_sync rfl]
  exact List.mem_cons_self

/-- A fetch that fails is not repeated: the cursor is at the head, the log is nowhere. -/
theorem failed_fetch_loses :
    ¬∀ (chain : Set Log) (settings : Settings) (events : List Event),
      Lossless chain (run Watched.advance (Watched.start settings) events) := by
  intro h
  have hlossless := h {sampleLog} sampleSettings sampleRun
  generalize hw : run Watched.advance (Watched.start sampleSettings) sampleRun = w at hlossless
  have hseen : w.reconciled = 110 ∧ w.applied.length = 0 ∧ w.skipped = [] ∧ w.origin = some 99
      ∧ w.since sampleLog.pool = 0 ∧ w.service.cache.tracks sampleLog = true
      ∧ sampleLog.block = some 105 := by
    rw [← hw]
    decide +kernel
  obtain ⟨hreconciled, happlied, hskipped, horigin, hsince, htracked, hblock⟩ := hseen
  have hdue : Due w sampleLog 105 :=
    ⟨hblock, sampleLog_event, htracked, ⟨99, horigin, by omega⟩, by omega⟩
  rcases hlossless.reconciled sampleLog rfl 105 hdue (by omega) with hmem | hmem
  · rw [List.eq_nil_of_length_eq_zero happlied] at hmem
    cases hmem
  · rw [hskipped] at hmem
    cases hmem

end SovereignCapital.Pools
