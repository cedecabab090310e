import SovereignCapital.Discovery.Obeys

/-! # Runs of the discovery

Routines are started at any block, advance in any order, get any answers, are cancelled where they
wait, and the process restarts. A run keeps the frontier rule and the books exactly when the
operations that it makes meet what the venues leave open.
-/

namespace SovereignCapital.Discovery

open Bytes Routines

/-! ## Books that are in order -/

/-- Every record is under its key in its table, is proper, and has what its venue needs. -/
def Manager.Clean (m : Manager) : Prop :=
  ∀ table key p, (m.books table).get? key = some p →
    p.table = table ∧ p.key = key ∧ p.Proper ∧ p.detail.Sound

theorem Manager.Clean.filed {m : Manager} (h : m.Clean) : Manager.Filed m.books := by
  intro table key p hp
  obtain ⟨htable, hkey, hproper, hsound⟩ := h table key p hp
  exact ⟨htable, hkey, hproper.loadable hsound⟩

theorem Manager.clean_blank (cap : Nat) : (Manager.blank cap).Clean :=
  fun _ _ _ h => by cases h

theorem Manager.Clean.of_books {m m' : Manager} (h : m.Clean) (hbooks : m'.books = m.books) :
    m'.Clean := by
  unfold Manager.Clean
  rw [hbooks]
  exact h

variable {w w' : World} {op : Op} {sys : Sys Op World Request Reply}

section Hash

variable (stableHash : Text → Nat)

/-! ## What an operation records -/

/-- The records that are new are proper, and their tokens were known before. -/
def Recorded (w w' : World) : Prop :=
  ∀ table key p, (w'.manager.books table).get? key = some p →
    (w.manager.books table).get? key ≠ some p → p.Proper ∧ w.Known p

/-- No record is lost or changed. -/
def Kept (w w' : World) : Prop :=
  ∀ table key p, (w.manager.books table).get? key = some p →
    (w'.manager.books table).get? key = some p

variable {stableHash}

theorem recorded_of_books_eq (h : w'.manager.books = w.manager.books) : Recorded w w' := by
  intro table key p hp hnew
  rw [h] at hp
  exact (hnew hp).elim

theorem kept_of_books_eq (h : w'.manager.books = w.manager.books) : Kept w w' := by
  intro table key p hp
  rwa [h]

/-- Filing a pool at once records it properly and keeps what is there exactly if its key is free or
has it already, and its tokens are not blank. -/
theorem Op.ok_put_iff {p : Pool} (hallowed : (Op.put p).Allowed stableHash w) :
    (Op.put p).Ok stableHash w
      ↔ Recorded w ((Op.put p).apply stableHash w) ∧ Kept w ((Op.put p).apply stableHash w) := by
  obtain ⟨-, hpool, hne, hknown⟩ := hallowed
  have hget : ∀ table key, (((Op.put p).apply stableHash w).manager.books table).get? key
      = if table = p.table ∧ key = p.key then some p else (w.manager.books table).get? key :=
    fun table key => Manager.get?_file w.manager p.table table p.key key p
  constructor
  · rintro (hsame | ⟨hfree, hin, hout⟩)
    · have hget' : ∀ table key, (((Op.put p).apply stableHash w).manager.books table).get? key
          = (w.manager.books table).get? key := by
        intro table key
        rw [hget]
        split
        · rename_i hplace
          rw [hplace.1, hplace.2, hsame]
        · rfl
      refine ⟨fun table key q hq hnew => ?_, fun table key q hq => ?_⟩
      · rw [hget'] at hq
        exact (hnew hq).elim
      · rwa [hget']
    · refine ⟨fun table key q hq hnew => ?_, fun table key q hq => ?_⟩
      · rw [hget] at hq
        split at hq
        · cases hq
          exact ⟨⟨hpool, hin, hout, hne⟩, hknown⟩
        · exact (hnew hq).elim
      · have hfree := Manager.not_has_iff.1 hfree
        rw [hget, if_neg]
        · exact hq
        · rintro ⟨rfl, rfl⟩
          rw [hfree] at hq
          cases hq
  · rintro ⟨hrecorded, hkept⟩
    have hput : (((Op.put p).apply stableHash w).manager.books p.table).get? p.key = some p := by
      rw [hget, if_pos ⟨rfl, rfl⟩]
    cases hthere : (w.manager.books p.table).get? p.key with
    | none =>
      have hnew : (w.manager.books p.table).get? p.key ≠ some p := by
        rw [hthere]
        exact fun h => by cases h
      have hproper := (hrecorded _ _ _ hput hnew).1
      exact Or.inr ⟨Manager.not_has_iff.2 hthere, hproper.tokenIn, hproper.tokenOut⟩
    | some q =>
      have hsame := hkept _ _ _ hthere
      rw [hput] at hsame
      exact Or.inl (hthere.trans hsame.symm)

theorem Op.assured_of_allowed (hop : ∀ p, op ≠ .put p) (hallowed : op.Allowed stableHash w) :
    ∀ p ∈ op.files stableHash w, w.Assured p := by
  cases op with
  | put p => exact (hop p rfl).elim
  | _ => exact hallowed

theorem Op.ok_iff_of_not_put (hop : ∀ p, op ≠ .put p) :
    op.Ok stableHash w ↔ ∀ p ∈ w.manager.fresh (op.files stableHash w), w.Needs p := by
  cases op with
  | put p => exact (hop p rfl).elim
  | _ => exact Iff.rfl

/-- **What an operation leaves open is just what it takes** to record proper pools of known tokens
and to keep the others. -/
theorem Op.ok_iff (hallowed : op.Allowed stableHash w) :
    op.Ok stableHash w ↔ Recorded w (op.apply stableHash w) ∧ Kept w (op.apply stableHash w) := by
  by_cases hput : ∃ p, op = .put p
  · obtain ⟨p, rfl⟩ := hput
    exact ok_put_iff hallowed
  · have hop : ∀ p, op ≠ .put p := fun p hp => hput ⟨p, hp⟩
    have hassured := Op.assured_of_allowed hop hallowed
    have hget := fun table key p => Op.get?_apply stableHash hop w table key p
    rw [ok_iff_of_not_put hop]
    constructor
    · intro hneeds
      refine ⟨fun table key p hp hnew => ?_, fun table key p hp => (hget _ _ _).2 (Or.inl hp)⟩
      rcases (hget _ _ _).1 hp with hold | ⟨hfresh, -, -⟩
      · exact (hnew hold).elim
      · have hp := hassured p (Manager.get?_of_mem_fresh hfresh).1
        exact hp.proper_and_known_iff.2 (hneeds p hfresh)
    · rintro ⟨hrecorded, -⟩ p hfresh
      obtain ⟨hmem, hfree⟩ := Manager.get?_of_mem_fresh hfresh
      have hnew : (w.manager.books p.table).get? p.key ≠ some p := by
        rw [hfree]
        exact fun h => by cases h
      have hafter := (hget p.table p.key p).2 (Or.inr ⟨hfresh, rfl, rfl⟩)
      exact (hassured p hmem).proper_and_known_iff.1 (hrecorded _ _ _ hafter hnew)

/-- The records of an operation are under their keys, with what their venues need. -/
theorem Op.placed (hallowed : op.Allowed stableHash w) {table : Table} {key : Text} {p : Pool}
    (hp : ((op.apply stableHash w).manager.books table).get? key = some p) :
    (w.manager.books table).get? key = some p ∨ p.table = table ∧ p.key = key ∧ p.detail.Sound := by
  by_cases hput : ∃ q, op = .put q
  · obtain ⟨q, rfl⟩ := hput
    have hget := Manager.get?_file w.manager q.table table q.key key q
    rw [show ((Op.put q).apply stableHash w).manager = w.manager.file q.table q.key q from rfl,
      hget] at hp
    split at hp
    · rename_i hplace
      cases hp
      exact Or.inr ⟨hplace.1.symm, hplace.2.symm, hallowed.1⟩
    · exact Or.inl hp
  · have hop : ∀ q, op ≠ .put q := fun q hq => hput ⟨q, hq⟩
    have hassured := Op.assured_of_allowed hop hallowed
    rcases (Op.get?_apply stableHash hop w table key p).1 hp with hold | ⟨hfresh, hplace⟩
    · exact Or.inl hold
    · have hsound := (hassured p (Manager.get?_of_mem_fresh hfresh).1).1
      exact Or.inr ⟨hplace.1, hplace.2, hsound⟩

/-! ## What a step should do -/

def restarts : Event Reply Start Outer → Bool
  | .outside e => e.fatal
  | _ => false

structure StepKept (w w' : World) : Prop where
  /-- The universe is not changed. -/
  tokenUniverse : w'.config.tokenUniverse = w.config.tokenUniverse
  cap : w'.manager.cap = w.manager.cap
  recorded : Recorded w w'
  kept : Kept w w'

structure StateKept (w : World) : Prop where
  /-- The observed tokens are within the cap. -/
  bounded : w.manager.Bounded
  proper : ∀ table key p, (w.manager.books table).get? key = some p → p.Proper
  /-- Saving and reloading gives back the same records under the same keys. -/
  reloaded : ∀ cap, (Manager.load cap (some w.manager.document)).books = w.manager.books

/-- What an event should do. -/
structure Good (stableHash : Text → Nat) (sys : Sys Op World Request Reply)
    (event : Event Reply Start Outer) : Prop where
  state : StateKept ((machine stableHash).step sys event).shared
  step : restarts event = false → StepKept sys.shared ((machine stableHash).step sys event).shared
  /-- After a restart the records are those of the file. -/
  restart : restarts event = true → ∀ doc, sys.shared.saved = some doc →
    ((machine stableHash).step sys event).shared.manager.document = doc

/-- The operation of an event meets what the venues leave open. -/
def Ok (stableHash : Text → Nat) (sys : Sys Op World Request Reply)
    (event : Event Reply Start Outer) : Prop :=
  ∀ op, sys.performed event = some op → op.Ok stableHash sys.shared

/-- A process that starts without a file. -/
def begin (config : Config) (cap : Nat) (diskOk : Bool) : Sys Op World Request Reply :=
  ⟨⟨config, Manager.load cap none, none, diskOk⟩, []⟩

/-! ## The invariant -/

/-- The books are in order, also those of the file. -/
structure InOrder (w : World) : Prop where
  bounded : w.manager.Bounded
  clean : w.manager.Clean
  saved : ∀ doc, w.saved = some doc → ∃ m : Manager, m.Clean ∧ doc = m.document

theorem InOrder.stateKept (h : InOrder w) : StateKept w where
  bounded := h.bounded
  proper := fun table key p hp => (h.clean table key p hp).2.2.1
  reloaded := Manager.books_load_document h.clean.filed

theorem InOrder.restart (h : InOrder w) (config : Config) (cap : Nat) :
    InOrder ((Outer.restart config cap).apply w)
      ∧ ∀ doc, w.saved = some doc →
        ((Outer.restart config cap).apply w).manager.document = doc := by
  have hbooks : ∀ doc, w.saved = some doc → ∃ m : Manager, m.Clean ∧ doc = m.document
      ∧ (Manager.load cap w.saved).books = m.books := by
    intro doc hdoc
    obtain ⟨m, hclean, rfl⟩ := h.saved doc hdoc
    refine ⟨m, hclean, rfl, ?_⟩
    rw [hdoc]
    exact Manager.books_load_document hclean.filed cap
  refine ⟨⟨Manager.bounded_load cap w.saved, ?_, h.saved⟩, fun doc hdoc => ?_⟩
  · show (Manager.load cap w.saved).Clean
    cases hsaved : w.saved with
    | none => exact Manager.clean_blank cap
    | some doc =>
      obtain ⟨m, hclean, -, hm⟩ := hbooks doc hsaved
      rw [hsaved] at hm
      exact hclean.of_books hm
  · obtain ⟨m, -, rfl, hm⟩ := hbooks doc hdoc
    show (Manager.load cap w.saved).document = m.document
    unfold Manager.document
    rw [hm]

/-- An operation that meets what it leaves open keeps the books in order. -/
theorem InOrder.apply (h : InOrder w) (hallowed : op.Allowed stableHash w)
    (hok : op.Ok stableHash w) : InOrder (op.apply stableHash w) := by
  have hclean : (op.apply stableHash w).manager.Clean := by
    intro table key p hp
    by_cases hold : (w.manager.books table).get? key = some p
    · exact h.clean table key p hold
    · have hproper := ((Op.ok_iff hallowed).1 hok).1 table key p hp hold
      rcases Op.placed hallowed hp with hold' | ⟨htable, hkey, hsound⟩
      · exact (hold hold').elim
      · exact ⟨htable, hkey, hproper.1, hsound⟩
  refine ⟨Op.bounded_apply stableHash op h.bounded, hclean, fun doc hdoc => ?_⟩
  cases op with
  | save =>
    unfold Op.apply at hdoc
    cases hdisk : w.diskOk with
    | false =>
      simp only [hdisk] at hdoc
      exact h.saved doc hdoc
    | true =>
      simp only [hdisk, if_true] at hdoc
      cases hdoc
      exact ⟨w.manager, h.clean, rfl⟩
  | _ => exact h.saved doc hdoc

/-- What every state of a run keeps. -/
structure Inv (stableHash : Text → Nat) (sys : Sys Op World Request Reply) : Prop where
  /-- What is left of the routines keeps to what they see to. -/
  keep : (machine stableHash).AllKeep World.Later (fun op w => op.Allowed stableHash w) sys
  inOrder : InOrder sys.shared

theorem inv_begin (config : Config) (cap : Nat) (diskOk : Bool) :
    Inv stableHash (begin config cap diskOk) where
  keep := fun t ht => (List.not_mem_nil ht).elim
  inOrder := {
    bounded := Manager.bounded_load cap none
    clean := Manager.clean_blank cap
    saved := fun doc hdoc => by cases hdoc }

/-- An event makes an operation, or leaves the state, or is of the surroundings. -/
theorem Inv.step_cases (h : Inv stableHash sys) (event : Event Reply Start Outer) :
    (∃ op, sys.performed event = some op ∧ restarts event = false
        ∧ op.Allowed stableHash sys.shared
        ∧ ((machine stableHash).step sys event).shared = op.apply stableHash sys.shared)
      ∨ (sys.performed event = none ∧ restarts event = false
        ∧ ((machine stableHash).step sys event).shared = sys.shared)
      ∨ ∃ e, event = .outside e := by
  cases hperformed : sys.performed event with
  | some op =>
    have hrestarts : restarts event = false := by
      cases event with
      | outside e => cases hperformed
      | _ => rfl
    obtain ⟨hallowed, hshared⟩ := machine_lawful.performed h.keep hperformed
    exact Or.inl ⟨op, rfl, hrestarts, hallowed, hshared⟩
  | none =>
    by_cases houter : ∃ e, event = .outside e
    · exact Or.inr (Or.inr houter)
    · have houter' : ∀ e, event ≠ .outside e := fun e he => houter ⟨e, he⟩
      have hrestarts : restarts event = false := by
        cases event with
        | outside e => exact (houter' e rfl).elim
        | _ => rfl
      exact Or.inr (Or.inl ⟨rfl, hrestarts,
        Machine.step_shared_of_not_performed hperformed houter'⟩)

theorem Inv.step (h : Inv stableHash sys) {event : Event Reply Start Outer}
    (hok : Ok stableHash sys event) : Inv stableHash ((machine stableHash).step sys event) := by
  refine ⟨machine_lawful.step h.keep event, ?_⟩
  rcases h.step_cases event with
    ⟨op, hperformed, -, hallowed, hshared⟩ | ⟨-, -, hshared⟩ | ⟨e, rfl⟩
  · rw [hshared]
    exact h.inOrder.apply hallowed (hok op hperformed)
  · rw [hshared]
    exact h.inOrder
  · cases e with
    | disk ok => exact ⟨h.inOrder.bounded, h.inOrder.clean, h.inOrder.saved⟩
    | restart config cap => exact (h.inOrder.restart config cap).1

theorem stepKept_of_eq (hconfig : w'.config = w.config) (hcap : w'.manager.cap = w.manager.cap)
    (hbooks : w'.manager.books = w.manager.books) : StepKept w w' :=
  ⟨congrArg Config.tokenUniverse hconfig, hcap, recorded_of_books_eq hbooks,
    kept_of_books_eq hbooks⟩

/-- Under the invariant an event does what it should exactly if its operation meets what the venues
leave open. -/
theorem Inv.good_iff (h : Inv stableHash sys) (event : Event Reply Start Outer) :
    Good stableHash sys event ↔ Ok stableHash sys event := by
  constructor
  · intro hgood op hperformed
    rcases h.step_cases event with
      ⟨op', hperformed', hrestarts, hallowed, hshared⟩ | ⟨hnone, -, -⟩ | ⟨e, rfl⟩
    · cases hperformed.symm.trans hperformed'
      have hstep := hgood.step hrestarts
      rw [hshared] at hstep
      exact (Op.ok_iff hallowed).2 ⟨hstep.recorded, hstep.kept⟩
    · rw [hnone] at hperformed
      cases hperformed
    · cases hperformed
  · intro hok
    have hstate : StateKept ((machine stableHash).step sys event).shared :=
      (h.step hok).inOrder.stateKept
    have hnot : ∀ {doc}, restarts event = false → restarts event = true →
        ((machine stableHash).step sys event).shared.manager.document = doc := by
      intro doc hfalse htrue
      rw [hfalse] at htrue
      cases htrue
    rcases h.step_cases event with
      ⟨op, hperformed, hrestarts, hallowed, hshared⟩ | ⟨-, hrestarts, hshared⟩ | ⟨e, rfl⟩
    · refine ⟨hstate, fun _ => ?_, fun htrue _ _ => hnot hrestarts htrue⟩
      obtain ⟨hrecorded, hkept⟩ := (Op.ok_iff hallowed).1 (hok op hperformed)
      rw [hshared]
      exact ⟨congrArg Config.tokenUniverse (Op.later_apply stableHash op sys.shared).config,
        Op.cap_apply stableHash op sys.shared, hrecorded, hkept⟩
    · refine ⟨hstate, fun _ => ?_, fun htrue _ _ => hnot hrestarts htrue⟩
      rw [hshared]
      exact stepKept_of_eq rfl rfl rfl
    · cases e with
      | disk ok =>
        exact ⟨hstate, fun _ => stepKept_of_eq rfl rfl rfl, fun htrue _ _ => hnot rfl htrue⟩
      | restart config cap =>
        refine ⟨hstate, fun hfalse => ?_, fun _ => (h.inOrder.restart config cap).2⟩
        cases hfalse

/-- **The frontier rule and the books.** Along a run from a fresh start, over any configuration,
every step does what it should exactly if every operation meets what the venues leave open. -/
theorem discovery_good_iff (stableHash : Text → Nat) (config : Config) (cap : Nat) (diskOk : Bool)
    (events : List (Event Reply Start Outer)) :
    Runs.AllSteps (machine stableHash).step (Good stableHash) (begin config cap diskOk) events
      ↔ Runs.AllSteps (machine stableHash).step (Ok stableHash) (begin config cap diskOk)
        events := by
  have hcall : ∀ sys event, Inv stableHash sys →
      (Good stableHash sys event ↔ Ok stableHash sys event) := fun _ event h => h.good_iff event
  have hstep : ∀ sys event, Inv stableHash sys → Ok stableHash sys event →
      Inv stableHash ((machine stableHash).step sys event) := fun _ _ h hok => h.step hok
  exact Runs.allSteps_iff hcall hstep (inv_begin config cap diskOk) events

end Hash

/-! ## A pool with the zero token

The reader of Aerodrome's events takes up a pool whose second token is the zero address.
-/

def sameDigits (c : Char) : Text := with0x (List.replicate 40 c)

def aerodromeConfig : Config where
  chainName := "base".toList
  enableDiscovery := true
  tokenUniverse := [sameDigits '1']
  weth := []
  univ3Factory := []
  aerodromeRouter := sameDigits '9'
  aerodromeFactoryRegistry := []
  slipstreamFactories := []
  camelotV2Factory := []
  camelotAlgebraFactory := []
  constantProductVenues := []
  curveAddressProvider := []
  balancerVault := []
  discoveryIntervalBlocks := 50
  discoveryLogWindowBlocks := 50000
  discoveryPoolMaxCandidates := 48
  discoveryMaxCalls := 24
  frontierTokenCap := none

/-- A text of words, each with an address or a number of one digit at its end. -/
def hexValue (words : List (Nat × Char)) : PyTree :=
  .leaf (textValue (with0x (words.flatMap fun w =>
    List.replicate (64 - w.1) '0' ++ List.replicate w.1 w.2)))

theorem topicsText_ne : "[...]" ≠ "" := by decide

theorem logText_ne : "\x7b...\x7d" ≠ "" := by decide

/-- A `PoolCreated` of a volatile pool. -/
def zeroTokenLog : PyTree :=
  .dict
    [("topics", .list [hexValue [(64, 'a')], hexValue [(40, '1')], hexValue [(40, '0')],
        hexValue [(1, '0')]] ⟨"[...]", topicsText_ne⟩),
      ("data", hexValue [(40, '5')])]
    ⟨"\x7b...\x7d", logText_ne⟩

/-- The routine is started and goes on to the registry, the factories and the logs. -/
def zeroTokenRun : List (Event Reply Start Outer) :=
  [.start (.discover .aerodrome 100), .advance 0, .advance 0, .advance 0,
    .answer 0 (.call (some (hexValue [(40, '8')]))),
    .answer 0 (.call (some (.leaf (textValue (with0x (
      List.replicate 62 '0' ++ ['2', '0'] ++ List.replicate 63 '0' ++ ['1']
        ++ List.replicate 24 '0' ++ List.replicate 40 '7')))))),
    .advance 0, .answer 0 (.logs [zeroTokenLog])]

def zeroTokenPool : Pool :=
  ⟨sameDigits '5', sameDigits '1', sameDigits '0', 100, 100, .aerodrome false (sameDigits '7')⟩

theorem not_discovery_good :
    ¬ ∀ (stableHash : Text → Nat) (config : Config) (cap : Nat) (diskOk : Bool)
      (events : List (Event Reply Start Outer)),
      Runs.AllSteps (machine stableHash).step (Good stableHash) (begin config cap diskOk)
        events := by
  intro h
  have hgood : Good (fun _ => 0)
      (Runs.run (machine fun _ => 0).step (begin aerodromeConfig 64 true) zeroTokenRun)
      (.advance 0) :=
    (h (fun _ => 0) aerodromeConfig 64 true (zeroTokenRun ++ [.advance 0])).call
  have hrecorded := hgood.state.proper .aerodrome zeroTokenPool.key zeroTokenPool
    (by decide +kernel)
  exact hrecorded.tokenOut (by decide +kernel)

end SovereignCapital.Discovery
