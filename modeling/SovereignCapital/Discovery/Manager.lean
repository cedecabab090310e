import SovereignCapital.Discovery.Pools

/-! # The discovery manager

`DiscoveryManager`: the tokens that were observed, the books of the eight venues, the file, and the
operations that the discovery routines make on them between two questions to the chain.
-/

namespace SovereignCapital.Discovery

open Bytes

/-! ## Configuration -/

/-- An entry of `constant_product_venues`. -/
structure ConstantProductVenue where
  factory : Text
  router : Text
  name : Text

/-- `cfg` and the environment, as far as discovery reads them. -/
structure Config where
  chainName : Text
  enableDiscovery : Bool
  tokenUniverse : List Text
  weth : Text
  univ3Factory : Text
  aerodromeRouter : Text
  aerodromeFactoryRegistry : Text
  slipstreamFactories : List Text
  camelotV2Factory : Text
  camelotAlgebraFactory : Text
  constantProductVenues : List ConstantProductVenue
  curveAddressProvider : Text
  balancerVault : Text
  discoveryIntervalBlocks : Int
  discoveryLogWindowBlocks : Int
  discoveryPoolMaxCandidates : Int
  discoveryMaxCalls : Int
  /-- `VICTOR_DISCOVERY_FRONTIER_TOKEN_CAP` -/
  frontierTokenCap : Option Text

/-- `int(getattr(…, default) or default)`. -/
def orInt (n default : Int) : Int := if n = 0 then default else n

/-- `int(os.environ.get(name, default) or default)`; nothing where it raises. -/
def intSetting (setting : Option Text) (default : Int) : Option Int :=
  match setting with
  | none => some default
  | some [] => some default
  | some t => pyInt 10 t

/-- The configured tokens, in lower case. -/
def Config.anchors (cfg : Config) : List Text :=
  (cfg.tokenUniverse.filter fun t => t != []).map pyLower

/-! ## The manager -/

/-- The routines with a mark of the block they last ran at. -/
inductive Venue where
  | univ3
  | curve
  | balancer
  | aerodrome
  | slipstream
  | camelotAlgebra
  | camelotV2
  | constantProduct
deriving DecidableEq

/-- A token as it is kept: in lower case. -/
abbrev Token := {t : Text // pyLower t = t}

/-- `str(token).lower()`. -/
def normalized (t : Text) : Token := ⟨pyLower t, pyLower_pyLower t⟩

structure Manager where
  /-- `_candidate_tokens_observed`: the sources of each token. -/
  observed : Dict Token (List Text)
  cap : Nat
  truncated : Bool
  books : Table → Dict Text Pool
  lastRun : Venue → Int

/-- What is kept of the books: the records of each table, one dictionary each. -/
abbrev Document := Table → List PyDict

def Blank (t : Text) : Prop := t = [] ∨ pyLower t = zeroAddress

instance (t : Text) : Decidable (Blank t) := by unfold Blank; infer_instance

namespace Manager

/-- A manager before the file is read. -/
def blank (cap : Nat) : Manager where
  observed := Dict.empty
  cap := max 1 cap
  truncated := false
  books := fun _ => Dict.empty
  lastRun := fun _ => 0

/-- `_observe_candidate_tokens`. -/
def observe (source : Text) : List Text → Manager → Manager
  | [], m => m
  | t :: rest, m =>
    if Blank t then observe source rest m
    else
      match m.observed.get? (normalized t) with
      | some sources =>
        observe source rest
          { m with observed := m.observed.set (normalized t) (source :: sources.erase source) }
      | none =>
        if m.cap ≤ m.observed.entries.length then { m with truncated := true }
        else observe source rest { m with observed := m.observed.set (normalized t) [source] }

/-- `self._v3[key] = …` and the like. -/
def file (m : Manager) (table : Table) (key : Text) (p : Pool) : Manager :=
  { m with
    books := fun table' =>
      if table' = table then (m.books table).set key p else m.books table' }

def has (m : Manager) (p : Pool) : Bool := (m.books p.table).contains p.key

def add (m : Manager) (p : Pool) : Manager := if m.has p then m else m.file p.table p.key p

def addAll (m : Manager) (pools : List Pool) : Manager := pools.foldl add m

/-- The source that is noted for a record of the file. -/
def persistedSource (p : Pool) : Text :=
  match p.detail with
  | .v3 _ => "univ3_persisted".toList
  | .curve _ _ => "curve_persisted".toList
  | .aerodrome _ _ => "aerodrome_persisted".toList
  | .slipstream _ _ => "slipstream_persisted".toList
  | .camelotAlgebra _ _ => "camelot_algebra_persisted".toList
  | .camelotV2 _ => "camelot_v2_persisted".toList
  | .constantProduct _ _ venueName => venueName ++ "_persisted".toList
  | .balancer _ => "balancer_persisted".toList

def loadEntry (table : Table) (m : Manager) (it : PyDict) : Manager :=
  match readPool table it with
  | none => m
  | some p => observe (persistedSource p) [p.tokenIn, p.tokenOut] (m.file table p.key p)

def loadTable (doc : Document) (m : Manager) (table : Table) : Manager :=
  (doc table).foldl (loadEntry table) m

def loadOrder : List Table :=
  [.v3, .curve, .aerodrome, .slipstream, .camelotAlgebra, .camelotV2, .constantProduct, .balancer]

def load (cap : Nat) (file : Option Document) : Manager :=
  match file with
  | none => blank cap
  | some doc => loadOrder.foldl (loadTable doc) (blank cap)

/-- What `_save` writes. -/
def document (m : Manager) : Document := fun table => (m.books table).values.map Pool.vars

end Manager

/-! ## The world -/

/-- The process: its configuration, the manager, the file, and whether the disk takes it. -/
structure World where
  config : Config
  manager : Manager
  saved : Option Document
  diskOk : Bool

/-- A token that was observed. -/
def World.Observed (w : World) (t : Text) : Prop := w.manager.observed.contains (normalized t)

/-- A token of the configuration. -/
def World.Configured (w : World) (t : Text) : Prop := pyLower t ∈ w.config.anchors

section Frontier

variable (stableHash : Text → Nat)

/-- Texts in the order of some number, ties as they come. -/
def sortedBy (number : Text → Nat) (ts : List Text) : List Text :=
  ts.insertionSort fun a b => number a ≤ number b

/-- The observed tokens that are not configured. -/
def World.outside (w : World) : List Text :=
  (w.manager.observed.entries.map fun e => e.1.1).filter fun t => decide (t ∉ w.config.anchors)

def World.sourceCount (w : World) (t : Text) : Nat :=
  (w.manager.observed.getD (normalized t) []).length

/-- `research_frontier_tokens`: those with the most sources first, then by their hash. -/
def World.researchFrontierTokens (w : World) : List Text :=
  (w.outside.insertionSort fun a b =>
      w.sourceCount b < w.sourceCount a
        ∨ (w.sourceCount b = w.sourceCount a
          ∧ stableHash ("research-frontier:".toList ++ w.config.chainName ++ ':' :: a)
            ≤ stableHash ("research-frontier:".toList ++ w.config.chainName ++ ':' :: b))).take
    (max 0 (min 16 ((intSetting w.config.frontierTokenCap 16).getD 16))).toNat

/-- `_research_frontier_tokens`. -/
def World.frontier (w : World) : List Text :=
  w.config.anchors ++ w.researchFrontierTokens stableHash

/-! ## Pairs -/

/-- The tokens of a pool that are not blank and have a balance, with their positions. -/
def liquid : Nat → List Text → List Nat → List (Nat × Text)
  | _, [], _ => []
  | _, _, [] => []
  | i, t :: ts, b :: bs =>
    if Blank t ∨ b = 0 then liquid (i + 1) ts bs else (i, t) :: liquid (i + 1) ts bs

/-- A pair is added unless its positions are the same or were seen, in either order. -/
def addLinked (seen : List (Nat × Nat)) (pairs : List (Nat × Text × Nat × Text))
    (p : Nat × Text × Nat × Text) : List (Nat × Text × Nat × Text) :=
  if p.1 = p.2.2.1 ∨ (min p.1 p.2.2.1, max p.1 p.2.2.1) ∈ seen
      ∨ pairs.any fun p' =>
        (min p'.1 p'.2.2.1, max p'.1 p'.2.2.1) == (min p.1 p.2.2.1, max p.1 p.2.2.1) then
    pairs
  else pairs ++ [p]

/-- The pairs of the items of two lists. -/
def linked (first second : List (Nat × Text)) (seen : List (Nat × Nat)) :
    List (Nat × Text × Nat × Text) :=
  (first.flatMap fun a => second.map fun b => (a.1, a.2, b.1, b.2)).foldl (addLinked seen) []

def World.supportedDiscoveryPairs (w : World) (tokens : List Text) (balances : List Nat) :
    List (Nat × Text × Nat × Text) :=
  let liquid := liquid 0 tokens balances
  let anchors := liquid.filter fun item => decide (pyLower item.2 ∈ w.config.anchors)
  let observed := liquid.filter fun item =>
    decide (pyLower item.2 ∈ w.researchFrontierTokens stableHash
      ∧ pyLower item.2 ∉ w.config.anchors)
  let firstHop := linked anchors liquid []
  if anchors.isEmpty then []
  else
    firstHop ++ linked (anchors ++ observed) (anchors ++ observed)
      (firstHop.map fun p => (min p.1 p.2.2.1, max p.1 p.2.2.1))

end Frontier

end SovereignCapital.Discovery
