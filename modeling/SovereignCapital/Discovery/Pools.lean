import SovereignCapital.Lib.PyTree

/-! # Discovered pools

The decoders of `discovery.py`, and the records of the eight venues: what they are filed under, how
they are written to the file and how they are read from it.
-/

namespace SovereignCapital.Discovery

open Bytes

/-! ## Decoders -/

def zeroAddress : Text := with0x (List.replicate 40 '0')

/-- The bytes of a text in hexadecimal digits. -/
def hexBytes (v : PyTree) : Option (List Byte) :=
  match v with
  | .leaf (.text s) => (strip0x s.toList).bind fromHex
  | _ => none

/-- `"0x" + b[-20:].hex()`. -/
def lastTwenty (b : List Byte) : Text := with0x (toHex (b.drop (b.length - 20)))

/-- `_decode_address`; the empty text where there is none. -/
def decodeAddress (v : PyTree) : Text :=
  match hexBytes v with
  | none => []
  | some b => if b.length < 32 then [] else lastTwenty b

def words (v : PyTree) : List (List Byte) :=
  match hexBytes v with
  | none => []
  | some raw => (List.range (raw.length / 32)).map fun i => (raw.drop (32 * i)).take 32

def decodeFixedAddresses (v : PyTree) (size : Nat) : List Text :=
  ((words v).take size).map lastTwenty

def decodeFixedUints (v : PyTree) (size : Nat) : List Nat := ((words v).take size).map beNat

def decodeDynamicArray (v : PyTree) (index : Nat) : List (List Byte) :=
  match (words v)[index]? with
  | none => []
  | some word =>
    if beNat word % 32 ≠ 0 then []
    else
      match (words v)[beNat word / 32]? with
      | none => []
      | some length => ((words v).drop (beNat word / 32 + 1)).take (beNat length)

def decodeBalancerPoolTokens (v : PyTree) : List Text × List Nat :=
  ((decodeDynamicArray v 0).map lastTwenty, (decodeDynamicArray v 1).map beNat)

/-! ## Records -/

inductive Table where
  | v3
  | curve
  | aerodrome
  | slipstream
  | camelotAlgebra
  | camelotV2
  | constantProduct
  | balancer
deriving DecidableEq

/-- What a record has beside the pool, its tokens and the blocks. -/
inductive Detail where
  | v3 (fee : Int)
  | curve (i j : Int)
  | aerodrome (stable : Bool) (factory : Text)
  | slipstream (tickSpacing : Int) (factory : Text)
  | camelotAlgebra (tickSpacing : Int) (factory : Text)
  | camelotV2 (factory : Text)
  | constantProduct (factory router venueName : Text)
  | balancer (poolId : Text)
deriving DecidableEq

def Detail.table : Detail → Table
  | .v3 _ => .v3
  | .curve _ _ => .curve
  | .aerodrome _ _ => .aerodrome
  | .slipstream _ _ => .slipstream
  | .camelotAlgebra _ _ => .camelotAlgebra
  | .camelotV2 _ => .camelotV2
  | .constantProduct _ _ _ => .constantProduct
  | .balancer _ => .balancer

/-- `DiscoveredV3`, `DiscoveredCurve` and the others; the tokens of the first are `token0` and
`token1`. -/
structure Pool where
  pool : Text
  tokenIn : Text
  tokenOut : Text
  firstSeenBlock : Int
  lastSeenBlock : Int
  detail : Detail
deriving DecidableEq

def Pool.table (p : Pool) : Table := p.detail.table

/-! ## Keys -/

def joined (parts : List Text) : Text := [':'].intercalate parts

/-- `_key`: the tokens in order. -/
def v3Key (a b : Text) (fee : Int) : Text :=
  if textLe (pyLower a) (pyLower b) then joined [pyLower a, pyLower b, pyDecimal fee]
  else joined [pyLower b, pyLower a, pyDecimal fee]

/-- What a record is filed under. -/
def Pool.key (p : Pool) : Text :=
  match p.detail with
  | .v3 fee => v3Key p.tokenIn p.tokenOut fee
  | .curve i j => joined [pyLower p.pool, pyDecimal i, pyDecimal j]
  | .aerodrome stable factory =>
    joined [pyLower p.pool, pyLower p.tokenIn, pyLower p.tokenOut,
      pyDecimal (if stable then 1 else 0), pyLower factory]
  | .slipstream tickSpacing factory =>
    joined [pyLower p.pool, pyLower p.tokenIn, pyLower p.tokenOut, pyDecimal tickSpacing,
      pyLower factory]
  | .camelotAlgebra _ factory =>
    joined [pyLower p.pool, pyLower p.tokenIn, pyLower p.tokenOut, pyLower factory]
  | .camelotV2 factory =>
    joined [pyLower p.pool, pyLower p.tokenIn, pyLower p.tokenOut, pyLower factory]
  | .constantProduct _ _ venueName =>
    joined [pyLower venueName, pyLower p.pool, pyLower p.tokenIn, pyLower p.tokenOut]
  | .balancer poolId => joined [pyLower poolId, pyLower p.tokenIn, pyLower p.tokenOut]

/-! ## The file -/

def textValue (t : Text) : PyValue := .text (String.ofList t)

def Table.tokenNames : Table → String × String
  | .v3 => ("token0", "token1")
  | _ => ("token_in", "token_out")

/-- The items of `vars` that are the venue's own. -/
def Detail.vars : Detail → List (String × PyValue)
  | .v3 fee => [("fee", .int fee)]
  | .curve i j => [("i", .int i), ("j", .int j)]
  | .aerodrome stable factory => [("stable", .bool stable), ("factory", textValue factory)]
  | .slipstream tickSpacing factory =>
    [("tick_spacing", .int tickSpacing), ("factory", textValue factory)]
  | .camelotAlgebra tickSpacing factory =>
    [("tick_spacing", .int tickSpacing), ("factory", textValue factory)]
  | .camelotV2 factory => [("factory", textValue factory)]
  | .constantProduct factory router venueName =>
    [("factory", textValue factory), ("router", textValue router),
      ("venue_name", textValue venueName)]
  | .balancer poolId => [("pool_id", textValue poolId)]

def Pool.vars (p : Pool) : PyDict :=
  PyDict.literal <|
    [("pool", textValue p.pool), (p.table.tokenNames.1, textValue p.tokenIn),
      (p.table.tokenNames.2, textValue p.tokenOut), ("first_seen_block", .int p.firstSeenBlock),
      ("last_seen_block", .int p.lastSeenBlock)] ++ p.detail.vars

/-- `str(it.get(k) or "")`. -/
def textAt (it : PyDict) (k : String) : Text := ((it.get k).orElse (.text "")).str.toList

/-- `int(it.get(k) or 0)`; nothing where it raises. -/
def intAt (it : PyDict) (k : String) : Option Int := ((it.get k).orElse (.int 0)).int?

/-- The venue's own items. -/
def readDetail (it : PyDict) : Table → Option Detail
  | .v3 => (intAt it "fee").map .v3
  | .curve => do
    let i ← intAt it "i"
    let j ← intAt it "j"
    return .curve i j
  | .aerodrome => some (.aerodrome (it.getD "stable" (.bool false)).truthy (textAt it "factory"))
  | .slipstream => (intAt it "tick_spacing").map fun t => .slipstream t (textAt it "factory")
  | .camelotAlgebra =>
    (intAt it "tick_spacing").map fun t => .camelotAlgebra t (textAt it "factory")
  | .camelotV2 => some (.camelotV2 (textAt it "factory"))
  | .constantProduct =>
    some (.constantProduct (textAt it "factory") (textAt it "router") (textAt it "venue_name"))
  | .balancer => some (.balancer (textAt it "pool_id"))

/-- What the venue's own items must be to be kept. -/
def Detail.Sound : Detail → Prop
  | .v3 fee => fee ≠ 0
  | .curve i j => i ≠ j
  | .aerodrome _ factory => factory ≠ []
  | .slipstream tickSpacing factory => 0 < tickSpacing ∧ factory ≠ []
  | .camelotAlgebra tickSpacing factory => 0 < tickSpacing ∧ factory ≠ []
  | .camelotV2 factory => factory ≠ []
  | .constantProduct factory router venueName => factory ≠ [] ∧ router ≠ [] ∧ venueName ≠ []
  | .balancer poolId => poolId ≠ []

instance (d : Detail) : Decidable d.Sound := by
  cases d <;> unfold Detail.Sound <;> infer_instance

/-- What a record must be to be kept when the file is read. -/
def Pool.Loadable (p : Pool) : Prop :=
  p.pool ≠ [] ∧ p.tokenIn ≠ [] ∧ p.tokenOut ≠ [] ∧ p.detail.Sound

instance (p : Pool) : Decidable p.Loadable := by unfold Pool.Loadable; infer_instance

/-- An entry of the file; nothing where it is left out. -/
def readPool (table : Table) (it : PyDict) : Option Pool := do
  let detail ← readDetail it table
  let firstSeenBlock ← intAt it "first_seen_block"
  let lastSeenBlock ← intAt it "last_seen_block"
  let p : Pool := ⟨textAt it "pool", textAt it table.tokenNames.1, textAt it table.tokenNames.2,
    firstSeenBlock, lastSeenBlock, detail⟩
  if p.Loadable then return p else none

/-! ## Reading back -/

theorem textAt_textValue {it : PyDict} {k : String} {t : Text} (h : it.get k = textValue t) :
    textAt it k = t := by
  unfold textAt
  rw [h]
  cases t with
  | nil => rfl
  | cons c t =>
    have htruthy : (textValue (c :: t)).truthy = true := by
      simp [textValue, PyValue.truthy]
    rw [PyValue.orElse_of_truthy _ htruthy]
    exact String.toList_ofList

theorem intAt_int {it : PyDict} {k : String} {n : Int} (h : it.get k = .int n) :
    intAt it k = some n := by
  unfold intAt
  rw [h]
  by_cases hzero : n = 0
  · subst hzero
    rfl
  · have htruthy : (PyValue.int n).truthy = true := by simp [PyValue.truthy, hzero]
    rw [PyValue.orElse_of_truthy _ htruthy]
    rfl

end SovereignCapital.Discovery
