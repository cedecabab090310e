import SovereignCapital.Engine.BatchAgrees
import SovereignCapital.Engine.Builders
import SovereignCapital.Portfolio.Feasible

/-! # The pool keys of a route

`_pool_keys_for_leg` writes the text by which `select_portfolio` sees that two opportunities trade
the same pool. Its parameters are those of the edge over the fee of the quote and the venue.

* `poolKey_eq` : the key of a leg of a configuration is the tag of its family and what the family
  writes of the pool.
* `pool_keys_sound` : one pool has one key in one mode, pools of different names have different
  keys, and no two selected opportunities trade a pool in one mode.
-/

namespace SovereignCapital.Engine

open Bytes Execute Portfolio

/-! ## The keys -/

/-- The branches of `_pool_keys_for_leg`; nothing where `int` raises and for a family without a
branch. -/
def branchKey (dex : Dex) (tokenIn tokenOut : String) (params : PyDict) (auxHex : String) :
    Option String :=
  match dex with
  | .univ3 => do
    let fee ← (params.getD "fee" (.int 3000)).int?
    let a := lowerText tokenIn
    let b := lowerText tokenOut
    let pair := if textLe a.toList b.toList then a ++ ":" ++ b else b ++ ":" ++ a
    return "univ3:" ++ pair ++ ":" ++ decimalText fee
  | .curve => do
    let pool := ((params.get "pool").orElse ((params.get "venue").orElse (.text ""))).str
    let i ← (params.getD "i" (.int 0)).int?
    let j ← (params.getD "j" (.int 0)).int?
    let u := if (params.getD "underlying" (.bool false)).truthy then "1" else "0"
    return "curve:" ++ lowerText pool ++ ":" ++ decimalText i ++ ":" ++ decimalText j ++ ":" ++ u
  | .balancer =>
    let pid := ((params.get "pool_id").orElse ((PyValue.text auxHex).orElse (.text ""))).str
    some ("bal:" ++ lowerText pid)
  | .aerodrome => some ("aero:" ++ lowerText ((params.get "pool").orElse (.text "")).str)
  | .slipstream => do
    let pool := ((params.get "pool").orElse (.text "")).str
    let spacing ← (params.getD "tick_spacing" (.int 0)).int?
    return "slipstream:" ++ lowerText pool ++ ":" ++ decimalText spacing
  | .camelotAlgebra =>
    some ("camelot_algebra:" ++ lowerText ((params.get "pool").orElse (.text "")).str)
  | .constantProduct =>
    some ("constant_product:" ++ lowerText ((params.get "pool").orElse (.text "")).str)
  | .camelotV2 => none

/-- `_pool_keys_for_leg`: the key of the route where there is none of the pool. -/
def poolKeysForLeg (dex : Dex) (tokenIn tokenOut : String) (params : PyDict) (auxHex : String) :
    String :=
  (branchKey dex tokenIn tokenOut params auxHex).getD
    (dex.name ++ ":" ++ lowerText tokenIn ++ ":" ++ lowerText tokenOut ++ ":" ++ jsonKey params)

/-- `{"fee": meta.get("fee", e.params.get("fee", 3000)), "pool": e.venue, **e.params}`. -/
def QuotedEdge.legParams (q : QuotedEdge) : PyDict :=
  (PyDict.literal [("fee", q.quote.getD "fee" (q.edge.params.getD "fee" (.int 3000))),
    ("pool", .text q.edge.venue)]).update q.edge.params

/-- The key the builders record for a leg. -/
def QuotedEdge.poolKey (q : QuotedEdge) (aux : String) : String :=
  poolKeysForLeg q.edge.dex q.edge.tokenIn q.edge.tokenOut q.legParams aux

/-- `pool_keys` of `_append_two_leg_opportunity`; nothing where the data of a leg raise. -/
def twoLegPoolKeys (first second : QuotedEdge) : Option (List String) := do
  let aux1 ← routeAuxForEdge first.edge first.quote
  let aux2 ← routeAuxForEdge second.edge second.quote
  return [first.poolKey aux1, second.poolKey aux2]

/-- `pool_keys` of `find_three_leg_opportunities`; nothing where the data of a leg raise. -/
def threeLegPoolKeys (first second third : QuotedEdge) : Option (List String) := do
  let aux1 ← auxFor first.edge first.quote
  let aux2 ← auxFor second.edge second.quote
  let aux3 ← auxFor third.edge third.quote
  return [first.poolKey aux1, second.poolKey aux2, third.poolKey aux3]

inductive Recorded : List QuotedEdge → List String → Prop
  | two {first second : QuotedEdge} {keys : List String}
      (h : twoLegPoolKeys first second = some keys) : Recorded [first, second] keys
  | three {first second third : QuotedEdge} {keys : List String}
      (h : threeLegPoolKeys first second third = some keys) : Recorded [first, second, third] keys

def QuotedEdge.HasKey (q : QuotedEdge) (key : String) : Prop :=
  ∃ aux, (routeAuxForEdge q.edge q.quote = some aux ∨ auxFor q.edge q.quote = some aux)
    ∧ key = q.poolKey aux

/-! ## Pools -/

/-- Which pool an edge trades against, as far as its row says. -/
inductive PoolId where
  /-- by the address or the identifier of the row -/
  | named (dex : Dex) (name : String)
  /-- by its tokens and what tells the pools of a pair apart: UniV3 always, elsewhere for a row that
  names no pool -/
  | ofPair (dex : Dex) (low high : String) (terms : List PyValue)
deriving DecidableEq

def Edge.poolName (e : Edge) : String :=
  match e.dex with
  | .univ3 => ""
  | .curve => lowerText e.venue
  | .balancer => lowerText (e.textParam "pool_id")
  | .aerodrome | .slipstream | .camelotAlgebra | .camelotV2 | .constantProduct =>
    lowerText (e.textParam "pool")

/-- The tokens in lower case, the smaller first. -/
def Edge.tokens (e : Edge) : String × String :=
  let a := lowerText e.tokenIn
  let b := lowerText e.tokenOut
  if textLe a.toList b.toList then (a, b) else (b, a)

/-- What tells the pools of a pair apart. -/
def Edge.poolTerms (e : Edge) : List PyValue :=
  match e.dex with
  | .univ3 => [e.params.get "fee"]
  | .aerodrome => [e.params.get "stable", .text (lowerText (e.textParam "factory"))]
  | .slipstream => [e.params.get "tick_spacing", .text (lowerText (e.textParam "factory"))]
  | .curve | .balancer | .camelotAlgebra | .camelotV2 | .constantProduct =>
    [.text (lowerText (e.textParam "factory"))]

def Edge.poolId (e : Edge) : PoolId :=
  if e.poolName = "" then .ofPair e.dex e.tokens.1 e.tokens.2 e.poolTerms
  else .named e.dex e.poolName

/-- The mode in which a pool is traded, where the key names it: the indices and the flag of Curve,
the tick spacing of Slipstream. The key of Camelot V2 is that of the route. -/
def Edge.SameMode (e e' : Edge) : Prop :=
  match e.dex with
  | .curve => e.params.get "i" = e'.params.get "i" ∧ e.params.get "j" = e'.params.get "j"
      ∧ e.boolParam "underlying" = e'.boolParam "underlying"
  | .slipstream => e.params.get "tick_spacing" = e'.params.get "tick_spacing"
  | .camelotV2 => False
  | .univ3 | .balancer | .aerodrome | .camelotAlgebra | .constantProduct => True

/-- The pool is known: UniV3 by its tokens, elsewhere by a name, written without separators. -/
def Edge.Known (e : Edge) : Prop :=
  match e.dex with
  | .univ3 => ':' ∉ e.tokens.1.toList ∧ ':' ∉ e.tokens.2.toList
  | _ => e.poolName ≠ "" ∧ ':' ∉ e.poolName.toList ∧ '=' ∉ e.poolName.toList

/-! ## Names -/

theorem lowerText_eq_empty_iff {s : String} : lowerText s = "" ↔ s = "" := by
  rw [lowerText, ← String.toList_inj, String.toList_ofList, ← String.toList_inj]
  exact List.map_eq_nil_iff

theorem lowerText_textOr (a b : String) :
    lowerText (textOr a b) = textOr (lowerText a) (lowerText b) := by
  by_cases ha : a = ""
  · rw [textOr, textOr, if_pos ha, if_pos (lowerText_eq_empty_iff.2 ha)]
  · rw [textOr, textOr, if_neg ha, if_neg (mt lowerText_eq_empty_iff.1 ha)]

theorem textOr_of_ne {a : String} (h : a ≠ "") (b : String) : textOr a b = a := if_neg h

theorem str_orElse_empty (s : String) : ((PyValue.text s).orElse (.text "")).str = s := by
  by_cases hs : s = ""
  · subst hs
    rfl
  · rw [PyValue.orElse_of_truthy _ (by simpa [PyValue.truthy] using hs)]
    rfl

variable {e e' : Edge} {key : String} {v : PyValue} {q' : QuotedEdge}

theorem dex_of_poolId (h : e.poolId = e'.poolId) : e.dex = e'.dex := by
  unfold Edge.poolId at h
  split_ifs at h
  · exact (PoolId.ofPair.inj h).1
  · exact (PoolId.named.inj h).1

theorem poolName_of_poolId (h : e.poolId = e'.poolId) : e.poolName = e'.poolName := by
  unfold Edge.poolId at h
  split_ifs at h with hname hname' hname'
  · rw [hname, hname']
  · exact (PoolId.named.inj h).2

theorem ofPair_of_poolId (h : e.poolId = e'.poolId) (hname : e.poolName = "") :
    e.tokens = e'.tokens ∧ e.poolTerms = e'.poolTerms := by
  have hname' : e'.poolName = "" := by rw [← poolName_of_poolId h, hname]
  rw [Edge.poolId, Edge.poolId, if_pos hname, if_pos hname'] at h
  obtain ⟨-, hlow, hhigh, hterms⟩ := PoolId.ofPair.inj h
  exact ⟨Prod.ext hlow hhigh, hterms⟩

/-! ## The rows of a configuration -/

def Edge.PoolEntry (e : Edge) : Prop :=
  e.params.get? "pool" = none ∨ ∃ pool, pool ≠ "" ∧ e.params.get? "pool" = some (.text pool)

/-- What `build_edges` writes of the pool of an edge. -/
def Edge.PoolWritten (cfg : ChainConfig) (e : Edge) : Prop :=
  match e.dex with
  | .univ3 | .balancer => True
  | .curve => e.params.get? "pool" = none ∧ e.params.get? "venue" = none
  | .aerodrome => e.venue = cfg.aerodromeRouter ∧ e.PoolEntry
  | .slipstream => e.venue = textOr cfg.slipstreamSwapRouter cfg.slipstreamQuoterV2 ∧ e.PoolEntry
  | .camelotAlgebra =>
    e.venue = textOr cfg.camelotAlgebraSwapRouter cfg.camelotAlgebraQuoterV2 ∧ e.PoolEntry
  | .camelotV2 => ∃ factory row,
      e.params = PyDict.literal ([("factory", .text factory)] ++ poolEntry row)
  | .constantProduct => ∃ pool, e.params.get? "pool" = some (.text pool)

theorem poolEntry_literal {row : PoolRow} (items : List (String × PyValue))
    (hitems : "pool" ∉ items.map Prod.fst)
    (hparams : e.params = PyDict.literal (items ++ poolEntry row)) : e.PoolEntry := by
  rw [Edge.PoolEntry, hparams, poolEntry]
  split
  · rw [List.append_nil]
    exact Or.inl (PyDict.get?_literal_of_notMem hitems)
  · rename_i hpool
    refine Or.inr ⟨row.pool, hpool, ?_⟩
    rw [PyDict.literal, List.foldl_append, List.foldl_cons, List.foldl_nil, Dict.get?_set_self]

theorem poolWritten_of_generated {cfg : ChainConfig} (h : e ∈ cfg.generatedEdges) :
    e.PoolWritten cfg := by
  obtain ⟨hgenerated, -⟩ := generated_of_mem h
  rcases e with ⟨dex, venue, tokenIn, tokenOut, params⟩
  cases hgenerated with
  | univ3 | balancer => trivial
  | curve => exact ⟨rfl, rfl⟩
  | aerodrome | slipstream | camelotAlgebra => exact ⟨rfl, poolEntry_literal [_, _] (by simp) rfl⟩
  | camelotV2 row factory => exact ⟨factory, row, rfl⟩
  | constantProduct row => exact ⟨row.pool, rfl⟩

theorem poolWritten_of_mem_buildEdges {cfg : ChainConfig} (h : e ∈ buildEdges cfg) :
    e.PoolWritten cfg :=
  poolWritten_of_generated (List.mem_of_mem_filter (mem_of_mem_dedupEdges h))

/-! ## The parameters of a leg -/

theorem get?_legParams (q : QuotedEdge) (h : key ≠ "fee") (h' : key ≠ "pool") :
    q.legParams.get? key = q.edge.params.get? key := by
  rw [QuotedEdge.legParams, Dict.get?_update, PyDict.get?_literal_of_notMem (by simp [h, h']),
    Option.or_none]

theorem get?_legParams_of_some (q : QuotedEdge) (h : q.edge.params.get? key = some v) :
    q.legParams.get? key = some v := by
  rw [QuotedEdge.legParams, Dict.get?_update, h, Option.some_or]

theorem get?_legParams_of_none (q : QuotedEdge) (h : q.edge.params.get? "pool" = none) :
    q.legParams.get? "pool" = some (.text q.edge.venue) := by
  rw [QuotedEdge.legParams, Dict.get?_update, h, Option.none_or]
  rfl

theorem textParam_of_none (h : e.params.get? key = none) : e.textParam key = "" := by
  rw [Edge.textParam, PyDict.get, Dict.getD, h]
  rfl

/-- The text under `pool` is the name of the row, else the venue. -/
theorem legPool_of_poolEntry {q : QuotedEdge} (h : q.edge.PoolEntry) :
    ((q.legParams.get "pool").orElse (.text "")).str
      = textOr (q.edge.textParam "pool") q.edge.venue := by
  rcases h with hnone | ⟨pool, hne, hpool⟩
  · rw [PyDict.get, Dict.getD, get?_legParams_of_none q hnone, textParam_of_none hnone]
    exact str_orElse_empty _
  · rw [PyDict.get, Dict.getD, get?_legParams_of_some q hpool, textParam_of_get? hpool,
      textOr_of_ne hne]
    exact str_orElse_empty _

/-! ## The key of a leg -/

def keyTag : Dex → String
  | .univ3 => "univ3"
  | .curve => "curve"
  | .balancer => "bal"
  | .aerodrome => "aero"
  | .slipstream => "slipstream"
  | .camelotAlgebra => "camelot_algebra"
  | .camelotV2 => "camelot_v2"
  | .constantProduct => "constant_product"

/-- What the key says of the pool of a leg of a configuration. -/
def QuotedEdge.keyRest (q : QuotedEdge) : String :=
  let pool := textOr q.edge.poolName (lowerText q.edge.venue)
  match q.edge.dex with
  | .univ3 => q.edge.tokens.1 ++ ":" ++ q.edge.tokens.2 ++ ":" ++ (q.edge.params.get "fee").str
  | .curve =>
    q.edge.poolName ++ ":" ++ (q.edge.params.get "i").str ++ ":" ++ (q.edge.params.get "j").str
      ++ ":" ++ if q.edge.boolParam "underlying" then "1" else "0"
  | .balancer => textOr q.edge.poolName "0x"
  | .aerodrome | .camelotAlgebra => pool
  | .slipstream => pool ++ ":" ++ (q.edge.params.get "tick_spacing").str
  | .camelotV2 =>
    lowerText q.edge.tokenIn ++ ":" ++ lowerText q.edge.tokenOut ++ ":" ++ jsonKey q.legParams
  | .constantProduct => q.edge.poolName

theorem get_of_get? {d : PyDict} (h : d.get? key = some v) : d.get key = v := by
  rw [PyDict.get, Dict.getD, h, Option.getD_some]

theorem getD_of_get? {d : PyDict} (h : d.get? key = some v) (default : PyValue) :
    d.getD key default = v := by
  rw [Dict.getD, h, Option.getD_some]

theorem str_int (n : Int) : (PyValue.int n).str = decimalText n := rfl

theorem aux_balancer {q : QuotedEdge} (hdex : q.edge.dex = .balancer) {aux : String}
    (h : routeAuxForEdge q.edge q.quote = some aux ∨ auxFor q.edge q.quote = some aux) :
    aux = ((q.edge.params.get "pool_id").orElse (.text "0x")).str := by
  simp only [routeAuxForEdge, auxFor, hdex, or_self, Option.some.injEq] at h
  exact h.symm

/-! The key of each family, as the builders record it. -/

section Families

variable {cfg : ChainConfig} {q : QuotedEdge} {aux : String}

theorem poolKey_univ3 (hdex : q.edge.dex = .univ3) (hread : Readable q.edge) :
    q.poolKey aux = keyTag .univ3 ++ ":" ++ q.keyRest := by
  simp only [Readable, hdex] at hread
  obtain ⟨fee, hfee⟩ := hread
  have htag : "univ3:" = keyTag .univ3 ++ ":" := rfl
  rw [QuotedEdge.poolKey, poolKeysForLeg, hdex, branchKey, QuotedEdge.keyRest, hdex]
  simp only [getD_of_get? (get?_legParams_of_some q hfee), PyValue.int?, Option.bind_eq_bind,
    Option.bind_some, Option.pure_def, Option.getD_some, get_of_get? hfee, str_int, Edge.tokens,
    htag]
  split
  · simp only [String.append_assoc]
  · simp only [String.append_assoc]

theorem poolKey_curve (hdex : q.edge.dex = .curve) (hread : Readable q.edge)
    (hwritten : q.edge.PoolWritten cfg) :
    q.poolKey aux = keyTag .curve ++ ":" ++ q.keyRest := by
  simp only [Readable, hdex] at hread
  obtain ⟨i, j, hi, hj⟩ := hread
  simp only [Edge.PoolWritten, hdex] at hwritten
  have htag : "curve:" = keyTag .curve ++ ":" := rfl
  have hpool := get_of_get? (get?_legParams_of_none q hwritten.1)
  have hvenue : (q.legParams.get "venue").orElse (.text "") = .text "" := by
    rw [PyDict.get, Dict.getD, get?_legParams q (by decide) (by decide), hwritten.2]
    rfl
  have hunderlying : (q.legParams.getD "underlying" (.bool false)).truthy
      = q.edge.boolParam "underlying" := by
    rw [Edge.boolParam, Dict.getD, get?_legParams q (by decide) (by decide), Dict.getD]
  have hname : q.edge.poolName = lowerText q.edge.venue := by
    rw [Edge.poolName, hdex]
  rw [QuotedEdge.poolKey, poolKeysForLeg, hdex, branchKey, QuotedEdge.keyRest, hdex]
  simp only [getD_of_get? (get?_legParams_of_some q hi), getD_of_get? (get?_legParams_of_some q hj),
    hunderlying, hpool, hvenue, hname, str_orElse_empty, PyValue.int?, Option.bind_eq_bind,
    Option.bind_some, Option.pure_def, Option.getD_some, get_of_get? hi, get_of_get? hj, str_int,
    htag, String.append_assoc]

theorem poolKey_balancer (hdex : q.edge.dex = .balancer) (hread : Readable q.edge)
    (haux : routeAuxForEdge q.edge q.quote = some aux ∨ auxFor q.edge q.quote = some aux) :
    q.poolKey aux = keyTag .balancer ++ ":" ++ q.keyRest := by
  simp only [Readable, hdex] at hread
  obtain ⟨poolId, hpool⟩ := hread
  have htag : "bal:" = keyTag .balancer ++ ":" := rfl
  have hlower : lowerText "0x" = "0x" := rfl
  have hpid : ((PyValue.text poolId).orElse ((PyValue.text aux).orElse (.text ""))).str
      = textOr poolId "0x" := by
    rw [aux_balancer hdex haux, get_of_get? hpool]
    by_cases hempty : poolId = ""
    · subst hempty
      rfl
    · rw [PyValue.orElse_of_truthy _ (by simpa [PyValue.truthy] using hempty), textOr_of_ne hempty]
      rfl
  have hname : q.edge.poolName = lowerText poolId := by
    rw [Edge.poolName, hdex]
    exact congrArg lowerText (textParam_of_get? hpool)
  rw [QuotedEdge.poolKey, poolKeysForLeg, hdex, branchKey, QuotedEdge.keyRest, hdex]
  simp only [get_of_get? (get?_legParams_of_some q hpool), hpid, hname, Option.getD_some,
    lowerText_textOr, hlower, htag, String.append_assoc]

theorem lower_legPool (h : q.edge.PoolEntry)
    (hname : q.edge.poolName = lowerText (q.edge.textParam "pool")) :
    lowerText ((q.legParams.get "pool").orElse (.text "")).str
      = textOr q.edge.poolName (lowerText q.edge.venue) := by
  rw [legPool_of_poolEntry h, lowerText_textOr, hname]

theorem poolKey_aerodrome (hdex : q.edge.dex = .aerodrome) (hwritten : q.edge.PoolWritten cfg) :
    q.poolKey aux = keyTag .aerodrome ++ ":" ++ q.keyRest := by
  simp only [Edge.PoolWritten, hdex] at hwritten
  have htag : "aero:" = keyTag .aerodrome ++ ":" := rfl
  have hpool := lower_legPool hwritten.2 (by rw [Edge.poolName, hdex])
  rw [QuotedEdge.poolKey, poolKeysForLeg, hdex, branchKey, QuotedEdge.keyRest, hdex]
  simp only [hpool, Option.getD_some, htag]

theorem poolKey_slipstream (hdex : q.edge.dex = .slipstream) (hread : Readable q.edge)
    (hwritten : q.edge.PoolWritten cfg) :
    q.poolKey aux = keyTag .slipstream ++ ":" ++ q.keyRest := by
  simp only [Readable, hdex] at hread
  obtain ⟨spacing, hspacing⟩ := hread
  simp only [Edge.PoolWritten, hdex] at hwritten
  have htag : "slipstream:" = keyTag .slipstream ++ ":" := rfl
  have hpool := lower_legPool hwritten.2 (by rw [Edge.poolName, hdex])
  rw [QuotedEdge.poolKey, poolKeysForLeg, hdex, branchKey, QuotedEdge.keyRest, hdex]
  simp only [hpool, getD_of_get? (get?_legParams_of_some q hspacing), PyValue.int?,
    Option.bind_eq_bind, Option.bind_some, Option.pure_def, Option.getD_some, get_of_get? hspacing,
    str_int, htag, String.append_assoc]

theorem poolKey_camelotAlgebra (hdex : q.edge.dex = .camelotAlgebra)
    (hwritten : q.edge.PoolWritten cfg) :
    q.poolKey aux = keyTag .camelotAlgebra ++ ":" ++ q.keyRest := by
  simp only [Edge.PoolWritten, hdex] at hwritten
  have htag : "camelot_algebra:" = keyTag .camelotAlgebra ++ ":" := rfl
  have hpool := lower_legPool hwritten.2 (by rw [Edge.poolName, hdex])
  rw [QuotedEdge.poolKey, poolKeysForLeg, hdex, branchKey, QuotedEdge.keyRest, hdex]
  simp only [hpool, Option.getD_some, htag]

theorem poolKey_camelotV2 (hdex : q.edge.dex = .camelotV2) :
    q.poolKey aux = keyTag .camelotV2 ++ ":" ++ q.keyRest := by
  rw [QuotedEdge.poolKey, poolKeysForLeg, hdex, branchKey, QuotedEdge.keyRest, hdex]
  simp only [Option.getD_none, keyTag, Dex.name, String.append_assoc]

theorem poolKey_constantProduct (hdex : q.edge.dex = .constantProduct)
    (hwritten : q.edge.PoolWritten cfg) :
    q.poolKey aux = keyTag .constantProduct ++ ":" ++ q.keyRest := by
  simp only [Edge.PoolWritten, hdex] at hwritten
  obtain ⟨pool, hpool⟩ := hwritten
  have htag : "constant_product:" = keyTag .constantProduct ++ ":" := rfl
  have hname : q.edge.poolName = lowerText pool := by
    rw [Edge.poolName, hdex]
    exact congrArg lowerText (textParam_of_get? hpool)
  rw [QuotedEdge.poolKey, poolKeysForLeg, hdex, branchKey, QuotedEdge.keyRest, hdex]
  simp only [get_of_get? (get?_legParams_of_some q hpool), str_orElse_empty, hname,
    Option.getD_some, htag]

/-- **The key of a leg.** On the edges of a configuration no conversion raises; only Camelot V2 has
the key of the route. -/
theorem poolKey_eq (hbuilt : q.edge ∈ buildEdges cfg) (hkey : q.HasKey key) :
    key = keyTag q.edge.dex ++ ":" ++ q.keyRest := by
  obtain ⟨aux, haux, rfl⟩ := hkey
  have hread := (suited_of_mem_buildEdges hbuilt).readable
  have hwritten := poolWritten_of_mem_buildEdges hbuilt
  cases hdex : q.edge.dex with
  | univ3 => exact poolKey_univ3 hdex hread
  | curve => exact poolKey_curve hdex hread hwritten
  | balancer => exact poolKey_balancer hdex hread haux
  | aerodrome => exact poolKey_aerodrome hdex hwritten
  | slipstream => exact poolKey_slipstream hdex hread hwritten
  | camelotAlgebra => exact poolKey_camelotAlgebra hdex hwritten
  | camelotV2 => exact poolKey_camelotV2 hdex
  | constantProduct => exact poolKey_constantProduct hdex hwritten

end Families

/-! ## Keys and pools -/

theorem keyRest_of_poolId {cfg : ChainConfig} {q : QuotedEdge} (hbuilt : q.edge ∈ buildEdges cfg)
    (hbuilt' : q'.edge ∈ buildEdges cfg) (hid : q.edge.poolId = q'.edge.poolId)
    (hmode : q.edge.SameMode q'.edge) : q.keyRest = q'.keyRest := by
  have hname := poolName_of_poolId hid
  have hwritten := poolWritten_of_mem_buildEdges hbuilt
  have hwritten' := poolWritten_of_mem_buildEdges hbuilt'
  cases hdex : q.edge.dex with
  | univ3 =>
    have hdex' : q'.edge.dex = .univ3 := by rw [← dex_of_poolId hid, hdex]
    obtain ⟨htokens, hterms⟩ := ofPair_of_poolId hid (by rw [Edge.poolName, hdex])
    simp only [Edge.poolTerms, hdex, hdex', List.cons.injEq, and_true] at hterms
    simp only [QuotedEdge.keyRest, hdex, hdex', htokens, hterms]
  | curve =>
    have hdex' : q'.edge.dex = .curve := by rw [← dex_of_poolId hid, hdex]
    simp only [Edge.SameMode, hdex] at hmode
    simp only [QuotedEdge.keyRest, hdex, hdex', hname, hmode]
  | balancer =>
    have hdex' : q'.edge.dex = .balancer := by rw [← dex_of_poolId hid, hdex]
    simp only [QuotedEdge.keyRest, hdex, hdex', hname]
  | aerodrome =>
    have hdex' : q'.edge.dex = .aerodrome := by rw [← dex_of_poolId hid, hdex]
    simp only [Edge.PoolWritten, hdex, hdex'] at hwritten hwritten'
    simp only [QuotedEdge.keyRest, hdex, hdex', hname, hwritten.1, hwritten'.1]
  | slipstream =>
    have hdex' : q'.edge.dex = .slipstream := by rw [← dex_of_poolId hid, hdex]
    simp only [Edge.SameMode, hdex] at hmode
    simp only [Edge.PoolWritten, hdex, hdex'] at hwritten hwritten'
    simp only [QuotedEdge.keyRest, hdex, hdex', hname, hwritten.1, hwritten'.1, hmode]
  | camelotAlgebra =>
    have hdex' : q'.edge.dex = .camelotAlgebra := by rw [← dex_of_poolId hid, hdex]
    simp only [Edge.PoolWritten, hdex, hdex'] at hwritten hwritten'
    simp only [QuotedEdge.keyRest, hdex, hdex', hname, hwritten.1, hwritten'.1]
  | camelotV2 =>
    simp only [Edge.SameMode, hdex] at hmode
  | constantProduct =>
    have hdex' : q'.edge.dex = .constantProduct := by rw [← dex_of_poolId hid, hdex]
    simp only [QuotedEdge.keyRest, hdex, hdex', hname]

theorem keyTag_injective : Function.Injective keyTag := by
  intro a b h
  cases a <;> cases b <;> first | rfl | exact absurd h (by decide)

theorem keyTag_no_colon (dex : Dex) : ':' ∉ (keyTag dex).toList := by
  cases dex <;> decide

theorem separated_inj {name name' rest rest' : String} (h : ':' ∉ name.toList)
    (h' : ':' ∉ name'.toList) (heq : name ++ (":" ++ rest) = name' ++ (":" ++ rest')) :
    name = name' ∧ rest = rest' := by
  have hlists := congrArg String.toList heq
  simp only [String.toList_append] at hlists
  obtain ⟨hname, hrest⟩ := append_separator_inj h h' hlists
  exact ⟨String.toList_injective hname, String.toList_injective hrest⟩

/-- The key of the route ends with the name of the pool: `pool` is the last of the parameters. -/
theorem keyRest_camelotV2 {cfg : ChainConfig} {q : QuotedEdge} (hdex : q.edge.dex = .camelotV2)
    (hwritten : q.edge.PoolWritten cfg) (hname : q.edge.poolName ≠ "") :
    ∃ before pool, q.keyRest = before ++ "=" ++ pool ∧ q.edge.poolName = lowerText pool := by
  simp only [Edge.PoolWritten, hdex] at hwritten
  obtain ⟨factory, row, hparams⟩ := hwritten
  have hpoolName : q.edge.poolName = lowerText (q.edge.textParam "pool") := by
    rw [Edge.poolName, hdex]
  have hrow : row.pool ≠ "" := by
    intro hempty
    rw [poolEntry, if_pos hempty, List.append_nil] at hparams
    have hnone : q.edge.params.get? "pool" = none := by
      rw [hparams]
      rfl
    rw [hpoolName, textParam_of_none hnone] at hname
    exact hname rfl
  rw [poolEntry, if_neg hrow] at hparams
  have hpool : q.edge.params.get? "pool" = some (.text row.pool) := by
    rw [hparams]
    rfl
  let fee := q.quote.getD "fee" (q.edge.params.getD "fee" (.int 3000))
  have hentries : q.legParams.entries
      = [("fee", fee), ("pool", .text row.pool), ("factory", .text factory)] := by
    simp [QuotedEdge.legParams, Dict.update, hparams, PyDict.literal, Dict.set, Dict.assign,
      Dict.empty, fee]
  have hkey : jsonKey q.legParams
      = "factory=" ++ factory ++ ",fee=" ++ fee.str ++ ",pool" ++ "=" ++ row.pool := by
    have hsorted : List.insertionSort (fun a b => textLe a.1.toList b.1.toList)
          [("fee", fee), ("pool", .text row.pool), ("factory", .text factory)]
        = [("factory", .text factory), ("fee", fee), ("pool", .text row.pool)] := by
      simp [List.insertionSort_cons, List.orderedInsert, textLe]
    rw [jsonKey, hentries, hsorted]
    simp only [List.map_cons, List.map_nil, String.intercalate_cons_cons,
      String.intercalate_singleton, String.append_assoc, PyValue.str]
    rfl
  refine ⟨lowerText q.edge.tokenIn ++ ":" ++ lowerText q.edge.tokenOut ++ ":" ++ "factory="
    ++ factory ++ ",fee=" ++ fee.str ++ ",pool", row.pool, ?_, ?_⟩
  · simp only [QuotedEdge.keyRest, hdex, hkey, String.append_assoc]
  · rw [hpoolName, textParam_of_get? hpool]

theorem poolId_of_poolName (hdex : e.dex = e'.dex) (hname : e.poolName ≠ "")
    (heq : e.poolName = e'.poolName) : e.poolId = e'.poolId := by
  rw [Edge.poolId, Edge.poolId, if_neg hname, if_neg (heq ▸ hname), hdex, heq]

theorem Edge.Known.named (h : e.Known) (hdex : e.dex ≠ .univ3) :
    e.poolName ≠ "" ∧ ':' ∉ e.poolName.toList ∧ '=' ∉ e.poolName.toList := by
  unfold Edge.Known at h
  split at h
  · rename_i huniv3
    exact absurd huniv3 hdex
  · exact h

/-- Apart from UniV3 and Camelot V2 the name of the pool is what stands before the first colon. -/
theorem takeWhile_keyRest {q : QuotedEdge} (hknown : q.edge.Known) (huniv3 : q.edge.dex ≠ .univ3)
    (hcamelotV2 : q.edge.dex ≠ .camelotV2) :
    q.keyRest.toList.takeWhile (fun c => c != ':') = q.edge.poolName.toList := by
  obtain ⟨hname, hcolon, -⟩ := hknown.named huniv3
  have halone : q.edge.poolName.toList.takeWhile (fun c => c != ':') = q.edge.poolName.toList := by
    rw [List.takeWhile_eq_self_iff]
    intro c hc
    rw [bne_iff_ne]
    rintro rfl
    exact hcolon hc
  have hfollowed : ∀ rest : String,
      (q.edge.poolName ++ (":" ++ rest)).toList.takeWhile (fun c => c != ':')
        = q.edge.poolName.toList := by
    intro rest
    rw [String.toList_append, String.toList_append]
    exact takeWhile_name hcolon rest.toList
  cases hdex : q.edge.dex with
  | univ3 => exact absurd hdex huniv3
  | camelotV2 => exact absurd hdex hcamelotV2
  | curve =>
    simp only [QuotedEdge.keyRest, hdex, String.append_assoc]
    exact hfollowed _
  | slipstream =>
    simp only [QuotedEdge.keyRest, hdex, textOr_of_ne hname, String.append_assoc]
    exact hfollowed _
  | balancer =>
    simp only [QuotedEdge.keyRest, hdex, textOr_of_ne hname]
    exact halone
  | aerodrome =>
    simp only [QuotedEdge.keyRest, hdex, textOr_of_ne hname]
    exact halone
  | camelotAlgebra =>
    simp only [QuotedEdge.keyRest, hdex, textOr_of_ne hname]
    exact halone
  | constantProduct =>
    simp only [QuotedEdge.keyRest, hdex]
    exact halone

theorem poolId_of_univ3 {q : QuotedEdge} (hd : q.edge.dex = .univ3) (hd' : q'.edge.dex = .univ3)
    (hread : Readable q.edge) (hread' : Readable q'.edge) (hknown : q.edge.Known)
    (hknown' : q'.edge.Known) (hrest : q.keyRest = q'.keyRest) :
    q.edge.poolId = q'.edge.poolId := by
  simp only [Edge.Known, hd, hd'] at hknown hknown'
  simp only [Readable, hd, hd'] at hread hread'
  obtain ⟨fee, hfee⟩ := hread
  obtain ⟨fee', hfee'⟩ := hread'
  simp only [QuotedEdge.keyRest, hd, hd', get_of_get? hfee, get_of_get? hfee', str_int,
    String.append_assoc] at hrest
  obtain ⟨hlow, hrest⟩ := separated_inj hknown.1 hknown'.1 hrest
  obtain ⟨hhigh, hrest⟩ := separated_inj hknown.2 hknown'.2 hrest
  have hempty : q.edge.poolName = "" := by rw [Edge.poolName, hd]
  have hempty' : q'.edge.poolName = "" := by rw [Edge.poolName, hd']
  rw [Edge.poolId, Edge.poolId, if_pos hempty, if_pos hempty', hlow, hhigh, Edge.poolTerms,
    Edge.poolTerms, hd, hd']
  simp only [get_of_get? hfee, get_of_get? hfee', decimalText_injective hrest]

theorem poolId_of_camelotV2 {cfg : ChainConfig} {q : QuotedEdge} (hd : q.edge.dex = .camelotV2)
    (hd' : q'.edge.dex = .camelotV2) (hwritten : q.edge.PoolWritten cfg)
    (hwritten' : q'.edge.PoolWritten cfg) (hknown : q.edge.Known) (hknown' : q'.edge.Known)
    (hrest : q.keyRest = q'.keyRest) : q.edge.poolId = q'.edge.poolId := by
  simp only [Edge.Known, hd, hd'] at hknown hknown'
  obtain ⟨before, pool, hkey, hpool⟩ := keyRest_camelotV2 hd hwritten hknown.1
  obtain ⟨before', pool', hkey', hpool'⟩ := keyRest_camelotV2 hd' hwritten' hknown'.1
  -- A name has no separator before its case is folded, since it has none after.
  have hplain : ∀ {name : String}, '=' ∉ (lowerText name).toList → '=' ∉ name.toList := by
    intro name hnot hmem
    rw [lowerText, String.toList_ofList] at hnot
    exact hnot (List.mem_map.2 ⟨'=', hmem, rfl⟩)
  have hlists := congrArg String.toList (hkey.symm.trans (hrest.trans hkey'))
  simp only [String.toList_append, List.append_assoc] at hlists
  have hsame := append_last_separator_inj (hplain (hpool ▸ hknown.2.2))
    (hplain (hpool' ▸ hknown'.2.2)) hlists
  have hname : q.edge.poolName = q'.edge.poolName := by
    rw [hpool, hpool', String.toList_injective hsame]
  exact poolId_of_poolName (hd.trans hd'.symm) hknown.1 hname

theorem poolId_of_keyRest {cfg : ChainConfig} {q : QuotedEdge} (hbuilt : q.edge ∈ buildEdges cfg)
    (hbuilt' : q'.edge ∈ buildEdges cfg) (hknown : q.edge.Known) (hknown' : q'.edge.Known)
    (hdex : q.edge.dex = q'.edge.dex) (hrest : q.keyRest = q'.keyRest) :
    q.edge.poolId = q'.edge.poolId := by
  by_cases huniv3 : q.edge.dex = .univ3
  · exact poolId_of_univ3 huniv3 (hdex ▸ huniv3) (suited_of_mem_buildEdges hbuilt).readable
      (suited_of_mem_buildEdges hbuilt').readable hknown hknown' hrest
  · by_cases hcamelotV2 : q.edge.dex = .camelotV2
    · exact poolId_of_camelotV2 hcamelotV2 (hdex ▸ hcamelotV2)
        (poolWritten_of_mem_buildEdges hbuilt) (poolWritten_of_mem_buildEdges hbuilt') hknown
        hknown' hrest
    · have hname := takeWhile_keyRest hknown huniv3 hcamelotV2
      rw [hrest, takeWhile_keyRest hknown' (hdex ▸ huniv3) (hdex ▸ hcamelotV2)] at hname
      exact poolId_of_poolName hdex (hknown.named huniv3).1 (String.toList_injective hname.symm)

/-! ## Selections -/

theorem key_inj {cfg : ChainConfig} {q : QuotedEdge} (hbuilt : q.edge ∈ buildEdges cfg)
    (hbuilt' : q'.edge ∈ buildEdges cfg) (hkey : q.HasKey key) (hkey' : q'.HasKey key) :
    q.edge.dex = q'.edge.dex ∧ q.keyRest = q'.keyRest := by
  have heq := (poolKey_eq hbuilt hkey).symm.trans (poolKey_eq hbuilt' hkey')
  rw [String.append_assoc, String.append_assoc] at heq
  obtain ⟨htag, hrest⟩ := separated_inj (keyTag_no_colon _) (keyTag_no_colon _) heq
  exact ⟨keyTag_injective htag, hrest⟩

theorem Recorded.exists_key {route : List QuotedEdge} {keys : List String} (h : Recorded route keys)
    {q : QuotedEdge} (hq : q ∈ route) : ∃ key ∈ keys, q.HasKey key := by
  cases h with
  | two h =>
    obtain ⟨aux1, haux1, h⟩ := Option.bind_eq_some_iff.1 h
    obtain ⟨aux2, haux2, h⟩ := Option.bind_eq_some_iff.1 h
    cases h
    simp only [List.mem_cons, List.not_mem_nil, or_false] at hq
    rcases hq with rfl | rfl
    · exact ⟨_, by simp, aux1, Or.inl haux1, rfl⟩
    · exact ⟨_, by simp, aux2, Or.inl haux2, rfl⟩
  | three h =>
    obtain ⟨aux1, haux1, h⟩ := Option.bind_eq_some_iff.1 h
    obtain ⟨aux2, haux2, h⟩ := Option.bind_eq_some_iff.1 h
    obtain ⟨aux3, haux3, h⟩ := Option.bind_eq_some_iff.1 h
    cases h
    simp only [List.mem_cons, List.not_mem_nil, or_false] at hq
    rcases hq with rfl | rfl | rfl
    · exact ⟨_, by simp, aux1, Or.inr haux1, rfl⟩
    · exact ⟨_, by simp, aux2, Or.inr haux2, rfl⟩
    · exact ⟨_, by simp, aux3, Or.inr haux3, rfl⟩

/-- One step of `_nonempty_strings` keeps what is in the list and adds its text, unless blank. -/
theorem nonemptyStrings_step (out : List String) {raw text : String}
    (h : text ∈ out ∨ (text ≠ "" ∧ text = String.ofList (pyStrip raw.toList))) :
    text ∈ (if String.ofList (pyStrip raw.toList) = "" ∨ String.ofList (pyStrip raw.toList) ∈ out
      then out else out ++ [String.ofList (pyStrip raw.toList)]) := by
  split
  · rename_i hskip
    rcases h with hin | ⟨hne, rfl⟩
    · exact hin
    · exact hskip.resolve_left hne
  · rcases h with hin | ⟨-, rfl⟩
    · exact List.mem_append_left _ hin
    · exact List.mem_append_right _ List.mem_cons_self

theorem mem_nonemptyStrings {values : List String} {raw : String} (hraw : raw ∈ values)
    (hblank : pyStrip raw.toList ≠ []) :
    String.ofList (pyStrip raw.toList) ∈ nonemptyStrings values := by
  have hne : String.ofList (pyStrip raw.toList) ≠ "" := by
    intro hempty
    exact hblank (by simpa using congrArg String.toList hempty)
  -- over any list that comes before
  have hfold : ∀ (values out : List String),
      String.ofList (pyStrip raw.toList) ∈ out ∨ raw ∈ values →
      String.ofList (pyStrip raw.toList) ∈ values.foldl (fun out raw =>
        let text := String.ofList (pyStrip raw.toList)
        if text = "" ∨ text ∈ out then out else out ++ [text]) out := by
    intro values
    induction values with
    | nil => exact fun out h => h.resolve_right List.not_mem_nil
    | cons value values ih =>
      intro out h
      refine ih _ ?_
      rcases h with hin | hmem
      · exact Or.inl (nonemptyStrings_step out (Or.inl hin))
      · rcases List.mem_cons.1 hmem with rfl | hmem
        · exact Or.inl (nonemptyStrings_step out (Or.inr ⟨hne, rfl⟩))
        · exact Or.inr hmem
  exact hfold values [] (Or.inr hraw)

theorem keyTag_head (dex : Dex) :
    ∃ c rest, (keyTag dex).toList = c :: rest ∧ isPySpace c = false := by
  cases dex <;> exact ⟨_, _, rfl, by decide⟩

theorem key_not_blank {cfg : ChainConfig} {q : QuotedEdge} (hbuilt : q.edge ∈ buildEdges cfg)
    (hkey : q.HasKey key) : pyStrip key.toList ≠ [] := by
  obtain ⟨c, rest, hhead, hc⟩ := keyTag_head q.edge.dex
  rw [poolKey_eq hbuilt hkey, String.append_assoc, String.toList_append, hhead, List.cons_append,
    pyStrip, List.dropWhile_cons_of_neg (by simp [hc])]
  simp only [ne_eq, List.reverse_eq_nil_iff, List.dropWhile_eq_nil_iff, not_forall]
  exact ⟨c, by simp, by simp [hc]⟩

structure CandidateOf (cfg : ChainConfig) (route : List QuotedEdge) (c : Candidate) : Prop where
  built : ∀ q ∈ route, q.edge ∈ buildEdges cfg
  keys : ∃ keys routeKeys, Recorded route keys ∧ c.conflictKeys = conflictKeysOf keys routeKeys

theorem CandidateOf.mem_conflictKeys {cfg : ChainConfig} {route : List QuotedEdge} {c : Candidate}
    (h : CandidateOf cfg route c) {q : QuotedEdge} (hq : q ∈ route) :
    ∃ key, q.HasKey key ∧ String.ofList (pyStrip key.toList) ∈ c.conflictKeys := by
  obtain ⟨keys, routeKeys, hrecorded, hconflicts⟩ := h.keys
  obtain ⟨key, hmem, hkey⟩ := hrecorded.exists_key hq
  have hin := mem_nonemptyStrings hmem (key_not_blank (h.built q hq) hkey)
  refine ⟨key, hkey, ?_⟩
  rw [hconflicts, conflictKeysOf, if_neg (List.ne_nil_of_mem hin)]
  exact hin

/-- **What the pool keys promise.** Of two legs of a configuration the keys are equal when the rows
name one pool and it is traded in one mode, and different when they name two pools. Two selected
opportunities have no pool in common in one mode. -/
theorem pool_keys_sound (cfg : ChainConfig) :
    (∀ (q q' : QuotedEdge) key key', q.edge ∈ buildEdges cfg → q'.edge ∈ buildEdges cfg →
      q.HasKey key → q'.HasKey key' →
        (q.edge.poolId = q'.edge.poolId → q.edge.SameMode q'.edge → key = key')
        ∧ (q.edge.Known → q'.edge.Known → q.edge.poolId ≠ q'.edge.poolId → key ≠ key'))
    ∧ ∀ limits candidates, (selectPortfolio limits candidates).Pairwise fun c c' =>
        ∀ route route', CandidateOf cfg route c → CandidateOf cfg route' c' →
          ∀ q ∈ route, ∀ q' ∈ route', q.edge.poolId = q'.edge.poolId →
            ¬ q.edge.SameMode q'.edge := by
  have hkeys : ∀ (q q' : QuotedEdge) key key', q.edge ∈ buildEdges cfg →
      q'.edge ∈ buildEdges cfg → q.HasKey key → q'.HasKey key' →
      q.edge.poolId = q'.edge.poolId → q.edge.SameMode q'.edge → key = key' := by
    intro q q' key key' hbuilt hbuilt' hkey hkey' hid hmode
    rw [poolKey_eq hbuilt hkey, poolKey_eq hbuilt' hkey', dex_of_poolId hid,
      keyRest_of_poolId hbuilt hbuilt' hid hmode]
  refine ⟨fun q q' key key' hbuilt hbuilt' hkey hkey' =>
    ⟨hkeys q q' key key' hbuilt hbuilt' hkey hkey', fun hknown hknown' hid heq => ?_⟩,
    fun limits candidates => ?_⟩
  · subst heq
    obtain ⟨hdex, hrest⟩ := key_inj hbuilt hbuilt' hkey hkey'
    exact hid (poolId_of_keyRest hbuilt hbuilt' hknown hknown' hdex hrest)
  · have hfeasible := selectPortfolioWith_feasible scoreTuple scoreBeats limits candidates
    refine hfeasible.conflicts.imp fun {c c'} hapart => ?_
    intro route route' hc hc' q hq q' hq' hid hmode
    obtain ⟨key, hkey, hmem⟩ := hc.mem_conflictKeys hq
    obtain ⟨key', hkey', hmem'⟩ := hc'.mem_conflictKeys hq'
    have hsame := hkeys q q' key key' (hc.built q hq) (hc'.built q' hq') hkey hkey' hid hmode
    subst hsame
    exact hapart _ hmem hmem'

/-- A Curve pool of two coins, and the pair on UniV3 at two fees. -/
def curveConfig : ChainConfig :=
  { univ3Config [pairRow "0xaa" "0xbb", { pairRow "0xaa" "0xbb" with fee := 3000 }] with
    enableCurveAutogen := true
    curvePools := [{ pairRow "0xaa" "0xbb" with pool := "0xcc", j := 1 }] }

def curveForward : QuotedEdge where
  edge := ⟨.curve, "0xcc", "0xaa", "0xbb",
    PyDict.literal [("i", .int 0), ("j", .int 1), ("underlying", .bool false)]⟩
  amountOut := 1000
  quote := Dict.empty

def curveBackward : QuotedEdge where
  edge := ⟨.curve, "0xcc", "0xbb", "0xaa",
    PyDict.literal [("i", .int 1), ("j", .int 0), ("underlying", .bool false)]⟩
  amountOut := 1000
  quote := Dict.empty

def univ3Leg (tokenIn tokenOut : String) (fee : Int) : QuotedEdge where
  edge := ⟨.univ3, "0x1111111111111111111111111111111111111111", tokenIn, tokenOut,
    PyDict.literal [("fee", .int fee)]⟩
  amountOut := 1000
  quote := Dict.empty

theorem curveForward_mem : curveForward.edge ∈ buildEdges curveConfig :=
  List.mem_of_getElem? (show (buildEdges curveConfig)[4]? = some curveForward.edge by rfl)

theorem curveBackward_mem : curveBackward.edge ∈ buildEdges curveConfig :=
  List.mem_of_getElem? (show (buildEdges curveConfig)[5]? = some curveBackward.edge by rfl)

theorem univ3Leg_mem : (univ3Leg "0xbb" "0xaa" 500).edge ∈ buildEdges curveConfig
    ∧ (univ3Leg "0xaa" "0xbb" 3000).edge ∈ buildEdges curveConfig :=
  ⟨List.mem_of_getElem? (show (buildEdges curveConfig)[1]? = some _ by rfl),
    List.mem_of_getElem? (show (buildEdges curveConfig)[2]? = some _ by rfl)⟩

/-- The pool there and UniV3 back, and UniV3 there and the pool back. -/
def forwardRoute : List QuotedEdge := [curveForward, univ3Leg "0xbb" "0xaa" 500]

def backwardRoute : List QuotedEdge := [univ3Leg "0xaa" "0xbb" 3000, curveBackward]

theorem forward_recorded :
    Recorded forwardRoute ["curve:0xcc:0:1:0", "univ3:0xaa:0xbb:500"] :=
  .two rfl

theorem backward_recorded :
    Recorded backwardRoute ["univ3:0xaa:0xbb:3000", "curve:0xcc:1:0:0"] :=
  .two rfl

def tradeOn (keys : List String) : Candidate :=
  { freeTrade with conflictKeys := conflictKeysOf keys [] }

def forwardTrade : Candidate := tradeOn ["curve:0xcc:0:1:0", "univ3:0xaa:0xbb:500"]

def backwardTrade : Candidate := tradeOn ["univ3:0xaa:0xbb:3000", "curve:0xcc:1:0:0"]

def twoTrades : Limits := { spentLimits with gasBudgetRemainingWei := 1000, maxTrades := 2 }

theorem both_selected :
    selectPortfolio twoTrades [forwardTrade, backwardTrade] = [forwardTrade, backwardTrade] := by
  decide +kernel

theorem same_curve_pool : curveForward.edge.poolId = curveBackward.edge.poolId := by
  decide +kernel

theorem forward_candidate : CandidateOf curveConfig forwardRoute forwardTrade where
  built q hq := by
    simp only [forwardRoute, List.mem_cons, List.not_mem_nil, or_false] at hq
    rcases hq with rfl | rfl
    · exact curveForward_mem
    · exact univ3Leg_mem.1
  keys := ⟨_, [], forward_recorded, rfl⟩

theorem backward_candidate : CandidateOf curveConfig backwardRoute backwardTrade where
  built q hq := by
    simp only [backwardRoute, List.mem_cons, List.not_mem_nil, or_false] at hq
    rcases hq with rfl | rfl
    · exact univ3Leg_mem.2
    · exact curveBackward_mem
  keys := ⟨_, [], backward_recorded, rfl⟩

/-- The two directions of a Curve pool have the indices the other way round, so different keys, and
a trade in each is selected. -/
theorem directions_differ :
    (¬ ∀ (cfg : ChainConfig) (q q' : QuotedEdge) key key', q.edge ∈ buildEdges cfg →
      q'.edge ∈ buildEdges cfg → q.HasKey key → q'.HasKey key' →
        q.edge.poolId = q'.edge.poolId → key = key')
    ∧ ¬ ∀ (cfg : ChainConfig) limits candidates,
        (selectPortfolio limits candidates).Pairwise fun c c' =>
          ∀ route route', CandidateOf cfg route c → CandidateOf cfg route' c' →
            ∀ q ∈ route, ∀ q' ∈ route', q.edge.poolId ≠ q'.edge.poolId := by
  constructor
  · intro h
    obtain ⟨aux, haux⟩ : ∃ aux, routeAuxForEdge curveForward.edge curveForward.quote = some aux :=
      Option.isSome_iff_exists.1 (by decide +kernel)
    obtain ⟨aux', haux'⟩ :
        ∃ aux, routeAuxForEdge curveBackward.edge curveBackward.quote = some aux :=
      Option.isSome_iff_exists.1 (by decide +kernel)
    have hsame := h curveConfig curveForward curveBackward _ _ curveForward_mem curveBackward_mem
      ⟨aux, Or.inl haux, rfl⟩ ⟨aux', Or.inl haux', rfl⟩ same_curve_pool
    have hforward : curveForward.poolKey aux = "curve:0xcc:0:1:0" := rfl
    have hbackward : curveBackward.poolKey aux' = "curve:0xcc:1:0:0" := rfl
    rw [hforward, hbackward] at hsame
    exact absurd hsame (by decide)
  · intro h
    have hpairwise := h curveConfig twoTrades [forwardTrade, backwardTrade]
    rw [both_selected] at hpairwise
    have hapart := List.rel_of_pairwise_cons hpairwise List.mem_cons_self
    exact hapart forwardRoute backwardRoute forward_candidate backward_candidate curveForward
      List.mem_cons_self curveBackward (List.mem_cons_of_mem _ List.mem_cons_self) same_curve_pool

end SovereignCapital.Engine
