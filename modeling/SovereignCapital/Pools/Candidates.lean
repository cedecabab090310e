import SovereignCapital.Lib.Double
import SovereignCapital.Lib.FairSelection
import SovereignCapital.Pools.EventCache

/-! # The candidates of a scan

`prioritize_edges` and `candidate_edges` of `PoolStateEventCache`. Pools that changed in the last
blocks make the edges that touch them or their tokens hot. With such pools the scan gets a bounded
selection that draws on all families in turn and keeps a part for the cold edges; without them it
gets the whole graph, in the order of the priorities.
-/

namespace SovereignCapital.Pools

open Bytes Decimal

/-! ## Edges -/

structure GraphEdge where
  dex : Text
  venue : Text
  tokenIn : Text
  tokenOut : Text
  params : PyDict

namespace GraphEdge

def poolAddress (edge : GraphEdge) : Text :=
  Cache.edgePoolAddress
    { dex := edge.dex, venue := edge.venue, tokenIn := edge.tokenIn, tokenOut := edge.tokenOut
      pool := edge.params.get "pool", poolAddress := edge.params.get "pool_address" }

def tokens (edge : GraphEdge) : List Text :=
  [pyLower edge.tokenIn, pyLower edge.tokenOut].filter fun t => t != []

def familyName (edge : GraphEdge) : Text :=
  let dex := pyLower (pyStrip edge.dex)
  let venueName :=
    pyLower (pyStrip ((edge.params.get "venue_name").orElse (.text "")).str.toList)
  if dex = "constant_product".toList ∧ venueName ≠ [] then venueName.take 64
  else (if dex ≠ [] then dex else "unknown".toList).take 64

/-- The quote `repr` puts around a text. -/
def reprQuote (t : Text) : Char :=
  if Char.ofNat 39 ∈ t ∧ '"' ∉ t then '"' else Char.ofNat 39

/-- A character inside `repr`; outside ASCII the printable ones stand as they are. -/
def reprChar (printable : Char → Bool) (quote c : Char) : Text :=
  let hex (width : ℕ) : Text := pyRjust width '0' (Nat.toDigits 16 c.toNat)
  if c = quote ∨ c = '\\' then ['\\', c]
  else if c = '\n' then ['\\', 'n']
  else if c = '\r' then ['\\', 'r']
  else if c = '\t' then ['\\', 't']
  else if (32 ≤ c.toNat ∧ c.toNat < 127) ∨ (127 < c.toNat ∧ printable c = true) then [c]
  else if c.toNat ≤ 0xFF then '\\' :: 'x' :: hex 2
  else if c.toNat ≤ 0xFFFF then '\\' :: 'u' :: hex 4
  else '\\' :: 'U' :: hex 8

def reprText (printable : Char → Bool) (t : Text) : Text :=
  reprQuote t :: t.flatMap (reprChar printable (reprQuote t)) ++ [reprQuote t]

/-- `a <= b` on pairs of texts. -/
def pairLe (a b : Text × Text) : Bool :=
  if a.1 = b.1 then textLe a.2 b.2 else textLe a.1 b.1

/-- `repr(sorted((str(k), str(v)) for k, v in params.items()))`. -/
def reprParams (printable : Char → Bool) (params : PyDict) : Text :=
  let items := (params.entries.map fun e => (e.1.toList, e.2.str.toList)).insertionSort
    fun a b => pairLe a b
  let pair (item : Text × Text) : Text :=
    '(' :: reprText printable item.1 ++ ", ".toList ++ reprText printable item.2 ++ [')']
  '[' :: ", ".toList.intercalate (items.map pair) ++ [']']

def identity (printable : Char → Bool) (edge : GraphEdge) : Text :=
  ['|'].intercalate
    [edge.dex, edge.venue, edge.tokenIn, edge.tokenOut, reprParams printable edge.params]

end GraphEdge

/-! ## The order of the edges -/

structure EventCache extends Cache where
  dirty : List Text

namespace EventCache

def age (currentBlock : ℤ) (state : PoolEventState) : ℤ := max 0 (currentBlock - state.lastBlock)

def isFresh (cache : EventCache) (currentBlock : ℤ) (address : Text) (state : PoolEventState) :
    Bool :=
  cache.dirty.contains address && state.lastBlock != 0 && decide (age currentBlock state ≤ 2)

def freshEntries (cache : EventCache) (currentBlock : ℤ) : List (Text × PoolEventState) :=
  cache.states.entries.filter fun e => cache.isFresh currentBlock e.1 e.2

def freshDirtyPools (cache : EventCache) (currentBlock : ℤ) : List Text :=
  (cache.freshEntries currentBlock).map Prod.fst

def affectedTokens (cache : EventCache) (currentBlock : ℤ) : List Text :=
  (cache.freshEntries currentBlock).flatMap fun e =>
    ([e.2.token0, e.2.token1].filter fun t => t != []).map pyLower

/-- The edge has a token of a pool that changed. -/
def isAffected (cache : EventCache) (currentBlock : ℤ) (edge : GraphEdge) : Bool :=
  edge.tokens.any fun t => (cache.affectedTokens currentBlock).contains t

def edgePriority (cache : EventCache) (currentBlock : ℤ) (edge : GraphEdge) : ℕ :=
  if edge.poolAddress = [] then 1
  else
    match cache.states.get? edge.poolAddress with
    | none => 1
    | some state =>
      if state.lastBlock = 0 then 1
      else if cache.dirty.contains edge.poolAddress && decide (age currentBlock state ≤ 2) then 4
      else if age currentBlock state ≤ 2 then 3
      else if age currentBlock state ≤ 5 then 2
      else 1

structure Scored where
  priority : ℕ
  lastBlock : ℤ
  order : ℕ
  edge : GraphEdge

/-- The keys fall; of two edges that tie otherwise the first comes first. -/
def Scored.before (a b : Scored) : Bool :=
  if a.priority = b.priority then
    if a.lastBlock = b.lastBlock then decide (a.order ≤ b.order)
    else decide (b.lastBlock < a.lastBlock)
  else decide (b.priority < a.priority)

/-- An entry of `scored`. -/
def score (cache : EventCache) (currentBlock : ℤ) (item : GraphEdge × ℕ) : Scored :=
  let address := item.1.poolAddress
  let priority := cache.edgePriority currentBlock item.1
  { priority :=
      if (cache.freshDirtyPools currentBlock).contains address then max priority 5
      else if cache.isAffected currentBlock item.1 then max priority 4
      else priority
    lastBlock := if address = [] then 0 else cache.lastBlockOf address
    order := item.2
    edge := item.1 }

def prioritizeEdges (cache : EventCache) (currentBlock : ℤ) (edges : List GraphEdge) :
    List GraphEdge :=
  ((edges.zipIdx.map (cache.score currentBlock)).insertionSort fun a b => Scored.before a b).map
    Scored.edge

end EventCache

/-! ## Families in turn -/

def familiesOf (edges : List GraphEdge) : List Text :=
  ((edges.map GraphEdge.familyName).dedup).insertionSort fun a b => textLe a b

def familyEdgeCounts (edges : List GraphEdge) : List (Text × ℕ) :=
  (familiesOf edges).map fun family =>
    (family, edges.countP fun edge => decide (edge.familyName = family))

def roundRobinByFamily (edges : List GraphEdge) (limit rotationIndex : ℤ) : List GraphEdge :=
  let families := familiesOf edges
  let rotated := families.rotate ((max 0 rotationIndex).toNat % families.length)
  FairSelection.select limit.toNat (FairSelection.groups GraphEdge.familyName rotated edges)

/-! ## The candidates -/

/-- What `candidate_edges` is asked; `printable` says which characters `repr` leaves alone. -/
structure CandidateQuery where
  cache : EventCache
  edges : List GraphEdge
  currentBlock : ℤ
  maxCandidates : ℤ := 768
  explorationRatio : ℚ := Double.nearest (10 / 100)
  printable : Char → Bool

/-- What `candidate_edges` writes of its own into the telemetry. -/
inductive CandidateMetrics where
  | fullGraph (candidateEdgeCount : ℕ)
  | dirtySubgraph
      (candidateEdgeCount candidateEdgesFull candidateEdgesPruned explorationEdgeCount
        hotSubgraphEdgeCount hotSelectedEdgeCount explorationSelectedEdgeCount : ℕ)
      (hotSubgraphEdgesByFamily hotSelectedEdgesByFamily explorationPoolEdgesByFamily
        explorationEdgesByFamily candidateEdgesByFamily : List (Text × ℕ))
      (freshDirtyPoolCount affectedTokenCount : ℕ) (maxCandidates : ℤ) (explorationRatio : ℚ)

namespace CandidateQuery

def cap (q : CandidateQuery) : ℕ := (max 32 (min 2048 q.maxCandidates)).toNat

def ratio (q : CandidateQuery) : ℚ :=
  max (Double.nearest (2 / 100)) (min (1 / 2) q.explorationRatio)

/-- The edge touches a pool that changed or a token of one. -/
def isHot (q : CandidateQuery) (edge : GraphEdge) : Bool :=
  (q.cache.freshDirtyPools q.currentBlock).contains edge.poolAddress
    || q.cache.isAffected q.currentBlock edge

def unique (q : CandidateQuery) : List GraphEdge :=
  FairSelection.firsts (GraphEdge.identity q.printable) [] q.edges

def hot (q : CandidateQuery) : List GraphEdge := q.unique.filter q.isHot

def cold (q : CandidateQuery) : List GraphEdge := q.unique.filter fun edge => !q.isHot edge

/-- `exploration_count` before a reserve is set. -/
def explorationSample (q : CandidateQuery) : ℤ :=
  min (q.cold.length : ℤ) (max 8 (roundHalfEven (Double.mul q.edges.length q.ratio)))

/-- The hot edges and the sample do not fit under the cap together. -/
def crowded (q : CandidateQuery) : Bool :=
  !q.cold.isEmpty && decide ((q.cap : ℤ) < q.hot.length + q.explorationSample)

def explorationReserve (q : CandidateQuery) : ℕ :=
  if q.crowded then min q.cold.length (max 8 (q.cap / 4)) else 0

def explorationCount (q : CandidateQuery) : ℤ :=
  if q.crowded then (q.explorationReserve : ℤ) else q.explorationSample

def hotBudget (q : CandidateQuery) : ℕ := q.cap - q.explorationReserve

def exploration (q : CandidateQuery) : List GraphEdge :=
  roundRobinByFamily (q.cache.prioritizeEdges q.currentBlock q.cold) q.explorationCount
    q.currentBlock

def hotSelected (q : CandidateQuery) : List GraphEdge :=
  roundRobinByFamily (q.cache.prioritizeEdges q.currentBlock q.hot) q.hotBudget q.currentBlock

def explorationSelected (q : CandidateQuery) : List GraphEdge :=
  q.exploration.take (q.cap - q.hotSelected.length)

/-- `combined`, without a repeated identity, under the cap. -/
def combined (q : CandidateQuery) : List GraphEdge :=
  let kept := (FairSelection.firsts (GraphEdge.identity q.printable) []
    (q.hotSelected ++ q.explorationSelected)).take q.cap
  if kept = [] ∧ q.edges ≠ [] then q.edges.take q.cap else kept

def candidateEdges (q : CandidateQuery) : List GraphEdge × CandidateMetrics :=
  if q.cache.freshDirtyPools q.currentBlock = [] then
    let ordered := q.cache.prioritizeEdges q.currentBlock q.edges
    (ordered, .fullGraph ordered.length)
  else
    let candidates := q.cache.prioritizeEdges q.currentBlock q.combined
    let selectedIds := (q.hotSelected ++ q.explorationSelected).map (GraphEdge.identity q.printable)
    (candidates,
      .dirtySubgraph candidates.length q.edges.length (q.edges.length - candidates.length)
        (q.explorationSelected.countP fun edge => selectedIds.contains (edge.identity q.printable))
        q.hot.length q.hotSelected.length q.explorationSelected.length
        (familyEdgeCounts q.hot) (familyEdgeCounts q.hotSelected) (familyEdgeCounts q.cold)
        (familyEdgeCounts q.explorationSelected) (familyEdgeCounts candidates)
        (q.cache.freshDirtyPools q.currentBlock).length
        (q.cache.affectedTokens q.currentBlock).dedup.length q.cap q.ratio)

end CandidateQuery

/-! ## Priorities and families -/

/-- **Nothing is lost in the order of the priorities.** -/
theorem prioritizeEdges_perm (cache : EventCache) (currentBlock : ℤ) (edges : List GraphEdge) :
    (cache.prioritizeEdges currentBlock edges).Perm edges := by
  have hedges : (edges.zipIdx.map (cache.score currentBlock)).map EventCache.Scored.edge
      = edges := by
    rw [List.map_map]
    exact List.zipIdx_map_fst 0 edges
  have hsorted := List.perm_insertionSort (fun a b => EventCache.Scored.before a b = true)
    (edges.zipIdx.map (cache.score currentBlock))
  have hmap := hsorted.map EventCache.Scored.edge
  rwa [hedges] at hmap

theorem mem_familiesOf {edges : List GraphEdge} {edge : GraphEdge} (h : edge ∈ edges) :
    edge.familyName ∈ familiesOf edges := by
  rw [familiesOf, List.mem_insertionSort, List.mem_dedup]
  exact List.mem_map_of_mem h

theorem nodup_familiesOf (edges : List GraphEdge) : (familiesOf edges).Nodup :=
  (List.perm_insertionSort _ _).nodup_iff.2 (List.nodup_dedup _)

theorem length_familiesOf {edges edges' : List GraphEdge} (h : edges.Perm edges') :
    (familiesOf edges).length = (familiesOf edges').length := by
  rw [familiesOf, familiesOf, List.length_insertionSort, List.length_insertionSort]
  exact (h.map GraphEdge.familyName).dedup.length_eq

theorem exists_roundRobinByFamily (edges : List GraphEdge) (limit rotationIndex : ℤ) :
    ∃ families : List Text, families.Perm (familiesOf edges) ∧
      roundRobinByFamily edges limit rotationIndex
        = FairSelection.select limit.toNat
            (FairSelection.groups GraphEdge.familyName families edges) :=
  ⟨_, List.rotate_perm _ _, rfl⟩

theorem perm_groups_families {edges : List GraphEdge} {families : List Text}
    (h : families.Perm (familiesOf edges)) :
    (FairSelection.groups GraphEdge.familyName families edges).flatten.Perm edges :=
  FairSelection.perm_flatten_groups GraphEdge.familyName
    (h.nodup_iff.2 (nodup_familiesOf edges)) fun _ hedge => h.mem_iff.2 (mem_familiesOf hedge)

theorem roundRobin_subperm (edges : List GraphEdge) (limit rotationIndex : ℤ) :
    (roundRobinByFamily edges limit rotationIndex).Subperm edges := by
  obtain ⟨families, hperm, heq⟩ := exists_roundRobinByFamily edges limit rotationIndex
  rw [heq]
  exact (FairSelection.subperm_select _ _).trans (perm_groups_families hperm).subperm

theorem length_roundRobin (edges : List GraphEdge) (limit rotationIndex : ℤ) :
    (roundRobinByFamily edges limit rotationIndex).length = min limit.toNat edges.length := by
  obtain ⟨families, hperm, heq⟩ := exists_roundRobinByFamily edges limit rotationIndex
  rw [heq, FairSelection.length_select, (perm_groups_families hperm).length_eq]

theorem exists_mem_roundRobin {edges : List GraphEdge} {limit : ℤ}
    (hlimit : (familiesOf edges).length ≤ limit.toNat) (rotationIndex : ℤ) {edge : GraphEdge}
    (h : edge ∈ edges) :
    ∃ selected ∈ roundRobinByFamily edges limit rotationIndex,
      selected.familyName = edge.familyName := by
  obtain ⟨families, hperm, heq⟩ := exists_roundRobinByFamily edges limit rotationIndex
  rw [heq]
  have hfamily : edge.familyName ∈ families := hperm.mem_iff.2 (mem_familiesOf h)
  have hgroup : (edges.filter fun e => decide (e.familyName = edge.familyName))
      ∈ FairSelection.groups GraphEdge.familyName families edges := List.mem_map_of_mem hfamily
  cases hfilter : edges.filter fun e => decide (e.familyName = edge.familyName) with
  | nil =>
    have hnone := List.filter_eq_nil_iff.1 hfilter edge h
    simp at hnone
  | cons first rest =>
    rw [hfilter] at hgroup
    have hfirst : first ∈ edges.filter fun e => decide (e.familyName = edge.familyName) := by
      rw [hfilter]
      exact List.mem_cons_self
    refine ⟨first, FairSelection.head_mem_select ?_ hgroup, ?_⟩
    · rw [FairSelection.length_groups, hperm.length_eq]
      exact hlimit
    · simpa using (List.mem_filter.1 hfirst).2

/-! ## The two parts of the selection -/

namespace CandidateQuery

variable (q : CandidateQuery)

theorem cap_bounds : 32 ≤ q.cap ∧ q.cap ≤ 2048 := by
  unfold cap
  omega

theorem perm_hot_cold : (q.hot ++ q.cold).Perm q.unique := List.filter_append_perm _ _

theorem hotSelected_subperm : q.hotSelected.Subperm q.hot :=
  (roundRobin_subperm _ _ _).trans (prioritizeEdges_perm _ _ _).subperm

theorem explorationSelected_subperm : q.explorationSelected.Subperm q.cold :=
  (List.take_sublist _ _).subperm.trans
    ((roundRobin_subperm _ _ _).trans (prioritizeEdges_perm _ _ _).subperm)

theorem length_hotSelected : q.hotSelected.length = min q.hotBudget q.hot.length := by
  rw [hotSelected, length_roundRobin, (prioritizeEdges_perm _ _ _).length_eq, Int.toNat_natCast]

/-- Hot edges in the selection leave the reserve free. -/
theorem length_hotSelected_add_le : q.hotSelected.length + q.explorationReserve ≤ q.cap := by
  have hcap := q.cap_bounds
  have hreserve : q.explorationReserve ≤ q.cap := by
    unfold explorationReserve
    split <;> omega
  rw [length_hotSelected, hotBudget]
  omega

/-- **The exploration gets its share**: the reserve when the graph is crowded, the sample
otherwise. -/
theorem length_explorationSelected : (q.explorationSelected.length : ℤ) = q.explorationCount := by
  have hroom := q.length_hotSelected_add_le
  have hsample : 0 ≤ q.explorationSample ∧ q.explorationSample ≤ q.cold.length := by
    unfold explorationSample
    omega
  have hhot : q.hotSelected.length ≤ q.hot.length := by
    rw [length_hotSelected]
    exact Nat.min_le_right _ _
  have hlen : q.explorationSelected.length
      = min (q.cap - q.hotSelected.length) (min q.explorationCount.toNat q.cold.length) := by
    rw [explorationSelected, List.length_take, exploration, length_roundRobin,
      (prioritizeEdges_perm _ _ _).length_eq]
  rw [hlen, explorationCount]
  cases hcrowded : q.crowded with
  | true =>
    have hcold : q.explorationReserve ≤ q.cold.length := by
      rw [explorationReserve, hcrowded, if_pos rfl]
      exact Nat.min_le_left _ _
    rw [if_pos rfl]
    omega
  | false =>
    rw [if_neg (by simp)]
    have hfits : q.cold = [] ∨ (q.hot.length : ℤ) + q.explorationSample ≤ q.cap := by
      simpa [crowded, Classical.or_iff_not_imp_left] using hcrowded
    rcases hfits with hnil | hfits
    · rw [hnil] at hsample ⊢
      simp only [List.length_nil] at hsample ⊢
      omega
    · omega

theorem selected_subperm : (q.hotSelected ++ q.explorationSelected).Subperm q.unique :=
  (q.hotSelected_subperm.append q.explorationSelected_subperm).trans q.perm_hot_cold.subperm

theorem nodup_selected :
    ((q.hotSelected ++ q.explorationSelected).map (GraphEdge.identity q.printable)).Nodup := by
  obtain ⟨kept, hperm, hsub⟩ := q.selected_subperm
  rw [← (hperm.map _).nodup_iff]
  exact (FairSelection.nodup_map_firsts (GraphEdge.identity q.printable) [] q.edges).sublist
    (hsub.map _)

theorem length_selected_le : (q.hotSelected ++ q.explorationSelected).length ≤ q.cap := by
  have hroom := q.length_hotSelected_add_le
  rw [List.length_append, explorationSelected, List.length_take]
  omega

theorem edges_eq_nil_of_selected (h : q.hotSelected ++ q.explorationSelected = []) :
    q.edges = [] := by
  obtain ⟨hhot, hcold⟩ := List.append_eq_nil_iff.1 h
  have hcap := q.cap_bounds
  have hhotLen := q.length_hotSelected
  have hcoldLen := q.length_explorationSelected
  rw [hhot, List.length_nil, hotBudget] at hhotLen
  rw [hcold, List.length_nil] at hcoldLen
  have hcoldNil : q.cold.length = 0 := by
    unfold explorationCount explorationReserve explorationSample at hcoldLen
    split at hcoldLen <;> omega
  have hhotNil : q.hot.length = 0 := by
    have hreserve : q.explorationReserve ≤ q.cold.length := by
      unfold explorationReserve
      split <;> omega
    omega
  have hunique := q.perm_hot_cold.length_eq
  rw [List.length_append, hhotNil, hcoldNil] at hunique
  cases hedges : q.edges with
  | nil => rfl
  | cons edge rest =>
    have hmem : edge ∈ q.edges := hedges ▸ List.mem_cons_self
    obtain ⟨first, hfirst, -⟩ := FairSelection.exists_mem_firsts
      (GraphEdge.identity q.printable) hmem List.not_mem_nil
    have hpos : 0 < q.unique.length := List.length_pos_of_mem hfirst
    omega

/-- The pass over the selected edges, the cap and the fallback change nothing. -/
theorem combined_eq : q.combined = q.hotSelected ++ q.explorationSelected := by
  have hfirsts := FairSelection.firsts_eq_self (GraphEdge.identity q.printable) q.nodup_selected
    fun _ _ => List.not_mem_nil
  rw [combined, hfirsts, List.take_of_length_le q.length_selected_le]
  split
  · rename_i h
    exact absurd (q.edges_eq_nil_of_selected h.1) h.2
  · rfl

/-! ## The selection -/

structure BudgetedSelection (result : List GraphEdge) : Prop where
  /-- Every edge of the selection is an edge of the graph, none more often than there. -/
  subperm : result.Subperm q.edges
  nodup : (result.map (GraphEdge.identity q.printable)).Nodup
  length_le : result.length ≤ q.cap
  /-- A budget for every hot family shows every hot family. -/
  hotFamilies : (familiesOf q.hot).length ≤ q.hotBudget → ∀ edge ∈ q.hot,
    ∃ selected ∈ result, q.isHot selected = true ∧ selected.familyName = edge.familyName
  /-- The reserve is filled with cold edges. -/
  reserve : ((result.countP fun edge => !q.isHot edge : ℕ) : ℤ) = q.explorationCount

theorem isHot_of_mem_hot {edge : GraphEdge} (h : edge ∈ q.hot) : q.isHot edge = true :=
  (List.mem_filter.1 h).2

/-- **The selection from a graph with pools that changed.** -/
theorem budgetedSelection :
    q.BudgetedSelection (q.cache.prioritizeEdges q.currentBlock q.combined) := by
  have hperm := prioritizeEdges_perm q.cache q.currentBlock q.combined
  have hhot : ∀ edge ∈ q.hotSelected, q.isHot edge = true := fun edge hedge =>
    q.isHot_of_mem_hot (q.hotSelected_subperm.subset hedge)
  have hcold : ∀ edge ∈ q.explorationSelected, (!q.isHot edge) = true := fun edge hedge =>
    (List.mem_filter.1 (q.explorationSelected_subperm.subset hedge)).2
  rw [combined_eq] at hperm ⊢
  refine ⟨?_, ?_, ?_, fun hbudget edge hedge => ?_, ?_⟩
  · have hunique : q.unique.Subperm q.edges :=
      (FairSelection.firsts_sublist (GraphEdge.identity q.printable) [] q.edges).subperm
    exact hperm.subperm.trans (q.selected_subperm.trans hunique)
  · exact (hperm.map _).nodup_iff.2 q.nodup_selected
  · rw [hperm.length_eq]
    exact q.length_selected_le
  · have hordered := prioritizeEdges_perm q.cache q.currentBlock q.hot
    have hfamilies : (familiesOf (q.cache.prioritizeEdges q.currentBlock q.hot)).length
        ≤ (q.hotBudget : ℤ).toNat := by
      rw [length_familiesOf hordered, Int.toNat_natCast]
      exact hbudget
    obtain ⟨selected, hmem, hfamily⟩ :=
      exists_mem_roundRobin hfamilies q.currentBlock (hordered.mem_iff.2 hedge)
    exact ⟨selected, hperm.mem_iff.2 (List.mem_append_left _ hmem), hhot selected hmem, hfamily⟩
  · have hnone : q.hotSelected.countP (fun edge => !q.isHot edge) = 0 :=
      List.countP_eq_zero.2 fun edge hedge => by simp [hhot edge hedge]
    have hall : q.explorationSelected.countP (fun edge => !q.isHot edge)
        = q.explorationSelected.length := List.countP_eq_length.2 hcold
    rw [hperm.countP_eq, List.countP_append, hnone, hall, Nat.zero_add,
      q.length_explorationSelected]

/-- **The priorities lose nothing; a graph without pools that changed is returned whole, and one
with such pools as a bounded selection.** -/
theorem candidates_of_scan (cache : EventCache) (currentBlock : ℤ) (edges : List GraphEdge)
    (maxCandidates : ℤ) (explorationRatio : ℚ) (printable : Char → Bool) :
    let q : CandidateQuery :=
      { cache, edges, currentBlock, maxCandidates, explorationRatio, printable }
    (cache.prioritizeEdges currentBlock edges).Perm edges ∧
      if cache.freshDirtyPools currentBlock = [] then q.candidateEdges.1.Perm edges
      else q.BudgetedSelection q.candidateEdges.1 := by
  intro q
  refine ⟨prioritizeEdges_perm cache currentBlock edges, ?_⟩
  split
  · rename_i hfresh
    rw [candidateEdges, if_pos hfresh]
    exact prioritizeEdges_perm cache currentBlock edges
  · rename_i hfresh
    rw [candidateEdges, if_neg hfresh]
    exact q.budgetedSelection

end CandidateQuery

/-! ## A graph without events -/

def quietEdge : GraphEdge where
  dex := "univ3".toList
  venue := "0xquoter".toList
  tokenIn := "0xaaaa".toList
  tokenOut := "0xbbbb".toList
  params := Dict.empty

/-- Thirty-three times one edge, a cap of thirty-two, and no pool that changed. -/
def quietQuery : CandidateQuery where
  cache :=
    { Cache.new { wsUrls := [], rpcUrls := [], maxAddresses := 16, reconcileMaxBlocks := 16 } with
      dirty := [] }
  edges := List.replicate 33 quietEdge
  currentBlock := 100
  maxCandidates := 32
  printable := fun _ => true

/-- Above the cap, and an edge more than once. -/
theorem quiet_graph_whole :
    ¬ quietQuery.candidateEdges.1.length ≤ 32 ∧
      ¬ (quietQuery.candidateEdges.1.map (GraphEdge.identity fun _ => true)).Nodup := by
  have hperm : quietQuery.candidateEdges.1.Perm (List.replicate 33 quietEdge) :=
    prioritizeEdges_perm quietQuery.cache 100 (List.replicate 33 quietEdge)
  refine ⟨?_, fun h => ?_⟩
  · rw [hperm.length_eq, List.length_replicate]
    decide
  · rw [(hperm.map _).nodup_iff, List.map_replicate, List.nodup_replicate] at h
    exact absurd h (by decide)

end SovereignCapital.Pools
