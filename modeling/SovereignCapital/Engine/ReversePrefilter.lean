import Mathlib.Data.Prod.Lex
import Mathlib.Data.String.Basic
import SovereignCapital.Engine.BatchAgrees
import SovereignCapital.Lib.Phases

/-! # The reverse candidates of a pair

`_prefilter_reverse_candidates` bounds the reverse edges that are quoted: one of every protocol, of
every known pool and of every router, and then the best scored ones.

* `prefilter_diverse` : what is kept, and which protocols and pools are.
-/

namespace SovereignCapital.Engine

open Bytes Phases

/-! ## Identities -/

/-- `str(v or "").strip().lower()`. -/
def normalText (v : PyValue) : String :=
  String.ofList (pyLower (pyStrip (v.orElse (.text "")).str.toList))

/-- The parameters that tell the pools of a family apart. -/
def requiredFields : Dex → Option (List String)
  | .univ3 => some ["fee"]
  | .aerodrome => some ["factory", "stable"]
  | .slipstream => some ["factory", "tick_spacing"]
  | .camelotAlgebra => some ["factory", "tick_spacing"]
  | .camelotV2 => some ["factory"]
  | .constantProduct => some ["factory", "venue_name"]
  | .curve => none
  | .balancer => none

/-- `normalized`, by key. -/
def normalizedFields (params : PyDict) : List (String × String) :=
  ["factory", "fee", "stable", "tick_spacing", "venue_name"].filterMap fun key =>
    match params.get key with
    | .none => none
    | v => if v = .text "" then none else some (key, String.ofList (pyLower (pyStrip v.str.toList)))

def edgePoolIdentity (edge : Edge) : Option String :=
  let poolId := normalText (edge.params.get "pool_id")
  let given := normalText (edge.params.get "pool")
  let pool := if given = "" ∧ edge.dex = .curve then normalText (.text edge.venue) else given
  let tokenIn := normalText (.text edge.tokenIn)
  let tokenOut := normalText (.text edge.tokenOut)
  let fields := normalizedFields edge.params
  if poolId ≠ "" then some (edge.dex.name ++ ":pool_id:" ++ poolId)
  else if pool ≠ "" then some (edge.dex.name ++ ":pool:" ++ pool)
  else if tokenIn = "" ∨ tokenOut = "" then none
  else
    match requiredFields edge.dex with
    | none => none
    | some required =>
      if required.all fun key => (fields.lookup key).getD "" ≠ "" then
        some (edge.dex.name ++ ":pair:" ++ min tokenIn tokenOut ++ "|" ++ max tokenIn tokenOut
          ++ ":" ++ "|".intercalate (fields.map fun field => field.1 ++ "=" ++ field.2))
      else none

def edgeRouterIdentity (edge : Edge) : Option String :=
  let router := normalText (.text edge.venue)
  if edge.dex = .curve ∨ router = "" then none else some router

/-! ## The filter -/

/-- What the filter reads besides the edges: the base quotes by the key of an edge, and the
priorities, one where there is no cache. -/
structure ReverseQuotes where
  qmap1 : String → Option Int
  priority : Edge → Int

/-- `local_output`. -/
def ReverseQuotes.score (q : ReverseQuotes) (edge : Edge) : Int :=
  (q.qmap1 (edgeKey edge)).getD (-1)

def ReverseQuotes.sortKey (q : ReverseQuotes) (item : Edge × ℕ) :
    Int ×ₗ Int ×ₗ String ×ₗ String ×ₗ Int :=
  toLex (q.score item.1, toLex (q.priority item.1, toLex ((edgePoolIdentity item.1).getD "",
    toLex ((edgeRouterIdentity item.1).getD "", -(item.2 : Int)))))

def ReverseQuotes.scored (q : ReverseQuotes) (revs : List Edge) : List Edge :=
  (revs.zipIdx.insertionSort fun a b => q.sortKey b ≤ q.sortKey a).map Prod.fst

def reverseCap (maxCandidates : Int) : ℕ := (max 3 (min 12 maxCandidates)).toNat

def prefilterReverseCandidates (q : ReverseQuotes) (maxCandidates : Int) (revs : List Edge) :
    List Edge :=
  let cap := reverseCap maxCandidates
  let scored := q.scored revs
  let selected := addPhase cap edgeKey (novel fun e => some e.dex) [] [] scored
  let selected := addPhase cap edgeKey (novel edgePoolIdentity) selected [] scored
  let selected := addPhase cap edgeKey (novel edgeRouterIdentity) selected [] scored
  (addPhase cap edgeKey (fun _ _ => true) selected [] scored).take cap

def protocolsOf (revs : List Edge) : List Dex := (revs.map Edge.dex).dedup

def poolsOf (revs : List Edge) : List String := (revs.filterMap edgePoolIdentity).dedup

/-- No edge of another key is of the known pool of the first scored candidate. -/
def FirstAlone (q : ReverseQuotes) (revs : List Edge) : Prop :=
  ∃ first pool, (q.scored revs).head? = some first ∧ edgePoolIdentity first = some pool
    ∧ ∀ e ∈ revs, edgePoolIdentity e = some pool → edgeKey e = edgeKey first

/-- The filter keeps the best edge and the diversity of the edges; edges of one key are one. -/
structure Diverse (q : ReverseQuotes) (cap : ℕ) (revs picked : List Edge) : Prop where
  sublist : picked.Subperm revs
  keys : (picked.map edgeKey).Nodup
  length : picked.length = min cap (revs.map edgeKey).dedup.length
  best : revs ≠ [] → ∃ e ∈ picked, ∀ e' ∈ revs, q.score e' ≤ q.score e
  protocols : (protocolsOf revs).length ≤ cap → ∀ e ∈ revs, ∃ e' ∈ picked, e'.dex = e.dex
  pools : (protocolsOf revs).length + (poolsOf revs).length ≤ cap
      ∨ (protocolsOf revs).length = 1 ∧ (poolsOf revs).length ≤ cap ∧ FirstAlone q revs →
    ∀ e ∈ revs, edgePoolIdentity e ≠ none →
      ∃ e' ∈ picked, edgePoolIdentity e' = edgePoolIdentity e ∨ edgeKey e' = edgeKey e

variable {q : ReverseQuotes} {revs : List Edge} {e : Edge}

theorem mem_scored : e ∈ q.scored revs ↔ e ∈ revs := by
  rw [ReverseQuotes.scored, ((List.perm_insertionSort _ _).map Prod.fst).mem_iff,
    List.zipIdx_map_fst]

/-- The first candidate has the best score. -/
theorem score_le_first {first : Edge} {rest : List Edge} (h : q.scored revs = first :: rest)
    (he : e ∈ revs) : q.score e ≤ q.score first := by
  have hsorted := List.pairwise_insertionSort (fun a b => q.sortKey b ≤ q.sortKey a) revs.zipIdx
  rw [ReverseQuotes.scored] at h
  obtain ⟨item, items, hitems, rfl, -⟩ := List.map_eq_cons_iff.1 h
  rw [hitems, List.pairwise_cons] at hsorted
  have hmem : e ∈ (item :: items).map Prod.fst := by
    rw [← hitems, ← ReverseQuotes.scored]
    exact mem_scored.2 he
  obtain ⟨other, hother, rfl⟩ := List.mem_map.1 hmem
  rcases List.mem_cons.1 hother with rfl | hother
  · exact le_rfl
  · rcases Prod.Lex.toLex_le_toLex.1 (hsorted.1 other hother) with hlt | ⟨heq, -⟩
    · exact hlt.le
    · exact heq.le

/-- Tags that are open are tags of the edges. -/
theorem openTags_subset {τ : Type} [DecidableEq τ] (tag : Edge → Option τ) (selected : List Edge) :
    openTags edgeKey tag selected (q.scored revs) ⊆ (revs.filterMap tag).dedup := by
  intro t ht
  obtain ⟨b, hb, -, htag⟩ := mem_openTags.1 ht
  exact List.mem_dedup.2 (List.mem_filterMap.2 ⟨b, mem_scored.1 hb, htag⟩)

theorem length_openTags_le {τ : Type} [DecidableEq τ] (tag : Edge → Option τ)
    (selected : List Edge) :
    (openTags edgeKey tag selected (q.scored revs)).length ≤ (revs.filterMap tag).dedup.length :=
  ((List.nodup_dedup _).subperm (openTags_subset tag selected)).length_le

/-- Where the pool of the first candidate has no other edge, it is not open behind it. -/
theorem length_openTags_first {first : Edge} {pool : String} (hfirst : first ∈ q.scored revs)
    (hpool : edgePoolIdentity first = some pool)
    (halone : ∀ e ∈ revs, edgePoolIdentity e = some pool → edgeKey e = edgeKey first) :
    (openTags edgeKey edgePoolIdentity [first] (q.scored revs)).length + 1
      ≤ (poolsOf revs).length := by
  have hclosed : pool ∉ openTags edgeKey edgePoolIdentity [first] (q.scored revs) := by
    intro hopen
    obtain ⟨b, hb, hkey, htag⟩ := mem_openTags.1 hopen
    exact hkey (List.mem_singleton.2 (halone b (mem_scored.1 hb) htag))
  refine ((List.nodup_cons.2 ⟨hclosed, List.nodup_dedup _⟩).subperm fun t ht => ?_).length_le
  rcases List.mem_cons.1 ht with rfl | ht
  · exact List.mem_dedup.2 (List.mem_filterMap.2 ⟨first, mem_scored.1 hfirst, hpool⟩)
  · exact openTags_subset edgePoolIdentity [first] ht

theorem prefilter_diverse (q : ReverseQuotes) (maxCandidates : Int) (revs : List Edge) :
    Diverse q (reverseCap maxCandidates) revs
      (prefilterReverseCandidates q maxCandidates revs) := by
  have hcap : 3 ≤ reverseCap maxCandidates := by
    unfold reverseCap
    omega
  rw [prefilterReverseCandidates]
  generalize reverseCap maxCandidates = cap at hcap ⊢
  obtain ⟨dexes, hdexes, hsound, hmem, hle, hcovers, -⟩ :=
    @addPhase_covers _ _ _ _ _ cap edgeKey (fun e : Edge => some e.dex) [] (q.scored revs)
      List.nodup_nil (Nat.zero_le _)
  rw [List.nil_append] at hdexes hcovers
  obtain ⟨pools, hpools, hsound2, hmem2, -, hcovers2, -⟩ :=
    @addPhase_covers _ _ _ _ _ cap edgeKey edgePoolIdentity dexes (q.scored revs) hsound.keys
      hsound.length
  obtain ⟨routers, hrouters, hsound3, hmem3, -⟩ :=
    @addPhase_covers _ _ _ _ _ cap edgeKey edgeRouterIdentity (dexes ++ pools) (q.scored revs)
      hsound2.keys hsound2.length
  obtain ⟨fill, hfill, hsound4, hmem4, -, -, hrest⟩ :=
    @addPhase_covers _ _ _ _ _ cap edgeKey (fun e => some (edgeKey e)) (dexes ++ pools ++ routers)
      (q.scored revs) hsound3.keys hsound3.length
  rw [hdexes, hpools, hrouters, addPhase_any, hfill, List.take_of_length_le hsound4.length]
  have hprotocols : (openTags edgeKey (fun e : Edge => some e.dex) [] (q.scored revs)).length
      ≤ (protocolsOf revs).length := by
    simpa [protocolsOf] using @length_openTags_le q revs _ _ (fun e : Edge => some e.dex) []
  have hfirst : ∀ first rest, q.scored revs = first :: rest → first ∈ dexes := by
    intro first rest heq
    rw [← hdexes, heq]
    exact addPhase_first (by omega) (Option.some_ne_none _)
  have hpicked : ∀ b ∈ dexes ++ pools ++ routers ++ fill, b ∈ revs := by
    intro b hb
    simp only [List.mem_append] at hb
    rcases hb with ((hb | hb) | hb) | hb
    · exact mem_scored.1 (hmem b hb)
    · exact mem_scored.1 (hmem2 b hb)
    · exact mem_scored.1 (hmem3 b hb)
    · exact mem_scored.1 (hmem4 b hb)
  have hkept : ∀ b ∈ dexes ++ pools, b ∈ dexes ++ pools ++ routers ++ fill := fun b hb =>
    List.mem_append_left _ (List.mem_append_left _ hb)
  refine ⟨hsound4.keys.of_map.subperm hpicked, hsound4.keys, ?_, fun hne => ?_,
    fun hroom e he => ?_, fun hroom e he hknown => ?_⟩
  · -- the last phase stops at the cap, or has every key
    have hle : ((dexes ++ pools ++ routers ++ fill).map edgeKey).length
        ≤ (revs.map edgeKey).dedup.length :=
      (hsound4.keys.subperm fun k hk => List.mem_dedup.2 (by
        obtain ⟨b, hb, rfl⟩ := List.mem_map.1 hk
        exact List.mem_map_of_mem (hpicked b hb))).length_le
    have hlength := hsound4.length
    rw [List.length_map] at hle
    by_cases hfull : cap ≤ (dexes ++ pools ++ routers ++ fill).length
    · omega
    · have hge : (revs.map edgeKey).dedup.length
          ≤ ((dexes ++ pools ++ routers ++ fill).map edgeKey).length := by
        refine ((List.nodup_dedup _).subperm fun k hk => ?_).length_le
        obtain ⟨b, hb, rfl⟩ := List.mem_map.1 (List.mem_dedup.1 hk)
        rcases hrest b (mem_scored.2 hb) with h | h | h | h
        · exact h
        · cases h
        · obtain ⟨b', hb', heq⟩ := List.mem_map.1 h
          rw [← Option.some.inj heq]
          exact List.mem_map_of_mem (List.mem_append_right _ hb')
        · exact absurd h hfull
      rw [List.length_map] at hge
      omega
  · obtain ⟨e, he⟩ := List.exists_mem_of_ne_nil _ hne
    cases hscored : q.scored revs with
    | nil => exact absurd (hscored ▸ mem_scored.2 he) List.not_mem_nil
    | cons first rest =>
      exact ⟨first, hkept first (List.mem_append_left _ (hfirst first rest hscored)),
        fun e' he' => score_le_first hscored he'⟩
  · have hopen : ([] : List Edge).length + (openTags edgeKey (fun e => some e.dex) []
        (q.scored revs)).length ≤ cap := by
      rw [List.length_nil, Nat.zero_add]
      exact hprotocols.trans hroom
    rcases hcovers hopen e (mem_scored.2 he) (Option.some_ne_none _) with h | h
    · obtain ⟨b, hb, hkey⟩ := List.mem_map.1 h
      exact ⟨b, hkept b (List.mem_append_left _ hb), dex_eq_of_edgeKey hkey⟩
    · obtain ⟨b, hb, hdex⟩ := List.mem_map.1 h
      exact ⟨b, hkept b (List.mem_append_left _ hb), Option.some.inj hdex⟩
  · have hopen : dexes.length + (openTags edgeKey edgePoolIdentity dexes (q.scored revs)).length
        ≤ cap := by
      rcases hroom with hroom | ⟨hone, hroom, first, pool, hhead, hpool, halone⟩
      · have := @length_openTags_le q revs _ _ edgePoolIdentity dexes
        exact (Nat.add_le_add (hle.trans hprotocols) this).trans hroom
      · -- the one edge of the first phase has its pool for itself
        obtain ⟨rest, hscored⟩ := List.head?_eq_some_iff.1 hhead
        have hmemFirst := hfirst first rest hscored
        have hdexesOne : dexes = [first] := by
          obtain ⟨other, hother⟩ := List.length_eq_one_iff.1 (Nat.le_antisymm
            (hle.trans (hprotocols.trans hone.le)) (List.length_pos_of_mem hmemFirst))
          rw [hother, List.mem_singleton] at hmemFirst
          rw [hother, hmemFirst]
        have := length_openTags_first (hscored ▸ List.mem_cons_self) hpool halone
        rw [hdexesOne, List.length_singleton]
        omega
    rcases hcovers2 hopen e (mem_scored.2 he) hknown with h | h
    · obtain ⟨b, hb, hkey⟩ := List.mem_map.1 h
      exact ⟨b, hkept b hb, .inr hkey⟩
    · obtain ⟨b, hb, hpool⟩ := List.mem_map.1 h
      exact ⟨b, hkept b hb, .inl hpool⟩

/-- Four edges of one family; the best one does not say its fee, and so its pool is not known. -/
def sampleRevs : List Edge :=
  [⟨.univ3, "r", "a", "b", .literal []⟩, ⟨.univ3, "r", "a", "b", .literal [("fee", .int 100)]⟩,
    ⟨.univ3, "r", "a", "b", .literal [("fee", .int 500)]⟩,
    ⟨.univ3, "r", "a", "b", .literal [("fee", .int 3000)]⟩]

def sampleQuotes : ReverseQuotes :=
  ⟨fun key => if key = "univ3:r:a:b:" then some 10 else none, fun _ => 1⟩

/-- One protocol and three pools with a cap of three: the last pool is left out. -/
theorem pool_left_out : (protocolsOf sampleRevs).length = 1 ∧ (poolsOf sampleRevs).length = 3
    ∧ reverseCap 3 = 3 ∧ ∃ e ∈ sampleRevs, edgePoolIdentity e ≠ none
      ∧ ∀ e' ∈ prefilterReverseCandidates sampleQuotes 3 sampleRevs,
        edgePoolIdentity e' ≠ edgePoolIdentity e ∧ edgeKey e' ≠ edgeKey e := by
  decide +kernel

end SovereignCapital.Engine
