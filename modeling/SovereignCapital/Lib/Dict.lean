import Mathlib.Algebra.BigOperators.Group.Finset.Basic
import Mathlib.Algebra.Order.BigOperators.Group.List
import Mathlib.Data.List.Sort

/-! # Dictionaries in insertion order

A dictionary is a list of entries whose keys are pairwise different. Assigning to a key that
is present keeps its place, a new key goes to the end. Besides the lookup of every operation
the file has sums over the entries (`sumBy`): what one assignment adds to a sum, and that a
sum only depends on the lookups.
-/

/-- A dictionary, oldest entry first. -/
structure Dict (κ α : Type) where
  entries : List (κ × α)
  nodup : (entries.map Prod.fst).Nodup

namespace Dict

variable {κ α β : Type} [DecidableEq κ]

/-! ## Lists of entries -/

/-- The value at a key. -/
def lookup (k : κ) : List (κ × α) → Option α
  | [] => none
  | (k', v) :: rest => if k' = k then some v else lookup k rest

/-- The entries after an assignment. -/
def assign (k : κ) (v : α) : List (κ × α) → List (κ × α)
  | [] => [(k, v)]
  | (k', v') :: rest => if k' = k then (k, v) :: rest else (k', v') :: assign k v rest

theorem keys_assign (k : κ) (v : α) (l : List (κ × α)) :
    (assign k v l).map Prod.fst
      = if k ∈ l.map Prod.fst then l.map Prod.fst else l.map Prod.fst ++ [k] := by
  induction l with
  | nil => rfl
  | cons e l ih =>
    obtain ⟨k', v'⟩ := e
    by_cases hk : k' = k
    · subst hk
      simp [assign]
    · simp only [assign, if_neg hk, List.map_cons, ih, List.mem_cons, Ne.symm hk, false_or]
      split <;> rfl

theorem nodup_assign (k : κ) (v : α) {l : List (κ × α)} (h : (l.map Prod.fst).Nodup) :
    ((assign k v l).map Prod.fst).Nodup := by
  rw [keys_assign]
  split
  · exact h
  · rename_i hk
    rw [List.nodup_append]
    refine ⟨h, List.nodup_singleton k, ?_⟩
    intro a ha b hb hab
    rw [List.mem_singleton.1 hb] at hab
    exact hk (hab ▸ ha)

theorem lookup_eq_some_iff {l : List (κ × α)} (h : (l.map Prod.fst).Nodup) {k : κ} {v : α} :
    lookup k l = some v ↔ (k, v) ∈ l := by
  induction l with
  | nil => simp [lookup]
  | cons e l ih =>
    obtain ⟨k', v'⟩ := e
    obtain ⟨hnot, hrest⟩ := List.nodup_cons.1 h
    by_cases hk : k' = k
    · subst hk
      have hout : (k', v) ∉ l := fun hmem => hnot (List.mem_map.2 ⟨(k', v), hmem, rfl⟩)
      simp [lookup, hout, eq_comm]
    · rw [lookup, if_neg hk, ih hrest, List.mem_cons]
      simp [Ne.symm hk]

/-! ## Operations -/

/-- The dictionary without entries. -/
def empty : Dict κ α := ⟨[], List.nodup_nil⟩

/-- `d.get(k)`. -/
def get? (d : Dict κ α) (k : κ) : Option α := lookup k d.entries

/-- `d.get(k, v)`. -/
def getD (d : Dict κ α) (k : κ) (v : α) : α := (d.get? k).getD v

/-- `k in d`. -/
def contains (d : Dict κ α) (k : κ) : Bool := (d.get? k).isSome

/-- `d[k] = v`. -/
def set (d : Dict κ α) (k : κ) (v : α) : Dict κ α :=
  ⟨assign k v d.entries, nodup_assign k v d.nodup⟩

/-- `d.pop(k, None)`. -/
def erase (d : Dict κ α) (k : κ) : Dict κ α :=
  ⟨d.entries.filter fun e => decide (e.1 ≠ k),
    d.nodup.sublist (List.filter_sublist.map Prod.fst)⟩

/-- `{k: f(v) for k, v in d.items()}`. -/
def mapVal (f : α → β) (d : Dict κ α) : Dict κ β :=
  ⟨d.entries.map fun e => (e.1, f e.2), by simpa [List.map_map, Function.comp_def] using d.nodup⟩

/-- `{k: v for k, v in d.items() if p(v)}`. -/
def filterVal (p : α → Bool) (d : Dict κ α) : Dict κ α :=
  ⟨d.entries.filter fun e => p e.2, d.nodup.sublist (List.filter_sublist.map Prod.fst)⟩

/-- `for k in keys: d[k] = g(k, d.get(k))`, where `g` may leave an entry as it is. -/
def updateEach (d : Dict κ α) (keys : List κ) (g : κ → Option α → Option α) : Dict κ α :=
  keys.foldl (fun d k => (g k (d.get? k)).elim d (d.set k)) d

/-- `{**d, **d'}`. -/
def update (d d' : Dict κ α) : Dict κ α := d'.entries.foldl (fun d e => d.set e.1 e.2) d

def sortKeys (d : Dict κ α) (le : κ → κ → Prop) [DecidableRel le] : Dict κ α :=
  ⟨d.entries.insertionSort fun a b => le a.1 b.1,
    ((List.perm_insertionSort _ d.entries).map Prod.fst).nodup_iff.2 d.nodup⟩

/-- `d == d'`: the same keys with the same values. -/
def same [DecidableEq α] (d d' : Dict κ α) : Bool :=
  decide (d.entries.length = d'.entries.length) && d.entries.all fun e => d'.get? e.1 == some e.2

def values (d : Dict κ α) : List α := d.entries.map Prod.snd

/-! ## Lookups -/

@[simp] theorem get?_empty (k : κ) : (empty : Dict κ α).get? k = none := rfl

@[simp] theorem get?_set_self (d : Dict κ α) (k : κ) (v : α) : (d.set k v).get? k = some v := by
  obtain ⟨l, hl⟩ := d
  simp only [get?, set]
  induction l with
  | nil => simp [assign, lookup]
  | cons e l ih =>
    obtain ⟨k', v'⟩ := e
    by_cases hk : k' = k
    · simp [assign, lookup, hk]
    · simpa [assign, lookup, hk] using ih (List.nodup_cons.1 hl).2

theorem get?_set_of_ne (d : Dict κ α) {k k' : κ} (v : α) (h : k' ≠ k) :
    (d.set k v).get? k' = d.get? k' := by
  obtain ⟨l, hl⟩ := d
  simp only [get?, set]
  induction l with
  | nil => simp [assign, lookup, Ne.symm h]
  | cons e l ih =>
    obtain ⟨k₀, v₀⟩ := e
    by_cases hk : k₀ = k
    · subst hk
      simp [assign, lookup, Ne.symm h]
    · simp only [assign, if_neg hk, lookup]
      rw [ih (List.nodup_cons.1 hl).2]

theorem get?_set (d : Dict κ α) (k k' : κ) (v : α) :
    (d.set k v).get? k' = if k' = k then some v else d.get? k' := by
  by_cases h : k' = k
  · rw [if_pos h, h, get?_set_self]
  · rw [if_neg h, get?_set_of_ne d v h]

theorem get?_erase (d : Dict κ α) (k k' : κ) :
    (d.erase k).get? k' = if k' = k then none else d.get? k' := by
  obtain ⟨l, hl⟩ := d
  simp only [get?, erase]
  induction l with
  | nil => simp [lookup]
  | cons e l ih =>
    obtain ⟨k₀, v₀⟩ := e
    have ih := ih (List.nodup_cons.1 hl).2
    by_cases hk : k₀ = k
    · subst hk
      rw [List.filter_cons_of_neg (by simp), ih]
      by_cases h : k' = k₀
      · simp [h]
      · simp [lookup, h, Ne.symm h]
    · rw [List.filter_cons_of_pos (by simpa using hk)]
      by_cases h : k₀ = k'
      · subst h
        simp [lookup, hk]
      · simp only [lookup, if_neg h, ih]

@[simp] theorem get?_mapVal (f : α → β) (d : Dict κ α) (k : κ) :
    (d.mapVal f).get? k = (d.get? k).map f := by
  obtain ⟨l, hl⟩ := d
  simp only [get?, mapVal]
  induction l with
  | nil => rfl
  | cons e l ih =>
    obtain ⟨k', v'⟩ := e
    by_cases hk : k' = k
    · simp [lookup, hk]
    · simpa [lookup, hk] using ih (List.nodup_cons.1 hl).2

theorem get?_filterVal (p : α → Bool) (d : Dict κ α) (k : κ) :
    (d.filterVal p).get? k = (d.get? k).filter p := by
  obtain ⟨l, hl⟩ := d
  simp only [get?, filterVal]
  induction l with
  | nil => rfl
  | cons e l ih =>
    obtain ⟨k', v'⟩ := e
    have ih := ih (List.nodup_cons.1 hl).2
    have hout : k' = k → lookup k l = none := by
      rintro rfl
      rw [Option.eq_none_iff_forall_ne_some]
      intro v hv
      exact (List.nodup_cons.1 hl).1
        (List.mem_map.2 ⟨(k', v), (lookup_eq_some_iff (List.nodup_cons.1 hl).2).1 hv, rfl⟩)
    by_cases hp : p v'
    · rw [List.filter_cons_of_pos (by simpa using hp)]
      by_cases hk : k' = k
      · simp [lookup, hk, Option.filter, hp]
      · simpa [lookup, hk] using ih
    · rw [List.filter_cons_of_neg (by simpa using hp), ih]
      by_cases hk : k' = k
      · simp [lookup, hk, Option.filter, hp, hout hk]
      · simp [lookup, hk]

theorem getD_set (d : Dict κ α) (k k' : κ) (v w : α) :
    (d.set k v).getD k' w = if k' = k then v else d.getD k' w := by
  unfold getD
  rw [get?_set]
  split <;> rfl

theorem getD_erase (d : Dict κ α) (k k' : κ) (w : α) :
    (d.erase k).getD k' w = if k' = k then w else d.getD k' w := by
  unfold getD
  rw [get?_erase]
  split <;> rfl

theorem getD_mapVal (f : α → β) (d : Dict κ α) (k : κ) (v : α) :
    (d.mapVal f).getD k (f v) = f (d.getD k v) := by
  unfold getD
  rw [get?_mapVal]
  cases d.get? k <;> rfl

omit [DecidableEq κ] in
theorem ext_entries {d d' : Dict κ α} (h : d.entries = d'.entries) : d = d' := by
  cases d
  cases d'
  cases h
  rfl

/-- Assigning twice is assigning the second value. -/
theorem set_set (d : Dict κ α) (k : κ) (v w : α) : (d.set k v).set k w = d.set k w := by
  apply ext_entries
  obtain ⟨l, hl⟩ := d
  simp only [set]
  induction l with
  | nil => simp [assign]
  | cons e l ih =>
    obtain ⟨k', v'⟩ := e
    by_cases hk : k' = k
    · simp [assign, hk]
    · simpa [assign, hk] using ih (List.nodup_cons.1 hl).2

/-- Assigning the value that is there changes nothing. -/
theorem set_get? (d : Dict κ α) {k : κ} {v : α} (h : d.get? k = some v) : d.set k v = d := by
  apply ext_entries
  obtain ⟨l, hl⟩ := d
  simp only [set, get?] at h ⊢
  induction l with
  | nil => cases h
  | cons e l ih =>
    obtain ⟨k', v'⟩ := e
    by_cases hk : k' = k
    · simp only [lookup, if_pos hk, Option.some.injEq] at h
      simp [assign, hk, h]
    · rw [lookup, if_neg hk] at h
      rw [assign, if_neg hk, ih (List.nodup_cons.1 hl).2 h]

theorem mem_entries_iff (d : Dict κ α) {k : κ} {v : α} :
    (k, v) ∈ d.entries ↔ d.get? k = some v :=
  (lookup_eq_some_iff d.nodup).symm

/-- The order of the entries does not matter to a lookup. -/
@[simp] theorem get?_sortKeys (d : Dict κ α) (le : κ → κ → Prop) [DecidableRel le] (k : κ) :
    (d.sortKeys le).get? k = d.get? k := by
  apply Option.ext
  intro v
  rw [← mem_entries_iff, ← mem_entries_iff]
  exact (List.perm_insertionSort _ d.entries).mem_iff

/-- A loop over different keys sees every entry as it was before the loop. -/
theorem get?_updateEach (g : κ → Option α → Option α) {keys : List κ} (hkeys : keys.Nodup)
    (d : Dict κ α) (k : κ) :
    (d.updateEach keys g).get? k
      = if k ∈ keys then (g k (d.get? k)).or (d.get? k) else d.get? k := by
  induction keys generalizing d with
  | nil => rfl
  | cons k' keys ih =>
    obtain ⟨hnot, hrest⟩ := List.nodup_cons.1 hkeys
    have hstep : (d.updateEach (k' :: keys) g).get? k
        = (((g k' (d.get? k')).elim d (d.set k')).updateEach keys g).get? k := rfl
    have hfirst : ((g k' (d.get? k')).elim d (d.set k')).get? k
        = if k = k' then (g k (d.get? k)).or (d.get? k) else d.get? k := by
      cases hg : g k' (d.get? k') with
      | none =>
        by_cases hk : k = k'
        · subst hk
          simp [hg]
        · simp [hk]
      | some v =>
        by_cases hk : k = k'
        · subst hk
          simp [hg]
        · simp [hk, get?_set_of_ne]
    rw [hstep, ih hrest, hfirst]
    by_cases hk : k = k'
    · subst hk
      simp [hnot]
    · simp [hk]

/-- The second dictionary comes first. -/
theorem get?_update (d d' : Dict κ α) (k : κ) : (d.update d').get? k = (d'.get? k).or (d.get? k) := by
  obtain ⟨l, hl⟩ := d'
  simp only [update, get?]
  induction l generalizing d with
  | nil => rfl
  | cons e l ih =>
    obtain ⟨k', v⟩ := e
    obtain ⟨hnot, hrest⟩ := List.nodup_cons.1 hl
    rw [List.foldl_cons, ih (d.set k' v) hrest]
    by_cases hk : k' = k
    · subst hk
      have hnone : lookup k' l = none := by
        rw [Option.eq_none_iff_forall_ne_some]
        intro w hw
        exact hnot (List.mem_map.2 ⟨(k', w), (lookup_eq_some_iff hrest).1 hw, rfl⟩)
      have hself := get?_set_self d k' v
      rw [get?] at hself
      rw [hnone, hself, lookup, if_pos rfl]
      rfl
    · have hother := get?_set_of_ne d v (Ne.symm hk)
      rw [get?, get?] at hother
      rw [hother, lookup, if_neg hk]

theorem mem_values_iff (d : Dict κ α) {v : α} : v ∈ d.values ↔ ∃ k, d.get? k = some v := by
  unfold values
  constructor
  · intro h
    obtain ⟨⟨k, w⟩, hmem, rfl⟩ := List.mem_map.1 h
    exact ⟨k, (mem_entries_iff d).1 hmem⟩
  · rintro ⟨k, hk⟩
    exact List.mem_map.2 ⟨(k, v), (mem_entries_iff d).2 hk, rfl⟩

theorem contains_iff {d : Dict κ α} {k : κ} : d.contains k = true ↔ ∃ v, d.get? k = some v :=
  Option.isSome_iff_exists

theorem contains_set_self (d : Dict κ α) (k : κ) (v : α) : (d.set k v).contains k = true := by
  rw [contains, get?_set_self]
  rfl

theorem contains_set_of_contains {d : Dict κ α} {k' : κ} (h : d.contains k' = true) (k : κ)
    (v : α) : (d.set k v).contains k' = true := by
  by_cases hk : k' = k
  · rw [hk]
    exact d.contains_set_self k v
  · rwa [contains, get?_set_of_ne d v hk]

/-- The key of an entry is there. -/
theorem contains_of_mem {d : Dict κ α} {e : κ × α} (h : e ∈ d.entries) :
    d.contains e.1 = true :=
  contains_iff.2 ⟨e.2, (mem_entries_iff d).1 h⟩

theorem mem_keys_iff (d : Dict κ α) {k : κ} :
    k ∈ d.entries.map Prod.fst ↔ d.contains k = true := by
  constructor
  · intro hmem
    obtain ⟨e, he, rfl⟩ := List.mem_map.1 hmem
    exact contains_of_mem he
  · intro hk
    obtain ⟨v, hv⟩ := contains_iff.1 hk
    exact List.mem_map.2 ⟨(k, v), (mem_entries_iff d).2 hv, rfl⟩

/-- An assignment to a key that is there keeps the number of entries, one to a new key adds
one. -/
theorem length_set (d : Dict κ α) (k : κ) (v : α) :
    (d.set k v).entries.length
      = if d.contains k then d.entries.length else d.entries.length + 1 := by
  have hkeys : (d.set k v).entries.length = ((assign k v d.entries).map Prod.fst).length := by
    rw [List.length_map]
    rfl
  rw [hkeys, keys_assign]
  by_cases hk : d.contains k = true
  · rw [if_pos ((d.mem_keys_iff).2 hk), if_pos hk, List.length_map]
  · rw [if_neg fun hmem => hk ((d.mem_keys_iff).1 hmem), if_neg hk, List.length_append,
      List.length_map, List.length_singleton]

theorem assign_of_notMem {k : κ} {l : List (κ × α)} (h : k ∉ l.map Prod.fst)
    (v : α) : assign k v l = l ++ [(k, v)] := by
  induction l with
  | nil => rfl
  | cons e l ih =>
    obtain ⟨k', v'⟩ := e
    simp only [List.map_cons, List.mem_cons, not_or] at h
    rw [assign, if_neg (Ne.symm h.1), ih h.2]
    rfl

/-- Assigning the values of a dictionary one by one, each under its key, builds the
dictionary. -/
theorem foldl_set_values {d : Dict κ α} {key : α → κ}
    (hkey : ∀ k v, d.get? k = some v → key v = k) :
    d.values.foldl (fun d' v => d'.set (key v) v) empty = d := by
  -- over any list of entries, from a dictionary that has none of their keys
  have hfold : ∀ (l : List (κ × α)) (d' : Dict κ α), (∀ e ∈ l, key e.2 = e.1) →
      (d'.entries.map Prod.fst ++ l.map Prod.fst).Nodup →
      ((l.map Prod.snd).foldl (fun d' v => d'.set (key v) v) d').entries = d'.entries ++ l := by
    intro l
    induction l with
    | nil => exact fun d' _ _ => (List.append_nil _).symm
    | cons e l ih =>
      intro d' hentries hnodup
      obtain ⟨k, v⟩ := e
      have hk : key v = k := hentries (k, v) List.mem_cons_self
      have hnew : k ∉ d'.entries.map Prod.fst := by
        intro hmem
        exact List.disjoint_of_nodup_append hnodup hmem List.mem_cons_self
      have hset : (d'.set k v).entries = d'.entries ++ [(k, v)] := assign_of_notMem hnew v
      rw [List.map_cons, List.foldl_cons, hk, ih (d'.set k v)
        (fun e he => hentries e (List.mem_cons_of_mem _ he)), hset, List.append_assoc]
      · rfl
      · rw [hset, List.map_append, List.append_assoc]
        exact hnodup
  apply ext_entries
  have hentries : ∀ e ∈ d.entries, key e.2 = e.1 := fun e he =>
    hkey e.1 e.2 ((mem_entries_iff d).1 he)
  have hnodup : ((empty : Dict κ α).entries.map Prod.fst ++ d.entries.map Prod.fst).Nodup :=
    d.nodup
  exact hfold d.entries empty hentries hnodup

/-- Dictionaries with the same lookups have the same entries, up to order. -/
theorem perm_of_get? {d d' : Dict κ α} (h : ∀ k, d.get? k = d'.get? k) :
    d.entries.Perm d'.entries := by
  have hnodup : d.entries.Nodup := List.Nodup.of_map _ d.nodup
  have hnodup' : d'.entries.Nodup := List.Nodup.of_map _ d'.nodup
  rw [List.perm_ext_iff_of_nodup hnodup hnodup']
  rintro ⟨k, v⟩
  rw [mem_entries_iff, mem_entries_iff, h]

theorem same_of_get? [DecidableEq α] {d d' : Dict κ α} (h : ∀ k, d.get? k = d'.get? k) :
    d.same d' = true := by
  unfold same
  rw [Bool.and_eq_true, decide_eq_true_eq, List.all_eq_true]
  refine ⟨(perm_of_get? h).length_eq, ?_⟩
  rintro ⟨k, v⟩ hmem
  have hget : d'.get? k = some v := by
    rw [← h]
    exact (mem_entries_iff d).1 hmem
  simp [hget]

/-! ## Sums over the entries -/

section Sums

variable {M : Type} [AddCommMonoid M]

def sumBy (w : κ → α → M) (d : Dict κ α) : M := (d.entries.map fun e => w e.1 e.2).sum

/-- The weight of the entry at a key, zero when there is none. -/
def weightAt (w : κ → α → M) (d : Dict κ α) (k : κ) : M := (d.get? k).elim 0 (w k)

omit [DecidableEq κ] in
@[simp] theorem sumBy_empty (w : κ → α → M) : sumBy w (empty : Dict κ α) = 0 := rfl

theorem weightAt_of_get? {w : κ → α → M} {d : Dict κ α} {k : κ} {v : α} (h : d.get? k = some v) :
    weightAt w d k = w k v := by
  rw [weightAt, h]
  rfl

/-- A sum over the entries is a sum over any finite set that holds the keys. -/
theorem sumBy_eq_sum (w : κ → α → M) (d : Dict κ α) {s : Finset κ}
    (hs : ∀ k v, d.get? k = some v → k ∈ s) : sumBy w d = ∑ k ∈ s, weightAt w d k := by
  obtain ⟨l, hl⟩ := d
  simp only [sumBy, weightAt, get?] at hs ⊢
  induction l generalizing s with
  | nil => simp [lookup]
  | cons e l ih =>
    obtain ⟨k, v⟩ := e
    obtain ⟨hnot, hrest⟩ := List.nodup_cons.1 hl
    have hks : k ∈ s := hs k v (by simp [lookup])
    have hne : ∀ k' ∈ s.erase k, lookup k' ((k, v) :: l) = lookup k' l := by
      intro k' hk'
      rw [lookup, if_neg (Finset.ne_of_mem_erase hk').symm]
    have hout : lookup k l = none := by
      rw [Option.eq_none_iff_forall_ne_some]
      intro v' hv'
      exact hnot (List.mem_map.2 ⟨(k, v'), (lookup_eq_some_iff hrest).1 hv', rfl⟩)
    have ih := @ih (s.erase k) hrest (by
      intro k' v' hk'
      have hkk : k' ≠ k := by
        rintro rfl
        rw [hout] at hk'
        cases hk'
      refine Finset.mem_erase.2 ⟨hkk, hs k' v' ?_⟩
      rw [lookup, if_neg hkk.symm, hk'])
    rw [List.map_cons, List.sum_cons, ih, ← Finset.add_sum_erase s _ hks]
    congr 1
    · simp [lookup]
    · exact Finset.sum_congr rfl fun k' hk' => by rw [hne k' hk']

theorem sumBy_eq_of_weightAt {w : κ → α → M} {w' : κ → β → M} {d : Dict κ α} {d' : Dict κ β}
    (h : ∀ k, weightAt w d k = weightAt w' d' k) : sumBy w d = sumBy w' d' := by
  let s : Finset κ := (d.entries.map Prod.fst).toFinset ∪ (d'.entries.map Prod.fst).toFinset
  have hd : ∀ k v, d.get? k = some v → k ∈ s := by
    intro k v hk
    have hmem := List.mem_map_of_mem (f := Prod.fst) ((mem_entries_iff d).2 hk)
    exact Finset.mem_union_left _ (List.mem_toFinset.2 hmem)
  have hd' : ∀ k v, d'.get? k = some v → k ∈ s := by
    intro k v hk
    have hmem := List.mem_map_of_mem (f := Prod.fst) ((mem_entries_iff d').2 hk)
    exact Finset.mem_union_right _ (List.mem_toFinset.2 hmem)
  rw [sumBy_eq_sum w d hd, sumBy_eq_sum w' d' hd']
  exact Finset.sum_congr rfl fun k _ => h k

/-- An assignment trades the old weight at its key for the new one. -/
theorem sumBy_set (w : κ → α → M) (d : Dict κ α) (k : κ) (v : α) :
    sumBy w (d.set k v) + weightAt w d k = sumBy w d + w k v := by
  let s : Finset κ := insert k (d.entries.map Prod.fst).toFinset
  have hkeys : ∀ k' v', d.get? k' = some v' → k' ∈ s := by
    intro k' v' hk'
    have hmem := List.mem_map_of_mem (f := Prod.fst) ((mem_entries_iff d).2 hk')
    exact Finset.mem_insert_of_mem (List.mem_toFinset.2 hmem)
  have hkeys' : ∀ k' v', (d.set k v).get? k' = some v' → k' ∈ s := by
    intro k' v' hk'
    rw [get?_set] at hk'
    split at hk'
    · rename_i heq
      exact heq ▸ Finset.mem_insert_self _ _
    · exact hkeys k' v' hk'
  have hk : k ∈ s := Finset.mem_insert_self _ _
  have hrest : ∑ k' ∈ s.erase k, weightAt w (d.set k v) k' = ∑ k' ∈ s.erase k, weightAt w d k' := by
    refine Finset.sum_congr rfl fun k' hk' => ?_
    rw [weightAt, weightAt, get?_set_of_ne d v (Finset.ne_of_mem_erase hk')]
  rw [sumBy_eq_sum w d hkeys, sumBy_eq_sum w (d.set k v) hkeys', ← Finset.add_sum_erase s _ hk,
    ← Finset.add_sum_erase s (weightAt w d) hk, hrest, weightAt_of_get? (get?_set_self d k v)]
  rw [add_comm (w k v), add_assoc, add_comm (w k v), ← add_assoc,
    add_comm (∑ k' ∈ s.erase k, weightAt w d k')]

/-- Without the entry at a key a sum lacks its weight. -/
theorem sumBy_erase (w : κ → α → M) (d : Dict κ α) (k : κ) :
    sumBy w (d.erase k) + weightAt w d k = sumBy w d := by
  have hout : weightAt w (d.erase k) k = 0 := by
    rw [weightAt, get?_erase, if_pos rfl]
    rfl
  cases hk : d.get? k with
  | none =>
    have hzero : weightAt w d k = 0 := by
      rw [weightAt, hk]
      rfl
    rw [hzero, add_zero]
    apply sumBy_eq_of_weightAt
    intro k'
    rw [weightAt, weightAt, get?_erase]
    split
    · rename_i heq
      rw [heq, hk]
    · rfl
  | some v =>
    have hback : sumBy w ((d.erase k).set k v) = sumBy w d := by
      apply sumBy_eq_of_weightAt
      intro k'
      rw [weightAt, weightAt, get?_set, get?_erase]
      split
      · rename_i heq
        rw [heq, hk]
      · rfl
    rw [← hback, weightAt_of_get? hk, ← sumBy_set, hout, add_zero]

end Sums

end Dict
