import SovereignCapital.Discovery.Manager

/-! # The books

What an observation and a filing change, which records of a list are new, and that what `_save`
writes is what `_load` reads.
-/

namespace SovereignCapital.Discovery

open Bytes

variable {m : Manager} {p : Pool}

namespace Manager

/-! ## Observations -/

@[simp] theorem books_observe (source : Text) (ts : List Text) (m : Manager) :
    (observe source ts m).books = m.books := by
  induction ts generalizing m with
  | nil => rfl
  | cons t ts ih =>
    unfold observe
    split
    · exact ih m
    · split
      · exact ih _
      · split
        · rfl
        · exact ih _

@[simp] theorem cap_observe (source : Text) (ts : List Text) (m : Manager) :
    (observe source ts m).cap = m.cap := by
  induction ts generalizing m with
  | nil => rfl
  | cons t ts ih =>
    unfold observe
    split
    · exact ih m
    · split
      · exact ih _
      · split
        · rfl
        · exact ih _

theorem contains_observe {t : Token} (h : m.observed.contains t = true) (source : Text)
    (ts : List Text) : (observe source ts m).observed.contains t = true := by
  induction ts generalizing m with
  | nil => exact h
  | cons t' ts ih =>
    unfold observe
    split
    · exact ih h
    · split
      · exact ih (Dict.contains_set_of_contains h _ _)
      · split
        · exact h
        · exact ih (Dict.contains_set_of_contains h _ _)

/-- There are at most so many observed tokens as the cap allows. -/
def Bounded (m : Manager) : Prop := m.observed.entries.length ≤ m.cap

theorem Bounded.observe (h : m.Bounded) (source : Text) (ts : List Text) :
    (Manager.observe source ts m).Bounded := by
  induction ts generalizing m with
  | nil => exact h
  | cons t ts ih =>
    unfold Manager.observe
    split
    · exact ih h
    · split
      · rename_i sources hsources
        have hthere : m.observed.contains (normalized t) = true :=
          Dict.contains_iff.2 ⟨sources, hsources⟩
        apply ih
        unfold Bounded
        rw [Dict.length_set, if_pos hthere]
        exact h
      · rename_i hnone
        split
        · exact h
        · rename_i hroom
          have hnew : m.observed.contains (normalized t) = false := by
            rw [Dict.contains, hnone]
            rfl
          apply ih
          unfold Bounded
          rw [Dict.length_set, hnew]
          simp only [Bool.false_eq_true, if_false]
          omega

/-! ## Filing -/

theorem get?_file (m : Manager) (table table' : Table) (key key' : Text) (p : Pool) :
    ((m.file table key p).books table').get? key'
      = if table' = table ∧ key' = key then some p else (m.books table').get? key' := by
  unfold file
  by_cases htable : table' = table
  · subst htable
    simp only [if_true, true_and]
    exact Dict.get?_set _ key key' p
  · simp only [htable, false_and, if_false]

@[simp] theorem cap_add (m : Manager) (p : Pool) : (m.add p).cap = m.cap := by
  unfold add
  split <;> rfl

@[simp] theorem observed_add (m : Manager) (p : Pool) : (m.add p).observed = m.observed := by
  unfold add
  split <;> rfl

@[simp] theorem cap_addAll (m : Manager) (ps : List Pool) : (m.addAll ps).cap = m.cap := by
  unfold addAll
  induction ps generalizing m with
  | nil => rfl
  | cons p ps ih => rw [List.foldl_cons, ih, cap_add]

@[simp] theorem observed_addAll (m : Manager) (ps : List Pool) :
    (m.addAll ps).observed = m.observed := by
  unfold addAll
  induction ps generalizing m with
  | nil => rfl
  | cons p ps ih => rw [List.foldl_cons, ih, observed_add]

/-- The records of a list that are filed: their keys are free when their turn comes. -/
def fresh (m : Manager) : List Pool → List Pool
  | [] => []
  | p :: ps => if m.has p then fresh m ps else p :: fresh (m.add p) ps

theorem not_has_iff : m.has p = false ↔ (m.books p.table).get? p.key = none := by
  unfold has Dict.contains
  exact Option.isSome_eq_false_iff.trans Option.isNone_iff_eq_none

/-- The lookups of the books after a list of records was filed. -/
theorem get?_addAll (m : Manager) (ps : List Pool) (table : Table) (key : Text) (p : Pool) :
    ((m.addAll ps).books table).get? key = some p
      ↔ (m.books table).get? key = some p
        ∨ p ∈ m.fresh ps ∧ p.table = table ∧ p.key = key := by
  induction ps generalizing m with
  | nil => simp [addAll, fresh]
  | cons q ps ih =>
    have hcons : m.addAll (q :: ps) = (m.add q).addAll ps := rfl
    rw [hcons, ih (m.add q)]
    cases hhas : m.has q with
    | true => simp [add, fresh, hhas]
    | false =>
      have hfree : (m.books q.table).get? q.key = none := not_has_iff.1 hhas
      have hadd : m.add q = m.file q.table q.key q := by simp [add, hhas]
      rw [fresh, hhas, hadd, get?_file]
      simp only [Bool.false_eq_true, if_false, List.mem_cons]
      by_cases hplace : table = q.table ∧ key = q.key
      · obtain ⟨rfl, rfl⟩ := hplace
        rw [hfree]
        simp only [and_self, if_true, Option.some.injEq, reduceCtorEq, false_or]
        constructor
        · rintro (rfl | ⟨hmem, hp⟩)
          · exact ⟨Or.inl rfl, rfl, rfl⟩
          · exact ⟨Or.inr hmem, hp⟩
        · rintro ⟨rfl | hmem, hp⟩
          · exact Or.inl rfl
          · exact Or.inr ⟨hmem, hp⟩
      · rw [if_neg hplace]
        constructor
        · rintro (hold | ⟨hmem, hp⟩)
          · exact Or.inl hold
          · exact Or.inr ⟨Or.inr hmem, hp⟩
        · rintro (hold | ⟨rfl | hmem, hp⟩)
          · exact Or.inl hold
          · exact (hplace ⟨hp.1.symm, hp.2.symm⟩).elim
          · exact Or.inr ⟨hmem, hp⟩

theorem fresh_congr {m' : Manager} (h : m.books = m'.books) (ps : List Pool) :
    m.fresh ps = m'.fresh ps := by
  induction ps generalizing m m' with
  | nil => rfl
  | cons p ps ih =>
    have hhas : m.has p = m'.has p := by
      unfold has
      rw [h]
    have hadd : (m.add p).books = (m'.add p).books := by
      unfold add file
      rw [hhas]
      split
      · exact h
      · simp only [h]
    rw [fresh, fresh, hhas, ih h, ih hadd]

/-- A record that is filed has a free key before. -/
theorem get?_of_mem_fresh {ps : List Pool} (h : p ∈ m.fresh ps) :
    p ∈ ps ∧ (m.books p.table).get? p.key = none := by
  induction ps generalizing m with
  | nil => cases h
  | cons q ps ih =>
    rw [fresh] at h
    cases hhas : m.has q with
    | true =>
      rw [hhas, if_pos rfl] at h
      exact ⟨List.mem_cons_of_mem _ (ih h).1, (ih h).2⟩
    | false =>
      rw [hhas] at h
      rcases List.mem_cons.1 h with rfl | hrest
      · exact ⟨List.mem_cons_self, not_has_iff.1 hhas⟩
      · obtain ⟨hmem, hfree⟩ := ih hrest
        have hadd : m.add q = m.file q.table q.key q := by simp [add, hhas]
        rw [hadd, get?_file] at hfree
        by_cases hplace : p.table = q.table ∧ p.key = q.key
        · rw [if_pos hplace] at hfree
          cases hfree
        · rw [if_neg hplace] at hfree
          exact ⟨List.mem_cons_of_mem _ hmem, hfree⟩

/-! ## Reading what was written -/

theorem get_vars {k : String} {v : PyValue}
    (h : (k, v) ∈ [("pool", textValue p.pool), (p.table.tokenNames.1, textValue p.tokenIn),
      (p.table.tokenNames.2, textValue p.tokenOut), ("first_seen_block", .int p.firstSeenBlock),
      ("last_seen_block", .int p.lastSeenBlock)] ++ p.detail.vars) :
    p.vars.get k = v := by
  refine PyDict.get_literal ?_ h
  obtain ⟨pool, tokenIn, tokenOut, firstSeenBlock, lastSeenBlock, detail⟩ := p
  cases detail <;> simp [Pool.table, Detail.table, Table.tokenNames, Detail.vars]

/-- The venue's own items are read back as they were written. -/
theorem readDetail_vars (p : Pool) : readDetail p.vars p.table = some p.detail := by
  have hget : ∀ item ∈ p.detail.vars, p.vars.get item.1 = item.2 := fun item hitem =>
    get_vars (List.mem_append_right _ hitem)
  unfold Pool.table
  cases hdetail : p.detail <;>
    simp only [hdetail, Detail.vars, List.forall_mem_cons] at hget
  case v3 fee => simp [Detail.table, readDetail, intAt_int hget.1]
  case curve i j => simp [Detail.table, readDetail, intAt_int hget.1, intAt_int hget.2.1]
  case aerodrome stable factory =>
      have hstable : p.vars.getD "stable" (.bool false) = .bool stable := by
        have hnone : p.vars.getD "stable" .none = .bool stable := hget.1
        unfold Dict.getD at hnone ⊢
        cases hv : p.vars.get? "stable" with
        | none =>
          rw [hv] at hnone
          cases hnone
        | some v =>
          rw [hv] at hnone
          exact hnone
      simp [Detail.table, readDetail, hstable, textAt_textValue hget.2.1, PyValue.truthy]
  case slipstream tickSpacing factory =>
      simp [Detail.table, readDetail, intAt_int hget.1, textAt_textValue hget.2.1]
  case camelotAlgebra tickSpacing factory =>
      simp [Detail.table, readDetail, intAt_int hget.1, textAt_textValue hget.2.1]
  case camelotV2 factory => simp [Detail.table, readDetail, textAt_textValue hget.1]
  case constantProduct factory router venueName =>
      simp [Detail.table, readDetail, textAt_textValue hget.1, textAt_textValue hget.2.1,
        textAt_textValue hget.2.2.1]
  case balancer poolId => simp [Detail.table, readDetail, textAt_textValue hget.1]

/-- A record that may be kept is read back as it was written. -/
theorem readPool_vars (h : p.Loadable) : readPool p.table p.vars = some p := by
  have hpool : textAt p.vars "pool" = p.pool := textAt_textValue (get_vars (by simp))
  have hin : textAt p.vars p.table.tokenNames.1 = p.tokenIn :=
    textAt_textValue (get_vars (by simp))
  have hout : textAt p.vars p.table.tokenNames.2 = p.tokenOut :=
    textAt_textValue (get_vars (by simp))
  have hfirst : intAt p.vars "first_seen_block" = some p.firstSeenBlock :=
    intAt_int (get_vars (by simp))
  have hlast : intAt p.vars "last_seen_block" = some p.lastSeenBlock :=
    intAt_int (get_vars (by simp))
  simp only [readPool, readDetail_vars, hfirst, hlast, hpool, hin, hout, Option.bind_eq_bind,
    Option.bind_some]
  exact if_pos h

/-- Every record is under its key in its table, and may be kept. -/
def Filed (books : Table → Dict Text Pool) : Prop :=
  ∀ table key p, (books table).get? key = some p → p.table = table ∧ p.key = key ∧ p.Loadable

/-- The entries of one table are taken up: what they say is filed there, and nowhere else. -/
theorem books_foldl_loadEntry {table : Table} {ps : List Pool}
    (hps : ∀ p ∈ ps, p.table = table ∧ p.Loadable) (m : Manager) (table' : Table) :
    ((ps.map Pool.vars).foldl (loadEntry table) m).books table'
      = if table' = table then ps.foldl (fun d p => d.set p.key p) (m.books table)
        else m.books table' := by
  induction ps generalizing m with
  | nil =>
    by_cases htable : table' = table
    · rw [if_pos htable, htable]
      rfl
    · rw [if_neg htable]
      rfl
  | cons p ps ih =>
    obtain ⟨hp, hrest⟩ := List.forall_mem_cons.1 hps
    have hread : readPool table p.vars = some p := hp.1 ▸ readPool_vars hp.2
    have hbooks : (loadEntry table m p.vars).books = (m.file table p.key p).books := by
      rw [loadEntry, hread]
      exact books_observe _ _ _
    rw [List.map_cons, List.foldl_cons, ih hrest, hbooks]
    by_cases htable : table' = table
    · rw [if_pos htable, if_pos htable]
      simp only [file, if_true, List.foldl_cons]
    · rw [if_neg htable, if_neg htable]
      simp only [file, if_neg htable]

theorem books_foldl_loadTable (hm : Filed m.books) {tables : List Table} (htables : tables.Nodup)
    {m' : Manager} (hempty : ∀ table ∈ tables, m'.books table = Dict.empty) (table : Table) :
    (tables.foldl (loadTable m.document) m').books table
      = if table ∈ tables then m.books table else m'.books table := by
  induction tables generalizing m' with
  | nil => rfl
  | cons table₀ tables ih =>
    obtain ⟨hnot, hrest⟩ := List.nodup_cons.1 htables
    have hvalues : ∀ p ∈ (m.books table₀).values, p.table = table₀ ∧ p.Loadable := by
      intro p hp
      obtain ⟨key, hkey⟩ := (Dict.mem_values_iff _).1 hp
      exact ⟨(hm table₀ key p hkey).1, (hm table₀ key p hkey).2.2⟩
    have hfirst : ∀ table', (loadTable m.document m' table₀).books table'
        = if table' = table₀ then m.books table₀ else m'.books table' := by
      intro table'
      have hfold := books_foldl_loadEntry hvalues m' table'
      rw [hempty table₀ List.mem_cons_self,
        Dict.foldl_set_values fun key p hkey => (hm table₀ key p hkey).2.1] at hfold
      exact hfold
    have hempty' : ∀ table ∈ tables,
        (loadTable m.document m' table₀).books table = Dict.empty := by
      intro table' hmem
      rw [hfirst, if_neg (ne_of_mem_of_not_mem hmem hnot)]
      exact hempty table' (List.mem_cons_of_mem _ hmem)
    rw [List.foldl_cons, ih hrest hempty', hfirst]
    by_cases htable : table = table₀
    · subst htable
      simp [hnot]
    · simp [htable]

/-- **Saving and reloading** gives back the same records under the same keys, in the same
order. -/
theorem books_load_document (hm : Filed m.books) (cap : Nat) :
    (load cap (some m.document)).books = m.books := by
  funext table
  have hnodup : loadOrder.Nodup := by decide
  have hall : table ∈ loadOrder := by cases table <;> decide
  have hempty : ∀ table ∈ loadOrder, (blank cap).books table = Dict.empty := fun _ _ => rfl
  have hload := books_foldl_loadTable hm hnodup hempty table
  rw [if_pos hall] at hload
  exact hload

theorem Bounded.loadEntry (h : m.Bounded) (table : Table) (it : PyDict) :
    (Manager.loadEntry table m it).Bounded := by
  unfold Manager.loadEntry
  split
  · exact h
  · have hfile : ∀ key p, (m.file table key p).Bounded := fun _ _ => h
    exact (hfile _ _).observe _ _

/-- What is read observes at most so many tokens as the cap allows. -/
theorem bounded_load (cap : Nat) (file : Option Document) : (load cap file).Bounded := by
  have hblank : (blank cap).Bounded := Nat.zero_le _
  cases file with
  | none => exact hblank
  | some doc =>
    have htable : ∀ (m : Manager) (table : Table), m.Bounded → (loadTable doc m table).Bounded := by
      intro m table hm
      exact List.foldlRecOn (doc table) (loadEntry table) hm fun m' hm' it _ =>
        hm'.loadEntry table it
    exact List.foldlRecOn loadOrder (loadTable doc) hblank fun m hm table _ =>
      htable m table hm

end Manager

end SovereignCapital.Discovery
