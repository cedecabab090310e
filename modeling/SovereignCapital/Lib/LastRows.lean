import Mathlib.Algebra.BigOperators.Group.List.Basic
import Mathlib.Data.List.Dedup

/-! # Lists that keep their last rows

`rows[-n:]`: a list that is cut to its last rows after every row it gets keeps the last rows of all
it ever got.
-/

namespace LastRows

variable {α : Type}

def lastRows (n : Nat) (rows : List α) : List α := rows.drop (rows.length - n)

theorem take_append_lastRows (n : Nat) (rows : List α) :
    rows.take (rows.length - n) ++ lastRows n rows = rows :=
  List.take_append_drop _ _

theorem lastRows_eq_self {n : Nat} {rows : List α} (h : rows.length ≤ n) :
    lastRows n rows = rows := by
  rw [lastRows, Nat.sub_eq_zero_of_le h, List.drop_zero]

theorem lastRows_append_of_length {n : Nat} (rows : List α) {rows' : List α}
    (h : rows'.length = n) : lastRows n (rows ++ rows') = rows' := by
  rw [lastRows, List.length_append, h, Nat.add_sub_cancel, List.drop_left]

/-- Rows that were cut off before do not come back. -/
theorem lastRows_append (n : Nat) (rows rows' : List α) :
    lastRows n (lastRows n rows ++ rows') = lastRows n (rows ++ rows') := by
  have hcut : lastRows n rows ++ rows' = (rows ++ rows').drop (rows.length - n) :=
    (List.drop_append_of_le_length (Nat.sub_le _ _)).symm
  rw [hcut, lastRows, lastRows, List.drop_drop, List.length_drop, List.length_append]
  congr 1
  omega

theorem map_lastRows {β : Type} (f : α → β) (n : Nat) (rows : List α) :
    (lastRows n rows).map f = lastRows n (rows.map f) := by
  rw [lastRows, lastRows, List.map_drop, List.length_map]

/-! ## Sums -/

variable {M : Type} [AddCommGroup M]

theorem sum_lastRows_iff (n : Nat) (rows : List M) :
    (lastRows n rows).sum = rows.sum ↔ (rows.take (rows.length - n)).sum = 0 := by
  conv_lhs => rhs; rw [← take_append_lastRows n rows, List.sum_append]
  rw [right_eq_add]

/-- **The last rows have the sum of all**, on every part of a run, exactly when every row that is
cut off is zero. -/
theorem sums_kept_iff (n : Nat) (rows : List M) :
    (∀ reached, reached <+: rows → (lastRows n reached).sum = reached.sum)
      ↔ ∀ row ∈ rows.take (rows.length - n), row = 0 := by
  simp only [sum_lastRows_iff]
  constructor
  · intro h
    have htake : ∀ k, k + n ≤ rows.length → (rows.take k).sum = 0 := by
      intro k hk
      have hsum := h (rows.take (k + n)) (List.take_prefix _ _)
      rwa [List.length_take_of_le hk, Nat.add_sub_cancel, List.take_take,
        Nat.min_eq_left (Nat.le_add_right k n)] at hsum
    intro row hrow
    obtain ⟨i, hi, rfl⟩ := List.mem_iff_getElem.1 hrow
    rw [List.length_take] at hi
    have hnext : (rows.take (i + 1)).sum = (rows.take i).sum + rows[i] :=
      List.sum_take_succ rows i (by omega)
    rw [htake (i + 1) (by omega), htake i (by omega), zero_add] at hnext
    rw [List.getElem_take, ← hnext]
  · rintro h reached ⟨rest, rfl⟩
    refine List.sum_eq_zero fun row hrow => h row ?_
    have hinit : reached.take (reached.length - n)
        <+: (reached ++ rest).take ((reached ++ rest).length - n) := by
      have htake : (reached ++ rest).take (reached.length - n)
          = reached.take (reached.length - n) :=
        List.take_append_of_le_length (Nat.sub_le reached.length n)
      rw [← htake]
      refine List.take_prefix_take_left ?_
      rw [List.length_append]
      omega
    exact hinit.subset hrow

/-- Two amounts have the same sum over every number of first rows exactly when they agree on every
row. -/
theorem sums_take_iff (f g : α → M) (rows : List α) :
    (∀ k, ((rows.take k).map f).sum = ((rows.take k).map g).sum) ↔ ∀ row ∈ rows, f row = g row := by
  constructor
  · intro h row hrow
    obtain ⟨i, hi, rfl⟩ := List.mem_iff_getElem.1 hrow
    have hnext : ∀ f : α → M,
        ((rows.take (i + 1)).map f).sum = ((rows.take i).map f).sum + f rows[i] := by
      intro f
      rw [List.take_succ_eq_append_getElem hi, List.map_append, List.sum_append, List.map_singleton,
        List.sum_singleton]
    have hsum := h (i + 1)
    rw [hnext f, hnext g, h i] at hsum
    exact add_left_cancel hsum
  · intro h k
    rw [List.map_congr_left fun row hrow => h row (List.mem_of_mem_take hrow)]

/-! ## The values used last -/

section Uses

variable [DecidableEq α]

/-- The values in the order of their last use: a use moves its value to the end. -/
theorem dedup_concat (uses : List α) (a : α) :
    (uses ++ [a]).dedup = uses.dedup.erase a ++ [a] := by
  induction uses with
  | nil => rfl
  | cons b uses ih =>
    by_cases hmem : b ∈ uses
    · rw [List.cons_append, List.dedup_cons_of_mem (List.mem_append_left _ hmem), ih,
        List.dedup_cons_of_mem hmem]
    · rw [List.cons_append, List.dedup_cons_of_notMem hmem]
      by_cases hb : b = a
      · rw [List.dedup_cons_of_mem (by simp [hb]), ih, hb, List.erase_cons_head,
          List.erase_of_not_mem (by simpa [hb] using hmem)]
      · rw [List.dedup_cons_of_notMem (by simp [hmem, hb]), ih,
          List.erase_cons_tail (by simpa using hb), List.cons_append]

/-- **A least recently used cache.** Of the values in the order of their last use the cache has
the last `n`. One that it has is moved to the end; for one that it has not the first may go. -/
theorem lastRows_use {n : Nat} (hn : 1 ≤ n) {uses : List α} (hnodup : uses.Nodup) (a : α) :
    lastRows n (uses.erase a ++ [a])
      = (if a ∈ lastRows n uses then (lastRows n uses).erase a
          else if n ≤ (lastRows n uses).length then (lastRows n uses).tail
          else lastRows n uses) ++ [a] := by
  have hconcat : ∀ rows : List α, lastRows n (rows ++ [a]) = lastRows (n - 1) rows ++ [a] := by
    intro rows
    rw [lastRows, List.length_append, List.length_singleton, lastRows,
      show rows.length + 1 - n = rows.length - (n - 1) by omega,
      List.drop_append_of_le_length (Nat.sub_le _ _)]
  have hsplit := take_append_lastRows n uses
  have hlength : (lastRows n uses).length = min uses.length n := by
    rw [lastRows, List.length_drop]
    omega
  have hshort : (lastRows n uses).length < n → lastRows n uses = uses := fun hlt =>
    lastRows_eq_self (by omega)
  rw [hconcat]
  congr 1
  by_cases hmem : a ∈ lastRows n uses
  · rw [if_pos hmem]
    have hless := List.length_erase_of_mem hmem
    by_cases hfull : (lastRows n uses).length < n
    · rw [hshort hfull] at hless ⊢
      exact lastRows_eq_self (by omega)
    · have hout : a ∉ uses.take (uses.length - n) := fun hin =>
        List.disjoint_of_nodup_append (hsplit.symm ▸ hnodup) hin hmem
      conv_lhs => rw [← hsplit, List.erase_append_right _ hout]
      exact lastRows_append_of_length _ (by omega)
  · rw [if_neg hmem]
    by_cases hfull : n ≤ (lastRows n uses).length
    · rw [if_pos hfull]
      obtain ⟨front, hfront⟩ : ∃ front, uses.erase a = front ++ lastRows n uses := by
        have herase : uses.erase a = _ := congrArg (List.erase · a) hsplit.symm
        rw [herase, List.erase_append, List.erase_of_not_mem hmem]
        split
        · exact ⟨_, rfl⟩
        · exact ⟨_, rfl⟩
      rw [hfront]
      cases hrows : lastRows n uses with
      | nil =>
        rw [hrows, List.length_nil] at hfull
        omega
      | cons b rest =>
        rw [hrows, List.length_cons] at hlength hfull
        rw [List.append_cons]
        exact lastRows_append_of_length _ (by omega)
    · rw [if_neg hfull, List.erase_of_not_mem (hshort (by omega) ▸ hmem), hshort (by omega)]
      exact lastRows_eq_self (by omega)

end Uses

end LastRows
