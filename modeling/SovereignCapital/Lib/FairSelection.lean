import Mathlib.Data.List.Dedup
import Mathlib.Data.List.Perm.Subperm

/-! # Fair selection from groups

A bounded selection takes the head of every group in turn until its budget is spent. It takes as
much as there is, nothing twice, and something of every group where there are not more groups than
the budget. The groups are the queues of a list that is split by a key, and of several elements
with one key the first is kept.
-/

namespace FairSelection

variable {α κ : Type}

/-! ## The first of every key -/

section First

variable [DecidableEq κ] (key : α → κ)

/-- The elements whose key was not seen before them. -/
def firsts : List κ → List α → List α
  | _, [] => []
  | seen, x :: xs => if key x ∈ seen then firsts seen xs else x :: firsts (key x :: seen) xs

theorem firsts_sublist (seen : List κ) (xs : List α) : (firsts key seen xs).Sublist xs := by
  induction xs generalizing seen with
  | nil => exact List.Sublist.slnil
  | cons x xs ih =>
    rw [firsts]
    split
    · exact (ih seen).cons x
    · exact (ih _).cons_cons x

example : firsts id [] [2, 1, 2] = [2, 1] := by decide +kernel

theorem key_notMem_of_mem_firsts {seen : List κ} {xs : List α} {x : α}
    (h : x ∈ firsts key seen xs) : key x ∉ seen := by
  induction xs generalizing seen with
  | nil => cases h
  | cons y ys ih =>
    rw [firsts] at h
    split at h
    · exact ih h
    · rename_i hy
      rcases List.mem_cons.1 h with rfl | h
      · exact hy
      · exact fun hseen => ih h (List.mem_cons_of_mem _ hseen)

theorem nodup_map_firsts (seen : List κ) (xs : List α) : ((firsts key seen xs).map key).Nodup := by
  induction xs generalizing seen with
  | nil => exact List.nodup_nil
  | cons x xs ih =>
    rw [firsts]
    split
    · exact ih seen
    · refine List.nodup_cons.2 ⟨fun h => ?_, ih _⟩
      obtain ⟨y, hy, hkey⟩ := List.mem_map.1 h
      exact key_notMem_of_mem_firsts key hy (hkey ▸ List.mem_cons_self)

theorem firsts_eq_self {seen : List κ} {xs : List α} (hnodup : (xs.map key).Nodup)
    (hseen : ∀ x ∈ xs, key x ∉ seen) : firsts key seen xs = xs := by
  induction xs generalizing seen with
  | nil => rfl
  | cons x xs ih =>
    rw [List.map_cons, List.nodup_cons] at hnodup
    rw [firsts, if_neg (hseen x List.mem_cons_self), ih hnodup.2]
    intro y hy hmem
    rcases List.mem_cons.1 hmem with heq | hmem
    · exact hnodup.1 (heq ▸ List.mem_map_of_mem hy)
    · exact hseen y (List.mem_cons_of_mem x hy) hmem

theorem exists_mem_firsts {seen : List κ} {xs : List α} {x : α} (hx : x ∈ xs)
    (hseen : key x ∉ seen) : ∃ y ∈ firsts key seen xs, key y = key x := by
  induction xs generalizing seen with
  | nil => cases hx
  | cons y ys ih =>
    rw [firsts]
    split
    · rename_i hy
      rcases List.mem_cons.1 hx with rfl | hx
      · exact absurd hy hseen
      · exact ih hx hseen
    · by_cases heq : key y = key x
      · exact ⟨y, List.mem_cons_self, heq⟩
      · have hne : x ≠ y := fun h => heq (h ▸ rfl)
        obtain ⟨z, hz, hkey⟩ := @ih (key y :: seen) (List.mem_of_ne_of_mem hne hx)
          fun h => (List.mem_cons.1 h).elim (fun h => heq h.symm) hseen
        exact ⟨z, List.mem_cons_of_mem _ hz, hkey⟩

end First

/-! ## The groups of a list -/

section Groups

variable [DecidableEq κ] (key : α → κ)

def groups (keys : List κ) (xs : List α) : List (List α) :=
  keys.map fun k => xs.filter fun x => decide (key x = k)

@[simp] theorem length_groups (keys : List κ) (xs : List α) :
    (groups key keys xs).length = keys.length := List.length_map _

theorem perm_flatten_groups {keys : List κ} (hkeys : keys.Nodup) {xs : List α}
    (hxs : ∀ x ∈ xs, key x ∈ keys) : (groups key keys xs).flatten.Perm xs := by
  induction keys generalizing xs with
  | nil =>
    cases xs with
    | nil => exact List.Perm.refl _
    | cons x xs => cases hxs x List.mem_cons_self
  | cons k ks ih =>
    rw [List.nodup_cons] at hkeys
    let rest := xs.filter fun x => !decide (key x = k)
    have hrest : groups key ks xs = groups key ks rest := by
      refine List.map_congr_left fun k' hk' => ?_
      rw [List.filter_filter]
      refine List.filter_congr fun x _ => ?_
      by_cases heq : key x = k'
      · have hne : key x ≠ k := fun h => hkeys.1 ((h ▸ heq) ▸ hk')
        simp [heq, heq ▸ hne]
      · simp [heq]
    have hmem : ∀ x ∈ rest, key x ∈ ks := by
      intro x hx
      obtain ⟨hx, hne⟩ := List.mem_filter.1 hx
      exact List.mem_of_ne_of_mem (by simpa using hne) (hxs x hx)
    show (xs.filter (fun x => decide (key x = k)) ++ (groups key ks xs).flatten).Perm xs
    rw [hrest]
    exact ((ih hkeys.2 hmem).append_left _).trans (List.filter_append_perm _ xs)

end Groups

/-! ## Passes over the groups -/

/-- One pass: the head of every queue that has one, as far as the budget reaches, and the queues
that are left. -/
def pass : ℕ → List (List α) → List α × List (List α)
  | 0, queues => ([], queues)
  | _ + 1, [] => ([], [])
  | n + 1, [] :: rest => ((pass (n + 1) rest).1, [] :: (pass (n + 1) rest).2)
  | n + 1, (x :: queue) :: rest => (x :: (pass n rest).1, queue :: (pass n rest).2)

theorem length_pass_le (n : ℕ) (queues : List (List α)) : (pass n queues).1.length ≤ n := by
  fun_induction pass n queues with
  | case1 queues => exact Nat.le_refl 0
  | case2 n => exact Nat.zero_le _
  | case3 n rest ih => exact ih
  | case4 n x queue rest ih => exact Nat.succ_le_succ ih

theorem perm_pass (n : ℕ) (queues : List (List α)) :
    ((pass n queues).1 ++ (pass n queues).2.flatten).Perm queues.flatten := by
  fun_induction pass n queues with
  | case1 queues => exact List.Perm.refl _
  | case2 n => exact List.Perm.refl _
  | case3 n rest ih => exact ih
  | case4 n x queue rest ih =>
    have hswap : ((pass n rest).1 ++ (queue ++ (pass n rest).2.flatten)).Perm
        (queue ++ ((pass n rest).1 ++ (pass n rest).2.flatten)) := by
      rw [← List.append_assoc, ← List.append_assoc]
      exact List.perm_append_comm.append_right _
    exact (hswap.trans (ih.append_left queue)).cons x

theorem flatten_eq_nil_of_pass {n : ℕ} {queues : List (List α)} (h : (pass (n + 1) queues).1 = []) :
    queues.flatten = [] := by
  induction queues with
  | nil => rfl
  | cons queue rest ih =>
    cases queue with
    | nil => exact ih h
    | cons x queue => cases h

/-- A pass reaches every queue where the budget covers all of them. -/
theorem head_mem_pass {n : ℕ} {queues : List (List α)} (hn : queues.length ≤ n) {x : α}
    {queue : List α} (h : (x :: queue) ∈ queues) : x ∈ (pass n queues).1 := by
  fun_induction pass n queues with
  | case1 queues =>
    rw [List.length_eq_zero_iff.1 (Nat.le_zero.1 hn)] at h
    cases h
  | case2 n => cases h
  | case3 n rest ih =>
    refine ih (Nat.le_of_succ_le hn) ?_
    rcases List.mem_cons.1 h with h | h
    · cases h
    · exact h
  | case4 n y front rest ih =>
    rcases List.mem_cons.1 h with h | h
    · cases h
      exact List.mem_cons_self
    · exact List.mem_cons_of_mem _ (ih (Nat.succ_le_succ_iff.1 hn) h)

/-- Passes until the budget is spent or nothing is left. -/
def select (n : ℕ) (queues : List (List α)) : List α :=
  if n = 0 ∨ (pass n queues).1 = [] then []
  else (pass n queues).1 ++ select (n - (pass n queues).1.length) (pass n queues).2
termination_by n
decreasing_by
  have hpos := List.length_pos_of_ne_nil (by tauto : (pass n queues).1 ≠ [])
  omega

/-- **What is selected and what is left make up the queues.** -/
theorem exists_perm_select (n : ℕ) (queues : List (List α)) :
    ∃ rest, (select n queues ++ rest).Perm queues.flatten := by
  fun_induction select n queues with
  | case1 n queues h => exact ⟨queues.flatten, List.Perm.refl _⟩
  | case2 n queues h ih =>
    obtain ⟨rest, hrest⟩ := ih
    refine ⟨rest, ?_⟩
    rw [List.append_assoc]
    exact (hrest.append_left _).trans (perm_pass n queues)

theorem subperm_select (n : ℕ) (queues : List (List α)) :
    (select n queues).Subperm queues.flatten := by
  obtain ⟨rest, hrest⟩ := exists_perm_select n queues
  exact (List.sublist_append_left _ rest).subperm.trans hrest.subperm

/-- **A selection takes as much as the budget allows and the queues hold.** -/
theorem length_select (n : ℕ) (queues : List (List α)) :
    (select n queues).length = min n queues.flatten.length := by
  fun_induction select n queues with
  | case1 n queues h =>
    rcases h with rfl | h
    · simp
    · cases n with
      | zero => simp
      | succ n => simp [flatten_eq_nil_of_pass h]
  | case2 n queues h ih =>
    have htotal := (perm_pass n queues).length_eq
    have hle := length_pass_le n queues
    rw [List.length_append] at htotal ⊢
    rw [ih]
    omega

/-- **A selection takes something of every queue where the budget covers all of them.** -/
theorem head_mem_select {n : ℕ} {queues : List (List α)} (hn : queues.length ≤ n) {x : α}
    {queue : List α} (h : (x :: queue) ∈ queues) : x ∈ select n queues := by
  have hmem := head_mem_pass hn h
  have hn0 : n ≠ 0 := by
    have hpos := List.length_pos_of_mem h
    omega
  rw [select, if_neg (by rw [not_or]; exact ⟨hn0, List.ne_nil_of_mem hmem⟩)]
  exact List.mem_append_left _ hmem

end FairSelection
