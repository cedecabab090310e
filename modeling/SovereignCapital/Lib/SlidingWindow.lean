import Mathlib.Data.List.Sort

/-! # Sliding windows

A limiter keeps the stamps it admitted in a queue, drops those below a cutoff from its front, and
admits a stamp while fewer than its limit are left. Cutoffs only rise, so what was dropped never
counts again: the queue holds as many stamps above a cutoff as were ever admitted above it. A set
of stamps none of which lies below the cutoff of another never holds more than the limit.
-/

namespace SlidingWindow

variable {T : Type} [LinearOrder T]

/-- The queue without the stamps below the cutoff at its front. -/
def prune (cutoff : T) (queue : List T) : List T := queue.dropWhile fun t => decide (t < cutoff)

def since (cutoff : T) (stamps : List T) : List T := stamps.filter fun t => decide (cutoff ≤ t)

theorem since_since {c c' : T} (h : c ≤ c') (stamps : List T) :
    since c' (since c stamps) = since c' stamps := by
  rw [since, since, List.filter_filter]
  refine List.filter_congr fun t _ => ?_
  by_cases ht : c' ≤ t
  · simp [ht, h.trans ht]
  · simp [ht]

theorem prune_eq_since {cutoff : T} {queue : List T} (h : queue.Pairwise (· ≤ ·)) :
    prune cutoff queue = since cutoff queue := by
  induction queue with
  | nil => rfl
  | cons t rest ih =>
    obtain ⟨hle, hrest⟩ := List.pairwise_cons.1 h
    by_cases ht : t < cutoff
    · have hdrop : prune cutoff (t :: rest) = prune cutoff rest := by simp [prune, ht]
      have hsince : since cutoff (t :: rest) = since cutoff rest := by
        simp [since, not_le.2 ht]
      rw [hdrop, hsince, ih hrest]
    · have hall : ∀ x ∈ t :: rest, decide (cutoff ≤ x) = true := by
        intro x hx
        rcases List.mem_cons.1 hx with rfl | hx
        · exact decide_eq_true (not_lt.1 ht)
        · exact decide_eq_true ((not_lt.1 ht).trans (hle x hx))
      have hkeep : prune cutoff (t :: rest) = t :: rest := by simp [prune, ht]
      rw [hkeep, since, List.filter_eq_self.2 hall]

/-! ## The queue and the stamps that were admitted -/

/-- The queue is sorted and agrees with the admitted stamps from every cutoff from `c` on. -/
structure Keeps (c : T) (queue admitted : List T) : Prop where
  sorted : queue.Pairwise (· ≤ ·)
  since_eq : ∀ c', c ≤ c' → since c' queue = since c' admitted

theorem keeps_nil (c : T) : Keeps c [] [] := ⟨List.Pairwise.nil, fun _ _ => rfl⟩

theorem Keeps.mono {c c' : T} {queue admitted : List T} (h : Keeps c queue admitted)
    (hle : c ≤ c') : Keeps c' queue admitted :=
  ⟨h.sorted, fun d hd => h.since_eq d (hle.trans hd)⟩

/-- **After its pruning the queue is what was admitted from the cutoff on.** -/
theorem Keeps.prune_eq {c : T} {queue admitted : List T} (h : Keeps c queue admitted) :
    prune c queue = since c admitted := by
  rw [prune_eq_since h.sorted, h.since_eq c le_rfl]

theorem Keeps.prune {c : T} {queue admitted : List T} (h : Keeps c queue admitted) :
    Keeps c (SlidingWindow.prune c queue) admitted := by
  refine ⟨h.sorted.sublist (List.dropWhile_sublist _), fun c' hc' => ?_⟩
  rw [prune_eq_since h.sorted, since_since hc', h.since_eq c' hc']

theorem Keeps.append {c : T} {queue admitted : List T} (h : Keeps c queue admitted) {t : T}
    (ht : ∀ x ∈ queue, x ≤ t) : Keeps c (queue ++ [t]) (admitted ++ [t]) := by
  refine ⟨?_, fun c' hc' => ?_⟩
  · rw [List.pairwise_append]
    exact ⟨h.sorted, List.pairwise_singleton _ _,
      fun x hx y hy => (List.mem_singleton.1 hy) ▸ ht x hx⟩
  · have hsplit : ∀ stamps : List T, since c' (stamps ++ [t]) = since c' stamps ++ since c' [t] :=
      fun stamps => List.filter_append stamps [t]
    rw [hsplit, hsplit, h.since_eq c' hc']

/-! ## The limit -/

/-- Every stamp was admitted while fewer than `limit` were at its cutoff or after. -/
inductive Admitted (cutoff : T → T) (limit : ℕ) : List T → Prop where
  | nil : Admitted cutoff limit []
  | snoc {stamps : List T} {t : T} (h : Admitted cutoff limit stamps)
      (ht : (since (cutoff t) stamps).length < limit) : Admitted cutoff limit (stamps ++ [t])

/-- **No window holds more stamps than the limit.** A window holds no stamp that is below the
cutoff of another one in it. -/
theorem Admitted.countP_le {cutoff : T → T} {limit : ℕ} {stamps : List T}
    (h : Admitted cutoff limit stamps) {window : T → Bool}
    (hwindow : ∀ x t, window x = true → window t = true → cutoff t ≤ x) :
    stamps.countP window ≤ limit := by
  induction h with
  | nil => exact Nat.zero_le _
  | snoc h ht ih =>
    rename_i stamps t
    rw [List.countP_append]
    cases hin : window t with
    | false =>
      have hlast : [t].countP window = 0 := by simp [hin]
      omega
    | true =>
      -- the stamps of the window before this one are all from its cutoff on
      have hbefore : stamps.countP window ≤ (since (cutoff t) stamps).length := by
        rw [since, ← List.countP_eq_length_filter]
        exact List.countP_mono_left fun x _ hx => decide_eq_true (hwindow x t hx hin)
      have hlast : [t].countP window = 1 := by simp [hin]
      omega

end SlidingWindow
