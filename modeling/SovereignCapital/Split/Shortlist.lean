import SovereignCapital.Lib.OrderStatistics
import SovereignCapital.Split.Router

/-! # The order of a shortlist

`_shortlist_amount_bucket` takes the candidate that nets most, then one after the other among those
that net almost as much, and the others in the order of what they net only when none of those is
left.

* `shortlist_order` : the shortlist in its two parts.
-/

namespace SovereignCapital.Split

/-- The net value is within the tolerance of the best one. -/
def InTolerance (bestNet tolerance : ℤ) (row : Candidate) : Prop :=
  bestNet - row.singleRouteNetWei ≤ tolerance

instance (bestNet tolerance : ℤ) (row : Candidate) : Decidable (InTolerance bestNet tolerance row) :=
  inferInstanceAs (Decidable (_ ≤ _))

def NetsMore (a b : Candidate) : Prop := b.singleRouteNetWei ≤ a.singleRouteNetWei

/-! ## One choice -/

/-- A fold that keeps one of two entries ends with one of them. -/
theorem foldl_keep_mem {α : Type} {keep : Option α → α → Option α}
    (hsome : ∀ prior entry, keep (some prior) entry = some entry
      ∨ keep (some prior) entry = some prior) (entries : List α) :
    ∀ prior : α, ∃ entry, entries.foldl keep (some prior) = some entry
      ∧ entry ∈ prior :: entries := by
  induction entries with
  | nil => exact fun prior => ⟨prior, rfl, List.mem_singleton_self prior⟩
  | cons first rest ih =>
    intro prior
    rw [List.foldl_cons]
    rcases hsome prior first with hkeep | hkeep
    · rw [hkeep]
      obtain ⟨entry, hfold, hmem⟩ := ih first
      exact ⟨entry, hfold, List.mem_cons_of_mem _ hmem⟩
    · rw [hkeep]
      obtain ⟨entry, hfold, hmem⟩ := ih prior
      refine ⟨entry, hfold, ?_⟩
      rcases List.mem_cons.1 hmem with rfl | hmem
      · exact List.mem_cons_self
      · exact List.mem_cons_of_mem _ (List.mem_cons_of_mem _ hmem)

variable {pending : List Candidate} {bestNet tolerance : ℤ}

theorem bestDiverse_near (chosen : List Candidate)
    (h : ∃ row ∈ pending, InTolerance bestNet tolerance row) :
    ∃ row, pending[bestDiverseCandidateIndex pending chosen bestNet tolerance]? = some row
      ∧ InTolerance bestNet tolerance row := by
  obtain ⟨row, hrow, hnear⟩ := h
  obtain ⟨i, hi⟩ := List.mem_iff_getElem?.1 hrow
  have hmem : (row, i) ∈ pending.zipIdx.filter
      fun entry => decide (bestNet - entry.1.singleRouteNetWei ≤ tolerance) :=
    List.mem_filter.2 ⟨List.mem_zipIdx_iff_getElem?.2 hi, decide_eq_true hnear⟩
  have hentries : ∀ entry ∈ pending.zipIdx.filter
      (fun entry => decide (bestNet - entry.1.singleRouteNetWei ≤ tolerance)),
      pending[entry.2]? = some entry.1 ∧ InTolerance bestNet tolerance entry.1 := by
    intro entry hentry
    obtain ⟨hplace, hwithin⟩ := List.mem_filter.1 hentry
    exact ⟨List.mem_zipIdx_iff_getElem?.1 hplace, of_decide_eq_true hwithin⟩
  unfold bestDiverseCandidateIndex
  dsimp only
  cases hlist : pending.zipIdx.filter
      fun entry => decide (bestNet - entry.1.singleRouteNetWei ≤ tolerance) with
  | nil =>
    rw [hlist] at hmem
    cases hmem
  | cons first rest =>
    rw [List.foldl_cons]
    suffices hany : ∀ keep : Option (Candidate × ℕ) → Candidate × ℕ → Option (Candidate × ℕ),
        (∀ prior entry, keep (some prior) entry = some entry
          ∨ keep (some prior) entry = some prior) →
        ∃ row, pending[(Option.map Prod.snd (rest.foldl keep (some first))).getD 0]? = some row
          ∧ InTolerance bestNet tolerance row from
      hany _ fun prior entry => ite_eq_or_eq _ (some entry) (some prior)
    intro keep hkeep
    obtain ⟨entry, hfold, hentry⟩ := foldl_keep_mem hkeep rest first
    rw [← hlist] at hentry
    rw [hfold]
    exact ⟨entry.1, hentries entry hentry⟩

/-- When none is, it is the first one. -/
theorem bestDiverse_far (chosen : List Candidate)
    (h : ∀ row ∈ pending, ¬ InTolerance bestNet tolerance row) :
    bestDiverseCandidateIndex pending chosen bestNet tolerance = 0 := by
  have hnone : (pending.zipIdx.filter
      fun entry => decide (bestNet - entry.1.singleRouteNetWei ≤ tolerance)) = [] := by
    rw [List.filter_eq_nil_iff]
    intro entry hentry hwithin
    have hmem := List.mem_of_getElem? (List.mem_zipIdx_iff_getElem?.1 hentry)
    exact h entry.1 hmem (of_decide_eq_true hwithin)
  unfold bestDiverseCandidateIndex
  exact congrArg (fun entries : List (Candidate × ℕ) =>
    (Option.map Prod.snd (entries.foldl _ none)).getD 0) hnone

/-! ## The loop -/

/-- What is taken of some candidates: first some within the tolerance, then others, the ones that
net more first, and of the latter only when none within the tolerance is left. -/
structure Picks (bestNet tolerance : ℤ) (pending picked : List Candidate) : Prop where
  parts : ∃ near far left, picked = near ++ far ∧ (near ++ far ++ left).Perm pending
    ∧ (∀ row ∈ near, InTolerance bestNet tolerance row)
    ∧ (∀ row ∈ far, ¬ InTolerance bestNet tolerance row)
    ∧ far.Pairwise NetsMore
    ∧ (far ≠ [] → ∀ row ∈ left, ¬ InTolerance bestNet tolerance row)

theorem Picks.nil (bestNet tolerance : ℤ) (pending : List Candidate) :
    Picks bestNet tolerance pending [] :=
  ⟨[], [], pending, rfl, List.Perm.refl _, by simp, by simp, List.Pairwise.nil, by simp⟩

/-- A candidate within the tolerance comes before what is taken of the others. -/
theorem Picks.near {picked : List Candidate} {index : ℕ} {row : Candidate}
    (h : Picks bestNet tolerance (pending.eraseIdx index) picked)
    (hget : pending[index]? = some row) (hnear : InTolerance bestNet tolerance row) :
    Picks bestNet tolerance pending (row :: picked) := by
  obtain ⟨near, far, left, hpicked, hperm, hin, hout, horder, hleft⟩ := h.parts
  refine ⟨row :: near, far, left, by rw [hpicked, List.cons_append], ?_, ?_, hout, horder, hleft⟩
  · obtain ⟨hlt, hrow⟩ := List.getElem?_eq_some_iff.1 hget
    exact (hperm.cons row).trans (hrow ▸ List.getElem_cons_eraseIdx_perm hlt)
  · intro other hother
    rcases List.mem_cons.1 hother with rfl | hother
    · exact hnear
    · exact hin other hother

/-- Without one, the first of the others comes before the rest of them. -/
theorem Picks.far {row : Candidate} {picked : List Candidate}
    (h : Picks bestNet tolerance pending picked)
    (hfar : ∀ other ∈ row :: pending, ¬ InTolerance bestNet tolerance other)
    (hmore : ∀ other ∈ pending, NetsMore row other) :
    Picks bestNet tolerance (row :: pending) (row :: picked) := by
  obtain ⟨near, far, left, hpicked, hperm, hin, hout, horder, hleft⟩ := h.parts
  have hnil : near = [] := by
    rw [List.eq_nil_iff_forall_not_mem]
    intro other hother
    have hmem := hperm.subset (List.mem_append_left _ (List.mem_append_left _ hother))
    exact hfar other (List.mem_cons_of_mem _ hmem) (hin other hother)
  rw [hnil, List.nil_append] at hpicked hperm
  have hsub : ∀ other ∈ far ++ left, other ∈ pending := fun other hother => hperm.subset hother
  refine ⟨[], row :: far, left, by rw [hpicked, List.nil_append], hperm.cons row, by simp, ?_,
    List.pairwise_cons.2 ⟨?_, horder⟩, ?_⟩
  · intro other hother
    rcases List.mem_cons.1 hother with rfl | hother
    · exact hfar other List.mem_cons_self
    · exact hout other hother
  · exact fun other hother => hmore other (hsub other (List.mem_append_left _ hother))
  · intro _ other hother
    exact hfar other (List.mem_cons_of_mem _ (hsub other (List.mem_append_right _ hother)))

theorem diversify_picks (bestNet tolerance : ℤ) (room : ℕ) :
    ∀ pending chosen : List Candidate, pending.Pairwise NetsMore →
      ∃ picked, diversify bestNet tolerance room pending chosen = chosen ++ picked
        ∧ Picks bestNet tolerance pending picked ∧ picked.length ≤ room := by
  induction room with
  | zero =>
    intro pending chosen _
    exact ⟨[], (List.append_nil _).symm, Picks.nil _ _ _, le_rfl⟩
  | succ room ih =>
    intro pending chosen hsorted
    rw [diversify]
    by_cases hnear : ∃ row ∈ pending, InTolerance bestNet tolerance row
    · obtain ⟨row, hget, hwithin⟩ := bestDiverse_near chosen hnear
      generalize bestDiverseCandidateIndex pending chosen bestNet tolerance = index at hget
      rw [hget]
      dsimp only
      obtain ⟨picked, hrun, hpicks, hlen⟩ := ih (pending.eraseIdx index) (chosen ++ [row])
        (hsorted.sublist (List.eraseIdx_sublist _ _))
      refine ⟨row :: picked, ?_, hpicks.near hget hwithin, Nat.succ_le_succ hlen⟩
      rw [hrun, List.append_assoc, List.singleton_append]
    · have hfar : ∀ row ∈ pending, ¬ InTolerance bestNet tolerance row :=
        fun row hrow hwithin => hnear ⟨row, hrow, hwithin⟩
      rw [bestDiverse_far chosen hfar]
      cases pending with
      | nil => exact ⟨[], (List.append_nil _).symm, Picks.nil _ _ _, Nat.zero_le _⟩
      | cons row rest =>
        obtain ⟨hmore, hrest⟩ := List.pairwise_cons.1 hsorted
        obtain ⟨picked, hrun, hpicks, hlen⟩ := ih rest (chosen ++ [row]) hrest
        refine ⟨row :: picked, ?_, hpicks.far hfar hmore, Nat.succ_le_succ hlen⟩
        simp only [List.getElem?_cons_zero, List.eraseIdx_zero, List.tail_cons]
        rw [hrun, List.append_assoc, List.singleton_append]

/-! ## The shortlist -/

theorem pairwise_netsMore (rows : List Candidate) :
    (rows.insertionSort ranksFirst).Pairwise NetsMore := by
  apply OrderStatistics.pairwise_insertionSort_coarser
  · intro a b h
    unfold ranksFirst at h
    unfold NetsMore
    omega
  · intro a b h
    unfold ranksFirst at h
    unfold NetsMore
    omega
  · exact fun a b c hab hbc => le_trans hbc hab

/-- The tolerance of a shortlist whose best candidate nets that much. -/
def toleranceOf (bestNet : ℤ) : ℤ := max 1 (|bestNet| * 50 / 10000)

/-- What `_shortlist_amount_bucket` makes of some candidates. -/
structure Shortlist (rows : List Candidate) (best : Candidate) (chosen : List Candidate) : Prop where
  /-- no candidate of the bucket nets more -/
  greatest : ∀ row ∈ rows, NetsMore best row
  parts : ∃ near far left, chosen = best :: (near ++ far)
    ∧ (best :: (near ++ far ++ left)).Perm rows
    ∧ (∀ row ∈ near, InTolerance best.singleRouteNetWei (toleranceOf best.singleRouteNetWei) row)
    ∧ (∀ row ∈ far, ¬ InTolerance best.singleRouteNetWei (toleranceOf best.singleRouteNetWei) row)
    ∧ far.Pairwise NetsMore
    ∧ (far ≠ [] → ∀ row ∈ left,
        ¬ InTolerance best.singleRouteNetWei (toleranceOf best.singleRouteNetWei) row)

/-- **The order of a shortlist.** Nothing is listed where there is no candidate or no room. Else the
candidate that nets most comes first, then candidates within the tolerance, then others in the order
of their net values; no candidate is listed twice, at most `maxCandidates` are, and while one within
the tolerance is left none of the others is listed. -/
theorem shortlist_order (rows : List Candidate) (maxCandidates : ℤ) :
    ((shortlistAmountBucket rows maxCandidates).length : ℤ) ≤ max 0 maxCandidates
      ∧ (rows.Nodup → (shortlistAmountBucket rows maxCandidates).Nodup)
      ∧ (rows = [] ∨ maxCandidates ≤ 0 → shortlistAmountBucket rows maxCandidates = [])
      ∧ (rows ≠ [] → 0 < maxCandidates →
          ∃ best, Shortlist rows best (shortlistAmountBucket rows maxCandidates)) := by
  have hperm := List.perm_insertionSort ranksFirst rows
  have hsorted := pairwise_netsMore rows
  unfold shortlistAmountBucket
  cases hrows : rows.insertionSort ranksFirst with
  | nil =>
    rw [hrows] at hperm
    have hnil : rows = [] := hperm.nil_eq.symm
    exact ⟨le_max_left _ _, fun _ => List.nodup_nil, fun _ => rfl, fun hne => absurd hnil hne⟩
  | cons best pending =>
    rw [hrows] at hperm hsorted
    obtain ⟨hbest, hpending⟩ := List.pairwise_cons.1 hsorted
    dsimp only
    by_cases hroom : maxCandidates ≤ 0
    · rw [if_pos hroom]
      exact ⟨le_max_left _ _, fun _ => List.nodup_nil, fun _ => rfl,
        fun _ hpos => absurd hroom (not_le.2 hpos)⟩
    · rw [if_neg hroom]
      obtain ⟨picked, hrun, hpicks, hlen⟩ := diversify_picks best.singleRouteNetWei
        (toleranceOf best.singleRouteNetWei) (maxCandidates - 1).toNat pending [best] hpending
      obtain ⟨near, far, left, hpicked, hleft, hin, hout, horder, hlast⟩ := hpicks.parts
      have hall : (best :: (near ++ far ++ left)).Perm rows := (hleft.cons best).trans hperm
      have hlist : diversify best.singleRouteNetWei (max 1 (|best.singleRouteNetWei| * 50 / 10000))
          (maxCandidates - 1).toNat pending [best] = best :: (near ++ far) := by
        rw [← hpicked]
        exact hrun
      rw [hlist]
      refine ⟨?_, ?_, ?_, ?_⟩
      · rw [hpicked] at hlen
        rw [List.length_cons]
        push_cast
        omega
      · intro hnodup
        have hprefix : best :: (near ++ far) <+: best :: (near ++ far ++ left) :=
          List.prefix_append (best :: (near ++ far)) left
        exact (hall.nodup_iff.2 hnodup).sublist hprefix.sublist
      · rintro (hnil | hle)
        · rw [hnil] at hall
          cases hall.eq_nil
        · exact absurd hle hroom
      · intro _ _
        refine ⟨best, ?_, near, far, left, rfl, hall, hin, hout, horder, hlast⟩
        intro row hrow
        rcases List.mem_cons.1 (hperm.symm.subset hrow) with rfl | hmem
        · exact le_rfl
        · exact hbest row hmem

end SovereignCapital.Split
