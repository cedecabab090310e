import SovereignCapital.Split.Router

/-! # The split search is sound and optimal

`completions` lists the splits the search would complete with an unbounded budget. The search
records a prefix of that list, and all of it unless the budget is spent; the list holds exactly
the sets of candidates that make up the target under the rules. Amounts are positive, so a
split that has reached the target cannot be extended and one beyond it never comes back.
-/

namespace SovereignCapital.Split

open BudgetedSearch

/-! ## Feasible splits -/

/-- The candidates make up the target: different routes over disjoint pools. -/
structure Feasible (candidates : List Candidate) (targetAmount maxRoutes : ℤ)
    (parts : List Candidate) : Prop where
  among : parts.Subperm candidates
  many : 2 ≤ parts.length
  few : (parts.length : ℤ) ≤ maxRoutes
  routes : parts.Pairwise fun a b => a.routeId ≠ b.routeId
  pools : parts.Pairwise fun a b => Disjoint a.poolKeys b.poolKeys
  amount : total Candidate.amountIn parts = targetAmount

def netOf (parts : List Candidate) : ℤ := (splitCostTotals parts).net

variable {parts parts' : List Candidate} {p : PartialSplit} {token : String} {plan : SplitPlan}

theorem total_perm (quantity : Candidate → ℤ) (h : parts.Perm parts') :
    total quantity parts = total quantity parts' :=
  (h.map quantity).sum_eq

theorem greatest_perm {α : Type} [LinearOrder α] [Zero α] (quantity : Candidate → α)
    (h : parts.Perm parts') : greatest quantity parts = greatest quantity parts' := by
  have hmap := h.map quantity
  have hmax : (parts.map quantity).max? = (parts'.map quantity).max? := by
    cases hleft : (parts.map quantity).max? with
    | none =>
      rw [List.max?_eq_none_iff] at hleft
      rw [hleft] at hmap
      rw [← hmap.nil_eq]
      rfl
    | some m =>
      symm
      rw [List.max?_eq_some_iff] at hleft ⊢
      exact ⟨hmap.subset hleft.1, fun b hb => hleft.2 b (hmap.symm.subset hb)⟩
  unfold greatest
  rw [hmax]

theorem netOf_perm (h : parts.Perm parts') : netOf parts = netOf parts' := by
  unfold netOf splitCostTotals
  rw [h.length_eq, greatest_perm Candidate.gasPriceEffectiveWei h,
    greatest_perm Candidate.gasTokenPerNativeWei h]
  simp only [fun quantity => total_perm quantity h]

theorem total_cons (quantity : Candidate → ℤ) (c : Candidate) (parts : List Candidate) :
    total quantity (c :: parts) = quantity c + total quantity parts := by
  simp [total]

theorem total_nonneg (parts : List Candidate) : 0 ≤ total Candidate.amountIn parts := by
  apply List.sum_nonneg
  intro amount hamount
  obtain ⟨c, -, rfl⟩ := List.mem_map.1 hamount
  exact c.amount_pos.le

theorem total_eq_zero (h : total Candidate.amountIn parts = 0) : parts = [] := by
  cases parts with
  | nil => rfl
  | cons c rest =>
    rw [total_cons] at h
    have hpos := c.amount_pos
    have hrest := total_nonneg rest
    omega

theorem amount_le_total {c : Candidate} (hc : c ∈ parts) :
    c.amountIn ≤ total Candidate.amountIn parts := by
  induction parts with
  | nil => cases hc
  | cons d rest ih =>
    rw [total_cons]
    rcases List.mem_cons.1 hc with rfl | hrest
    · have hnonneg := total_nonneg rest
      omega
    · have hle := ih hrest
      have hpos := d.amount_pos
      omega

/-! ## Extensions of a partial split -/

structure Completes (p : PartialSplit) (added : List Candidate) : Prop where
  amount : total Candidate.amountIn added = p.remainingAmount
  routes : added.Pairwise fun a b => a.routeId ≠ b.routeId
  newRoutes : ∀ c ∈ added, c.routeId ∉ p.usedRouteIds
  pools : added.Pairwise fun a b => Disjoint a.poolKeys b.poolKeys
  newPools : ∀ c ∈ added, Disjoint p.usedPoolKeys c.poolKeys

theorem completes_cons {c : Candidate} {added : List Candidate} :
    Completes p (c :: added) ↔ ¬ p.skips c ∧ Completes (p.child c) added := by
  constructor
  · intro h
    obtain ⟨hroute, hroutes⟩ := List.pairwise_cons.1 h.routes
    obtain ⟨hpool, hpools⟩ := List.pairwise_cons.1 h.pools
    have hamount := h.amount
    rw [total_cons] at hamount
    have hnonneg := total_nonneg added
    refine ⟨?_, ?_, hroutes, ?_, hpools, ?_⟩
    · rintro (hbig | hused | hshared)
      · omega
      · exact h.newRoutes c List.mem_cons_self hused
      · exact hshared (h.newPools c List.mem_cons_self)
    · show _ = p.remainingAmount - c.amountIn
      omega
    · intro d hd hused
      rcases List.mem_append.1 hused with hold | hnew
      · exact h.newRoutes d (List.mem_cons_of_mem c hd) hold
      · exact hroute d hd (List.mem_singleton.1 hnew).symm
    · intro d hd
      exact Finset.disjoint_union_left.2 ⟨h.newPools d (List.mem_cons_of_mem c hd), hpool d hd⟩
  · rintro ⟨hfits, h⟩
    have hamount : total Candidate.amountIn added = p.remainingAmount - c.amountIn := h.amount
    have hroute : c.routeId ∉ p.usedRouteIds := fun hused => hfits (Or.inr (Or.inl hused))
    have hpool : Disjoint p.usedPoolKeys c.poolKeys :=
      not_not.1 fun hshared => hfits (Or.inr (Or.inr hshared))
    refine ⟨?_, ?_, ?_, ?_, ?_⟩
    · rw [total_cons]
      omega
    · refine List.pairwise_cons.2 ⟨?_, h.routes⟩
      intro d hd hsame
      exact h.newRoutes d hd (List.mem_append_right _ (List.mem_singleton.2 hsame.symm))
    · intro d hd
      rcases List.mem_cons.1 hd with rfl | hrest
      · exact hroute
      · exact fun hused => h.newRoutes d hrest (List.mem_append_left _ hused)
    · refine List.pairwise_cons.2 ⟨?_, h.pools⟩
      intro d hd
      exact (Finset.disjoint_union_left.1 (h.newPools d hd)).2
    · intro d hd
      rcases List.mem_cons.1 hd with rfl | hrest
      · exact hpool
      · exact (Finset.disjoint_union_left.1 (h.newPools d hrest)).1

/-! ## The splits an unbounded search completes -/

def completionsBelow (maxRoutes : ℤ) (p : PartialSplit) (extended : List (List Candidate)) :
    List (List Candidate) :=
  if p.remainingAmount = 0 then [p.parts]
  else if maxRoutes ≤ p.parts.length then []
  else extended

def completions (maxRoutes : ℤ) : List Candidate → PartialSplit → List (List Candidate)
  | [], _ => []
  | row :: rest, p =>
    if p.skips row then completions maxRoutes rest p
    else
      completionsBelow maxRoutes (p.child row) (completions maxRoutes rest (p.child row))
        ++ completions maxRoutes rest p

theorem completes_nil : Completes p [] ↔ p.remainingAmount = 0 := by
  constructor
  · intro h
    exact h.amount.symm
  · intro h
    refine ⟨h.symm, List.Pairwise.nil, ?_, List.Pairwise.nil, ?_⟩
    · intro c hc
      cases hc
    · intro c hc
      cases hc

/-- What stands below a split within the limit: it is complete itself, or completed by what extends
it. -/
theorem mem_completionsBelow {maxRoutes : ℤ} {rows : List Candidate}
    {extended : List (List Candidate)} (hwithin : (p.parts.length : ℤ) ≤ maxRoutes)
    (hextended : (p.parts.length : ℤ) < maxRoutes →
      (parts ∈ extended ↔ ∃ added, added ≠ [] ∧ added.Sublist rows ∧ Completes p added
        ∧ (p.parts.length + added.length : ℤ) ≤ maxRoutes ∧ parts = p.parts ++ added)) :
    parts ∈ completionsBelow maxRoutes p extended
      ↔ ∃ added, added.Sublist rows ∧ Completes p added
        ∧ (p.parts.length + added.length : ℤ) ≤ maxRoutes ∧ parts = p.parts ++ added := by
  unfold completionsBelow
  by_cases hdone : p.remainingAmount = 0
  · -- The target is reached, and nothing can be added to it.
    rw [if_pos hdone, List.mem_singleton]
    constructor
    · rintro rfl
      refine ⟨[], List.nil_sublist rows, completes_nil.2 hdone, ?_, (List.append_nil _).symm⟩
      simpa using hwithin
    · rintro ⟨added, -, hcompletes, -, rfl⟩
      have hamount := hcompletes.amount
      rw [hdone] at hamount
      rw [total_eq_zero hamount, List.append_nil]
  · rw [if_neg hdone]
    have hsome : ∀ added, Completes p added → added ≠ [] := by
      rintro added hcompletes rfl
      exact hdone (completes_nil.1 hcompletes)
    by_cases hfull : maxRoutes ≤ p.parts.length
    · rw [if_pos hfull]
      constructor
      · intro h
        cases h
      · rintro ⟨added, -, hcompletes, hfew, -⟩
        have hpos := List.length_pos_iff.2 (hsome added hcompletes)
        omega
    · rw [if_neg hfull, hextended (not_le.1 hfull)]
      constructor
      · rintro ⟨added, -, hrest⟩
        exact ⟨added, hrest⟩
      · rintro ⟨added, hsub, hcompletes, hrest⟩
        exact ⟨added, hsome added hcompletes, hsub, hcompletes, hrest⟩

/-- **Exactly the completions.** What extends a split with room for another part is each way to
complete it by some of the candidates, in their order, with the allowed number of parts. -/
theorem mem_completions {maxRoutes : ℤ} {rows : List Candidate}
    (hroom : (p.parts.length : ℤ) < maxRoutes) :
    parts ∈ completions maxRoutes rows p
      ↔ ∃ added, added ≠ [] ∧ added.Sublist rows ∧ Completes p added
        ∧ (p.parts.length + added.length : ℤ) ≤ maxRoutes ∧ parts = p.parts ++ added := by
  induction rows generalizing p parts with
  | nil =>
    constructor
    · intro h
      cases h
    · rintro ⟨added, hne, hsub, -⟩
      exact absurd (List.eq_nil_of_sublist_nil hsub) hne
  | cons row rest ih =>
    have hrest := @ih parts p hroom
    unfold completions
    by_cases hskip : p.skips row
    · rw [if_pos hskip, hrest]
      constructor
      · rintro ⟨added, hne, hsub, hcompletes, hfew, rfl⟩
        exact ⟨added, hne, hsub.cons row, hcompletes, hfew, rfl⟩
      · rintro ⟨added, hne, hsub, hcompletes, hfew, rfl⟩
        rcases List.sublist_cons_iff.1 hsub with hsub' | ⟨tail, rfl, -⟩
        · exact ⟨added, hne, hsub', hcompletes, hfew, rfl⟩
        · exact absurd hskip (completes_cons.1 hcompletes).1
    · rw [if_neg hskip, List.mem_append, hrest]
      have hlength : ((p.child row).parts.length : ℤ) = p.parts.length + 1 := by
        simp [PartialSplit.child]
      have hparts : ∀ tail, (p.child row).parts ++ tail = p.parts ++ row :: tail := by
        intro tail
        simp [PartialSplit.child]
      have hwithin : ((p.child row).parts.length : ℤ) ≤ maxRoutes := by
        rw [hlength]
        omega
      rw [mem_completionsBelow hwithin fun hmore => ih hmore]
      simp only [hlength, hparts]
      constructor
      · rintro (⟨tail, hsub, hcompletes, hfew, rfl⟩ | ⟨added, hne, hsub, hcompletes, hfew, rfl⟩)
        · refine ⟨row :: tail, List.cons_ne_nil _ _, hsub.cons_cons row,
            completes_cons.2 ⟨hskip, hcompletes⟩, ?_, rfl⟩
          rw [List.length_cons]
          push_cast
          omega
        · exact ⟨added, hne, hsub.cons row, hcompletes, hfew, rfl⟩
      · rintro ⟨added, hne, hsub, hcompletes, hfew, rfl⟩
        rcases List.sublist_cons_iff.1 hsub with hsub' | ⟨tail, rfl, htail⟩
        · exact Or.inr ⟨added, hne, hsub', hcompletes, hfew, rfl⟩
        · refine Or.inl ⟨tail, htail, (completes_cons.1 hcompletes).2, ?_, rfl⟩
          rw [List.length_cons] at hfew
          push_cast at hfew
          omega

/-! ## The search -/

/-- `_record_completed_split`, on the best plan. -/
def recordBest (target : SearchTarget) (best : Option SplitModel) (parts : List Candidate) :
    Option SplitModel :=
  if parts.length < 2 then best else keepBetter SplitModel.net best (evaluateSplit target parts)

theorem recordCompletedSplit_bestPlan (target : SearchTarget) (state : SplitSearchState)
    (parts : List Candidate) :
    (recordCompletedSplit target state parts).bestPlan = recordBest target state.bestPlan parts := by
  unfold recordCompletedSplit recordBest
  split <;> rfl

abbrev Visits (target : SearchTarget) (f : SplitSearchState → SplitSearchState)
    (all : List (List Candidate)) : Prop :=
  Enumerates SplitSearchState.bestPlan (recordBest target) (outOfStates target) f all

theorem enterSplit_visits {target : SearchTarget} {p : PartialSplit}
    {extend : SplitSearchState → SplitSearchState} {extended : List (List Candidate)}
    (hextend : Visits target extend extended) :
    Visits target (enterSplit target p extend)
      (completionsBelow target.limits.maxRoutes p extended) := by
  have hbody : Visits target
      (fun state =>
        if p.remainingAmount = 0 then recordCompletedSplit target state p.parts
        else if target.limits.maxRoutes ≤ p.parts.length then state
        else extend state)
      (completionsBelow target.limits.maxRoutes p extended) := by
    unfold completionsBelow
    by_cases hdone : p.remainingAmount = 0
    · simp only [if_pos hdone]
      exact enumerates_one fun state => recordCompletedSplit_bestPlan target state p.parts
    · simp only [if_neg hdone]
      by_cases hfull : target.limits.maxRoutes ≤ p.parts.length
      · simp only [if_pos hfull]
        exact enumerates_nothing fun _ => rfl
      · simp only [if_neg hfull]
        exact hextend
  exact @Enumerates.guarded _ _ _ _ _ _ _ _ hbody
    (fun state => { state with statesSeen := state.statesSeen + 1 }) fun _ => rfl

/-- **The search visits the completions**, in order, as long as it has states left. -/
theorem extendSplitSearch_visits (target : SearchTarget) (rows : List Candidate)
    (p : PartialSplit) :
    Visits target (extendSplitSearch target rows p)
      (completions target.limits.maxRoutes rows p) := by
  induction rows generalizing p with
  | nil => exact enumerates_nothing fun _ => rfl
  | cons row rest ih =>
    by_cases hskip : p.skips row
    · have hstep : extendSplitSearch target (row :: rest) p = extendSplitSearch target rest p := by
        funext state
        exact if_pos hskip
      rw [hstep, completions, if_pos hskip]
      exact ih p
    · have hstep : extendSplitSearch target (row :: rest) p = fun state =>
          if outOfStates target (enterSplit target (p.child row)
              (extendSplitSearch target rest (p.child row)) state)
            then enterSplit target (p.child row)
              (extendSplitSearch target rest (p.child row)) state
            else extendSplitSearch target rest p (enterSplit target (p.child row)
              (extendSplitSearch target rest (p.child row)) state) := by
        funext state
        exact if_neg hskip
      rw [hstep, completions, if_neg hskip]
      exact (enterSplit_visits (ih (p.child row))).seq (ih p)

theorem foldl_recordBest (target : SearchTarget) (visited : List (List Candidate))
    (best : Option SplitModel) :
    visited.foldl (recordBest target) best
      = ((visited.filter fun parts => 2 ≤ parts.length).map (evaluateSplit target)).foldl
          (keepBetter SplitModel.net) best := by
  induction visited generalizing best with
  | nil => rfl
  | cons parts visited ih =>
    rw [List.foldl_cons, ih]
    by_cases hshort : parts.length < 2
    · have hdropped : ¬ decide (2 ≤ parts.length) = true := by
        rw [decide_eq_true_eq]
        omega
      rw [List.filter_cons, if_neg hdropped, recordBest, if_pos hshort]
    · have hkept : decide (2 ≤ parts.length) = true := by
        rw [decide_eq_true_eq]
        omega
      rw [List.filter_cons, if_pos hkept, recordBest, if_neg hshort]
      rfl

/-! ## Targets -/

section Target

variable {candidates : List Candidate} {targetAmount maxRoutes : ℤ}

def wholeTarget (targetAmount : ℤ) : PartialSplit := ⟨targetAmount, [], [], ∅⟩

theorem completes_wholeTarget :
    Completes (wholeTarget targetAmount) parts
      ↔ total Candidate.amountIn parts = targetAmount
        ∧ (parts.Pairwise fun a b => a.routeId ≠ b.routeId)
        ∧ parts.Pairwise fun a b => Disjoint a.poolKeys b.poolKeys := by
  constructor
  · intro h
    exact ⟨h.amount, h.routes, h.pools⟩
  · rintro ⟨hamount, hroutes, hpools⟩
    refine ⟨hamount, hroutes, ?_, hpools, ?_⟩
    · intro c _ hused
      cases hused
    · intro c _
      exact Finset.disjoint_empty_left c.poolKeys

/-- What a search with enough states goes through for a target. -/
def targetCompletions (maxRoutes targetAmount : ℤ) (candidates : List Candidate) :
    List (List Candidate) :=
  completionsBelow maxRoutes (wholeTarget targetAmount)
    (completions maxRoutes (amountPool candidates targetAmount) (wholeTarget targetAmount))

theorem mem_targetCompletions (hmany : 2 ≤ parts.length) :
    parts ∈ targetCompletions maxRoutes targetAmount candidates
      ↔ parts.Sublist (amountPool candidates targetAmount)
        ∧ Completes (wholeTarget targetAmount) parts ∧ (parts.length : ℤ) ≤ maxRoutes := by
  by_cases hwithin : ((wholeTarget targetAmount).parts.length : ℤ) ≤ maxRoutes
  · rw [targetCompletions, mem_completionsBelow hwithin fun hroom => mem_completions hroom]
    constructor
    · rintro ⟨added, hsub, hcompletes, hfew, hparts⟩
      obtain rfl : parts = added := hparts
      have hfew' : (parts.length : ℤ) ≤ maxRoutes := by
        simpa [wholeTarget] using hfew
      exact ⟨hsub, hcompletes, hfew'⟩
    · rintro ⟨hsub, hcompletes, hfew⟩
      refine ⟨parts, hsub, hcompletes, ?_, rfl⟩
      simpa [wholeTarget] using hfew
  · -- Under a negative limit at most the empty split is complete.
    have hnegative : maxRoutes < 0 := not_le.1 hwithin
    have hno : parts ∉ targetCompletions maxRoutes targetAmount candidates := by
      unfold targetCompletions completionsBelow
      split
      · rw [List.mem_singleton]
        rintro rfl
        simp [wholeTarget] at hmany
      · rw [if_pos (not_le.1 hwithin).le]
        exact List.not_mem_nil
    constructor
    · intro h
      exact absurd h hno
    · rintro ⟨-, -, hfew⟩
      omega

theorem amountPool_perm (candidates : List Candidate) (targetAmount : ℤ) :
    (amountPool candidates targetAmount).Perm
      (candidates.filter fun row => row.amountIn ≤ targetAmount) :=
  List.perm_insertionSort searchedFirst _

theorem feasible_of_mem (hmany : 2 ≤ parts.length)
    (h : parts ∈ targetCompletions maxRoutes targetAmount candidates) :
    Feasible candidates targetAmount maxRoutes parts := by
  obtain ⟨hsub, hcompletes, hfew⟩ := (mem_targetCompletions hmany).1 h
  obtain ⟨hamount, hroutes, hpools⟩ := completes_wholeTarget.1 hcompletes
  refine ⟨?_, hmany, hfew, hroutes, hpools, hamount⟩
  have hpool := (hsub.subperm.trans (amountPool_perm candidates targetAmount).subperm)
  exact hpool.trans List.filter_sublist.subperm

theorem Feasible.completed (h : Feasible candidates targetAmount maxRoutes parts) :
    ∃ parts', parts'.Perm parts ∧ 2 ≤ parts'.length
      ∧ parts' ∈ targetCompletions maxRoutes targetAmount candidates := by
  have hsmall : ∀ c ∈ parts, c.amountIn ≤ targetAmount := by
    intro c hc
    rw [← h.amount]
    exact amount_le_total hc
  obtain ⟨chosen, hchosen, hsub⟩ := h.among
  have hfilter : (chosen.filter fun row => row.amountIn ≤ targetAmount) = chosen := by
    rw [List.filter_eq_self]
    intro c hc
    simpa using hsmall c (hchosen.subset hc)
  have hpool : chosen.Subperm (amountPool candidates targetAmount) := by
    rw [← hfilter]
    exact (hsub.filter _).subperm.trans (amountPool_perm candidates targetAmount).symm.subperm
  obtain ⟨parts', hperm, hsub'⟩ := hpool
  have hparts : parts'.Perm parts := hperm.trans hchosen
  have hmany : 2 ≤ parts'.length := by
    rw [hparts.length_eq]
    exact h.many
  refine ⟨parts', hparts, hmany, (mem_targetCompletions hmany).2 ⟨hsub', ?_, ?_⟩⟩
  · rw [completes_wholeTarget]
    refine ⟨?_, ?_, ?_⟩
    · rw [total_perm Candidate.amountIn hparts]
      exact h.amount
    · exact (hparts.pairwise_iff fun {a b} hab => Ne.symm hab).2 h.routes
    · exact (hparts.pairwise_iff fun {a b} hab => Disjoint.symm hab).2 h.pools
  · rw [hparts.length_eq]
    exact h.few

end Target

structure Sound (candidates : List Candidate) (targetAmount maxRoutes : ℤ) (plan : SplitPlan) :
    Prop where
  feasible : Feasible candidates targetAmount maxRoutes plan.parts
  totals : plan.totals = splitCostTotals plan.parts

/-- The plan, if the search gives one at all, nets as much as any feasible split. -/
def Optimal (candidates : List Candidate) (targetAmount maxRoutes : ℤ) (plan : Option SplitPlan) :
    Prop :=
  ∀ parts, Feasible candidates targetAmount maxRoutes parts →
    ∃ best, plan = some best ∧ netOf parts ≤ best.net

theorem searchTargetAmount_visits (token : String) (candidates : List Candidate)
    (targetAmount : ℤ) (limits : SplitSearchLimits) :
    ∃ visited, visited <+: targetCompletions limits.maxRoutes targetAmount candidates
      ∧ (searchTargetAmount token candidates targetAmount limits).plan.map SplitPlan.toSplitModel
        = visited.foldl (recordBest ⟨token, bestSingleNet candidates targetAmount, limits⟩) none
      ∧ ((searchTargetAmount token candidates targetAmount limits).truncated = false →
        visited = targetCompletions limits.maxRoutes targetAmount candidates) := by
  have hextend := extendSplitSearch_visits ⟨token, bestSingleNet candidates targetAmount, limits⟩
    (amountPool candidates targetAmount) (wholeTarget targetAmount)
  have hwalk := @enterSplit_visits ⟨token, bestSingleNet candidates targetAmount, limits⟩
    (wholeTarget targetAmount) _ _ hextend
  obtain ⟨visited, hprefix, hbest, hall⟩ := hwalk ⟨0, 0, none⟩
  refine ⟨visited, hprefix, ?_, hall⟩
  rw [← hbest]
  unfold searchTargetAmount walkSplitSearch
  simp only [Option.map_map]
  -- The counters a plan is returned with are not part of its model.
  exact congrFun Option.map_id _

/-- **The search is sound**: its plan is a feasible split. -/
theorem searchTargetAmount_sound {candidates : List Candidate} {targetAmount : ℤ}
    {limits : SplitSearchLimits}
    (h : (searchTargetAmount token candidates targetAmount limits).plan = some plan) :
    Sound candidates targetAmount limits.maxRoutes plan := by
  obtain ⟨visited, hpre, hbest, -⟩ :=
    searchTargetAmount_visits token candidates targetAmount limits
  rw [h, foldl_recordBest] at hbest
  rcases foldl_keepBetter_mem hbest.symm with hmem | hnone
  · obtain ⟨parts, hparts, hmodel⟩ := List.mem_map.1 hmem
    obtain ⟨hvisited, hmany⟩ := List.mem_filter.1 hparts
    have hplan : plan.parts = parts := congrArg SplitModel.parts hmodel.symm
    constructor
    · rw [hplan]
      exact feasible_of_mem (by simpa using hmany) (List.IsPrefix.subset hpre hvisited)
    · rw [hplan]
      exact congrArg SplitModel.totals hmodel.symm
  · cases hnone

theorem searchTargetAmount_optimal {candidates : List Candidate} {targetAmount : ℤ}
    {limits : SplitSearchLimits}
    (h : (searchTargetAmount token candidates targetAmount limits).truncated = false) :
    Optimal candidates targetAmount limits.maxRoutes
      (searchTargetAmount token candidates targetAmount limits).plan := by
  intro parts hfeasible
  obtain ⟨visited, -, hbest, hall⟩ :=
    searchTargetAmount_visits token candidates targetAmount limits
  obtain ⟨parts', hperm, hmany, hmem⟩ := hfeasible.completed
  rw [hall h, foldl_recordBest] at hbest
  have hseen : evaluateSplit ⟨token, bestSingleNet candidates targetAmount, limits⟩ parts'
      ∈ ((targetCompletions limits.maxRoutes targetAmount candidates).filter
        fun parts => 2 ≤ parts.length).map
          (evaluateSplit ⟨token, bestSingleNet candidates targetAmount, limits⟩) :=
    List.mem_map.2 ⟨parts', List.mem_filter.2 ⟨hmem, by simpa using hmany⟩, rfl⟩
  obtain ⟨model, hmodel, hle⟩ := @foldl_keepBetter_covers _ _ _ SplitModel.net _ none _
    (Or.inl hseen)
  rw [hmodel] at hbest
  obtain ⟨best, hplan, rfl⟩ := Option.map_eq_some_iff.1 hbest
  refine ⟨best, hplan, ?_⟩
  rw [← netOf_perm hperm]
  exact hle

/-! ## The frontier -/

theorem mem_interleave {ranked : List (List SplitPlan)} (h : plan ∈ interleave ranked) :
    ∃ plans ∈ ranked, plan ∈ plans := by
  obtain ⟨i, -, hplan⟩ := List.mem_flatMap.1 h
  obtain ⟨plans, hplans, hget⟩ := List.mem_filterMap.1 hplan
  exact ⟨plans, hplans, List.mem_of_getElem? hget⟩

theorem mem_of_groupSplitPlans {plans : List SplitPlan} {group : List SplitPlan}
    (h : (groupSplitPlans plans).get? token = some group) : ∀ plan ∈ group, plan ∈ plans := by
  have hfold : ∀ (rest : List SplitPlan) (grouped : Dict String (List SplitPlan)),
      (∀ plan ∈ rest, plan ∈ plans) →
      (∀ token group, grouped.get? token = some group → ∀ plan ∈ group, plan ∈ plans) →
      ∀ token group, (rest.foldl (fun grouped plan =>
        grouped.set plan.borrowToken (grouped.getD plan.borrowToken [] ++ [plan])) grouped).get?
          token = some group → ∀ plan ∈ group, plan ∈ plans := by
    intro rest
    induction rest with
    | nil => exact fun grouped _ h => h
    | cons first rest ih =>
      intro grouped hrest hgrouped
      apply ih
      · exact fun plan hplan => hrest plan (List.mem_cons_of_mem first hplan)
      · intro token group hget plan hplan
        rw [Dict.get?_set] at hget
        split at hget
        · cases hget
          rcases List.mem_append.1 hplan with hold | hnew
          · cases hfound : grouped.get? first.borrowToken with
            | none =>
              rw [Dict.getD, hfound] at hold
              cases hold
            | some old =>
              rw [Dict.getD, hfound] at hold
              exact hgrouped _ old hfound plan hold
          · rw [List.mem_singleton.1 hnew]
            exact hrest first List.mem_cons_self
        · exact hgrouped token group hget plan hplan
  exact hfold plans Dict.empty (fun _ h => h) (fun token group h => by cases h) token group h

theorem mem_roundRobinSplitPlans {plans : List SplitPlan} (h : plan ∈ roundRobinSplitPlans plans) :
    plan ∈ plans := by
  obtain ⟨ranked, hranked, hplan⟩ := mem_interleave h
  obtain ⟨entry, hentry, rfl⟩ := List.mem_map.1 hranked
  have hmem := (List.perm_insertionSort _ _).subset hentry
  have hget := (Dict.mem_entries_iff _).1 (show (entry.1, entry.2) ∈ _ from hmem)
  rw [Dict.get?_mapVal] at hget
  obtain ⟨group, hgroup, hsorted⟩ := Option.map_eq_some_iff.1 hget
  apply mem_of_groupSplitPlans hgroup
  rw [← hsorted] at hplan
  exact (List.perm_insertionSort _ _).subset hplan

theorem frontier_plans (sizeMatrix : List SizeRow) (chainId : ℤ) :
    (buildGasAdjustedSplitFrontier sizeMatrix chainId).plans
      = (roundRobinSplitPlans ((collectSplitSearches (prepareCandidateBuckets sizeMatrix chainId 8)
          {}).filterMap TargetSearch.plan)).take 8 := by
  simp only [buildGasAdjustedSplitFrontier]
  rfl

theorem frontier_plan {sizeMatrix : List SizeRow} {chainId : ℤ}
    (h : plan ∈ (buildGasAdjustedSplitFrontier sizeMatrix chainId).plans) :
    ∃ token candidates targetAmount,
      (token, candidates) ∈ (prepareCandidateBuckets sizeMatrix chainId 8).entries
        ∧ (searchTargetAmount token candidates targetAmount {}).plan = some plan := by
  rw [frontier_plans] at h
  have hround := mem_roundRobinSplitPlans (List.mem_of_mem_take h)
  obtain ⟨search, hsearch, hplan⟩ := List.mem_filterMap.1 hround
  obtain ⟨entry, hentry, htargets⟩ := List.mem_flatMap.1 hsearch
  obtain ⟨targetAmount, -, rfl⟩ := List.mem_map.1 htargets
  exact ⟨entry.1, entry.2, targetAmount, (List.perm_insertionSort _ _).subset hentry, hplan⟩

/-- **The split router is sound and optimal**: for any candidates, target and limits the plan of
a search is a feasible split that carries the truncation flag, and a search that is not
truncated finds the best one; the plans of the frontier are such plans, over the shortlist of
their token. -/
theorem splitRouter_sound_optimal :
    (∀ token candidates targetAmount limits,
      (∀ plan, (searchTargetAmount token candidates targetAmount limits).plan = some plan →
        Sound candidates targetAmount limits.maxRoutes plan
          ∧ plan.searchTruncated
            = (searchTargetAmount token candidates targetAmount limits).truncated)
      ∧ ((searchTargetAmount token candidates targetAmount limits).truncated = false →
        Optimal candidates targetAmount limits.maxRoutes
          (searchTargetAmount token candidates targetAmount limits).plan))
      ∧ ∀ sizeMatrix chainId, ∀ plan ∈ (buildGasAdjustedSplitFrontier sizeMatrix chainId).plans,
        ∃ token candidates targetAmount,
          (token, candidates) ∈ (prepareCandidateBuckets sizeMatrix chainId 8).entries
            ∧ Sound candidates targetAmount 3 plan
            ∧ (plan.searchTruncated = false →
              ∀ parts, Feasible candidates targetAmount 3 parts → netOf parts ≤ plan.net) := by
  have hflag : ∀ token candidates targetAmount limits plan,
      (searchTargetAmount token candidates targetAmount limits).plan = some plan →
      plan.searchTruncated
        = (searchTargetAmount token candidates targetAmount limits).truncated := by
    intro token candidates targetAmount limits plan hplan
    obtain ⟨model, -, rfl⟩ := Option.map_eq_some_iff.1 hplan
    rfl
  refine ⟨?_, ?_⟩
  · intro token candidates targetAmount limits
    exact ⟨fun plan hplan => ⟨searchTargetAmount_sound hplan, hflag _ _ _ _ plan hplan⟩,
      searchTargetAmount_optimal⟩
  · intro sizeMatrix chainId plan hmem
    obtain ⟨token, candidates, targetAmount, hentry, hplan⟩ := frontier_plan hmem
    refine ⟨token, candidates, targetAmount, hentry, searchTargetAmount_sound hplan, ?_⟩
    intro huntruncated parts hfeasible
    rw [hflag _ _ _ _ plan hplan] at huntruncated
    obtain ⟨best, hbest, hle⟩ := searchTargetAmount_optimal huntruncated parts hfeasible
    rw [hplan] at hbest
    cases hbest
    exact hle

def poolRoute (routeId pool : String) (amountIn : ℤ) (hpos : 0 < amountIn) : Candidate where
  routeId := routeId
  amountIn := amountIn
  grossProfitWei := 1000
  flashloanFeeWei := 1
  gasCostProfitTokenWei := 1
  gasUnitsEstimate := 300000
  gasPriceEffectiveWei := 1
  baseL1FeeWei := 0
  borrowToken := "usdc"
  legs := []
  poolKeys := {pool}
  protocols := {"curve"}
  routers := ∅
  directedPairs := ∅
  singleRouteNetWei := 998
  gasTokenPerNativeWei := 1
  revalidated := true
  authoritative := true
  valid := true
  repaymentValid := true
  amount_pos := hpos

/-- Two of the three routes share a pool, so the split is made of the other pair. -/
example :
    ((searchTargetAmount "usdc" [poolRoute "a" "p" 10 (by decide), poolRoute "b" "p" 20 (by decide),
        poolRoute "c" "q" 20 (by decide)] 30 {}).plan.map fun plan =>
          plan.parts.map Candidate.routeId) = some ["a", "c"] := by
  decide +kernel

end SovereignCapital.Split
