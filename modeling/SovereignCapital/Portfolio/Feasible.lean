import SovereignCapital.Portfolio.Optimizer

/-! # A selection is feasible and maximal

The running totals of the loop are those of the picked candidates, so a candidate is refused
for what the picked ones use up and for nothing else. The picked ones keep every limit, and
when the loop stops early each candidate left is refused.
-/

namespace SovereignCapital.Portfolio

/-! ## Totals of a selection -/

def totalGas (picked : List Candidate) : ℤ := (picked.map Candidate.gasCost).sum

def totalCapital (picked : List Candidate) : ℤ := (picked.map Candidate.capitalRequired).sum

def ofFamily (family : String) (picked : List Candidate) : List Candidate :=
  picked.filter fun c => c.family = family

def ofEngine (engine : String) (picked : List Candidate) : List Candidate :=
  picked.filter fun c => c.engineType = engine

/-- The selection keeps every limit. A negative budget or cap allows nothing, as zero does. -/
structure Feasible (limits : Limits) (picked : List Candidate) : Prop where
  ev : ∀ c ∈ picked, 0 < c.ev
  gas : (totalGas picked : ℚ) ≤ max 0 limits.gasBudgetRemainingWei
  capital : ∀ limit ∈ limits.capitalLimit, totalCapital picked ≤ limit
  familyCapital : ∀ family, ∀ limit ∈ limits.familyCapitalLimits.get? family,
    totalCapital (ofFamily family picked) ≤ limit
  familyCount : ∀ family, ∀ cap ∈ limits.familyCountCaps.get? family,
    ((ofFamily family picked).length : ℤ) ≤ cap
  engineCount : ∀ engine, engine ≠ "" → ∀ cap ∈ limits.engineCaps.get? engine,
    ((ofEngine engine picked).length : ℤ) ≤ max 0 (coerceInt cap 0)
  conflicts : picked.Pairwise fun a b => ∀ k ∈ a.conflictKeys, k ∉ b.conflictKeys
  count : (picked.length : ℤ) ≤ max 0 limits.maxTrades

/-- Why a candidate cannot be added to a selection. -/
inductive Blocked (limits : Limits) (picked : List Candidate) (c : Candidate) : Prop
  | ev (h : c.ev ≤ 0)
  | gas (h : limits.gasBudgetRemainingWei < totalGas picked + c.gasCost)
  /-- capital is limited and the candidate does not say how much it takes -/
  | capitalUnknown (limited : limits.capitalTruthRequired = true) (h : c.capitalRequired ≤ 0)
  | capital (limit : ℤ) (limited : limit ∈ limits.capitalLimit)
      (h : limit < totalCapital picked + c.capitalRequired)
  | familyCapital (limit : ℤ) (limited : limit ∈ limits.familyCapitalLimits.get? c.family)
      (h : limit < totalCapital (ofFamily c.family picked) + c.capitalRequired)
  | familyCount (cap : ℤ) (capped : cap ∈ limits.familyCountCaps.get? c.family)
      (h : cap < (ofFamily c.family picked).length + 1)
  | engineCount (cap : Option ℚ) (named : c.engineType ≠ "")
      (capped : cap ∈ limits.engineCaps.get? c.engineType)
      (h : coerceInt cap 0 < (ofEngine c.engineType picked).length + 1)
  | conflict (p : Candidate) (mem : p ∈ picked) (k : String) (left : k ∈ p.conflictKeys)
      (right : k ∈ c.conflictKeys)
  /-- adjusted for what was picked, the candidate is worth nothing -/
  | adjusted (h : baseAdjustedEv limits (picked.map Candidate.correlationKey) c ≤ 0)

/-! ## Limits -/

theorem canonicalFamilyCapitalLimits_spec (limits : Dict String (Option ℚ)) (family : String) :
    ∀ limit ∈ (canonicalFamilyCapitalLimits limits).get? family, family ≠ "" ∧ 0 ≤ limit := by
  have hfold : ∀ (entries : List (String × Option ℚ)) (out : Dict String ℤ),
      (∀ limit ∈ out.get? family, family ≠ "" ∧ 0 ≤ limit) →
      ∀ limit ∈ (entries.foldl addFamilyLimit out).get? family, family ≠ "" ∧ 0 ≤ limit := by
    intro entries
    induction entries with
    | nil => exact fun out h => h
    | cons entry entries ih =>
      intro out h
      apply ih
      intro limit hlimit
      simp only [addFamilyLimit] at hlimit
      split at hlimit
      · exact h limit hlimit
      · rename_i hnamed
        simp only [Dict.get?_set] at hlimit
        by_cases hfamily : canonicalFamilyName entry.1 = family
        · refine ⟨hfamily ▸ hnamed, ?_⟩
          subst hfamily
          simp only [if_true] at hlimit
          cases hlimit
          cases hold : out.get? (canonicalFamilyName entry.1) with
          | none => exact le_max_left _ _
          | some existing => exact le_min (h existing hold).2 (le_max_left _ _)
        · rw [if_neg (fun h => hfamily h.symm)] at hlimit
          exact h limit hlimit
  exact hfold limits.entries Dict.empty (fun limit h => by cases h)

theorem capitalLimit_nonneg {limits : Limits} {limit : ℤ} (h : limit ∈ limits.capitalLimit) :
    0 ≤ limit := by
  unfold Limits.capitalLimit at h
  obtain ⟨budget, -, rfl⟩ := Option.map_eq_some_iff.1 h
  exact le_max_left _ _

theorem baseAdjustedEv_congr (limits : Limits) {used used' : List String} {c : Candidate}
    (h : c.correlationKey ≠ "" → (c.correlationKey ∈ used ↔ c.correlationKey ∈ used')) :
    baseAdjustedEv limits used c = baseAdjustedEv limits used' c := by
  have hused : (c.correlationKey ≠ "" ∧ c.correlationKey ∈ used)
      ↔ (c.correlationKey ≠ "" ∧ c.correlationKey ∈ used') := and_congr_right h
  unfold baseAdjustedEv
  simp only [hused]

/-! ## The running totals -/

structure Tallies (chosen : Chosen) : Prop where
  conflicts : ∀ k, k ∈ chosen.usedConflicts ↔ ∃ p ∈ chosen.picked, k ∈ p.conflictKeys
  gas : chosen.usedGas = totalGas chosen.picked
  capital : chosen.usedCapital = totalCapital chosen.picked
  correlation : ∀ k, k ≠ "" →
    (k ∈ chosen.usedCorrelation ↔ k ∈ chosen.picked.map Candidate.correlationKey)
  families : ∀ family, family ≠ "" →
    chosen.familyCounts.getD family 0 = (ofFamily family chosen.picked).length
  engines : ∀ engine, engine ≠ "" →
    chosen.engineCounts.getD engine 0 = (ofEngine engine chosen.picked).length
  familyCapital : ∀ family, family ≠ "" →
    chosen.familyCapitalUsed.getD family 0 = totalCapital (ofFamily family chosen.picked)

theorem tallies_none : Tallies Chosen.none := by
  constructor <;> simp [Chosen.none, totalGas, totalCapital, ofFamily, ofEngine, Dict.getD]

theorem totalGas_append (picked : List Candidate) (c : Candidate) :
    totalGas (picked ++ [c]) = totalGas picked + c.gasCost := by
  simp [totalGas]

theorem totalCapital_append (picked : List Candidate) (c : Candidate) :
    totalCapital (picked ++ [c]) = totalCapital picked + c.capitalRequired := by
  simp [totalCapital]

theorem ofFamily_append (family : String) (picked : List Candidate) (c : Candidate) :
    ofFamily family (picked ++ [c])
      = if c.family = family then ofFamily family picked ++ [c] else ofFamily family picked := by
  unfold ofFamily
  rw [List.filter_append]
  by_cases h : c.family = family
  · simp [h]
  · simp [h]

theorem ofEngine_append (engine : String) (picked : List Candidate) (c : Candidate) :
    ofEngine engine (picked ++ [c])
      = if c.engineType = engine then ofEngine engine picked ++ [c] else ofEngine engine picked := by
  unfold ofEngine
  rw [List.filter_append]
  by_cases h : c.engineType = engine
  · simp [h]
  · simp [h]

theorem pick_picked (chosen : Chosen) (c : Candidate) :
    (chosen.pick c).picked = chosen.picked ++ [c] := rfl

theorem pick_familyCounts (chosen : Chosen) (c : Candidate) :
    (chosen.pick c).familyCounts = if c.family = "" then chosen.familyCounts
      else chosen.familyCounts.set c.family (chosen.familyCounts.getD c.family 0 + 1) := by
  simp only [Chosen.pick]

theorem pick_engineCounts (chosen : Chosen) (c : Candidate) :
    (chosen.pick c).engineCounts = if c.engineType = "" then chosen.engineCounts
      else chosen.engineCounts.set c.engineType
        (chosen.engineCounts.getD c.engineType 0 + 1) := by
  simp only [Chosen.pick]

theorem pick_familyCapitalUsed (chosen : Chosen) (c : Candidate) :
    (chosen.pick c).familyCapitalUsed = if c.family = "" then chosen.familyCapitalUsed
      else chosen.familyCapitalUsed.set c.family
        (chosen.familyCapitalUsed.getD c.family 0 + c.capitalRequired) := by
  simp only [Chosen.pick]

/-- **Picking a candidate keeps the totals.** -/
theorem Tallies.pick {chosen : Chosen} (h : Tallies chosen) (c : Candidate) :
    Tallies (chosen.pick c) where
  conflicts k := by
    show k ∈ chosen.usedConflicts ++ c.conflictKeys ↔ ∃ p ∈ chosen.picked ++ [c], k ∈ p.conflictKeys
    rw [List.mem_append, h.conflicts k]
    constructor
    · rintro (⟨p, hp, hk⟩ | hk)
      · exact ⟨p, List.mem_append_left _ hp, hk⟩
      · exact ⟨c, by simp, hk⟩
    · rintro ⟨p, hp, hk⟩
      rcases List.mem_append.1 hp with hold | hnew
      · exact Or.inl ⟨p, hold, hk⟩
      · rw [List.mem_singleton.1 hnew] at hk
        exact Or.inr hk
  gas := by
    show chosen.usedGas + c.gasCost = totalGas (chosen.picked ++ [c])
    rw [totalGas_append, h.gas]
  capital := by
    show chosen.usedCapital + c.capitalRequired = totalCapital (chosen.picked ++ [c])
    rw [totalCapital_append, h.capital]
  correlation k hk := by
    show k ∈ (if c.correlationKey = "" then chosen.usedCorrelation
        else chosen.usedCorrelation ++ [c.correlationKey])
      ↔ k ∈ (chosen.picked ++ [c]).map Candidate.correlationKey
    have hold := h.correlation k hk
    rw [List.map_append, List.mem_append, ← hold]
    by_cases hkey : c.correlationKey = ""
    · rw [if_pos hkey]
      simp [hkey, hk]
    · rw [if_neg hkey, List.mem_append]
      simp
  families family hfamily := by
    have hold := h.families family hfamily
    rw [pick_familyCounts, pick_picked, ofFamily_append]
    by_cases hsame : c.family = family
    · rw [if_neg (by rw [hsame]; exact hfamily), hsame, Dict.getD_set, if_pos rfl, if_pos rfl, hold]
      simp
    · rw [if_neg hsame, ← hold]
      split
      · rfl
      · rw [Dict.getD_set, if_neg (fun h => hsame h.symm)]
  engines engine hengine := by
    have hold := h.engines engine hengine
    rw [pick_engineCounts, pick_picked, ofEngine_append]
    by_cases hsame : c.engineType = engine
    · rw [if_neg (by rw [hsame]; exact hengine), hsame, Dict.getD_set, if_pos rfl, if_pos rfl, hold]
      simp
    · rw [if_neg hsame, ← hold]
      split
      · rfl
      · rw [Dict.getD_set, if_neg (fun h => hsame h.symm)]
  familyCapital family hfamily := by
    have hold := h.familyCapital family hfamily
    rw [pick_familyCapitalUsed, pick_picked, ofFamily_append]
    by_cases hsame : c.family = family
    · rw [if_neg (by rw [hsame]; exact hfamily), hsame, Dict.getD_set, if_pos rfl, if_pos rfl, hold,
        totalCapital_append]
    · rw [if_neg hsame, ← hold]
      split
      · rfl
      · rw [Dict.getD_set, if_neg (fun h => hsame h.symm)]

/-! ## Refusals -/

section Refusal

variable {limits : Limits} {chosen : Chosen} {c : Candidate}

theorem Tallies.adjusted (h : Tallies chosen) (limits : Limits) (c : Candidate) :
    baseAdjustedEv limits chosen.usedCorrelation c
      = baseAdjustedEv limits (chosen.picked.map Candidate.correlationKey) c :=
  baseAdjustedEv_congr limits (h.correlation c.correlationKey)

/-- The reasons of a refusal, in the order of the checks. -/
theorem admissible_eq_none_iff :
    admissible limits chosen c = none
      ↔ c.ev ≤ 0
        ∨ limits.gasBudgetRemainingWei < chosen.usedGas + c.gasCost
        ∨ (limits.capitalTruthRequired = true ∧ c.capitalRequired ≤ 0)
        ∨ (∃ limit ∈ limits.capitalLimit, 0 < c.capitalRequired
          ∧ limit < chosen.usedCapital + c.capitalRequired)
        ∨ (c.family ≠ "" ∧ 0 < c.capitalRequired
          ∧ ∃ limit ∈ limits.familyCapitalLimits.get? c.family,
            limit < chosen.familyCapitalUsed.getD c.family 0 + c.capitalRequired)
        ∨ (c.family ≠ "" ∧ ∃ cap ∈ limits.familyCountCaps.get? c.family,
          cap ≤ chosen.familyCounts.getD c.family 0)
        ∨ (c.engineType ≠ "" ∧ ∃ cap ∈ limits.engineCaps.get? c.engineType,
          coerceInt cap 0 ≤ chosen.engineCounts.getD c.engineType 0)
        ∨ (∃ k ∈ c.conflictKeys, k ∈ chosen.usedConflicts)
        ∨ baseAdjustedEv limits chosen.usedCorrelation c ≤ 0 := by
  have hguard : ∀ (p : Prop) [Decidable p] (rest : Option ℤ),
      (if p then none else rest) = none ↔ p ∨ rest = none := by
    intro p _ rest
    by_cases hp : p
    · simp [hp]
    · simp [hp]
  unfold admissible
  simp only [hguard, reduceCtorEq, or_false]

theorem Tallies.blocked (h : Tallies chosen) (hnone : admissible limits chosen c = none) :
    Blocked limits chosen.picked c := by
  rcases admissible_eq_none_iff.1 hnone with hev | hgas | ⟨hlimited, hunknown⟩
    | ⟨limit, hlimit, -, hover⟩ | ⟨hnamed, -, limit, hlimit, hover⟩ | ⟨hnamed, cap, hcap, hfull⟩
    | ⟨hnamed, cap, hcap, hfull⟩ | ⟨k, hk, hused⟩ | hadjusted
  · exact .ev hev
  · rw [h.gas] at hgas
    exact .gas hgas
  · exact .capitalUnknown hlimited hunknown
  · rw [h.capital] at hover
    exact .capital limit hlimit hover
  · rw [h.familyCapital c.family hnamed] at hover
    exact .familyCapital limit hlimit hover
  · rw [h.families c.family hnamed] at hfull
    exact .familyCount cap hcap (by omega)
  · rw [h.engines c.engineType hnamed] at hfull
    exact .engineCount cap hnamed hcap (by omega)
  · obtain ⟨p, hp, hpk⟩ := (h.conflicts k).1 hused
    exact .conflict p hp k hpk hk
  · rw [h.adjusted] at hadjusted
    exact .adjusted hadjusted

theorem Tallies.not_blocked (h : Tallies chosen) {adjustedEv : ℤ}
    (hsome : admissible limits chosen c = some adjustedEv) : ¬ Blocked limits chosen.picked c := by
  have hopen := mt admissible_eq_none_iff.2 (hsome ▸ Option.some_ne_none adjustedEv)
  simp only [not_or] at hopen
  obtain ⟨hev, hgas, hunknown, hcapital, hfamily, hfamilyCount, hengineCount, hconflict,
    hadjusted⟩ := hopen
  intro hblocked
  -- Where capital is limited the candidate says how much it takes.
  have hpositive : limits.capitalTruthRequired = true → 0 < c.capitalRequired :=
    fun hlimited => not_le.1 fun hle => hunknown ⟨hlimited, hle⟩
  cases hblocked with
  | ev h' => exact hev h'
  | gas h' =>
    rw [← h.gas] at h'
    exact hgas h'
  | capitalUnknown limited h' => exact hunknown ⟨limited, h'⟩
  | capital limit limited h' =>
    have hlimited : limits.capitalTruthRequired = true := by
      unfold Limits.capitalTruthRequired
      rw [limited]
      rfl
    rw [← h.capital] at h'
    exact hcapital ⟨limit, limited, hpositive hlimited, h'⟩
  | familyCapital limit limited h' =>
    obtain ⟨hnamed, -⟩ := canonicalFamilyCapitalLimits_spec _ _ limit limited
    have hlimited : limits.capitalTruthRequired = true := by
      unfold Limits.capitalTruthRequired
      have hmem := (limits.familyCapitalLimits.mem_entries_iff).2 limited
      cases hentries : limits.familyCapitalLimits.entries with
      | nil =>
        rw [hentries] at hmem
        cases hmem
      | cons => simp
    rw [← h.familyCapital c.family hnamed] at h'
    exact hfamily ⟨hnamed, hpositive hlimited, limit, limited, h'⟩
  | familyCount cap capped h' =>
    obtain ⟨hnamed, -⟩ := canonicalFamilyCapitalLimits_spec _ _ cap capped
    rw [← h.families c.family hnamed] at h'
    exact hfamilyCount ⟨hnamed, cap, capped, by omega⟩
  | engineCount cap named capped h' =>
    rw [← h.engines c.engineType named] at h'
    exact hengineCount ⟨named, cap, capped, by omega⟩
  | conflict p mem k left right => exact hconflict ⟨k, right, (h.conflicts k).2 ⟨p, mem, left⟩⟩
  | adjusted h' =>
    rw [← h.adjusted] at h'
    exact hadjusted h'

end Refusal

/-! ## The loop -/

theorem feasible_nil (limits : Limits) : Feasible limits [] where
  ev c hc := by cases hc
  gas := le_max_left _ _
  capital limit hlimit := capitalLimit_nonneg hlimit
  familyCapital family limit hlimit := (canonicalFamilyCapitalLimits_spec _ _ limit hlimit).2
  familyCount family cap hcap := (canonicalFamilyCapitalLimits_spec _ _ cap hcap).2
  engineCount engine _ cap _ := le_max_left _ _
  conflicts := List.Pairwise.nil
  count := le_max_left _ _

theorem Feasible.add {limits : Limits} {picked : List Candidate} (h : Feasible limits picked)
    {c : Candidate} (hfree : ¬ Blocked limits picked c)
    (hopen : (picked.length : ℤ) < limits.maxTrades) : Feasible limits (picked ++ [c]) where
  ev p hp := by
    rcases List.mem_append.1 hp with hold | hnew
    · exact h.ev p hold
    · rw [List.mem_singleton.1 hnew]
      exact not_le.1 fun hle => hfree (.ev hle)
  gas := by
    have hfits := not_lt.1 fun hlt => hfree (.gas hlt)
    rw [totalGas_append]
    push_cast
    exact hfits.trans (le_max_right _ _)
  capital limit hlimit := by
    rw [totalCapital_append]
    exact not_lt.1 fun hlt => hfree (.capital limit hlimit hlt)
  familyCapital family limit hlimit := by
    rw [ofFamily_append]
    split
    · rename_i hsame
      subst hsame
      rw [totalCapital_append]
      exact not_lt.1 fun hlt => hfree (.familyCapital limit hlimit hlt)
    · exact h.familyCapital family limit hlimit
  familyCount family cap hcap := by
    rw [ofFamily_append]
    split
    · rename_i hsame
      subst hsame
      rw [List.length_append]
      push_cast
      exact not_lt.1 fun hlt => hfree (.familyCount cap hcap hlt)
    · exact h.familyCount family cap hcap
  engineCount engine hengine cap hcap := by
    rw [ofEngine_append]
    split
    · rename_i hsame
      subst hsame
      rw [List.length_append]
      push_cast
      exact (not_lt.1 fun hlt => hfree (.engineCount cap hengine hcap hlt)).trans (le_max_right _ _)
    · exact h.engineCount engine hengine cap hcap
  conflicts := by
    rw [List.pairwise_append]
    refine ⟨h.conflicts, List.pairwise_singleton _ _, ?_⟩
    intro p hp c' hc' k hk hk'
    rw [List.mem_singleton.1 hc'] at hk'
    exact hfree (.conflict p hp k hk hk')
  count := by
    rw [List.length_append]
    have hmax : limits.maxTrades ≤ max 0 limits.maxTrades := le_max_right _ _
    simp only [List.length_singleton]
    push_cast
    omega

/-- The loop keeps its totals, a feasible selection, and every candidate on one side or the
other. -/
structure Round (limits : Limits) (candidates : List Candidate) (chosen : Chosen)
    (remaining : List Candidate) : Prop where
  tallies : Tallies chosen
  feasible : Feasible limits chosen.picked
  perm : (chosen.picked ++ remaining).Perm candidates

section Loop

variable {κ : Type} {score : Chosen → Candidate → ℤ → κ} {beats : κ → κ → Bool} {limits : Limits}
  {candidates : List Candidate}

theorem round_step (chosen : Chosen) (remaining : List Candidate) (i : ℕ) (c : Candidate)
    (h : Round limits candidates chosen remaining)
    (hfull : (rules score beats limits).full chosen = false) (hc : remaining[i]? = some c)
    (hscore : ((rules score beats limits).score chosen c).isSome = true) :
    Round limits candidates (chosen.pick c) (remaining.eraseIdx i) := by
  have hopen : (chosen.picked.length : ℤ) < limits.maxTrades := by
    simpa [rules] using hfull
  have hadmitted : (admissible limits chosen c).isSome = true := by
    simpa [rules] using hscore
  obtain ⟨adjustedEv, hsome⟩ := Option.isSome_iff_exists.1 hadmitted
  exact
    { tallies := h.tallies.pick c
      feasible := h.feasible.add (h.tallies.not_blocked hsome) hopen
      perm := (Greedy.perm_taken hc chosen.picked).trans h.perm }

/-- The loop starts with gas to spend and a trade to make, and ends where it is full or nothing
left is admitted. -/
theorem selectPortfolioWith_round (score : Chosen → Candidate → ℤ → κ) (beats : κ → κ → Bool)
    (limits : Limits) (candidates : List Candidate) :
    selectPortfolioWith score beats limits candidates = []
        ∧ (limits.maxTrades ≤ 0 ∨ limits.gasBudgetRemainingWei ≤ 0)
      ∨ ∃ chosen remaining, selectPortfolioWith score beats limits candidates = chosen.picked
        ∧ Round limits candidates chosen remaining
        ∧ (limits.maxTrades ≤ chosen.picked.length
          ∨ ∀ c ∈ remaining, admissible limits chosen c = none) := by
  unfold selectPortfolioWith
  by_cases hclosed : limits.maxTrades ≤ 0 ∨ limits.gasBudgetRemainingWei ≤ 0
  · exact Or.inl ⟨if_pos hclosed, hclosed⟩
  · rw [if_neg hclosed]
    have hsorted : (candidates.insertionSort standsBefore).Perm candidates :=
      List.perm_insertionSort standsBefore candidates
    have hstart : Round limits candidates Chosen.none (candidates.insertionSort standsBefore) :=
      ⟨tallies_none, feasible_nil limits, hsorted⟩
    generalize candidates.insertionSort standsBefore = ordered at hstart
    have hround := Greedy.fill_invariant (rules score beats limits) round_step ordered.length
      Chosen.none ordered hstart
    have hstops := Greedy.fill_stops (rules score beats limits) ordered.length Chosen.none ordered
      le_rfl
    rw [← Greedy.Rules.select] at hround hstops
    generalize (rules score beats limits).select Chosen.none ordered = result at hround hstops
    refine Or.inr ⟨result.1, result.2, rfl, hround, ?_⟩
    rcases hstops with hfull | hnone
    · exact Or.inl (by simpa [rules] using hfull)
    · exact Or.inr fun c hc => by simpa [rules] using hnone c hc

theorem selectPortfolioWith_feasible (score : Chosen → Candidate → ℤ → κ) (beats : κ → κ → Bool)
    (limits : Limits) (candidates : List Candidate) :
    Feasible limits (selectPortfolioWith score beats limits candidates) := by
  rcases selectPortfolioWith_round score beats limits candidates with
    ⟨hnil, -⟩ | ⟨chosen, remaining, hpicked, hround, -⟩
  · rw [hnil]
    exact feasible_nil limits
  · rw [hpicked]
    exact hround.feasible

/-- **Feasible and maximal.** The selection keeps every limit and is made of candidates at
different places of the list; when there is gas to spend and it stops short of the allowed
number of trades, every candidate left is blocked by it. -/
theorem selectPortfolioWith_feasible_maximal (score : Chosen → Candidate → ℤ → κ)
    (beats : κ → κ → Bool) (limits : Limits) (candidates : List Candidate) :
    Feasible limits (selectPortfolioWith score beats limits candidates)
      ∧ ∃ remaining,
        (selectPortfolioWith score beats limits candidates ++ remaining).Perm candidates
          ∧ (0 < limits.gasBudgetRemainingWei →
            ((selectPortfolioWith score beats limits candidates).length : ℤ) < limits.maxTrades →
            ∀ c ∈ remaining,
              Blocked limits (selectPortfolioWith score beats limits candidates) c) := by
  refine ⟨selectPortfolioWith_feasible score beats limits candidates, ?_⟩
  rcases selectPortfolioWith_round score beats limits candidates with
    ⟨hnil, hclosed⟩ | ⟨chosen, remaining, hpicked, hround, hstops⟩
  · rw [hnil]
    refine ⟨candidates, List.Perm.refl _, ?_⟩
    intro hgas hshort
    rcases hclosed with hnone | hspent
    · exact absurd hshort (not_lt.2 hnone)
    · exact absurd hgas (not_lt.2 hspent)
  · rw [hpicked]
    refine ⟨remaining, hround.perm, ?_⟩
    intro _ hshort c hc
    rcases hstops with hfull | hnone
    · -- The loop did not stop because the selection is full.
      exact absurd hshort (not_lt.2 hfull)
    · exact hround.tallies.blocked (hnone c hc)

end Loop

def freeTrade : Candidate where
  oppId := "opp"
  routeId := "route"
  evWei := some 10
  gasCostWei := some 0
  conflictKeys := []
  correlationKey := ""
  strategyFamily := ""
  engineType := ""
  chain := ""
  tokenKeys := []
  venueKeys := []
  capitalRequiredWei := none
  pathId := ""
  pSuccess := 1
  qualityEdgeWei := none
  routeQualityScore := 1

/-- One trade, without gas to spend. -/
def spentLimits : Limits where
  gasBudgetRemainingWei := 0
  maxTrades := 1
  familyCaps := Dict.empty
  engineCaps := Dict.empty
  covariancePenalties := Dict.empty
  pathPenalties := Dict.empty
  capitalBudgetRemainingWei := none
  familyCapitalRemainingWei := Dict.empty

/-- Without gas to spend nothing is selected, although the trade needs none. -/
theorem selectPortfolio_spent :
    selectPortfolio spentLimits [freeTrade] = []
      ∧ (0 : ℤ) < spentLimits.maxTrades ∧ ¬ Blocked spentLimits [] freeTrade := by
  refine ⟨rfl, by decide, ?_⟩
  have hadmitted : admissible spentLimits Chosen.none freeTrade = some 10 := by decide +kernel
  exact tallies_none.not_blocked hadmitted

end SovereignCapital.Portfolio
