import SovereignCapital.Flashloan.Sizing

/-! # The caps of a flash loan size

A row comes from a point of the curve that is not above the hard cap of its provider. The hard
cap is the least of the caps, raised to the least point of the curve and to one half: the caps
hold where neither raise bites.
-/

namespace SovereignCapital.Flashloan

open Decimal

/-! ## The row that is returned -/

def FromPoint (i : SizingInput) (provider : String) (row : SizeCandidate) : Prop :=
  ∃ previous, ∃ point ∈ safeCurve i, admits i provider point = true ∧
    row = sizeCandidate i provider previous point

variable {i : SizingInput}

theorem fromPoint_of_mem {provider : String} {row : SizeCandidate}
    (h : row ∈ providerCandidates i provider) : FromPoint i provider row := by
  rw [providerCandidates, List.mem_insertionSort, List.mem_filterMap] at h
  obtain ⟨⟨point, previous⟩, hmem, hrow⟩ := h
  have hpoint : point ∈ safeCurve i := (List.of_mem_zip hmem).1
  dsimp only at hrow
  by_cases ha : admits i provider point = true
  · rw [if_pos ha] at hrow
    exact ⟨previous, point, hpoint, ha, (Option.some.inj hrow).symm⟩
  · rw [if_neg ha] at hrow
    cases hrow

theorem bestOfProvider_cases (i : SizingInput) (provider : String) :
    FromPoint i provider (bestOfProvider i provider) ∨
      bestOfProvider i provider = emptyCandidate i provider := by
  unfold bestOfProvider
  cases hrows : providerCandidates i provider with
  | nil => exact .inr rfl
  | cons row rest =>
    refine .inl (fromPoint_of_mem ?_)
    rw [hrows]
    exact List.mem_cons_self

theorem winner_snd (i : SizingInput) : (winner i).2 = bestOfProvider i (winner i).1 := by
  unfold winner
  cases hrows : rankedProviders i with
  | nil => rfl
  | cons first rest =>
    have hmem : first ∈ rankedProviders i := by rw [hrows]; exact List.mem_cons_self
    rw [rankedProviders, List.mem_insertionSort, List.mem_map] at hmem
    obtain ⟨provider, -, rfl⟩ := hmem
    rfl

/-- The row of a provider without candidates is as fragile as can be, and never allowed. -/
theorem fragility_lt_of_allowed (h : allowed i = true) :
    orElse (winner i).2.fragility 1 < 82 / 100 := by
  simp only [allowed, Bool.and_eq_true, decide_eq_true_eq] at h
  obtain ⟨⟨⟨⟨⟨⟨⟨-, -⟩, hfragility⟩, -⟩, -⟩, -⟩, -⟩, -⟩ := h
  exact hfragility

theorem fromPoint_of_allowed (h : allowed i = true) : FromPoint i (winner i).1 (winner i).2 := by
  rw [winner_snd]
  rcases bestOfProvider_cases i (winner i).1 with hpoint | hempty
  · exact hpoint
  · have hlt := fragility_lt_of_allowed h
    rw [winner_snd, hempty] at hlt
    norm_num [emptyCandidate, orElse] at hlt

/-! ## The caps -/

/-- The least of the caps that do not depend on the provider. -/
def sharedCap (i : SizingInput) : ℚ :=
  min (treasuryCap i) (min (wealthCap i) (min (riskCap i) (min (familyCap i) (poolDepthCap i))))

def suppliedCaps (i : SizingInput) (provider : String) : List ℚ :=
  [providerLimit provider, treasuryCap i, wealthCap i, riskCap i, familyCap i, poolDepthCap i]

theorem riskCap_le_one (i : SizingInput) : riskCap i ≤ 1 := by
  unfold riskCap
  dsimp only
  split_ifs <;> norm_num

theorem one_le_providerLimit (provider : String) : 1 ≤ providerLimit provider := by
  unfold providerLimit
  split <;> norm_num

theorem sharedCap_le_providerLimit (i : SizingInput) (provider : String) :
    sharedCap i ≤ providerLimit provider :=
  calc sharedCap i ≤ riskCap i := by simp [sharedCap]
    _ ≤ 1 := riskCap_le_one i
    _ ≤ providerLimit provider := one_le_providerLimit provider

theorem forall_suppliedCaps_iff (i : SizingInput) (provider : String) (x : ℚ) :
    (∀ cap ∈ suppliedCaps i provider, x ≤ cap) ↔ x ≤ sharedCap i := by
  constructor
  · intro h
    simp only [suppliedCaps, List.forall_mem_cons] at h
    obtain ⟨-, htreasury, hwealth, hrisk, hfamily, hpool, -⟩ := h
    exact le_min htreasury (le_min hwealth (le_min hrisk (le_min hfamily hpool)))
  · intro h cap hcap
    simp only [suppliedCaps, List.mem_cons, List.not_mem_nil, or_false] at hcap
    rcases hcap with rfl | rfl | rfl | rfl | rfl | rfl
    · exact h.trans (sharedCap_le_providerLimit i provider)
    all_goals exact h.trans (by simp [sharedCap])

/-- The cap of a provider keeps below the shared cap unless the shared cap is below one half. -/
theorem providerHardCap_le (provider : String) (h : 1 / 2 ≤ sharedCap i) :
    providerHardCap i provider ≤ sharedCap i := by
  have htreasury : max (1 / 2) (treasuryCap i) ≤ treasuryCap i :=
    max_le (h.trans (by simp [sharedCap])) le_rfl
  simp only [providerHardCap, List.foldl_cons, List.foldl_nil, sharedCap, le_min_iff]
  generalize max (1 / 2) (treasuryCap i) = floored at htreasury ⊢
  refine ⟨?_, ?_, ?_, ?_, ?_⟩
  · exact le_trans (by simp) htreasury
  all_goals simp

theorem minSafeCandidate_le {cap : ℚ} (hhalf : 1 / 2 ≤ cap)
    (h : ∃ point ∈ safeCurve i, point.sizeMult ≤ cap) : minSafeCandidate i ≤ cap := by
  obtain ⟨point, hpoint, hsize⟩ := h
  have hmem : max (1 / 2) point.sizeMult ∈
      (safeCurve i).map fun point => max (1 / 2) point.sizeMult := List.mem_map_of_mem hpoint
  unfold minSafeCandidate
  cases hmin : ((safeCurve i).map fun point => max (1 / 2) point.sizeMult).min? with
  | none => exact hhalf
  | some least =>
    have hleast : least ≤ max (1 / 2) point.sizeMult :=
      (List.min?_eq_some_iff.mp hmin).2 _ hmem
    exact hleast.trans (max_le hhalf hsize)

theorem half_le_minSafeCandidate (i : SizingInput) : 1 / 2 ≤ minSafeCandidate i := by
  unfold minSafeCandidate
  cases hmin : ((safeCurve i).map fun point => max (1 / 2) point.sizeMult).min? with
  | none => exact le_rfl
  | some least =>
    have hmem := (List.min?_eq_some_iff.mp hmin).1
    rw [List.mem_map] at hmem
    obtain ⟨point, -, rfl⟩ := hmem
    exact le_max_left _ _

theorem half_le_hardCap (i : SizingInput) (provider : String) :
    1 / 2 ≤ (providerCaps i provider).hardCap :=
  (half_le_minSafeCandidate i).trans (le_max_left _ _)

theorem hardCap_le (provider : String) (hhalf : 1 / 2 ≤ sharedCap i)
    (h : ∃ point ∈ safeCurve i, point.sizeMult ≤ sharedCap i) :
    (providerCaps i provider).hardCap ≤ sharedCap i := by
  refine max_le (minSafeCandidate_le hhalf h) ?_
  calc _ ≤ providerHardCap i provider :=
        (min_le_left _ _).trans ((min_le_left _ _).trans (min_le_left _ _))
    _ ≤ sharedCap i := providerHardCap_le provider hhalf

theorem half_le_borrowMult (i : SizingInput) (provider : String) (point : SafeSizePoint) :
    1 / 2 ≤ borrowMult i provider point := le_max_left _ _

theorem borrowMult_le_hardCap (i : SizingInput) (provider : String) (point : SafeSizePoint) :
    borrowMult i provider point ≤ (providerCaps i provider).hardCap :=
  max_le (half_le_hardCap i provider) (min_le_left _ _)

/-! ## Rounding -/

theorem dec_half : Dec 6 (1 / 2) := ⟨500000, by norm_num⟩

theorem orElse_of_pos {x d : ℚ} (h : 0 < x) : orElse x d = x := if_neg h.ne'

theorem half_le_shown_borrowMult (i : SizingInput) (provider : String) (point : SafeSizePoint) :
    1 / 2 ≤ pyRound 6 (borrowMult i provider point) :=
  dec_half.le_pyRound (half_le_borrowMult i provider point)

/-! ## The condition -/

/-- The size and the borrow multiplier are within every cap of the provider they are for. -/
def WithinCaps (i : SizingInput) : Prop :=
  ∀ cap ∈ suppliedCaps i (chooseFlashloanSize i).selectedProvider,
    (chooseFlashloanSize i).sizeMult ≤ cap ∧ (chooseFlashloanSize i).borrowMult ≤ cap

/-- The caps leave one half, and a point of the curve is within them. -/
def Covered (i : SizingInput) : Prop :=
  1 / 2 ≤ sharedCap i ∧ ∃ point ∈ safeCurve i, point.sizeMult ≤ sharedCap i

/-- Rounding to six places and the allowance of one millionth do not matter: the cap is not
rounded upwards, no point is above it by a millionth or less, and no point that is within it
is shown as zero while the cap is below one. -/
structure Regular (i : SizingInput) : Prop where
  cap : pyRound 6 (sharedCap i) ≤ sharedCap i
  apart : ∀ point ∈ safeCurve i, point.sizeMult ≤ sharedCap i + 1 / 10 ^ 6 →
    point.sizeMult ≤ sharedCap i
  visible : ∀ point ∈ safeCurve i, 0 < point.sizeMult →
    pyRound 6 point.sizeMult ≠ 0 ∨ 1 ≤ sharedCap i

theorem withinCaps_iff (i : SizingInput) :
    WithinCaps i ↔
      orElse (winner i).2.sizeMult 1 ≤ sharedCap i ∧
        orElse (winner i).2.borrowMult 1 ≤ sharedCap i := by
  rw [← forall_suppliedCaps_iff i (winner i).1, ← forall_suppliedCaps_iff i (winner i).1,
    ← forall₂_and]
  exact Iff.rfl

/-- Where the condition holds, an admitted point is within the caps. -/
theorem withinCaps_of_covered (hallowed : allowed i = true) (hregular : Regular i)
    (hcovered : Covered i) : WithinCaps i := by
  obtain ⟨previous, point, hpoint, hadmits, hrow⟩ := fromPoint_of_allowed hallowed
  simp only [admits, Bool.and_eq_true, decide_eq_true_eq] at hadmits
  obtain ⟨hpos, hle⟩ := hadmits
  have hhard := hardCap_le (winner i).1 hcovered.1 hcovered.2
  have hsize : point.sizeMult ≤ sharedCap i :=
    hregular.apart point hpoint (hle.trans (by gcongr))
  rw [withinCaps_iff, hrow]
  constructor
  · have hround : pyRound 6 point.sizeMult ≤ sharedCap i :=
      (pyRound_mono 6 hsize).trans hregular.cap
    change orElse (pyRound 6 point.sizeMult) 1 ≤ sharedCap i
    unfold orElse
    split_ifs with hzero
    · exact (hregular.visible point hpoint hpos).resolve_left (not_not_intro hzero)
    · exact hround
  · have hhalf := half_le_shown_borrowMult i (winner i).1 point
    have hround : pyRound 6 (borrowMult i (winner i).1 point) ≤ sharedCap i :=
      (pyRound_mono 6 ((borrowMult_le_hardCap i _ point).trans hhard)).trans hregular.cap
    change orElse (pyRound 6 (borrowMult i (winner i).1 point)) 1 ≤ sharedCap i
    rw [orElse_of_pos (by linarith)]
    exact hround

/-- A size within the caps needs caps of one half, and a point that is at most half a millionth
above them. -/
theorem WithinCaps.nearly_covered (hallowed : allowed i = true) (h : WithinCaps i) :
    1 / 2 ≤ sharedCap i ∧ ∃ point ∈ safeCurve i, point.sizeMult ≤ sharedCap i + 1 / 2 / 10 ^ 6 := by
  obtain ⟨previous, point, hpoint, -, hrow⟩ := fromPoint_of_allowed hallowed
  rw [withinCaps_iff, hrow] at h
  obtain ⟨hsize, hborrow⟩ := h
  have hhalf : 1 / 2 ≤ sharedCap i := by
    have hshown := half_le_shown_borrowMult i (winner i).1 point
    change orElse (pyRound 6 (borrowMult i (winner i).1 point)) 1 ≤ sharedCap i at hborrow
    rw [orElse_of_pos (by linarith)] at hborrow
    exact hshown.trans hborrow
  refine ⟨hhalf, point, hpoint, ?_⟩
  have hnear : point.sizeMult - pyRound 6 point.sizeMult ≤ 1 / 2 / 10 ^ 6 := by
    have hdist := abs_pyRound_sub 6 point.sizeMult
    rw [abs_sub_comm] at hdist
    exact (le_abs_self _).trans hdist
  change orElse (pyRound 6 point.sizeMult) 1 ≤ sharedCap i at hsize
  by_cases hzero : pyRound 6 point.sizeMult = 0
  · rw [hzero] at hnear
    linarith
  · rw [orElse, if_neg hzero] at hsize
    linarith

/-- A loan with little against it and every cap at one; the curve has one point. -/
def plainLoan (sizeMult : ℚ) : SizingInput where
  strategyFamily := "arb"
  metaStrategyFamily := ""
  routeFamily := ""
  expectedProfitUsd := 100
  gasEstimateUsd := 1
  safeSizeCurve := [⟨sizeMult, 100, 1, 0, 0⟩]
  requestedSizeMult := 1
  routeScore := 1
  reserveDistortion := 0
  providerPriority := ["aave"]
  providerScores := []
  selectedProvider := "aave"
  fallbackProvider := ""
  legStates := []
  routeViable := true
  interferenceProbability := 0
  staleProbability := 0
  copyRisk := 1 / 10
  postOrderingRealizedEdge := 100
  treasury :=
    { governanceRawCap := some 1
      stateRawCap := none
      aggressivenessRawCap := none
      governanceEffectiveCap := some 1
      stateEffectiveCap := none
      aggressivenessEffectiveCap := none
      blocked := false
      governanceOk := some true
      familyTargets := .empty }
  aggressivenessCap := 1
  capitalCommitmentPct := 30
  drawdownPct := 0
  hardStop := false
  killActive := false

theorem sharedCap_plainLoan_one : sharedCap (plainLoan 1) = 1 := by decide +kernel

theorem regular_plainLoan_one : Regular (plainLoan 1) where
  cap := by decide +kernel
  apart := by decide +kernel
  visible := by
    intro point _ _
    exact .inr sharedCap_plainLoan_one.ge

example : treasuryCap (plainLoan 2) = 1 := by decide +kernel

end SovereignCapital.Flashloan
