import SovereignCapital.Sizing.Kernel

/-! # The limits over the approved notional

A limit below zero is read as zero: nothing is left under it. The kernel keeps the caps that are
not below zero and drops the others, so a limit that is used up to the last unit stops the trade
and one that is overdrawn does not.
-/

namespace SovereignCapital.Sizing

open Ceiling Decimal

def EvidenceFails (requested : ℚ) (c : InstitutionalSizingContract) : Prop :=
  economicViability requested c.economics = false
    ∨ 1 ≤ c.execution.latencyPressure ∨ c.execution.freshnessScore ≤ 0
    ∨ c.execution.simulationConfidence ≤ 0 ∨ c.execution.endpointQuality ≤ 0

/-- The limits over a request: the request itself and what `capSources` collects. -/
def limits (requested : ℚ) (c : InstitutionalSizingContract) : List (String × Option ℚ) :=
  ("requested_notional", some requested) :: capSources requested c

/-- The approved notional keeps to the limits, to the eight decimals it is reported with. -/
structure WithinLimits (requested : ℚ) (c : InstitutionalSizingContract) (d : SizingDecision) :
    Prop where
  nonneg : 0 ≤ d.approvedNotionalUsd
  le : ∀ label value, (label, some value) ∈ limits requested c →
    d.approvedNotionalUsd ≤ pyRound 8 (max 0 value)
  evidence : EvidenceFails requested c → d.approvedNotionalUsd = 0

/-- Whatever decision is made keeps to the limits. -/
def NeverExceeds (c : InstitutionalSizingContract) : Prop :=
  ∀ d requested, c.requestedNotionalUsd = .finite requested →
    calculateInstitutionalSize c = .ok d → WithinLimits requested c d

/-- No limit is overdrawn, or one that is counted leaves nothing. -/
def NoneOverdrawn (requested : ℚ) (c : InstitutionalSizingContract) : Prop :=
  (∀ label value, (label, some value) ∈ limits requested c → 0 ≤ value)
    ∨ ∃ label value, (label, some value) ∈ limits requested c ∧ 0 ≤ value
      ∧ pyRound 8 value = 0

section

variable {requested : ℚ} {c : InstitutionalSizingContract} {d : SizingDecision}

theorem EvidenceFails.limit (h : EvidenceFails requested c) :
    ∃ label, (label, some 0) ∈ limits requested c := by
  rcases h with heconomics | hlatency | hfreshness | hsimulation | hendpoint
  · exact ⟨"expected_economics_viability", by simp [limits, capSources, zeroIf, heconomics]⟩
  · exact ⟨"execution_realism", by simp [limits, capSources, zeroIf, hlatency]⟩
  · exact ⟨"execution_realism", by simp [limits, capSources, zeroIf, hfreshness]⟩
  · exact ⟨"execution_evidence", by simp [limits, capSources, zeroIf, hsimulation]⟩
  · exact ⟨"execution_evidence", by simp [limits, capSources, zeroIf, hendpoint]⟩

theorem approved_nonneg (requested : ℚ) (c : InstitutionalSizingContract) :
    0 ≤ approved requested c :=
  le_max_left _ _

theorem approved_le_limit (hpos : 0 < requested) {label : String} {value : ℚ}
    (hmem : (label, some value) ∈ limits requested c) (hvalue : 0 ≤ value) :
    approved requested c ≤ value := by
  rw [approved_eq hpos]
  apply least_le
  rcases List.mem_cons.1 hmem with hrequest | hsource
  · obtain ⟨-, hsome⟩ := Prod.mk.inj hrequest
    rw [Option.some.inj hsome]
    exact List.mem_cons_self
  · have hcap : (label, value) ∈ caps requested c := mem_caps.2 ⟨hsource, hvalue⟩
    exact List.mem_cons_of_mem _ (List.mem_map.2 ⟨_, hcap, rfl⟩)

theorem approved_mem_limits (hpos : 0 < requested) :
    ∃ label, (label, some (approved requested c)) ∈ limits requested c := by
  rw [approved_eq hpos]
  rcases List.mem_cons.1 (least_mem requested ((caps requested c).map Prod.snd)) with heq | hmem
  · rw [heq]
    exact ⟨_, List.mem_cons_self⟩
  · obtain ⟨cap, hcap, heq⟩ := List.mem_map.1 hmem
    rw [← heq]
    exact ⟨cap.1, List.mem_cons_of_mem _ (mem_caps.1 hcap).1⟩

theorem WithinLimits.of_zero (hzero : d.approvedNotionalUsd = 0) :
    WithinLimits requested c d where
  nonneg := hzero.ge
  le := fun _ _ _ => hzero.le.trans (pyRound_nonneg 8 (le_max_left _ _))
  evidence := fun _ => hzero

theorem WithinLimits.of_nonneg (hpos : 0 < requested)
    (happroved : d.approvedNotionalUsd = pyRound 8 (approved requested c))
    (hnonneg : ∀ label value, (label, some value) ∈ limits requested c → 0 ≤ value) :
    WithinLimits requested c d := by
  have hle : ∀ label value, (label, some value) ∈ limits requested c →
      d.approvedNotionalUsd ≤ pyRound 8 (max 0 value) := by
    intro label value hmem
    have hlimit := approved_le_limit hpos hmem (hnonneg label value hmem)
    rw [happroved]
    exact pyRound_mono 8 (hlimit.trans (le_max_right _ _))
  have hreported : 0 ≤ d.approvedNotionalUsd := by
    rw [happroved]
    exact pyRound_nonneg 8 (approved_nonneg requested c)
  refine ⟨hreported, hle, fun hfails => ?_⟩
  obtain ⟨label, hmem⟩ := hfails.limit
  have hzero := hle label 0 hmem
  rw [max_self, pyRound_zero] at hzero
  exact le_antisymm hzero hreported

/-- An overdrawn limit leaves nothing, so the least limit that is counted is zero as reported. -/
theorem WithinLimits.noneOverdrawn (hpos : 0 < requested)
    (happroved : d.approvedNotionalUsd = pyRound 8 (approved requested c))
    (h : WithinLimits requested c d) : NoneOverdrawn requested c := by
  by_cases hnonneg : ∀ label value, (label, some value) ∈ limits requested c → 0 ≤ value
  · exact Or.inl hnonneg
  · push Not at hnonneg
    obtain ⟨label, value, hmem, hneg⟩ := hnonneg
    have hle := h.le label value hmem
    rw [max_eq_left hneg.le, pyRound_zero] at hle
    have hzero : pyRound 8 (approved requested c) = 0 := by
      rw [← happroved]
      exact le_antisymm hle h.nonneg
    obtain ⟨least, hleast⟩ := approved_mem_limits (c := c) hpos
    exact Or.inr ⟨least, _, hleast, approved_nonneg requested c, hzero⟩

theorem withinLimits_iff (hpos : 0 < requested)
    (happroved : d.approvedNotionalUsd = pyRound 8 (approved requested c)) :
    WithinLimits requested c d ↔ NoneOverdrawn requested c := by
  constructor
  · exact WithinLimits.noneOverdrawn hpos happroved
  · rintro (hnonneg | ⟨label, value, hmem, hvalue, hround⟩)
    · exact WithinLimits.of_nonneg hpos happroved hnonneg
    · have hle := pyRound_mono 8 (approved_le_limit hpos hmem hvalue)
      rw [hround, ← happroved] at hle
      have hreported : 0 ≤ d.approvedNotionalUsd := by
        rw [happroved]
        exact pyRound_nonneg 8 (approved_nonneg requested c)
      exact WithinLimits.of_zero (le_antisymm hle hreported)

end

/-- **The kernel keeps to the limits** exactly on the contracts that are refused, ask for nothing,
or supply no overdrawn limit beside a least limit above zero. -/
theorem neverExceeds_iff (c : InstitutionalSizingContract) :
    NeverExceeds c ↔ ∀ requested, c.requestedNotionalUsd = .finite requested →
      validate c = [] → 0 < requested → NoneOverdrawn requested c := by
  constructor
  · intro h requested hrequested hvalid hpos
    obtain ⟨d, hd, happroved⟩ := decision_of_pos hrequested hvalid hpos
    exact (withinLimits_iff hpos happroved).1 (h d requested hrequested hd)
  · intro h d requested hrequested hd
    obtain ⟨hvalid, -⟩ := valid_of_ok hd
    rcases le_or_gt requested 0 with hnonpos | hpos
    · obtain ⟨d', hd', hzero⟩ := decision_of_nonpos hrequested hvalid hnonpos
      obtain rfl : d' = d := Except.ok.inj (hd'.symm.trans hd)
      exact WithinLimits.of_zero hzero
    · obtain ⟨d', hd', happroved⟩ := decision_of_pos hrequested hvalid hpos
      obtain rfl : d' = d := Except.ok.inj (hd'.symm.trans hd)
      exact (withinLimits_iff hpos happroved).2 (h requested hrequested hvalid hpos)

/-- A request for 1000 USD while the internal prime has reserved 150 USD of its 100 USD. -/
def overdrawnPrime : InstitutionalSizingContract :=
  { strategyFamily := "flash_loan"
    capitalSource := "internal_prime"
    requestedNotionalUsd := .finite 1000
    targetNotionalUsd := none
    baseBorrowAmountWei := 0
    maxBorrowAmountWei := 0
    liquidity := ⟨none, none, none, none, none⟩
    execution := ⟨0, 1, 1, 1⟩
    economics := ⟨some 5, 0, 0, some 1, some 1⟩
    capital :=
      { status := "ok", freshness := "fresh", availableUsd := none, deployableUsd := some 5000
        drawdownBufferUsd := none, primeAvailable := true, primeCapacityUsd := some 100
        primeUtilization := 0, primeReservedUsd := 150, primeFamilyExposureUsd := 0
        familyCapUsd := none }
    wealthGoal := ⟨30, 1, 10, 0, 30⟩
    governance := ⟨true, false, false, false, false, 35 / 100, 45 / 100⟩
    settlement := ⟨false, ""⟩ }

/-- Fifty dollars over the prime's capacity, the whole request is approved. -/
theorem not_neverExceeds_overdrawnPrime :
    (calculateInstitutionalSize overdrawnPrime).toOption.map SizingDecision.approvedNotionalUsd
        = some 1000
      ∧ remainingPrime overdrawnPrime.capital 100 = -50 ∧ ¬ NeverExceeds overdrawnPrime := by
  refine ⟨by decide +kernel, by decide +kernel, fun h => ?_⟩
  have hvalid : validate overdrawnPrime = [] := by decide +kernel
  have hrequested : overdrawnPrime.requestedNotionalUsd = .finite 1000 := rfl
  obtain ⟨d, hd, happroved⟩ := decision_of_pos hrequested hvalid (by norm_num)
  have hwithin := h d 1000 rfl hd
  have hprime : ("internal_prime_remaining_capacity", some (-50 : ℚ))
      ∈ limits 1000 overdrawnPrime := by decide +kernel
  have hle := hwithin.le _ _ hprime
  rw [happroved] at hle
  exact absurd hle (by decide +kernel)

end SovereignCapital.Sizing
