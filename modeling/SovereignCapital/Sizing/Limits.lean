import SovereignCapital.Sizing.Kernel

/-! # Limits of a contract

A limit is a field of the contract that some of the kernel's caps are derived from. Another value
of it changes these caps only; a smaller value that is not lost on the way lowers them.
-/

namespace SovereignCapital.Sizing

open Decimal

inductive Limit where
  | available
  | deployable
  | familyCap
  | familyConcentration
  | liquidityAvailable
  | depth
  | depthCap
  | providerCapacity
  | routeCapacity
  | primeCapacity
  | maxDrawdown
  | maxDeployable
  | commitment
  | aggressiveness

namespace Limit

def labels : Limit → List String
  | available => []
  | deployable => ["capital_engine_deployable_pct", "capital_after_drawdown_buffer"]
  | familyCap => ["family_cap"]
  | familyConcentration => []
  | liquidityAvailable => ["liquidity_available"]
  | depth => ["pool_depth"]
  | depthCap => ["pool_depth_cap"]
  | providerCapacity => ["provider_capacity"]
  | routeCapacity => ["route_capacity"]
  | primeCapacity => ["internal_prime_remaining_capacity"]
  | maxDrawdown => []
  | maxDeployable => ["capital_engine_deployable_pct"]
  | commitment => ["wealth_goal_aggressiveness"]
  | aggressiveness => ["wealth_goal_aggressiveness"]

def value (c : InstitutionalSizingContract) : Limit → Option ℚ
  | available => c.capital.availableUsd
  | deployable => c.capital.deployableUsd
  | familyCap => c.capital.familyCapUsd
  | familyConcentration => some c.governance.maxFamilyConcentration
  | liquidityAvailable => c.liquidity.availableUsd
  | depth => c.liquidity.depthUsd
  | depthCap => c.liquidity.poolDepthCapUsd
  | providerCapacity => c.liquidity.providerCapacityUsd
  | routeCapacity => c.liquidity.routeCapacityUsd
  | primeCapacity => c.capital.primeCapacityUsd
  | maxDrawdown => some c.wealthGoal.maxDrawdownPct
  | maxDeployable => some c.governance.maxDeployablePct
  | commitment => some c.wealthGoal.capitalCommitmentPct
  | aggressiveness => some c.wealthGoal.aggressivenessCap

/-- The limit stands: it is not higher than it was, and what is left of the prime capacity is not
below zero. -/
def Stands (l : Limit) (c c' : InstitutionalSizingContract) : Prop :=
  (∃ q q', l.value c = some q ∧ l.value c' = some q' ∧ 0 ≤ q' ∧ q' ≤ q)
    ∧ (∀ capacity, l = .primeCapacity → c'.capital.primeCapacityUsd = some capacity →
      0 ≤ remainingPrime c'.capital capacity)

/-- The limit does not bind: the caps derived from it are no lower than the request or another
cap. -/
def Slack (l : Limit) (requested : ℚ) (c c' : InstitutionalSizingContract) : Prop :=
  ∀ cap ∈ caps requested c, cap.1 ∈ l.labels →
    ∃ cap' ∈ ("requested_notional", requested) :: caps requested c',
      pyRound 8 cap'.2 ≤ pyRound 8 cap.2

end Limit

/-- What another value of a limit changes in the contract, and what the old one was if the
contract is valid with the new one. -/
inductive Change (c : InstitutionalSizingContract) :
    Limit → InstitutionalSizingContract → Prop where
  | none (l : Limit) : Change c l c
  | available (r : Option ℚ) :
      Change c .available { c with capital := { c.capital with availableUsd := r } }
  | deployable (r : Option ℚ) (h : c.capital.deployableUsd ≠ .none) :
      Change c .deployable { c with capital := { c.capital with deployableUsd := r } }
  | familyCap (r : Option ℚ) :
      Change c .familyCap { c with capital := { c.capital with familyCapUsd := r } }
  | familyConcentration (q : ℚ) :
      Change c .familyConcentration
        { c with governance := { c.governance with maxFamilyConcentration := q } }
  | liquidityAvailable (r : Option ℚ) :
      Change c .liquidityAvailable
        { c with liquidity := { c.liquidity with availableUsd := r } }
  | depth (r : Option ℚ) :
      Change c .depth { c with liquidity := { c.liquidity with depthUsd := r } }
  | depthCap (r : Option ℚ) :
      Change c .depthCap { c with liquidity := { c.liquidity with poolDepthCapUsd := r } }
  | providerCapacity (r : Option ℚ) :
      Change c .providerCapacity
        { c with liquidity := { c.liquidity with providerCapacityUsd := r } }
  | routeCapacity (r : Option ℚ) :
      Change c .routeCapacity
        { c with liquidity := { c.liquidity with routeCapacityUsd := r } }
  | primeCapacity (r : Option ℚ) (h : c.capital.primeCapacityUsd ≠ .none) :
      Change c .primeCapacity { c with capital := { c.capital with primeCapacityUsd := r } }
  | maxDrawdown (q : ℚ) (h : 0 ≤ c.wealthGoal.maxDrawdownPct) :
      Change c .maxDrawdown { c with wealthGoal := { c.wealthGoal with maxDrawdownPct := q } }
  | maxDeployable (q : ℚ) :
      Change c .maxDeployable
        { c with governance := { c.governance with maxDeployablePct := q } }
  | commitment (q : ℚ) :
      Change c .commitment
        { c with wealthGoal := { c.wealthGoal with capitalCommitmentPct := q } }
  | aggressiveness (q : ℚ) (h : 0 < c.wealthGoal.aggressivenessCap) :
      Change c .aggressiveness
        { c with wealthGoal := { c.wealthGoal with aggressivenessCap := q } }

theorem wealthCap_nonneg {requested : ℚ} (hrequested : 0 ≤ requested)
    (goal : WealthGoalSizingContext) : 0 ≤ wealthCap requested goal :=
  mul_nonneg (mul_nonneg hrequested (le_max_left _ _)) (le_max_of_le_left (by norm_num))

namespace Change

variable {c c' : InstitutionalSizingContract} {l : Limit} {requested : ℚ}

theorem requested_eq (h : Change c l c') : c'.requestedNotionalUsd = c.requestedNotionalUsd := by
  cases h <;> rfl

/-- A contract that is rejected stays rejected. -/
theorem valid (h : Change c l c') (hvalid : validate c' = []) : validate c = [] := by
  simp only [validate, List.append_eq_nil_iff, errorIf_eq_nil] at hvalid ⊢
  obtain ⟨⟨⟨⟨⟨⟨hidentity, hcapital⟩, hgovernance⟩, heconomics⟩, hgoal⟩, hprime⟩, hsettled⟩ := hvalid
  cases h with
  | deployable r h =>
    simp only [validateCapitalAuthority, List.append_eq_nil_iff, errorIf_eq_nil] at hcapital ⊢
    exact ⟨⟨⟨⟨⟨⟨hidentity, hcapital.1, h⟩, hgovernance⟩, heconomics⟩, hgoal⟩, hprime⟩, hsettled⟩
  | primeCapacity r h =>
    simp only [validatePrimeAuthority, List.append_eq_nil_iff, errorIf_eq_nil] at hprime ⊢
    exact ⟨⟨⟨⟨⟨⟨hidentity, hcapital⟩, hgovernance⟩, heconomics⟩, hgoal⟩, hprime.1,
      fun hnone => h hnone.2⟩, hsettled⟩
  | maxDrawdown q h =>
    simp only [validateWealthGoal, List.append_eq_nil_iff, errorIf_eq_nil, not_or, not_lt]
      at hgoal ⊢
    exact ⟨⟨⟨⟨⟨⟨hidentity, hcapital⟩, hgovernance⟩, heconomics⟩, hgoal.1, h, hgoal.2.2⟩, hprime⟩,
      hsettled⟩
  | aggressiveness q h =>
    simp only [validateWealthGoal, List.append_eq_nil_iff, errorIf_eq_nil, not_le] at hgoal ⊢
    exact ⟨⟨⟨⟨⟨⟨hidentity, hcapital⟩, hgovernance⟩, heconomics⟩, h, hgoal.2⟩, hprime⟩, hsettled⟩
  | _ => exact ⟨⟨⟨⟨⟨⟨hidentity, hcapital⟩, hgovernance⟩, heconomics⟩, hgoal⟩, hprime⟩, hsettled⟩

theorem others (h : Change c l c') {cap : String × ℚ} (hcap : cap ∈ caps requested c)
    (hlabel : cap.1 ∉ l.labels) : cap ∈ caps requested c' := by
  rw [mem_caps] at hcap ⊢
  refine ⟨?_, hcap.2⟩
  have hfiltered : (capSources requested c').filter (fun source => decide (source.1 ∉ l.labels))
      = (capSources requested c).filter fun source => decide (source.1 ∉ l.labels) := by
    cases h <;> simp [capSources, wealthCap, Limit.labels] <;> rfl
  have hmem : (cap.1, some cap.2)
      ∈ (capSources requested c').filter fun source => decide (source.1 ∉ l.labels) := by
    rw [hfiltered]
    exact List.mem_filter.2 ⟨hcap.1, by simpa using hlabel⟩
  exact (List.mem_filter.1 hmem).1

/-- **A limit that stands.** Each cap derived from it is there again, and no higher. -/
theorem lowers (h : Change c l c') (hrequested : 0 < requested) (hstands : l.Stands c c')
    {label : String} {q : ℚ} (hsource : (label, some q) ∈ capSources requested c) (hq : 0 ≤ q)
    (hlabel : label ∈ l.labels) :
    ∃ q', (label, some q') ∈ capSources requested c' ∧ 0 ≤ q' ∧ q' ≤ q := by
  obtain ⟨⟨old, new, hold, hnew, hnonneg, hle⟩, hprime⟩ := hstands
  cases h with
  | none => exact ⟨q, hsource, hq, le_refl q⟩
  | available r => simp [Limit.labels] at hlabel
  | familyConcentration r => simp [Limit.labels] at hlabel
  | maxDrawdown r => simp [Limit.labels] at hlabel
  | deployable r h =>
    have hpct := le_max_left 0 c.governance.maxDeployablePct
    simp only [Limit.value] at hold hnew
    simp only [Limit.labels, List.mem_cons, List.not_mem_nil, or_false] at hlabel
    rcases hlabel with rfl | rfl
    · refine ⟨new * max 0 c.governance.maxDeployablePct, by simp [capSources, hnew],
        mul_nonneg hnonneg hpct, ?_⟩
      obtain rfl : q = old * max 0 c.governance.maxDeployablePct := by
        simpa [capSources, hold] using hsource
      exact mul_le_mul_of_nonneg_right hle hpct
    · cases hbuffer : c.capital.drawdownBufferUsd with
      | none => simp [capSources, hbuffer] at hsource
      | some buffer =>
        refine ⟨max 0 (new - buffer), by simp [capSources, hnew, hbuffer],
          le_max_left _ _, ?_⟩
        obtain rfl : q = max 0 (old - buffer) := by
          simpa [capSources, hold, hbuffer] using hsource
        exact max_le_max (le_refl 0) (sub_le_sub_right hle buffer)
  | familyCap r =>
    simp only [Limit.value] at hold hnew
    obtain rfl : label = "family_cap" := List.mem_singleton.1 hlabel
    refine ⟨max 0 (new - c.capital.primeFamilyExposureUsd), by simp [capSources, hnew],
      le_max_left _ _, ?_⟩
    obtain rfl : q = max 0 (old - c.capital.primeFamilyExposureUsd) := by
      simpa [capSources, hold] using hsource
    exact max_le_max (le_refl 0) (sub_le_sub_right hle _)
  | liquidityAvailable r | depth r | depthCap r | providerCapacity r | routeCapacity r =>
    simp only [Limit.value] at hold hnew
    have hsingle := List.mem_singleton.1 hlabel
    subst hsingle
    obtain rfl : q = old := by simpa [capSources, hold] using hsource
    exact ⟨new, by simp [capSources, hnew], hnonneg, hle⟩
  | primeCapacity r h =>
    simp only [Limit.value] at hold hnew
    obtain rfl : label = "internal_prime_remaining_capacity" := List.mem_singleton.1 hlabel
    refine ⟨remainingPrime c.capital new, by simp [capSources, hnew, remainingPrime],
      hprime new rfl hnew, ?_⟩
    obtain rfl : q = remainingPrime c.capital old := by
      simpa [capSources, hold] using hsource
    exact sub_le_sub_right (mul_le_mul_of_nonneg_right hle (le_max_left _ _)) _
  | maxDeployable r =>
    simp only [Limit.value, Option.some.injEq] at hold hnew
    subst hold hnew
    obtain rfl : label = "capital_engine_deployable_pct" := List.mem_singleton.1 hlabel
    cases hdeployable : c.capital.deployableUsd with
    | none => simp [capSources, hdeployable] at hsource
    | some deployable =>
      have hpct : max 0 r ≤ max 0 c.governance.maxDeployablePct :=
        max_le_max (le_refl 0) hle
      refine ⟨deployable * max 0 r, by simp [capSources, hdeployable], ?_⟩
      obtain rfl : q = deployable * max 0 c.governance.maxDeployablePct := by
        simpa [capSources, hdeployable] using hsource
      rcases le_or_gt 0 deployable with hdeployable | hdeployable
      · exact ⟨mul_nonneg hdeployable (le_max_left _ _),
          mul_le_mul_of_nonneg_left hpct hdeployable⟩
      · -- a cap of a negative capital is kept only where the fraction is zero
        have hzero : max 0 c.governance.maxDeployablePct = 0 :=
          le_antisymm (by nlinarith) (le_max_left _ _)
        have hzero' : max 0 r = 0 := le_antisymm (hpct.trans hzero.le) (le_max_left _ _)
        rw [hzero, hzero']
        simp
  | commitment r =>
    simp only [Limit.value, Option.some.injEq] at hold hnew
    subst hold hnew
    obtain rfl : label = "wealth_goal_aggressiveness" := List.mem_singleton.1 hlabel
    refine ⟨wealthCap requested { c.wealthGoal with capitalCommitmentPct := r },
      by simp [capSources], wealthCap_nonneg hrequested.le _, ?_⟩
    obtain rfl : q = wealthCap requested c.wealthGoal := by simpa [capSources] using hsource
    refine mul_le_mul_of_nonneg_left (max_le_max (le_refl _) ?_)
      (mul_nonneg hrequested.le (le_max_left _ _))
    exact div_le_div_of_nonneg_right hle (by norm_num)
  | aggressiveness r h =>
    simp only [Limit.value, Option.some.injEq] at hold hnew
    subst hold hnew
    obtain rfl : label = "wealth_goal_aggressiveness" := List.mem_singleton.1 hlabel
    refine ⟨wealthCap requested { c.wealthGoal with aggressivenessCap := r },
      by simp [capSources], wealthCap_nonneg hrequested.le _, ?_⟩
    obtain rfl : q = wealthCap requested c.wealthGoal := by simpa [capSources] using hsource
    have hcap : max 0 r ≤ max 0 c.wealthGoal.aggressivenessCap := max_le_max (le_refl 0) hle
    exact mul_le_mul_of_nonneg_right (mul_le_mul_of_nonneg_left hcap hrequested.le)
      (le_max_of_le_left (by norm_num))

/-- A limit that stands is met by the caps derived from it. -/
theorem slack_of_stands (h : Change c l c') (hrequested : 0 < requested)
    (hstands : l.Stands c c') : l.Slack requested c c' := by
  intro cap hcap hlabel
  obtain ⟨hsource, hnonneg⟩ := mem_caps.1 hcap
  obtain ⟨q', hsource', hnonneg', hle⟩ := h.lowers hrequested hstands hsource hnonneg hlabel
  exact ⟨(cap.1, q'), List.mem_cons_of_mem _ (mem_caps.2 ⟨hsource', hnonneg'⟩), pyRound_mono 8 hle⟩

/-- **One limit.** The approved notional does not grow exactly when the limit does not bind. -/
theorem approved_le_iff_slack (h : Change c l c') (hrequested : 0 < requested) :
    pyRound 8 (approved requested c') ≤ pyRound 8 (approved requested c)
      ↔ l.Slack requested c c' := by
  rw [approved_le_iff hrequested]
  constructor
  · intro hle cap hcap _
    exact hle cap hcap
  · intro hslack cap hcap
    by_cases hlabel : cap.1 ∈ l.labels
    · exact hslack cap hcap hlabel
    · exact ⟨cap, List.mem_cons_of_mem _ (h.others hcap hlabel), le_refl _⟩

end Change

end SovereignCapital.Sizing
