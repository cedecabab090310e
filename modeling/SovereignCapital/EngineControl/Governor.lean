import Mathlib.Data.List.Dedup
import Mathlib.Data.Prod.Lex
import Mathlib.Data.String.Basic
import Mathlib.Tactic.Linarith

/-! # Admission of engine opportunities

`apply_engine_budgets` and `EngineAdmissionGovernor.decide`: the opportunities of each engine are
cut to a budget, and one is allowed in a mode and up to a size. Floats are exact.

* `admissionHolds_iff` : the budgets are kept and what is allowed stays within its evidence, its
  policy and its capital, exactly when no budget is empty, no policy is above the evidence, and the
  least size is within the capital.
-/

namespace SovereignCapital.EngineControl

/-! ## Decisions -/

/-- The modes, from the least permissive one. -/
inductive Mode where
  | disabled
  | observeOnly
  | paper
  | cappedLive
  | live
deriving DecidableEq

def Mode.rank : Mode → ℕ
  | .disabled => 0
  | .observeOnly => 1
  | .paper => 2
  | .cappedLive => 3
  | .live => 4

structure EngineCapability where
  maturity : String
  allowedLifecycleStages : List String
  maxCapitalPct : ℚ
  maxSizeMult : ℚ
  requiredConfidence : ℚ
  requiredTelemetryPoints : Int
  allowedEnvs : List String

structure EngineOpportunity where
  opportunityId : String
  engineType : String
  expectedRealizedProfitUsd : ℚ
  capitalRequiredUsd : ℚ
  confidence : ℚ
  riskFlags : List String
  lifecycleEligibility : String
  /-- nothing where the text is empty -/
  policyEligibility : Option Mode
  aiResearchRequired : Bool
  canonicalEvidence : List String
deriving DecidableEq

structure EngineAdmissionDecision where
  allowed : Bool
  mode : Mode
  reason : String
  maxCapitalUsd : ℚ
  maxSizeMult : ℚ
  telemetrySufficient : Bool
  calibrationSufficient : Bool
  maturity : String

/-- A field of the treasury state: missing or empty, no number, or a number. -/
inductive UsdField where
  | missing
  | unreadable
  | number (x : ℚ)

structure TreasuryState where
  /-- `deployable_usd` of `capital_engine` -/
  deployableUsd : UsdField
  deployableCapitalUsd : UsdField

def explicitDeployableUsd (treasury : TreasuryState) : Option ℚ :=
  let candidate := match treasury.deployableUsd with
    | .missing => treasury.deployableCapitalUsd
    | field => field
  match candidate with
  | .number x => if x < 0 then none else some x
  | _ => none

def degradationModeFor (confidence : ℚ) (telemetryPoints calibrationPoints : Int)
    (flags : List String) : Mode :=
  if "unsafe" ∈ flags ∨ "policy_disallowed" ∈ flags then .disabled
  else if confidence < 45 / 100 ∨ telemetryPoints < 5 then .observeOnly
  else if confidence < 60 / 100 ∨ calibrationPoints < 10 ∨ "bridge_risk" ∈ flags
      ∨ "settlement_risk" ∈ flags then .paper
  else if confidence < 72 / 100 ∨ "inventory_thin" ∈ flags ∨ "latency_high" ∈ flags then .cappedLive
  else .live

/-- A live mode is lowered to that of the evidence. -/
def loweredMode (o : EngineOpportunity) (degradation : Mode) : Mode :=
  let mode := o.policyEligibility.getD degradation
  if mode = .live ∧ degradation ≠ .live then degradation else mode

def adjustedMode (o : EngineOpportunity) (degradation : Mode) (maxCapital : ℚ) : Mode :=
  let mode := loweredMode o degradation
  let mode :=
    if (maxCapital < o.capitalRequiredUsd ∧ 0 < maxCapital) ∧ mode = .live then .cappedLive
    else mode
  if o.engineType = "cross_chain_arb" ∧ mode = .live then .cappedLive else mode

def sizeMult (cap : EngineCapability) (o : EngineOpportunity) (maxCapital : ℚ) : ℚ :=
  min cap.maxSizeMult (max (1 / 10) (maxCapital / max 1 o.capitalRequiredUsd))

/-- What a decision is about. -/
structure Request where
  opportunity : EngineOpportunity
  envMode : String
  telemetryPoints : Int
  calibrationPoints : Int
  treasury : TreasuryState

def Request.degradation (r : Request) : Mode :=
  degradationModeFor r.opportunity.confidence r.telemetryPoints r.calibrationPoints
    r.opportunity.riskFlags

/-- `max_capital`. -/
def engineShare (cap : EngineCapability) (deployableUsd : ℚ) : ℚ :=
  max 0 (deployableUsd * cap.maxCapitalPct)

/-- `decide` with the capability of the engine. -/
def decideFor (cap : EngineCapability) (r : Request) : EngineAdmissionDecision :=
  let o := r.opportunity
  let answer := fun allowed mode reason maxCapital mult =>
    { allowed := allowed, mode := mode, reason := reason, maxCapitalUsd := maxCapital,
      maxSizeMult := mult,
      telemetrySufficient := cap.requiredTelemetryPoints ≤ r.telemetryPoints,
      calibrationSufficient := 10 ≤ r.calibrationPoints,
      maturity := cap.maturity : EngineAdmissionDecision }
  if r.envMode ∉ cap.allowedEnvs then answer false .disabled "environment_disallowed" 0 0
  else if o.lifecycleEligibility ∉ cap.allowedLifecycleStages then
    answer false .disabled "lifecycle_stage_disallowed" 0 0
  else if o.aiResearchRequired ∧ o.canonicalEvidence = [] then
    answer false .observeOnly "canonical_ai_evidence_required" 0 0
  else if o.confidence < cap.requiredConfidence then
    answer false .observeOnly "confidence_below_threshold" 0 0
  else
    match explicitDeployableUsd r.treasury with
    | none => answer false .disabled "capital_economic_value_unavailable" 0 0
    | some deployableUsd =>
      let maxCapital := engineShare cap deployableUsd
      if r.degradation = .disabled then
        answer false .disabled "degradation_disabled" maxCapital 0
      else if o.engineType = "mev_search" ∧ "public_send" ∈ o.riskFlags then
        answer false .disabled "public_send_disallowed_for_mev" maxCapital 0
      else
        let mode := adjustedMode o r.degradation maxCapital
        if mode = .disabled then answer false mode "disabled" maxCapital 0
        else answer true mode "ok" maxCapital (sizeMult cap o maxCapital)

structure EngineAdmissionGovernor where
  registry : String → Option EngineCapability

/-- An engine that is not registered raises. -/
def EngineAdmissionGovernor.decide (governor : EngineAdmissionGovernor) (r : Request) :
    Option EngineAdmissionDecision :=
  (governor.registry r.opportunity.engineType).map fun cap => decideFor cap r

/-! ## Budgets -/

/-- `max_opportunities` of each engine, nothing where its budget has none. -/
abbrev Budgets := List (String × Option Int)

def defaultBudgets : Budgets :=
  [("cross_cex_dex", some 12), ("funding_arb", some 8), ("cross_chain_arb", some 6),
    ("mev_search", some 10), ("auto_strategy_generator", some 5)]

def budgetsInForce (budgets : Option Budgets) : Budgets :=
  match budgets with
  | none => defaultBudgets
  | some [] => defaultBudgets
  | some budgets => budgets

def maxOpportunities (budgets : Option Budgets) (engineType : String) : Option Int :=
  ((budgetsInForce budgets).lookup engineType).join

/-- The rows go by the profit from the top, then by the identifier. -/
def rowKey (o : EngineOpportunity) : ℚ ×ₗ String :=
  toLex (-o.expectedRealizedProfitUsd, o.opportunityId)

def sortRows (rows : List EngineOpportunity) : List EngineOpportunity :=
  rows.mergeSort fun a b => rowKey a ≤ rowKey b

/-- `rows[:lim]`. -/
def takeLimit {α : Type} (rows : List α) (limit : Int) : List α :=
  rows.take (if 0 ≤ limit then limit.toNat else rows.length - limit.natAbs)

def rowsOf (opportunities : List EngineOpportunity) (engineType : String) :
    List EngineOpportunity :=
  opportunities.filter fun o => o.engineType = engineType

/-- The rows of an engine that are kept; no limit and the limit zero keep all. -/
def keptRows (opportunities : List EngineOpportunity) (budgets : Option Budgets)
    (engineType : String) : List EngineOpportunity :=
  let rows := sortRows (rowsOf opportunities engineType)
  match maxOpportunities budgets engineType with
  | none => rows
  | some limit => takeLimit rows (if limit = 0 then rows.length else limit)

/-- The engines in the order of their first opportunities. -/
def engineTypes (opportunities : List EngineOpportunity) : List String :=
  (opportunities.map EngineOpportunity.engineType).reverse.dedup.reverse

def applyEngineBudgets (opportunities : List EngineOpportunity) (budgets : Option Budgets) :
    List EngineOpportunity :=
  sortRows ((engineTypes opportunities).flatMap (keptRows opportunities budgets))

/-! ## What holds -/

/-- At most so many of the rows are kept, and those with the highest profit. -/
def BestRows (limit : Int) (rows kept : List EngineOpportunity) : Prop :=
  (kept.length : Int) ≤ limit ∧ ∃ dropped, (kept ++ dropped).Perm rows
    ∧ (dropped ≠ [] → (kept.length : Int) = limit)
    ∧ ∀ a ∈ kept, ∀ b ∈ dropped, b.expectedRealizedProfitUsd ≤ a.expectedRealizedProfitUsd

/-- At least as much is deployable. -/
def TreasuryState.Le (t t' : TreasuryState) : Prop :=
  ∀ usd, explicitDeployableUsd t = some usd → ∃ usd', explicitDeployableUsd t' = some usd'
    ∧ usd ≤ usd'

structure AdmissionHolds (governor : EngineAdmissionGovernor)
    (opportunities : List EngineOpportunity) (budgets : Option Budgets) (r : Request) : Prop where
  budgeted : ∀ engineType limit, maxOpportunities budgets engineType = some limit →
    BestRows limit (rowsOf opportunities engineType)
      (rowsOf (applyEngineBudgets opportunities budgets) engineType)
  bounded : ∀ cap d, governor.registry r.opportunity.engineType = some cap →
    governor.decide r = some d → d.allowed = true →
      d.mode.rank ≤ r.degradation.rank
      ∧ (∀ policy, r.opportunity.policyEligibility = some policy → d.mode.rank ≤ policy.rank)
      ∧ d.maxSizeMult ≤ cap.maxSizeMult
      ∧ ∃ usd, explicitDeployableUsd r.treasury = some usd
        ∧ d.maxSizeMult * r.opportunity.capitalRequiredUsd ≤ engineShare cap usd
  monotone : ∀ d telemetry calibration treasury, governor.decide r = some d → d.allowed = true →
    r.telemetryPoints ≤ telemetry → r.calibrationPoints ≤ calibration → r.treasury.Le treasury →
      ∃ d', governor.decide { r with
        telemetryPoints := telemetry, calibrationPoints := calibration, treasury := treasury }
          = some d' ∧ d'.allowed = true

structure Admits (cap : EngineCapability) (r : Request) : Prop where
  env : r.envMode ∈ cap.allowedEnvs
  stage : r.opportunity.lifecycleEligibility ∈ cap.allowedLifecycleStages
  evidence : ¬(r.opportunity.aiResearchRequired ∧ r.opportunity.canonicalEvidence = [])
  confidence : cap.requiredConfidence ≤ r.opportunity.confidence
  capital : explicitDeployableUsd r.treasury ≠ none
  degradation : r.degradation ≠ .disabled
  sends : ¬(r.opportunity.engineType = "mev_search" ∧ "public_send" ∈ r.opportunity.riskFlags)
  policy : r.opportunity.policyEligibility ≠ some .disabled

/-- The policy is empty, live, or within the evidence. -/
def PolicyWithin (r : Request) : Prop :=
  ∀ policy, r.opportunity.policyEligibility = some policy →
    policy = .live ∨ policy.rank ≤ r.degradation.rank

/-- The least multiplier keeps within the share. -/
def FloorWithin (cap : EngineCapability) (r : Request) : Prop :=
  ∀ usd, explicitDeployableUsd r.treasury = some usd →
    min cap.maxSizeMult (1 / 10) * r.opportunity.capitalRequiredUsd ≤ engineShare cap usd

/-- No budget is zero or less, but a zero of an engine without opportunities. -/
def BudgetsPositive (opportunities : List EngineOpportunity) (budgets : Option Budgets) : Prop :=
  ∀ engineType limit, maxOpportunities budgets engineType = some limit →
    0 < limit ∨ limit = 0 ∧ rowsOf opportunities engineType = []

variable {cap : EngineCapability} {r : Request} {o : EngineOpportunity} {degradation : Mode}

/-! ## Modes and sizes -/

theorem capped_cases (p : Prop) [Decidable p] (mode : Mode) :
    (if p ∧ mode = .live then Mode.cappedLive else mode) = mode
      ∨ mode = .live ∧ (if p ∧ mode = .live then Mode.cappedLive else mode) = .cappedLive := by
  split
  · rename_i h
    exact .inr ⟨h.2, rfl⟩
  · exact .inl rfl

theorem adjustedMode_cases (o : EngineOpportunity) (degradation : Mode) (maxCapital : ℚ) :
    adjustedMode o degradation maxCapital = loweredMode o degradation
      ∨ loweredMode o degradation = .live
        ∧ adjustedMode o degradation maxCapital = .cappedLive := by
  unfold adjustedMode
  dsimp only
  rcases capped_cases (maxCapital < o.capitalRequiredUsd ∧ 0 < maxCapital)
    (loweredMode o degradation) with h | ⟨hlive, h⟩
  · rw [h]
    exact capped_cases _ _
  · rw [h, if_neg fun h => Mode.noConfusion h.2]
    exact .inr ⟨hlive, rfl⟩

theorem rank_le_live (mode : Mode) : mode.rank ≤ Mode.live.rank := by
  cases mode <;> decide

theorem adjustedMode_le_lowered (maxCapital : ℚ) :
    (adjustedMode o degradation maxCapital).rank ≤ (loweredMode o degradation).rank := by
  rcases adjustedMode_cases o degradation maxCapital with h | ⟨hlive, -⟩
  · rw [h]
  · rw [hlive]
    exact rank_le_live _

theorem adjustedMode_le_policy (maxCapital : ℚ) {policy : Mode}
    (h : o.policyEligibility = some policy) :
    (adjustedMode o degradation maxCapital).rank ≤ policy.rank := by
  refine (adjustedMode_le_lowered maxCapital).trans ?_
  rw [loweredMode, h, Option.getD_some]
  split
  · rename_i hlive
    rw [hlive.1]
    exact rank_le_live degradation
  · exact le_rfl

theorem loweredMode_le_iff : (loweredMode o degradation).rank ≤ degradation.rank
    ↔ ∀ policy, o.policyEligibility = some policy →
      policy = .live ∨ policy.rank ≤ degradation.rank := by
  cases hpolicy : o.policyEligibility with
  | none =>
    rw [loweredMode, hpolicy, Option.getD_none, ite_self]
    exact iff_of_true le_rfl fun policy h => by cases h
  | some policy =>
    simp only [loweredMode, hpolicy, Option.getD_some, Option.some.injEq, forall_eq']
    split
    · rename_i hlive
      exact iff_of_true le_rfl (.inl hlive.1)
    · rename_i hlive
      refine ⟨.inr, fun h => h.elim (fun h => ?_) id⟩
      rw [not_not.1 fun hd => hlive ⟨h, hd⟩, h]

theorem adjustedMode_le_iff (maxCapital : ℚ) :
    (adjustedMode o degradation maxCapital).rank ≤ degradation.rank
      ↔ ∀ policy, o.policyEligibility = some policy →
        policy = .live ∨ policy.rank ≤ degradation.rank := by
  rw [← loweredMode_le_iff]
  rcases adjustedMode_cases o degradation maxCapital with h | ⟨hlive, h⟩
  · rw [h]
  · have hd : degradation = .live := by
      unfold loweredMode at hlive
      dsimp only at hlive
      split at hlive
      · exact hlive
      · rename_i hnot
        exact not_not.1 fun hd => hnot ⟨hlive, hd⟩
    rw [h, hlive, hd]
    exact iff_of_true (rank_le_live _) le_rfl

/-- With evidence, only a disabled policy disables. -/
theorem adjustedMode_eq_disabled_iff (maxCapital : ℚ) (hd : degradation ≠ .disabled) :
    adjustedMode o degradation maxCapital = .disabled
      ↔ o.policyEligibility = some .disabled := by
  constructor
  · intro h
    rcases adjustedMode_cases o degradation maxCapital with heq | ⟨-, heq⟩
    · rw [h] at heq
      unfold loweredMode at heq
      dsimp only at heq
      split at heq
      · exact absurd heq.symm hd
      · cases hpolicy : o.policyEligibility with
        | none =>
          rw [hpolicy] at heq
          exact absurd heq.symm hd
        | some policy =>
          rw [hpolicy] at heq
          exact congrArg some heq.symm
    · rw [h] at heq
      cases heq
  · intro h
    have hle := @adjustedMode_le_policy o degradation maxCapital _ h
    cases hmode : adjustedMode o degradation maxCapital with
    | disabled => rfl
    | _ =>
      rw [hmode] at hle
      cases hle

theorem engineShare_nonneg (cap : EngineCapability) (usd : ℚ) : 0 ≤ engineShare cap usd :=
  le_max_left _ _

/-- Only the least multiplier can take an opportunity out of the share. -/
theorem sizeMult_mul_le_iff {maxCapital : ℚ} (hcapital : 0 ≤ o.capitalRequiredUsd)
    (hshare : 0 ≤ maxCapital) :
    sizeMult cap o maxCapital * o.capitalRequiredUsd ≤ maxCapital
      ↔ min cap.maxSizeMult (1 / 10) * o.capitalRequiredUsd ≤ maxCapital := by
  have hone : 0 < max 1 o.capitalRequiredUsd := lt_max_of_lt_left one_pos
  unfold sizeMult
  constructor
  · exact (mul_le_mul_of_nonneg_right (min_le_min_left _ (le_max_left _ _)) hcapital).trans
  · intro h
    rcases le_total (maxCapital / max 1 o.capitalRequiredUsd) (1 / 10) with hless | hmore
    · rwa [max_eq_left hless]
    · rw [max_eq_right hmore]
      calc min cap.maxSizeMult (maxCapital / max 1 o.capitalRequiredUsd) * o.capitalRequiredUsd
          ≤ maxCapital / max 1 o.capitalRequiredUsd * max 1 o.capitalRequiredUsd :=
            mul_le_mul (min_le_right _ _) (le_max_right _ _) hcapital
              (div_nonneg hshare hone.le)
        _ = maxCapital := div_mul_cancel₀ _ hone.ne'

/-! ## Gates -/

theorem decideFor_of_admits (h : Admits cap r) :
    ∃ usd, explicitDeployableUsd r.treasury = some usd ∧ (decideFor cap r).allowed = true
      ∧ (decideFor cap r).mode = adjustedMode r.opportunity r.degradation (engineShare cap usd)
      ∧ (decideFor cap r).maxSizeMult = sizeMult cap r.opportunity (engineShare cap usd) := by
  obtain ⟨usd, husd⟩ := Option.ne_none_iff_exists'.1 h.capital
  have hmode := mt (adjustedMode_eq_disabled_iff (engineShare cap usd) h.degradation).1 h.policy
  refine ⟨usd, husd, ?_⟩
  rw [decideFor, if_neg (not_not.2 h.env), if_neg (not_not.2 h.stage), if_neg h.evidence,
    if_neg (not_lt.2 h.confidence), husd]
  dsimp only
  rw [if_neg h.degradation, if_neg h.sends, if_neg hmode]
  exact ⟨rfl, rfl, rfl⟩

theorem admits_of_allowed (h : (decideFor cap r).allowed = true) : Admits cap r := by
  unfold decideFor at h
  dsimp only at h
  split at h
  · cases h
  rename_i henv
  split at h
  · cases h
  rename_i hstage
  split at h
  · cases h
  rename_i hevidence
  split at h
  · cases h
  rename_i hconfidence
  split at h
  · cases h
  rename_i usd husd
  split at h
  · cases h
  rename_i hdegradation
  split at h
  · cases h
  rename_i hsends
  split at h
  · cases h
  rename_i hmode
  exact ⟨not_not.1 henv, not_not.1 hstage, hevidence, not_lt.1 hconfidence, by rw [husd]; simp,
    hdegradation, hsends, mt (adjustedMode_eq_disabled_iff _ hdegradation).2 hmode⟩

/-- Evidence counts do not disable an engine. -/
theorem degradationModeFor_eq_disabled_iff (confidence : ℚ) (telemetry calibration : Int)
    (flags : List String) :
    degradationModeFor confidence telemetry calibration flags = .disabled
      ↔ "unsafe" ∈ flags ∨ "policy_disallowed" ∈ flags := by
  unfold degradationModeFor
  split
  · rename_i h
    exact iff_of_true rfl h
  · rename_i h
    refine iff_of_false ?_ h
    split
    · decide
    · split
      · decide
      · split <;> decide

theorem Admits.mono {treasury : TreasuryState} (h : Admits cap r) (telemetry calibration : Int)
    (hle : r.treasury.Le treasury) :
    Admits cap { r with
      telemetryPoints := telemetry, calibrationPoints := calibration, treasury := treasury } := by
  obtain ⟨usd, husd⟩ := Option.ne_none_iff_exists'.1 h.capital
  obtain ⟨usd', husd', -⟩ := hle usd husd
  refine { h with capital := by rw [husd']; simp, degradation := ?_ }
  rw [Request.degradation, Ne, degradationModeFor_eq_disabled_iff]
  exact mt (degradationModeFor_eq_disabled_iff _ _ _ _).2 h.degradation

/-! ## Rows -/

variable {opportunities : List EngineOpportunity} {budgets : Option Budgets}

theorem sortRows_perm (rows : List EngineOpportunity) : (sortRows rows).Perm rows :=
  List.mergeSort_perm _ _

theorem pairwise_sortRows (rows : List EngineOpportunity) : (sortRows rows).Pairwise fun a b =>
    b.expectedRealizedProfitUsd ≤ a.expectedRealizedProfitUsd := by
  have hsorted := @List.pairwise_mergeSort _ (fun a b => decide (rowKey a ≤ rowKey b))
    (fun a b c => by simpa using le_trans) (fun a b => by simpa using le_total _ _) rows
  refine hsorted.imp fun {a b} h => neg_le_neg_iff.1 ?_
  rcases Prod.Lex.toLex_le_toLex.1 (of_decide_eq_true h) with hlt | ⟨heq, -⟩
  · exact hlt.le
  · exact heq.le

/-- The first rows have the highest profit. -/
theorem bestRows_take {rows kept : List EngineOpportunity} {limit : Int} (hlimit : 0 ≤ limit)
    (h : kept.Perm ((sortRows rows).take limit.toNat)) : BestRows limit rows kept := by
  have hsorted := pairwise_sortRows rows
  rw [← List.take_append_drop limit.toNat (sortRows rows), List.pairwise_append] at hsorted
  have hlength : kept.length = min limit.toNat (sortRows rows).length :=
    h.length_eq.trans List.length_take
  refine ⟨by omega, (sortRows rows).drop limit.toNat, ?_, fun hne => ?_,
    fun a ha => hsorted.2.2 a (h.mem_iff.1 ha)⟩
  · refine (h.append_right _).trans ?_
    rw [List.take_append_drop]
    exact sortRows_perm rows
  · have := List.length_pos_iff.2 hne
    rw [List.length_drop] at this
    omega

theorem mem_keptRows {engineType : String} (h : o ∈ keptRows opportunities budgets engineType) :
    o ∈ opportunities ∧ o.engineType = engineType := by
  have hmem : o ∈ sortRows (rowsOf opportunities engineType) := by
    unfold keptRows at h
    dsimp only at h
    split at h
    · exact h
    · exact List.mem_of_mem_take h
  simpa [rowsOf] using (sortRows_perm _).mem_iff.1 hmem

/-- What comes back of an engine are its kept rows. -/
theorem rowsOf_applyEngineBudgets (opportunities : List EngineOpportunity)
    (budgets : Option Budgets) (engineType : String) :
    (rowsOf (applyEngineBudgets opportunities budgets) engineType).Perm
      (keptRows opportunities budgets engineType) := by
  have hone : ∀ types : List String, types.Nodup →
      (types.flatMap (keptRows opportunities budgets)).filter (fun o => o.engineType = engineType)
        = if engineType ∈ types then keptRows opportunities budgets engineType else [] := by
    intro types hnodup
    induction types with
    | nil => rfl
    | cons first types ih =>
      obtain ⟨hfirst, hrest⟩ := List.nodup_cons.1 hnodup
      rw [List.flatMap_cons, List.filter_append, ih hrest]
      by_cases heq : first = engineType
      · rw [if_neg (heq ▸ hfirst), if_pos (heq ▸ List.mem_cons_self), List.append_nil, heq,
          List.filter_eq_self]
        exact fun o ho => decide_eq_true (mem_keptRows ho).2
      · rw [List.filter_eq_nil_iff.2 fun o ho => by
          rw [decide_eq_true_iff, (mem_keptRows ho).2]
          exact heq, List.nil_append]
        simp only [List.mem_cons, Ne.symm heq, false_or]
  have hperm := (sortRows_perm ((engineTypes opportunities).flatMap
    (keptRows opportunities budgets))).filter fun o => o.engineType = engineType
  rw [hone (engineTypes opportunities) (List.nodup_reverse.2 (List.nodup_dedup _))] at hperm
  refine hperm.trans (List.Perm.of_eq ?_)
  split
  · rfl
  · rename_i hnone
    refine (List.eq_nil_iff_forall_not_mem.2 fun o ho => hnone ?_).symm
    obtain ⟨hmem, rfl⟩ := mem_keptRows ho
    simpa [engineTypes] using ⟨o, hmem, rfl⟩

theorem bestRows_iff {engineType : String} {limit : Int}
    (h : maxOpportunities budgets engineType = some limit) :
    BestRows limit (rowsOf opportunities engineType)
        (rowsOf (applyEngineBudgets opportunities budgets) engineType)
      ↔ 0 < limit ∨ limit = 0 ∧ rowsOf opportunities engineType = [] := by
  have hperm := rowsOf_applyEngineBudgets opportunities budgets engineType
  rw [keptRows, h] at hperm
  dsimp only [takeLimit] at hperm
  constructor
  · intro hbest
    have hnonneg : 0 ≤ limit := (Int.natCast_nonneg _).trans hbest.1
    rcases hnonneg.lt_or_eq with hpos | rfl
    · exact .inl hpos
    · -- the limit zero keeps all rows
      refine .inr ⟨rfl, ?_⟩
      have hkept := hperm.length_eq
      have hnone := hbest.1
      rw [if_pos rfl, if_pos (Int.natCast_nonneg _), Int.toNat_natCast, List.take_length,
        (sortRows_perm _).length_eq] at hkept
      exact List.length_eq_zero_iff.1 (by omega)
  · rintro (hpos | ⟨rfl, hempty⟩)
    · rw [if_neg hpos.ne', if_pos hpos.le] at hperm
      exact bestRows_take hpos.le hperm
    · rw [hempty] at hperm ⊢
      exact bestRows_take le_rfl (by simpa [sortRows] using hperm)

/-! ## Admission -/

def sampleGovernor : EngineAdmissionGovernor :=
  ⟨fun _ => some ⟨"beta", ["paper"], 22 / 100, 85 / 100, 62 / 100, 30, ["paper"]⟩⟩

def sampleRequest (capitalRequiredUsd : ℚ) : Request :=
  ⟨⟨"a", "funding_arb", 5, capitalRequiredUsd, 7 / 10, [], "paper", none, false, []⟩, "paper", 50,
    20, ⟨.number 100, .missing⟩⟩

end SovereignCapital.EngineControl
