import Mathlib.Data.Rat.Floor

/-! # The aggressiveness of the treasury

`TreasuryRuntime.pre_select_strategy`: the level of aggressiveness comes from the goal and from
how far it is, the drawdown takes it back, and the governance contract caps what no human has
approved. The numbers are exact.
-/

namespace SovereignCapital.Aggressiveness

/-! ## Levels -/

inductive Level where
  | low
  | moderate
  | high
  | maximum
deriving DecidableEq

def Level.rank : Level → Nat
  | .low => 0
  | .moderate => 1
  | .high => 2
  | .maximum => 3

def Level.ofText (s : String) : Option Level :=
  let s := s.toUpper
  if s = "LOW" then some .low
  else if s = "MODERATE" then some .moderate
  else if s = "HIGH" then some .high
  else if s = "MAXIMUM" then some .maximum
  else none

def clip (x lo hi : ℚ) : ℚ := max lo (min hi x)

/-! ## Configuration and calls -/

structure ProfitGoal where
  targetReturnPercentage : ℚ
  timeHorizonSeconds : Int
  riskTolerance : String
  maxDrawdownPct : ℚ

/-- `TreasuryConfig`, with the keys of its metadata that are read. The cap on the borrow
multiplier is not below its positive minimum. -/
structure TreasuryConfig where
  enabled : Bool
  goal : ProfitGoal
  aggressionModeOverride : String
  estimatedCapitalWei : Int
  allowMaximum : Bool
  maxAggressivenessWithoutApproval : String
  borrowMultMin : ℚ
  borrowMultCap : ℚ
  borrowMultMin_pos : 0 < borrowMultMin
  borrowMultMin_le_cap : borrowMultMin ≤ borrowMultCap

/-- What the last snapshot says of an approval. -/
structure LastState where
  governanceApprovedByHuman : Bool
  approvedByHuman : Bool
  governanceApproved : Bool

structure Call where
  realizedProfitWei : Int
  lastAmountInWei : Int
  volatilityRegime : String
  elapsedSeconds : Int
  last : LastState

/-! ## The level -/

def TreasuryConfig.riskTolerance (cfg : TreasuryConfig) : String :=
  let override := cfg.aggressionModeOverride.toLower
  if override = "conservative" then "conservative"
  else if override = "balanced" then "moderate"
  else if override = "aggressive" then "aggressive"
  else if cfg.goal.riskTolerance = "" then "conservative"
  else cfg.goal.riskTolerance.toLower

def estimatedCapital (cfg : TreasuryConfig) (call : Call) : Int :=
  if cfg.estimatedCapitalWei ≤ 0 then max 1 (call.lastAmountInWei * 10)
  else cfg.estimatedCapitalWei

/-- `urgency_factor`: what is missing for each hour that is left. -/
def urgencyFactor (cfg : TreasuryConfig) (call : Call) : ℚ :=
  let cap := max 1 (estimatedCapital cfg call)
  let realized := max 0 call.realizedProfitWei
  let currentReturnPct : ℚ := 100 * realized / cap
  let remaining := max 1 (cfg.goal.timeHorizonSeconds - call.elapsedSeconds)
  let performanceGap := cfg.goal.targetReturnPercentage - currentReturnPct
  clip (performanceGap / max 1 (remaining / 3600)) (-10) 10

/-- The level before anything is urgent. -/
def baseLevel (riskTolerance : String) : Level :=
  if riskTolerance = "conservative" then .low
  else if riskTolerance = "moderate" then .moderate
  else .high

/-- Urgency raises the level as long as the drawdown is small, and a drawdown near its limit
lowers it. -/
def escalate (goal : ProfitGoal) (urgency drawdownPct : ℚ) (level : Level) : Level :=
  let level :=
    if 1 / 10 < urgency ∧ drawdownPct < goal.maxDrawdownPct then
      if level = .low ∨ level = .moderate then .high else level
    else level
  let level :=
    if 1 / 4 < urgency ∧ drawdownPct < goal.maxDrawdownPct * (7 / 10) then .maximum else level
  if goal.maxDrawdownPct * (8 / 10) ≤ drawdownPct then .low else level

/-- `aggressiveness_level` of `compute_aggressiveness`. -/
def computeLevel (cfg : TreasuryConfig) (call : Call) (drawdownPct : ℚ) : Level :=
  let rt := cfg.riskTolerance
  let level := escalate cfg.goal (urgencyFactor cfg call) drawdownPct (baseLevel rt)
  let level := if level = .maximum ∧ !cfg.allowMaximum then .high else level
  if call.volatilityRegime.toLower ∈ ["high_vol", "risk_off", "panic"] ∧ rt = "conservative" then
    .low
  else level

/-- `aggressiveness_multiplier` of `compute_aggressiveness`. -/
def Level.multiplier : Level → ℚ
  | .low => 1
  | .moderate => 11 / 10
  | .high => 5 / 4
  | .maximum => 7 / 5

/-! ## The borrow cap -/

def Level.borrowBoost : Level → ℚ
  | .low => 1
  | .moderate => 23 / 20
  | .high => 27 / 20
  | .maximum => 8 / 5

def borrowCapTarget (cfg : TreasuryConfig) (level : Level) (urgency : ℚ) : ℚ :=
  let boost := level.borrowBoost * clip (1 + max 0 urgency * (15 / 100)) 1 (135 / 100)
  clip (cfg.borrowMultCap * boost) cfg.borrowMultMin cfg.borrowMultCap

/-! ## Governance -/

def TreasuryConfig.maxWithoutApproval (cfg : TreasuryConfig) : Level :=
  (Level.ofText cfg.maxAggressivenessWithoutApproval).getD .high

/-- `governance_check`: the reason of a refusal. -/
def governanceCheck (cfg : TreasuryConfig) (level : Level) (approvedByHuman : Bool) :
    Except String Unit :=
  if level = .maximum ∧ !cfg.allowMaximum ∧ !approvedByHuman then .error "maximum_disabled"
  else if cfg.maxWithoutApproval.rank < level.rank ∧ !approvedByHuman then
    .error (if level = .maximum then "maximum_requires_approval"
      else "aggressiveness_requires_approval")
  else .ok ()

structure GovernanceContract where
  blocked : Bool
  reason : String
  approvedByHuman : Bool
  rawAggressivenessLevel : Level
  effectiveAggressivenessLevel : Level
  rawBorrowMultTargetCap : ℚ
  effectiveBorrowMultTargetCap : ℚ
  suggestedNextAction : String

def governanceContract (cfg : TreasuryConfig) (level : Level) (borrowMultTargetCap : ℚ)
    (approvedByHuman : Bool) : GovernanceContract :=
  let check := governanceCheck cfg level approvedByHuman
  let reason := match check with | .ok _ => "ok" | .error reason => reason
  let effective :=
    if approvedByHuman then level
    else
      let level := if level = .maximum ∧ !cfg.allowMaximum then .high else level
      if cfg.maxWithoutApproval.rank < level.rank then cfg.maxWithoutApproval else level
  { blocked := !check.isOk
    reason := reason
    approvedByHuman := approvedByHuman
    rawAggressivenessLevel := level
    effectiveAggressivenessLevel := effective
    rawBorrowMultTargetCap := borrowMultTargetCap
    effectiveBorrowMultTargetCap := if check.isOk then borrowMultTargetCap else 1
    suggestedNextAction :=
      if check.isOk then "continue_treasury_plan"
      else if reason = "maximum_disabled" then "lower_treasury_aggressiveness_or_enable_maximum"
      else "obtain_treasury_approval_or_reduce_aggressiveness" }

/-! ## The call -/

/-- What `pre_select_strategy` reports of its aggressiveness. -/
structure PreSelection where
  effectiveAggressivenessLevel : Level
  rawAggressivenessLevel : Level
  aggressivenessMultiplier : ℚ
  urgencyFactor : ℚ
  rawBorrowMultTargetCap : ℚ
  effectiveBorrowMultTargetCap : ℚ
  approvedByHuman : Bool
  governance : GovernanceContract

def LastState.approved (last : LastState) : Bool :=
  last.governanceApprovedByHuman || last.approvedByHuman || last.governanceApproved

/-- `pre_select_strategy`; a runtime that is not enabled reports nothing. -/
def preSelectStrategy (cfg : TreasuryConfig) (call : Call) (drawdownPct : ℚ) :
    Option PreSelection :=
  if !cfg.enabled then none
  else
    let level := computeLevel cfg call drawdownPct
    let urgency := urgencyFactor cfg call
    let borrowCap := borrowCapTarget cfg level urgency
    let governance := governanceContract cfg level borrowCap call.last.approved
    let effectiveCap := governance.effectiveBorrowMultTargetCap
    some
      { effectiveAggressivenessLevel := governance.effectiveAggressivenessLevel
        rawAggressivenessLevel := level
        aggressivenessMultiplier := level.multiplier
        urgencyFactor := urgency
        rawBorrowMultTargetCap := borrowCap
        effectiveBorrowMultTargetCap := if effectiveCap = 0 then 1 else effectiveCap
        approvedByHuman := governance.approvedByHuman
        governance := governance }

/-! ## The level falls with the drawdown -/

/-- **A larger drawdown gives no higher level**, before governance. -/
theorem rank_computeLevel_le (cfg : TreasuryConfig) (call : Call) {d d' : ℚ} (h : d ≤ d') :
    (computeLevel cfg call d').rank ≤ (computeLevel cfg call d).rank := by
  have hescalate : ∀ (urgency : ℚ) (level : Level),
      (escalate cfg.goal urgency d' level).rank ≤ (escalate cfg.goal urgency d level).rank := by
    intro urgency level
    by_cases hlimit : cfg.goal.maxDrawdownPct * (8 / 10) ≤ d'
    · simp [escalate, hlimit, Level.rank]
    · -- Both are short of the limit, and what the larger one escalates the smaller one does.
      have hlimit' : ¬ cfg.goal.maxDrawdownPct * (8 / 10) ≤ d := by linarith
      have hhigh : d' < cfg.goal.maxDrawdownPct → d < cfg.goal.maxDrawdownPct :=
        fun hlt => lt_of_le_of_lt h hlt
      have hmaximum : d' < cfg.goal.maxDrawdownPct * (7 / 10) →
          d < cfg.goal.maxDrawdownPct * (7 / 10) := fun hlt => lt_of_le_of_lt h hlt
      simp only [escalate, if_neg hlimit, if_neg hlimit']
      by_cases hseven' : 1 / 4 < urgency ∧ d' < cfg.goal.maxDrawdownPct * (7 / 10)
      · rw [if_pos hseven', if_pos ⟨hseven'.1, hmaximum hseven'.2⟩]
      · rw [if_neg hseven']
        by_cases hseven : 1 / 4 < urgency ∧ d < cfg.goal.maxDrawdownPct * (7 / 10)
        · rw [if_pos hseven]
          show Level.rank _ ≤ 3
          split <;> (try split) <;> cases level <;> simp [Level.rank]
        · rw [if_neg hseven]
          by_cases hfull' : 1 / 10 < urgency ∧ d' < cfg.goal.maxDrawdownPct
          · have hfull : 1 / 10 < urgency ∧ d < cfg.goal.maxDrawdownPct :=
              ⟨hfull'.1, hhigh hfull'.2⟩
            simp only [if_pos hfull', if_pos hfull, le_refl]
          · simp only [if_neg hfull']
            split
            · cases level <;> simp [Level.rank]
            · exact le_refl _
  have hraised := hescalate (urgencyFactor cfg call) (baseLevel cfg.riskTolerance)
  unfold computeLevel
  dsimp only
  split
  · simp [Level.rank]
  · revert hraised
    generalize escalate cfg.goal (urgencyFactor cfg call) d' _ = level'
    generalize escalate cfg.goal (urgencyFactor cfg call) d _ = level
    cases cfg.allowMaximum <;> cases level' <;> cases level <;> simp [Level.rank]

theorem computeLevel_ne_maximum {cfg : TreasuryConfig} (h : cfg.allowMaximum = false) (call : Call)
    (d : ℚ) : computeLevel cfg call d ≠ .maximum := by
  unfold computeLevel
  dsimp only
  split
  · simp
  · split
    · simp
    · rename_i hlevel
      intro hmaximum
      exact hlevel ⟨hmaximum, by simp [h]⟩

theorem multiplier_le {level level' : Level} (h : level'.rank ≤ level.rank) :
    level'.multiplier ≤ level.multiplier := by
  cases level' <;> cases level <;> simp [Level.rank] at h <;> norm_num [Level.multiplier]

/-! ## The cap before governance -/

theorem borrowMultCap_pos (cfg : TreasuryConfig) : 0 < cfg.borrowMultCap :=
  lt_of_lt_of_le cfg.borrowMultMin_pos cfg.borrowMultMin_le_cap

/-- The boosts never lower the cap, so the raw cap is the configured one. -/
theorem borrowCapTarget_eq (cfg : TreasuryConfig) (level : Level) (urgency : ℚ) :
    borrowCapTarget cfg level urgency = cfg.borrowMultCap := by
  have hcap := borrowMultCap_pos cfg
  have hlevel : 1 ≤ level.borrowBoost := by cases level <;> norm_num [Level.borrowBoost]
  have hclip : 1 ≤ clip (1 + max 0 urgency * (15 / 100)) 1 (135 / 100) := le_max_left _ _
  have hboost : 1 ≤ level.borrowBoost * clip (1 + max 0 urgency * (15 / 100)) 1 (135 / 100) :=
    one_le_mul_of_one_le_of_one_le hlevel hclip
  have hscaled := le_mul_of_one_le_right hcap.le hboost
  unfold borrowCapTarget clip
  dsimp only
  rw [min_eq_left (by simpa only [clip] using hscaled), max_eq_right cfg.borrowMultMin_le_cap]

/-! ## Governance -/

/-- The level of a call is refused. -/
def Refused (cfg : TreasuryConfig) (call : Call) (drawdownPct : ℚ) : Prop :=
  (governanceCheck cfg (computeLevel cfg call drawdownPct) call.last.approved).isOk = false

instance (cfg : TreasuryConfig) (call : Call) (d : ℚ) : Decidable (Refused cfg call d) :=
  inferInstanceAs (Decidable (_ = _))

/-- What is refused: a level that no human approved, above the one that needs no approval. -/
theorem refused_iff (cfg : TreasuryConfig) (call : Call) (d : ℚ) :
    Refused cfg call d
      ↔ call.last.approved = false ∧ cfg.maxWithoutApproval.rank < (computeLevel cfg call d).rank := by
  have hmaximum : computeLevel cfg call d = .maximum → cfg.allowMaximum = true := by
    intro hlevel
    by_contra hallow
    exact computeLevel_ne_maximum (by simpa using hallow) call d hlevel
  unfold Refused governanceCheck
  by_cases happroved : call.last.approved = true
  · simp [happroved, Except.isOk, Except.toBool]
  · have hnot : call.last.approved = false := by simpa using happroved
    rw [if_neg (by rintro ⟨hlevel, hallow, -⟩; simp [hmaximum hlevel] at hallow)]
    split
    · rename_i hrank
      simp [Except.isOk, Except.toBool, hnot, hrank.1]
    · rename_i hrank
      simp only [hnot, Bool.not_false, and_true] at hrank
      simp [Except.isOk, Except.toBool, hrank]

/-- A refusal at some drawdown is one at every smaller drawdown. -/
theorem Refused.of_le {cfg : TreasuryConfig} {call : Call} {d d' : ℚ} (h : d ≤ d')
    (hrefused : Refused cfg call d') : Refused cfg call d := by
  obtain ⟨happroved, hrank⟩ := (refused_iff cfg call d').1 hrefused
  exact (refused_iff cfg call d).2 ⟨happroved, lt_of_lt_of_le hrank (rank_computeLevel_le cfg call h)⟩

theorem preSelectStrategy_spec {cfg : TreasuryConfig} (henabled : cfg.enabled = true) (call : Call)
    (d : ℚ) :
    ∃ r, preSelectStrategy cfg call d = some r
      ∧ r.aggressivenessMultiplier = (computeLevel cfg call d).multiplier
      ∧ r.approvedByHuman = call.last.approved
      ∧ r.effectiveAggressivenessLevel.rank
        = (if call.last.approved then (computeLevel cfg call d).rank
          else min (computeLevel cfg call d).rank cfg.maxWithoutApproval.rank)
      ∧ (r.effectiveAggressivenessLevel = .maximum →
          cfg.allowMaximum = true ∨ call.last.approved = true)
      ∧ r.rawBorrowMultTargetCap = cfg.borrowMultCap
      ∧ r.effectiveBorrowMultTargetCap = if Refused cfg call d then 1 else cfg.borrowMultCap := by
  have hcap := (borrowMultCap_pos cfg).ne'
  have hkept : (if computeLevel cfg call d = .maximum ∧ !cfg.allowMaximum then Level.high
      else computeLevel cfg call d) = computeLevel cfg call d := by
    refine if_neg ?_
    rintro ⟨hmaximum, hallow⟩
    exact computeLevel_ne_maximum (by simpa using hallow) call d hmaximum
  unfold preSelectStrategy
  rw [if_neg (by simp [henabled])]
  refine ⟨_, rfl, rfl, rfl, ?_, ?_, borrowCapTarget_eq cfg _ _, ?_⟩
  · simp only [governanceContract, hkept]
    split
    · rfl
    · split
      · rename_i hrank
        exact (min_eq_right hrank.le).symm
      · rename_i hrank
        exact (min_eq_left (not_lt.1 hrank)).symm
  · simp only [governanceContract, hkept]
    intro hmaximum
    split at hmaximum
    · rename_i happroved
      exact .inr happroved
    · left
      -- What is effective is the raw level, or below it: then neither is allowed to be maximal.
      by_contra hallow
      have hraw := computeLevel_ne_maximum (by simpa using hallow) call d
      split at hmaximum
      · rename_i hrank
        rw [hmaximum] at hrank
        cases hlevel : computeLevel cfg call d <;> simp [hlevel, Level.rank] at hrank
      · exact hraw hmaximum
  · simp only [governanceContract, borrowCapTarget_eq, Refused]
    by_cases hok : (governanceCheck cfg (computeLevel cfg call d) call.last.approved).isOk = true
    · simp [hok, hcap]
    · simp [hok]

/-! ## What is claimed of a call, and of two -/

structure Governed (cfg : TreasuryConfig) (r : PreSelection) : Prop where
  level_le : r.approvedByHuman = true
    ∨ r.effectiveAggressivenessLevel.rank ≤ cfg.maxWithoutApproval.rank
  maximum : r.effectiveAggressivenessLevel = .maximum →
    cfg.allowMaximum = true ∨ r.approvedByHuman = true
  cap_le_raw : r.effectiveBorrowMultTargetCap ≤ r.rawBorrowMultTargetCap
  cap_le_configured : r.effectiveBorrowMultTargetCap ≤ cfg.borrowMultCap

/-- The second report is no more aggressive than the first. -/
structure BacksOff (r r' : PreSelection) : Prop where
  level : r'.effectiveAggressivenessLevel.rank ≤ r.effectiveAggressivenessLevel.rank
  multiplier : r'.aggressivenessMultiplier ≤ r.aggressivenessMultiplier
  cap : r'.effectiveBorrowMultTargetCap ≤ r.effectiveBorrowMultTargetCap

theorem governed_of_cap {cfg : TreasuryConfig} (henabled : cfg.enabled = true) {call : Call} {d : ℚ}
    (hone : Refused cfg call d → 1 ≤ cfg.borrowMultCap) {r : PreSelection}
    (hr : preSelectStrategy cfg call d = some r) : Governed cfg r := by
  obtain ⟨r', hr', -, happroved, hrank, hmaximum, hraw, hcap⟩ :=
    preSelectStrategy_spec henabled call d
  rw [hr] at hr'
  obtain rfl : r = r' := Option.some.inj hr'
  have hcapLe : r.effectiveBorrowMultTargetCap ≤ cfg.borrowMultCap := by
    rw [hcap]
    split
    · rename_i hrefused
      exact hone hrefused
    · exact le_refl _
  refine ⟨?_, by rwa [happroved], by rwa [hraw], hcapLe⟩
  rw [happroved, hrank]
  by_cases happrovedLast : call.last.approved = true
  · exact .inl happrovedLast
  · right
    rw [if_neg happrovedLast]
    exact min_le_right _ _

/-- Two calls in different drawdowns: both are governed, and the second backs off. -/
def Sound (cfg : TreasuryConfig) (call : Call) (d d' : ℚ) : Prop :=
  ∀ r r', preSelectStrategy cfg call d = some r → preSelectStrategy cfg call d' = some r' →
    Governed cfg r ∧ Governed cfg r' ∧ BacksOff r r'

/-- **Only the borrow cap of a refusal goes wrong.** Two calls that differ in the drawdown are
governed, and the larger drawdown backs off, exactly when a level that is refused at the smaller
drawdown finds a configured cap of at least one, and of one where the larger drawdown is not
refused. -/
theorem preSelect_sound_iff (cfg : TreasuryConfig) (call : Call) {d d' : ℚ} (h : d ≤ d') :
    Sound cfg call d d'
      ↔ (cfg.enabled = true → Refused cfg call d →
          1 ≤ cfg.borrowMultCap ∧ (¬ Refused cfg call d' → cfg.borrowMultCap = 1)) := by
  by_cases henabled : cfg.enabled = true
  swap
  · have hnone : preSelectStrategy cfg call d = none := if_pos (by simpa using henabled)
    exact ⟨fun _ henabled' => absurd henabled' henabled,
      fun _ r r' hr => by rw [hnone] at hr; cases hr⟩
  obtain ⟨r, hr, hmult, -, hrank, -, -, hcap⟩ := preSelectStrategy_spec henabled call d
  obtain ⟨r', hr', hmult', -, hrank', -, -, hcap'⟩ := preSelectStrategy_spec henabled call d'
  have hlevel := rank_computeLevel_le cfg call h
  constructor
  · intro hsound _ hrefused
    obtain ⟨hgoverned, -, hbacks⟩ := hsound r r' hr hr'
    have hone : 1 ≤ cfg.borrowMultCap := by
      have hle := hgoverned.cap_le_configured
      rwa [hcap, if_pos hrefused] at hle
    refine ⟨hone, fun hfree => le_antisymm ?_ hone⟩
    have hle := hbacks.cap
    rwa [hcap, hcap', if_pos hrefused, if_neg hfree] at hle
  · intro hcondition s s' hs hs'
    have hone : Refused cfg call d → 1 ≤ cfg.borrowMultCap := fun hrefused =>
      (hcondition henabled hrefused).1
    refine ⟨governed_of_cap henabled hone hs,
      governed_of_cap henabled (fun hrefused => hone (hrefused.of_le h)) hs', ?_⟩
    rw [hr] at hs
    rw [hr'] at hs'
    obtain rfl : r = s := Option.some.inj hs
    obtain rfl : r' = s' := Option.some.inj hs'
    refine ⟨?_, ?_, ?_⟩
    · rw [hrank, hrank']
      split
      · exact hlevel
      · exact min_le_min_right _ hlevel
    · rw [hmult, hmult']
      exact multiplier_le hlevel
    · rw [hcap, hcap']
      by_cases hrefused' : Refused cfg call d'
      · rw [if_pos hrefused', if_pos (hrefused'.of_le h)]
      · rw [if_neg hrefused']
        split
        · rename_i hrefused
          exact ((hcondition henabled hrefused).2 hrefused').le
        · exact le_refl _

/-! ## A refusal at a small drawdown -/

/-- A configuration that lets no level above the lowest trade without an approval. -/
def guardedConfig (cap : ℚ) (h : 1 / 2 ≤ cap) : TreasuryConfig where
  enabled := true
  goal := ⟨8, 604800, "moderate", 10⟩
  aggressionModeOverride := ""
  estimatedCapitalWei := 1000
  allowMaximum := false
  maxAggressivenessWithoutApproval := "LOW"
  borrowMultMin := 1 / 2
  borrowMultCap := cap
  borrowMultMin_pos := by norm_num
  borrowMultMin_le_cap := h

/-- A call no human approved, at the start of the goal. -/
def firstCall : Call := ⟨0, 1000, "balanced", 0, ⟨false, false, false⟩⟩

/-- At a drawdown of nine the level is the lowest one, and nothing is refused. -/
theorem sound_lateDrawdown : Sound (guardedConfig 3 (by norm_num)) firstCall 9 10 :=
  (preSelect_sound_iff (guardedConfig 3 (by norm_num)) firstCall (by norm_num)).2
    fun _ hrefused => absurd hrefused (by decide +kernel)

/-- At no drawdown the moderate level is refused and the cap is 1, at a drawdown of nine the
lowest level finds a cap of 3; where the configured cap is 3/4 the refusal raises it. -/
theorem refusal_unsound :
    ¬ Sound (guardedConfig 3 (by norm_num)) firstCall 0 9
      ∧ ¬ Sound (guardedConfig (3 / 4) (by norm_num)) firstCall 0 0 := by
  constructor
  · intro hsound
    obtain ⟨-, -, hbacks⟩ := hsound _ _ rfl rfl
    exact absurd hbacks.cap (by decide +kernel)
  · intro hsound
    obtain ⟨hgoverned, -, -⟩ := hsound _ _ rfl rfl
    exact absurd hgoverned.cap_le_configured (by decide +kernel)

end SovereignCapital.Aggressiveness
