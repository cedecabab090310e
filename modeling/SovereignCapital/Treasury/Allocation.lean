import SovereignCapital.Lib.Apportion
import SovereignCapital.Lib.Dict
import SovereignCapital.Lib.Double

/-! # The allocation of capital

`allocate_capital` of `allocation_engine.py`: the estimated capital is split into five buckets,
two of them contracted by the drawdown, and the deployable amount is handed out to the families
by targets that are filtered, weighted by the scorecards and rounded to six decimals. The buckets
conserve the capital. The families conserve the deployable amount only when what rounding adds to
the shares, taken of the amount, is no more than what dropping fractions of a wei keeps back.
-/

namespace SovereignCapital.Treasury

open Apportion Decimal

/-- `x or d`, for a number that may be missing. -/
def orElse (x : Option ℚ) (d : ℚ) : ℚ :=
  match x with
  | some v => if v = 0 then d else v
  | none => d

def clip (x lo hi : ℚ) : ℚ := max lo (min hi x)

/-! ## Buckets -/

structure CapitalBuckets where
  executionCapitalPct : ℚ
  reserveCapitalPct : ℚ
  experimentalCapitalPct : ℚ
  drawdownBufferPct : ℚ
  treasuryOfframpPct : ℚ
deriving DecidableEq

/-- `str(aggressiveness_level or "LOW").upper()`; of the names it is compared with, no letter
comes from a letter beyond the plain ones. -/
def levelName (level : String) : String :=
  if level = "" then "LOW" else String.ofList (level.toList.map Char.toUpper)

/-- The end of `default_buckets`: the off-ramp is what is left, at least four percent, and all
five are divided by their sum. -/
def splitBuckets (execution reserve experimental drawdown : ℚ) : CapitalBuckets :=
  let treasury := max (4 / 100) (1 - (execution + reserve + experimental + drawdown))
  let total := execution + reserve + experimental + drawdown + treasury
  { executionCapitalPct := execution / total
    reserveCapitalPct := reserve / total
    experimentalCapitalPct := experimental / total
    drawdownBufferPct := drawdown / total
    treasuryOfframpPct := treasury / total }

def byLevel (lvl : String) (low moderate other : ℚ) : ℚ :=
  if lvl = "LOW" then low else if lvl = "MODERATE" then moderate else other

def defaultBuckets (drawdownPct : ℚ) (aggressivenessLevel : String) : CapitalBuckets :=
  let lvl := levelName aggressivenessLevel
  splitBuckets (byLevel lvl (48 / 100) (58 / 100) (66 / 100))
    (byLevel lvl (22 / 100) (18 / 100) (14 / 100)) (byLevel lvl (8 / 100) (10 / 100) (12 / 100))
    (if drawdownPct < 5 then 14 / 100 else 20 / 100)

/-! ## Contraction -/

/-- The thresholds of `drawdown_contraction`, where they are given. -/
structure Thresholds where
  mild : Option ℚ
  medium : Option ℚ
  severe : Option ℚ

/-- What `drawdown_contraction` returns. -/
structure Contraction where
  contractionFactor : ℚ
  reasonCode : String
  experimentalCapFactor : ℚ
deriving DecidableEq

def drawdownContraction (drawdownPct : ℚ) (t : Thresholds) : Contraction :=
  let dd := max 0 drawdownPct
  if orElse t.severe 18 ≤ dd then ⟨45 / 100, "severe_drawdown_contraction", 10 / 100⟩
  else if orElse t.medium 10 ≤ dd then ⟨65 / 100, "medium_drawdown_contraction", 35 / 100⟩
  else if orElse t.mild 5 ≤ dd then ⟨82 / 100, "mild_drawdown_contraction", 60 / 100⟩
  else ⟨1, "normal", 1⟩

/-! ## Targets -/

abbrev Targets : Type := List (String × ℚ)

def Targets.shares (ts : Targets) : List ℚ := ts.map Prod.snd

def capitalFamilyAliases : List (String × String) :=
  [("flash_arb", "flashloan_atomic"), ("flashloan_atomic", "flashloan_atomic"),
    ("funding_arb", "funding_arb"), ("cex_dex_arb", "cross_cex_dex"),
    ("cross_cex_dex", "cross_cex_dex"), ("liquidation_capture", "liquidation_anticipation"),
    ("liquidation_anticipation", "liquidation_anticipation"), ("mev_search", "mev_search"),
    ("volatility_market_making", "volatility_event_overlay")]

/-- `_CAPITAL_FAMILY_ALIASES.get(family, family)`. -/
def capitalFamily (family : String) : String := (capitalFamilyAliases.lookup family).getD family

/-- The base table of `family_targets`. -/
def baseTable : Targets :=
  [("flashloan_atomic", 46 / 100), ("liquidation_anticipation", 10 / 100),
    ("oracle_drift", 8 / 100), ("liquidity_migration", 8 / 100),
    ("volatility_event_overlay", 8 / 100), ("cross_cex_dex", 7 / 100),
    ("funding_arb", 8 / 100), ("cross_chain_arb", 2 / 100), ("mev_search", 2 / 100),
    ("auto_generated_strategy", 1 / 100)]

/-- What a regime adds to the entries of the table. -/
def regimeShifts (regime : String) : List (String × ℚ) :=
  if regime = "high_volatility" then
    [("volatility_event_overlay", 6 / 100), ("flashloan_atomic", -4 / 100),
      ("mev_search", 2 / 100)]
  else if regime = "gas_spike" then
    [("flashloan_atomic", 6 / 100), ("liquidity_migration", -3 / 100),
      ("volatility_event_overlay", -3 / 100)]
  else if regime = "low_volatility" then
    [("liquidity_migration", 5 / 100), ("oracle_drift", 3 / 100),
      ("volatility_event_overlay", -4 / 100), ("flashloan_atomic", -4 / 100),
      ("mev_search", 2 / 100)]
  else if regime = "bear" then
    [("liquidation_anticipation", 5 / 100), ("oracle_drift", 4 / 100),
      ("flashloan_atomic", -5 / 100), ("funding_arb", 3 / 100)]
  else []

def regimeTable (regime : String) : Targets :=
  baseTable.map fun e => (e.1, e.2 + ((regimeShifts regime).lookup e.1).getD 0)

def eligibleSet (families : List String) : List String :=
  let eligible := (families.filter fun f => f != "").map capitalFamily
  if eligible = [] then ["flashloan_atomic"] else eligible

/-- The filter both functions apply: the eligible entries, or all of it for one family. -/
def keepEligible (families : List String) (ts : Targets) : Targets :=
  let kept := ts.filter fun e => e.1 ∈ eligibleSet families
  if kept = [] then [("flashloan_atomic", 1)] else kept

def roundShares (total : ℚ) (ts : Targets) : Targets :=
  ts.map fun e => (e.1, pyRound 6 (e.2 / total))

/-- The table of `family_targets`, filtered when there are eligible families to filter by. -/
def baseTargets (regime : String) (eligibleFamilies : Option (List String)) : Targets :=
  match eligibleFamilies with
  | none => regimeTable regime
  | some families => keepEligible families (regimeTable regime)

def familyTargets (regime : String) (eligibleFamilies : Option (List String)) : Targets :=
  let base := baseTargets regime eligibleFamilies
  roundShares (max (1 / 10 ^ 9) base.shares.sum) base

/-! ## Scorecards -/

/-- An entry of `regimePerformance`; one that is nothing is an entry without fields. -/
structure RegimeRow where
  successRate : Option ℚ
  pnlUsd : Option ℚ

/-- A scorecard of a family, as loosely filled as it comes. -/
structure Card where
  family : Option String
  stability : Option ℚ
  gasEfficiency : Option ℚ
  executionSuccessRate : Option ℚ
  drawdownPenaltyUsd : Option ℚ
  realizedPnlUsd : Option ℚ
  regimePerformance : Dict String RegimeRow

def Card.blank : Card := ⟨none, none, none, none, none, none, Dict.empty⟩

/-- `cards.get(fam) or {}`: of the cards of one family the last counts. -/
def cardOf (cards : List Card) (family : String) : Card :=
  (cards.reverse.find? fun c => c.family.getD "" = family).getD .blank

def Card.stabilityValue (c : Card) : ℚ := orElse c.stability (55 / 100)

def Card.success (c : Card) : ℚ := orElse c.executionSuccessRate c.stabilityValue

/-- `dd_pen`. -/
def Card.drawdownPenalty (c : Card) : ℚ :=
  min (8 / 10) (orElse c.drawdownPenaltyUsd 0 / max 1 |orElse c.realizedPnlUsd 1|)

/-- `rf`. -/
def Card.regimeFactor (c : Card) (regime : String) : ℚ :=
  match c.regimePerformance.get? regime with
  | none => 1
  | some row =>
    clip (75 / 100 + 25 / 100 * orElse row.successRate c.success
      + 10 / 100 * max (-1) (min 1 (orElse row.pnlUsd 0))) (6 / 10) (135 / 100)

def Card.factor (c : Card) (regime : String) (utilization covariance : ℚ) : ℚ :=
  c.regimeFactor regime
    * clip (70 / 100 + 20 / 100 * c.success + 10 / 100 * c.stabilityValue) (55 / 100) (135 / 100)
    * clip (75 / 100 + 20 / 100 * min 2 (orElse c.gasEfficiency (8 / 10)) + 5 / 100 * utilization)
        (60 / 100) (140 / 100)
    * clip (1 - c.drawdownPenalty - covariance) (35 / 100) 1

/-- What `compute_dynamic_family_weights` reads. -/
structure Signals where
  cards : List Card
  utilizationRate : Option ℚ
  covariancePenalties : Dict String (Option ℚ)

/-- `out` of `compute_dynamic_family_weights`. -/
def Signals.weighted (s : Signals) (regime : String) (base : Targets) : Targets :=
  base.map fun e => (e.1, e.2 * (cardOf s.cards e.1).factor regime
    (orElse s.utilizationRate (1 / 2)) (orElse ((s.covariancePenalties.get? e.1).getD none) 0))

def computeDynamicFamilyWeights (base : Targets) (s : Signals) (regime : String) : Targets :=
  let out := s.weighted regime base
  if out.shares.sum ≤ 0 then base else roundShares out.shares.sum out

/-! ## The allocation -/

/-- The arguments of `allocate_capital`. -/
structure AllocationInput where
  estimatedCapitalWei : ℤ
  drawdownPct : ℚ
  regime : String
  aggressivenessLevel : String
  scorecards : Option (List Card)
  capitalMetrics : Option (Option ℚ)
  covariancePenalties : Option (Dict String (Option ℚ))
  eligibleFamilies : Option (List String)

namespace AllocationInput

variable (i : AllocationInput)

def buckets : CapitalBuckets := defaultBuckets i.drawdownPct i.aggressivenessLevel

def cap : ℤ := max 1 i.estimatedCapitalWei

def contraction : Contraction := drawdownContraction i.drawdownPct ⟨none, none, none⟩

def deployable : ℤ :=
  Double.trunc (i.cap * i.buckets.executionCapitalPct
    * orElse (some i.contraction.contractionFactor) 1)

def experimental : ℤ :=
  Double.trunc (i.cap * i.buckets.experimentalCapitalPct
    * orElse (some i.contraction.experimentalCapFactor) 1)

/-- The families are weighted when any of the three is given. -/
def dynamic : Bool :=
  i.scorecards.isSome || i.capitalMetrics.isSome || i.covariancePenalties.isSome

def signals : Signals where
  cards := i.scorecards.getD []
  utilizationRate := i.capitalMetrics.getD none
  covariancePenalties := i.covariancePenalties.getD Dict.empty

/-- The weighted targets, filtered and rounded once more. -/
def reweighted : Targets :=
  let weights := computeDynamicFamilyWeights (familyTargets i.regime i.eligibleFamilies) i.signals
    i.regime
  match i.eligibleFamilies with
  | none => weights
  | some families =>
    let kept := (keepEligible families weights).map fun e => (e.1, max 0 e.2)
    roundShares (max (1 / 10 ^ 9) (Targets.shares kept).sum) kept

/-- `fam_targets`. -/
def targets : Targets :=
  if i.dynamic then i.reweighted else familyTargets i.regime i.eligibleFamilies

end AllocationInput

/-- What `allocate_capital` returns. -/
structure Allocation where
  deployableBankrollWei : ℤ
  reserveBankrollWei : ℤ
  experimentalBankrollWei : ℤ
  drawdownBufferWei : ℤ
  treasuryOfframpWei : ℤ
  capitalBuckets : CapitalBuckets
  familyTargets : Targets
  familyAllocationsWei : List (String × ℤ)
  drawdownAdjustment : ℚ
  drawdownContraction : Contraction

def allocateCapital (i : AllocationInput) : Allocation where
  deployableBankrollWei := i.deployable
  reserveBankrollWei := Double.trunc (i.cap * i.buckets.reserveCapitalPct)
  experimentalBankrollWei := i.experimental
  drawdownBufferWei := Double.trunc (i.cap * i.buckets.drawdownBufferPct)
  treasuryOfframpWei := Double.trunc (i.cap * i.buckets.treasuryOfframpPct)
  capitalBuckets := i.buckets
  familyTargets := i.targets
  familyAllocationsWei := i.targets.map fun e => (e.1, Double.trunc (i.deployable * e.2))
  drawdownAdjustment := pyRound 6 (clip (1 - i.drawdownPct / 100) (20 / 100) 1)
  drawdownContraction := i.contraction

/-! ## The buckets conserve the capital -/

variable {x drawdownPct : ℚ} {ts : Targets} {families : List String}

theorem clip_bounds {lo hi : ℚ} (h : lo ≤ hi) : lo ≤ clip x lo hi ∧ clip x lo hi ≤ hi :=
  ⟨le_max_left _ _, max_le h (min_le_left _ _)⟩

theorem trunc_nonneg (h : 0 ≤ x) : 0 ≤ Double.trunc x := by
  unfold Double.trunc
  rw [if_pos h]
  exact Int.floor_nonneg.2 h

theorem trunc_eq_floor (h : 0 ≤ x) : Double.trunc x = ⌊x⌋ := if_pos h

theorem trunc_le (h : 0 ≤ x) : (Double.trunc x : ℚ) ≤ x := by
  rw [trunc_eq_floor h]
  exact Int.floor_le x

theorem trunc_mono {y : ℚ} (hx : 0 ≤ x) (h : x ≤ y) : Double.trunc x ≤ Double.trunc y := by
  rw [trunc_eq_floor hx, trunc_eq_floor (hx.trans h)]
  exact Int.floor_mono h

structure CapitalBuckets.Whole (b : CapitalBuckets) : Prop where
  execution : 0 ≤ b.executionCapitalPct
  reserve : 0 ≤ b.reserveCapitalPct
  experimental : 0 ≤ b.experimentalCapitalPct
  buffer : 0 ≤ b.drawdownBufferPct
  offramp : 0 ≤ b.treasuryOfframpPct
  sum_eq : b.executionCapitalPct + b.reserveCapitalPct + b.experimentalCapitalPct
    + b.drawdownBufferPct + b.treasuryOfframpPct = 1

/-- The five are divided by one, or by what the first four and the least off-ramp come to. -/
theorem split_total (four : ℚ) :
    four + max (4 / 100) (1 - four) = max (four + 4 / 100) 1 := by
  rw [← max_add_add_left]
  congr 1
  ring

theorem splitBuckets_whole {execution reserve experimental drawdown : ℚ} (he : 0 ≤ execution)
    (hr : 0 ≤ reserve) (hx : 0 ≤ experimental) (hd : 0 ≤ drawdown) :
    (splitBuckets execution reserve experimental drawdown).Whole := by
  have htreasury : (0 : ℚ)
      ≤ max (4 / 100) (1 - (execution + reserve + experimental + drawdown)) :=
    le_max_of_le_left (by norm_num)
  have htotal : (0 : ℚ) < execution + reserve + experimental + drawdown
      + max (4 / 100) (1 - (execution + reserve + experimental + drawdown)) := by
    rw [split_total]
    exact lt_max_of_lt_right one_pos
  refine ⟨div_nonneg he htotal.le, div_nonneg hr htotal.le, div_nonneg hx htotal.le,
    div_nonneg hd htotal.le, div_nonneg htreasury htotal.le, ?_⟩
  simp only [splitBuckets]
  rw [← add_div, ← add_div, ← add_div, ← add_div]
  exact div_self htotal.ne'

/-- A larger buffer leaves less to the buckets beside it. -/
theorem splitBuckets_antitone {execution reserve experimental drawdown drawdown' : ℚ}
    (he : 0 ≤ execution) (hx : 0 ≤ experimental) (h : drawdown ≤ drawdown') :
    (splitBuckets execution reserve experimental drawdown').executionCapitalPct
        ≤ (splitBuckets execution reserve experimental drawdown).executionCapitalPct
      ∧ (splitBuckets execution reserve experimental drawdown').experimentalCapitalPct
        ≤ (splitBuckets execution reserve experimental drawdown).experimentalCapitalPct := by
  simp only [splitBuckets, split_total]
  have htotal : max (execution + reserve + experimental + drawdown + 4 / 100) 1
      ≤ max (execution + reserve + experimental + drawdown' + 4 / 100) 1 :=
    max_le_max (by linarith) le_rfl
  have hpos : (0 : ℚ) < max (execution + reserve + experimental + drawdown + 4 / 100) 1 :=
    lt_max_of_lt_right one_pos
  exact ⟨div_le_div_of_nonneg_left he hpos htotal, div_le_div_of_nonneg_left hx hpos htotal⟩

theorem byLevel_nonneg (lvl : String) {low moderate other : ℚ} (hl : 0 ≤ low)
    (hm : 0 ≤ moderate) (ho : 0 ≤ other) : 0 ≤ byLevel lvl low moderate other := by
  unfold byLevel
  split
  · exact hl
  · split
    · exact hm
    · exact ho

theorem defaultBuckets_whole (drawdownPct : ℚ) (level : String) :
    (defaultBuckets drawdownPct level).Whole := by
  refine splitBuckets_whole ?_ ?_ ?_ ?_
  · exact byLevel_nonneg _ (by norm_num) (by norm_num) (by norm_num)
  · exact byLevel_nonneg _ (by norm_num) (by norm_num) (by norm_num)
  · exact byLevel_nonneg _ (by norm_num) (by norm_num) (by norm_num)
  · split <;> norm_num

theorem defaultBuckets_antitone {drawdownPct' : ℚ} (h : drawdownPct ≤ drawdownPct')
    (level : String) :
    (defaultBuckets drawdownPct' level).executionCapitalPct
        ≤ (defaultBuckets drawdownPct level).executionCapitalPct
      ∧ (defaultBuckets drawdownPct' level).experimentalCapitalPct
        ≤ (defaultBuckets drawdownPct level).experimentalCapitalPct := by
  refine splitBuckets_antitone (byLevel_nonneg _ (by norm_num) (by norm_num) (by norm_num))
    (byLevel_nonneg _ (by norm_num) (by norm_num) (by norm_num)) ?_
  by_cases hsmall : drawdownPct' < 5
  · rw [if_pos hsmall, if_pos (lt_of_le_of_lt h hsmall)]
  · rw [if_neg hsmall]
    split <;> norm_num

theorem drawdownContraction_bounds (drawdownPct : ℚ) (t : Thresholds) :
    (0 < (drawdownContraction drawdownPct t).contractionFactor
        ∧ (drawdownContraction drawdownPct t).contractionFactor ≤ 1)
      ∧ 0 < (drawdownContraction drawdownPct t).experimentalCapFactor
        ∧ (drawdownContraction drawdownPct t).experimentalCapFactor ≤ 1 := by
  unfold drawdownContraction
  dsimp only
  split
  · norm_num
  · split
    · norm_num
    · split <;> norm_num

/-- A larger drawdown never contracts less. -/
theorem drawdownContraction_antitone {drawdownPct' : ℚ} (h : drawdownPct ≤ drawdownPct')
    (t : Thresholds) :
    (drawdownContraction drawdownPct' t).contractionFactor
        ≤ (drawdownContraction drawdownPct t).contractionFactor
      ∧ (drawdownContraction drawdownPct' t).experimentalCapFactor
        ≤ (drawdownContraction drawdownPct t).experimentalCapFactor := by
  have hdd : max 0 drawdownPct ≤ max 0 drawdownPct' := max_le_max le_rfl h
  unfold drawdownContraction
  dsimp only
  by_cases hsevere : orElse t.severe 18 ≤ max 0 drawdownPct
  · rw [if_pos hsevere, if_pos (hsevere.trans hdd)]
    exact ⟨le_rfl, le_rfl⟩
  · rw [if_neg hsevere]
    by_cases hmedium : orElse t.medium 10 ≤ max 0 drawdownPct
    · rw [if_pos hmedium, if_pos (hmedium.trans hdd)]
      split <;> norm_num
    · rw [if_neg hmedium]
      by_cases hmild : orElse t.mild 5 ≤ max 0 drawdownPct
      · rw [if_pos hmild, if_pos (hmild.trans hdd)]
        split
        · norm_num
        · split <;> norm_num
      · rw [if_neg hmild]
        split
        · norm_num
        · split
          · norm_num
          · split <;> norm_num

theorem orElse_some {v : ℚ} (h : v ≠ 0) (d : ℚ) : orElse (some v) d = v := if_neg h

namespace AllocationInput

variable (i : AllocationInput)

theorem contraction_bounds :
    (0 < i.contraction.contractionFactor ∧ i.contraction.contractionFactor ≤ 1)
      ∧ 0 < i.contraction.experimentalCapFactor ∧ i.contraction.experimentalCapFactor ≤ 1 :=
  drawdownContraction_bounds _ _

theorem deployable_eq :
    i.deployable = Double.trunc (i.cap * i.buckets.executionCapitalPct
      * i.contraction.contractionFactor) := by
  rw [deployable, orElse_some i.contraction_bounds.1.1.ne']

theorem experimental_eq :
    i.experimental = Double.trunc (i.cap * i.buckets.experimentalCapitalPct
      * i.contraction.experimentalCapFactor) := by
  rw [experimental, orElse_some i.contraction_bounds.2.1.ne']

theorem cap_nonneg : (0 : ℚ) ≤ i.cap := by
  have hcap : 0 ≤ i.cap := le_max_of_le_left (by decide)
  exact_mod_cast hcap

end AllocationInput

/-- A contracted bucket is not negative, and no more than the bucket. -/
theorem contracted_bounds {cap pct factor : ℚ} (hcap : 0 ≤ cap) (hpct : 0 ≤ pct)
    (hfactor : 0 < factor ∧ factor ≤ 1) :
    0 ≤ cap * pct * factor ∧ cap * pct * factor ≤ cap * pct :=
  ⟨mul_nonneg (mul_nonneg hcap hpct) hfactor.1.le,
    mul_le_of_le_one_right (mul_nonneg hcap hpct) hfactor.2⟩

theorem contracted_le {cap pct pct' factor factor' : ℚ} (hcap : 0 ≤ cap) (hpct' : 0 ≤ pct')
    (hfactor' : 0 < factor') (hp : pct' ≤ pct) (hf : factor' ≤ factor) :
    Double.trunc (cap * pct' * factor') ≤ Double.trunc (cap * pct * factor) := by
  refine trunc_mono (mul_nonneg (mul_nonneg hcap hpct') hfactor'.le) ?_
  exact mul_le_mul (mul_le_mul_of_nonneg_left hp hcap) hf hfactor'.le
    (mul_nonneg hcap (hpct'.trans hp))

/-- **The buckets.** None of the five amounts is negative, and together they are no more than the
capital. -/
theorem buckets_conserve (i : AllocationInput) :
    (0 ≤ (allocateCapital i).deployableBankrollWei
      ∧ 0 ≤ (allocateCapital i).reserveBankrollWei
      ∧ 0 ≤ (allocateCapital i).experimentalBankrollWei
      ∧ 0 ≤ (allocateCapital i).drawdownBufferWei
      ∧ 0 ≤ (allocateCapital i).treasuryOfframpWei)
    ∧ (allocateCapital i).deployableBankrollWei + (allocateCapital i).reserveBankrollWei
        + (allocateCapital i).experimentalBankrollWei + (allocateCapital i).drawdownBufferWei
        + (allocateCapital i).treasuryOfframpWei ≤ i.cap := by
  have hcap := i.cap_nonneg
  have hwhole : i.buckets.Whole := defaultBuckets_whole i.drawdownPct i.aggressivenessLevel
  obtain ⟨hfactor, hexpFactor⟩ := i.contraction_bounds
  obtain ⟨hdep0, hdep⟩ := contracted_bounds hcap hwhole.execution hfactor
  obtain ⟨hexp0, hexp⟩ := contracted_bounds hcap hwhole.experimental hexpFactor
  have hres0 := mul_nonneg hcap hwhole.reserve
  have hbuf0 := mul_nonneg hcap hwhole.buffer
  have hoff0 := mul_nonneg hcap hwhole.offramp
  simp only [allocateCapital, AllocationInput.deployable_eq, AllocationInput.experimental_eq]
  refine ⟨⟨trunc_nonneg hdep0, trunc_nonneg hres0, trunc_nonneg hexp0, trunc_nonneg hbuf0,
    trunc_nonneg hoff0⟩, ?_⟩
  have hdepLe := (trunc_le hdep0).trans hdep
  have hexpLe := (trunc_le hexp0).trans hexp
  have hresLe := trunc_le hres0
  have hbufLe := trunc_le hbuf0
  have hoffLe := trunc_le hoff0
  have hsum : (i.cap : ℚ) * i.buckets.executionCapitalPct + i.cap * i.buckets.reserveCapitalPct
      + i.cap * i.buckets.experimentalCapitalPct + i.cap * i.buckets.drawdownBufferPct
      + i.cap * i.buckets.treasuryOfframpPct = i.cap := by
    rw [← mul_add, ← mul_add, ← mul_add, ← mul_add, hwhole.sum_eq, mul_one]
  rw [← @Int.cast_le ℚ]
  push_cast
  linarith

/-- **Drawdowns.** A larger drawdown leaves neither the deployable nor the experimental amount
larger. -/
theorem drawdown_contracts (i : AllocationInput) (h : i.drawdownPct ≤ drawdownPct) :
    ({ i with drawdownPct := drawdownPct } : AllocationInput).deployable ≤ i.deployable
      ∧ ({ i with drawdownPct := drawdownPct } : AllocationInput).experimental
        ≤ i.experimental := by
  obtain ⟨hexecution, hexperimental⟩ := defaultBuckets_antitone h i.aggressivenessLevel
  obtain ⟨hfactor, hexpFactor⟩ := drawdownContraction_antitone h ⟨none, none, none⟩
  have hwhole := defaultBuckets_whole drawdownPct i.aggressivenessLevel
  obtain ⟨hpos, hexpPos⟩ := drawdownContraction_bounds drawdownPct ⟨none, none, none⟩
  simp only [AllocationInput.deployable_eq, AllocationInput.experimental_eq]
  exact ⟨contracted_le i.cap_nonneg hwhole.execution hpos.1 hexecution hfactor,
    contracted_le i.cap_nonneg hwhole.experimental hexpPos.1 hexperimental hexpFactor⟩

/-! ## Targets are rounded shares -/

/-- Weights of at most ten families, none of them negative and not all zero. -/
structure Weights (ws : List ℚ) : Prop where
  nonneg : ∀ w ∈ ws, 0 ≤ w
  pos : 0 < ws.sum
  few : ws.length ≤ 10

theorem Weights.isShares {ws : List ℚ} (h : Weights ws) : IsShares (Apportion.normalize ws) :=
  isShares_normalize h.nonneg h.pos

/-- What rounding leaves of shares are weights again, and not small ones: a tenth is kept. -/
theorem Weights.rounded {ws : List ℚ} (h : Weights ws) :
    Weights ((Apportion.normalize ws).map (pyRound 6))
      ∧ 1 / 10 ≤ ((Apportion.normalize ws).map (pyRound 6)).sum := by
  have hnonneg : ∀ w ∈ (Apportion.normalize ws).map (pyRound 6), 0 ≤ w := by
    intro w hw
    obtain ⟨s, hs, rfl⟩ := List.mem_map.1 hw
    exact pyRound_nonneg 6 (h.isShares.nonneg s hs)
  have hlength : (Apportion.normalize ws).length ≤ 10 := by
    rw [Apportion.normalize, List.length_map]
    exact h.few
  obtain ⟨s, hs, hle⟩ := h.isShares.exists_le hlength (by decide)
  have htenth : (1 : ℚ) / 10 ≤ pyRound 6 s := by
    have hround : pyRound 6 (1 / 10) = 1 / 10 := pyRound_eq_self_iff.2 ⟨100000, by norm_num⟩
    rw [← hround]
    exact pyRound_mono 6 (by exact_mod_cast hle)
  have hsum : pyRound 6 s ≤ ((Apportion.normalize ws).map (pyRound 6)).sum :=
    List.single_le_sum hnonneg _ (List.mem_map_of_mem hs)
  refine ⟨⟨hnonneg, by linarith, ?_⟩, htenth.trans hsum⟩
  rw [List.length_map]
  exact hlength

theorem shares_roundShares (ts : Targets) :
    (roundShares ts.shares.sum ts).shares = (Apportion.normalize ts.shares).map (pyRound 6) := by
  simp [roundShares, Targets.shares, Apportion.normalize, Function.comp_def]

theorem shares_roundShares_max (h : 1 / 10 ^ 9 ≤ ts.shares.sum) :
    (roundShares (max (1 / 10 ^ 9) ts.shares.sum) ts).shares
      = (Apportion.normalize ts.shares).map (pyRound 6) := by
  rw [max_eq_right h, shares_roundShares]

@[simp] theorem keys_roundShares (total : ℚ) (ts : Targets) :
    (roundShares total ts).map Prod.fst = ts.map Prod.fst := by
  simp [roundShares, Function.comp_def]

@[simp] theorem keys_weighted (s : Signals) (regime : String) (ts : Targets) :
    (s.weighted regime ts).map Prod.fst = ts.map Prod.fst := by
  simp [Signals.weighted, Function.comp_def]

@[simp] theorem keys_computeDynamicFamilyWeights (ts : Targets) (s : Signals) (regime : String) :
    (computeDynamicFamilyWeights ts s regime).map Prod.fst = ts.map Prod.fst := by
  unfold computeDynamicFamilyWeights
  dsimp only
  split
  · rfl
  · rw [keys_roundShares, keys_weighted]

/-! ### The base table -/

def shiftingRegimes : List String := ["high_volatility", "gas_spike", "low_volatility", "bear"]

theorem regimeShifts_of_notMem {regime : String} (h : regime ∉ shiftingRegimes) :
    regimeShifts regime = [] := by
  simp only [shiftingRegimes, List.mem_cons, List.not_mem_nil, or_false, not_or] at h
  obtain ⟨hhigh, hgas, hlow, hbear⟩ := h
  rw [regimeShifts, if_neg hhigh, if_neg hgas, if_neg hlow, if_neg hbear]

/-- Under every regime an entry of the table is at least one percent. -/
theorem regimeTable_ge (regime : String) : ∀ e ∈ regimeTable regime, 1 / 100 ≤ e.2 := by
  by_cases hshifts : regime ∈ shiftingRegimes
  · have htables : ∀ r ∈ shiftingRegimes, ∀ e ∈ regimeTable r, 1 / 100 ≤ e.2 := by decide +kernel
    exact htables regime hshifts
  · have hbase : ∀ e ∈ baseTable, 1 / 100 ≤ e.2 := by decide +kernel
    intro e he
    obtain ⟨b, hb, rfl⟩ := List.mem_map.1 he
    rw [regimeShifts_of_notMem hshifts]
    simpa using hbase b hb

/-- Entries of at least one percent, some and at most ten, are weights. -/
theorem weights_of_ge (h : ∀ e ∈ ts, 1 / 100 ≤ e.2) (hsome : ts ≠ []) (hfew : ts.length ≤ 10) :
    Weights ts.shares ∧ 1 / 10 ^ 9 ≤ ts.shares.sum := by
  have hge : ∀ w ∈ ts.shares, 1 / 100 ≤ w := by
    intro w hw
    obtain ⟨e, he, rfl⟩ := List.mem_map.1 hw
    exact h e he
  have hnonneg : ∀ w ∈ ts.shares, 0 ≤ w := fun w hw => le_trans (by norm_num) (hge w hw)
  obtain ⟨e, he⟩ := List.exists_mem_of_ne_nil ts hsome
  have hmem : e.2 ∈ ts.shares := List.mem_map_of_mem he
  have hsum : 1 / 100 ≤ ts.shares.sum := (hge _ hmem).trans (List.single_le_sum hnonneg _ hmem)
  refine ⟨⟨hnonneg, by linarith, ?_⟩, by norm_num at hsum ⊢; linarith⟩
  rw [Targets.shares, List.length_map]
  exact hfew

theorem length_regimeTable (regime : String) : (regimeTable regime).length = 10 :=
  List.length_map _

theorem baseTargets_weights (regime : String) (eligibleFamilies : Option (List String)) :
    Weights (baseTargets regime eligibleFamilies).shares
      ∧ 1 / 10 ^ 9 ≤ (baseTargets regime eligibleFamilies).shares.sum := by
  have hlength := length_regimeTable regime
  cases eligibleFamilies with
  | none =>
    refine weights_of_ge (regimeTable_ge regime) ?_ hlength.le
    intro hnil
    change regimeTable regime = [] at hnil
    rw [hnil] at hlength
    cases hlength
  | some families =>
    simp only [baseTargets, keepEligible]
    split
    · exact weights_of_ge (by simp; norm_num) (by simp) (by simp)
    · rename_i hkept
      have hge : ∀ e ∈ (regimeTable regime).filter fun e => e.1 ∈ eligibleSet families,
          1 / 100 ≤ e.2 := fun e he => regimeTable_ge regime e (List.mem_of_mem_filter he)
      refine weights_of_ge hge hkept ?_
      exact (List.length_filter_le _ _).trans hlength.le

/-! ### The scorecards -/

/-- Every factor is clipped to a range above zero. -/
theorem Card.factor_pos (c : Card) (regime : String) (utilization covariance : ℚ) :
    0 < c.factor regime utilization covariance := by
  have hregime : 0 < c.regimeFactor regime := by
    unfold Card.regimeFactor
    split
    · exact one_pos
    · exact lt_of_lt_of_le (by norm_num) (clip_bounds (by norm_num)).1
  unfold Card.factor
  refine mul_pos (mul_pos (mul_pos hregime ?_) ?_) ?_
  · exact lt_of_lt_of_le (by norm_num) (clip_bounds (by norm_num)).1
  · exact lt_of_lt_of_le (by norm_num) (clip_bounds (by norm_num)).1
  · exact lt_of_lt_of_le (by norm_num) (clip_bounds (by norm_num)).1

theorem Weights.weighted (h : Weights ts.shares) (s : Signals) (regime : String) :
    Weights (s.weighted regime ts).shares := by
  have hmem : ∀ w ∈ (s.weighted regime ts).shares, ∃ e ∈ ts, ∃ f : ℚ, 0 < f ∧ w = e.2 * f := by
    intro w hw
    obtain ⟨e', he', rfl⟩ := List.mem_map.1 hw
    obtain ⟨e, he, rfl⟩ := List.mem_map.1 he'
    exact ⟨e, he, _, Card.factor_pos _ _ _ _, rfl⟩
  have hnonneg : ∀ w ∈ (s.weighted regime ts).shares, 0 ≤ w := by
    intro w hw
    obtain ⟨e, he, f, hf, rfl⟩ := hmem w hw
    exact mul_nonneg (h.nonneg _ (List.mem_map_of_mem he)) hf.le
  refine ⟨hnonneg, ?_, ?_⟩
  · -- a positive weight stays positive, and the sum with it
    obtain ⟨w, hw, hpos⟩ : ∃ w ∈ ts.shares, 0 < w := by
      by_contra hnone
      push Not at hnone
      have hle := List.sum_le_card_nsmul ts.shares 0 hnone
      rw [nsmul_zero] at hle
      exact absurd hle (not_le.2 h.pos)
    obtain ⟨e, he, rfl⟩ := List.mem_map.1 hw
    have hout := List.single_le_sum hnonneg _
      (List.mem_map_of_mem (List.mem_map_of_mem he))
    exact lt_of_lt_of_le (mul_pos hpos (Card.factor_pos _ _ _ _)) hout
  · have hfew := h.few
    simp only [Targets.shares, List.length_map] at hfew
    simpa only [Targets.shares, Signals.weighted, List.length_map] using hfew

theorem familyTargets_shares (regime : String) (eligibleFamilies : Option (List String)) :
    (familyTargets regime eligibleFamilies).shares
      = (Apportion.normalize (baseTargets regime eligibleFamilies).shares).map (pyRound 6) :=
  shares_roundShares_max (baseTargets_weights regime eligibleFamilies).2

/-- The targets of `family_targets` are weights again. -/
theorem familyTargets_weights (regime : String) (eligibleFamilies : Option (List String)) :
    Weights (familyTargets regime eligibleFamilies).shares := by
  rw [familyTargets_shares]
  exact (baseTargets_weights regime eligibleFamilies).1.rounded.1

/-- The fallback on the base targets is never taken. -/
theorem computeDynamicFamilyWeights_shares (h : Weights ts.shares) (s : Signals) (regime : String) :
    (computeDynamicFamilyWeights ts s regime).shares
      = (Apportion.normalize (s.weighted regime ts).shares).map (pyRound 6) := by
  have hpos : ¬ (s.weighted regime ts).shares.sum ≤ 0 := not_le.2 (h.weighted s regime).pos
  rw [computeDynamicFamilyWeights, if_neg hpos, shares_roundShares]

/-! ### Eligible families -/

theorem keys_keepEligible (h : ∃ e ∈ ts, e.1 ∈ eligibleSet families) :
    ∀ e ∈ keepEligible families ts, e.1 ∈ eligibleSet families := by
  obtain ⟨e, he, heligible⟩ := h
  have hkept : (ts.filter fun e => e.1 ∈ eligibleSet families) ≠ [] :=
    List.ne_nil_of_mem (List.mem_filter.2 ⟨he, decide_eq_true heligible⟩)
  intro e' he'
  rw [keepEligible, if_neg hkept] at he'
  exact of_decide_eq_true (List.mem_filter.1 he').2

theorem keepEligible_of_forall (hsome : ts ≠ []) (h : ∀ e ∈ ts, e.1 ∈ eligibleSet families) :
    keepEligible families ts = ts := by
  have hfilter : (ts.filter fun e => e.1 ∈ eligibleSet families) = ts :=
    List.filter_eq_self.2 fun e he => decide_eq_true (h e he)
  rw [keepEligible, hfilter, if_neg hsome]

/-- Without an eligible entry all goes to one family. -/
theorem keepEligible_of_none (h : ∀ e ∈ ts, e.1 ∉ eligibleSet families) :
    keepEligible families ts = [("flashloan_atomic", 1)] := by
  have hfilter : (ts.filter fun e => e.1 ∈ eligibleSet families) = [] :=
    List.filter_eq_nil_iff.2 fun e he hmem => h e he (of_decide_eq_true hmem)
  rw [keepEligible, hfilter, if_pos rfl]

theorem keys_regimeTable (regime : String) :
    (regimeTable regime).map Prod.fst = baseTable.map Prod.fst := by
  simp [regimeTable, Function.comp_def]

/-- Filtered once more, the targets are the same, or the one family without a share. -/
theorem keepEligible_again (regime : String) (families : List String) (ts : Targets)
    (hkeys : ts.map Prod.fst = (baseTargets regime (some families)).map Prod.fst) :
    keepEligible families ts = ts ∨ keepEligible families ts = [("flashloan_atomic", 1)] := by
  by_cases hsome : ∃ e ∈ regimeTable regime, e.1 ∈ eligibleSet families
  · refine Or.inl (keepEligible_of_forall ?_ fun e he => ?_)
    · rintro rfl
      have hpos := (baseTargets_weights regime (some families)).1.pos
      rw [Targets.shares, List.map_eq_nil_iff.1 hkeys.symm] at hpos
      exact absurd hpos (by simp)
    · have hmem : e.1 ∈ (baseTargets regime (some families)).map Prod.fst :=
        hkeys ▸ List.mem_map_of_mem he
      obtain ⟨b, hb, heq⟩ := List.mem_map.1 hmem
      rw [← heq]
      exact keys_keepEligible hsome b hb
  · push Not at hsome
    refine Or.inr (keepEligible_of_none fun e he hmem => ?_)
    -- the one family stands in the table, so that it is not eligible either
    have hbase : baseTargets regime (some families) = [("flashloan_atomic", 1)] :=
      keepEligible_of_none hsome
    have hlisted : e.1 ∈ ts.map Prod.fst := List.mem_map_of_mem he
    rw [hkeys, hbase, List.map_singleton, List.mem_singleton] at hlisted
    have hkey : e.1 = "flashloan_atomic" := hlisted
    have htable : "flashloan_atomic" ∈ (regimeTable regime).map Prod.fst := by
      rw [keys_regimeTable]
      decide
    obtain ⟨b, hb, heq⟩ := List.mem_map.1 htable
    exact hsome b hb (by rw [heq, ← hkey]; exact hmem)

/-! ## What is handed out -/

/-- The values of a table with nothing below zero. -/
theorem map_max_zero (h : ∀ w ∈ ts.shares, 0 ≤ w) : (ts.map fun e => (e.1, max 0 e.2)) = ts := by
  conv_rhs => rw [← List.map_id ts]
  refine List.map_congr_left fun e he => ?_
  rw [max_eq_right (h e.2 (List.mem_map_of_mem he))]
  rfl

namespace AllocationInput

variable (i : AllocationInput)

def lastWeights : List ℚ :=
  let base := familyTargets i.regime i.eligibleFamilies
  if i.dynamic then
    match i.eligibleFamilies with
    | none => (i.signals.weighted i.regime base).shares
    | some families =>
      (keepEligible families (computeDynamicFamilyWeights base i.signals i.regime)).shares
  else (baseTargets i.regime i.eligibleFamilies).shares

/-- The shares of the families, before they are rounded for the last time. -/
def exactShares : List ℚ := Apportion.normalize i.lastWeights

/-- What is done last: weights are divided by their sum and rounded. -/
theorem targets_shares :
    Weights i.lastWeights ∧ i.targets.shares = i.exactShares.map (pyRound 6) := by
  have hfamily := familyTargets_weights i.regime i.eligibleFamilies
  unfold exactShares lastWeights targets
  by_cases hdynamic : i.dynamic = true
  · simp only [hdynamic, if_true]
    cases heligible : i.eligibleFamilies with
    | none =>
      rw [heligible] at hfamily
      refine ⟨hfamily.weighted i.signals i.regime, ?_⟩
      simp only [reweighted, heligible]
      exact computeDynamicFamilyWeights_shares hfamily i.signals i.regime
    | some families =>
      rw [heligible] at hfamily
      simp only [reweighted, heligible]
      have hdynamicShares := computeDynamicFamilyWeights_shares hfamily i.signals i.regime
      obtain ⟨hrounded, htenth⟩ := (hfamily.weighted i.signals i.regime).rounded
      rw [← hdynamicShares] at hrounded htenth
      have hkeys : (computeDynamicFamilyWeights (familyTargets i.regime (some families))
          i.signals i.regime).map Prod.fst
          = (baseTargets i.regime (some families)).map Prod.fst := by
        rw [keys_computeDynamicFamilyWeights, familyTargets, keys_roundShares]
      have hkept : Weights (keepEligible families (computeDynamicFamilyWeights
            (familyTargets i.regime (some families)) i.signals i.regime)).shares
          ∧ 1 / 10 ^ 9 ≤ (keepEligible families (computeDynamicFamilyWeights
            (familyTargets i.regime (some families)) i.signals i.regime)).shares.sum := by
        rcases keepEligible_again i.regime families _ hkeys with hsame | hone
        · rw [hsame]
          exact ⟨hrounded, le_trans (by norm_num) htenth⟩
        · rw [hone]
          exact weights_of_ge (by simp; norm_num) (by simp) (by simp)
      refine ⟨hkept.1, ?_⟩
      rw [map_max_zero hkept.1.nonneg]
      exact shares_roundShares_max hkept.2
  · rw [Bool.not_eq_true] at hdynamic
    simp only [hdynamic, Bool.false_eq_true, if_false]
    exact ⟨(baseTargets_weights i.regime i.eligibleFamilies).1,
      familyTargets_shares i.regime i.eligibleFamilies⟩

end AllocationInput

def baseFamilies : List String := baseTable.map Prod.fst

/-- An eligible family, by its name in the table. -/
def Eligible (families : List String) (family : String) : Prop :=
  ∃ f ∈ families, f ≠ "" ∧ capitalFamily f = family

theorem mem_eligibleSet {family : String} (h : Eligible families family) (other : String) :
    other ∈ eligibleSet families ↔ Eligible families other := by
  obtain ⟨f, hf, hnamed, rfl⟩ := h
  have hsome : (families.filter fun f => f != "").map capitalFamily ≠ [] :=
    List.ne_nil_of_mem (List.mem_map_of_mem (List.mem_filter.2 ⟨hf, by simpa using hnamed⟩))
  rw [eligibleSet, if_neg hsome]
  constructor
  · intro hmem
    obtain ⟨g, hg, rfl⟩ := List.mem_map.1 hmem
    obtain ⟨hin, hne⟩ := List.mem_filter.1 hg
    exact ⟨g, hin, by simpa using hne, rfl⟩
  · rintro ⟨g, hg, hne, rfl⟩
    exact List.mem_map_of_mem (List.mem_filter.2 ⟨hg, by simpa using hne⟩)

theorem targets_eligible {i : AllocationInput} (heligible : i.eligibleFamilies = some families)
    {family : String} (hfamily : Eligible families family) (htable : family ∈ baseFamilies) :
    ∀ e ∈ i.targets, Eligible families e.1 := by
  rw [baseFamilies, ← keys_regimeTable i.regime] at htable
  obtain ⟨b, hb, rfl⟩ := List.mem_map.1 htable
  have hbase : ∀ k ∈ (baseTargets i.regime (some families)).map Prod.fst,
      k ∈ eligibleSet families := by
    intro k hk
    obtain ⟨e, he, rfl⟩ := List.mem_map.1 hk
    exact keys_keepEligible ⟨b, hb, (mem_eligibleSet hfamily _).2 hfamily⟩ e he
  have hkeys : ∀ k ∈ i.targets.map Prod.fst, k ∈ eligibleSet families := by
    have hweights : (computeDynamicFamilyWeights (familyTargets i.regime (some families))
        i.signals i.regime).map Prod.fst = (baseTargets i.regime (some families)).map Prod.fst := by
      rw [keys_computeDynamicFamilyWeights, familyTargets, keys_roundShares]
    unfold AllocationInput.targets AllocationInput.reweighted
    rw [heligible]
    split
    · intro k hk
      rw [keys_roundShares, List.map_map] at hk
      obtain ⟨e, he, rfl⟩ := List.mem_map.1 hk
      refine keys_keepEligible ?_ e he
      obtain ⟨e', he'⟩ : ∃ e', e' ∈ baseTargets i.regime (some families) := by
        have hpos := (baseTargets_weights i.regime (some families)).1.pos
        refine List.exists_mem_of_ne_nil _ fun hnil => ?_
        rw [hnil] at hpos
        exact absurd hpos (by simp [Targets.shares])
      have hmem : e'.1 ∈ (computeDynamicFamilyWeights (familyTargets i.regime (some families))
          i.signals i.regime).map Prod.fst := hweights ▸ List.mem_map_of_mem he'
      obtain ⟨w, hw, heq⟩ := List.mem_map.1 hmem
      exact ⟨w, hw, heq ▸ hbase _ (List.mem_map_of_mem he')⟩
    · rw [familyTargets, keys_roundShares]
      exact hbase
  intro e he
  exact (mem_eligibleSet hfamily _).1 (hkeys e.1 (List.mem_map_of_mem he))

/-! ## Conservation -/

structure Conserves (i : AllocationInput) : Prop where
  buckets_nonneg : 0 ≤ (allocateCapital i).deployableBankrollWei
    ∧ 0 ≤ (allocateCapital i).reserveBankrollWei
    ∧ 0 ≤ (allocateCapital i).experimentalBankrollWei
    ∧ 0 ≤ (allocateCapital i).drawdownBufferWei
    ∧ 0 ≤ (allocateCapital i).treasuryOfframpWei
  within_capital : (allocateCapital i).deployableBankrollWei
    + (allocateCapital i).reserveBankrollWei + (allocateCapital i).experimentalBankrollWei
    + (allocateCapital i).drawdownBufferWei + (allocateCapital i).treasuryOfframpWei
      ≤ i.estimatedCapitalWei
  families_nonneg : ∀ e ∈ (allocateCapital i).familyAllocationsWei, 0 ≤ e.2
  families_within : ((allocateCapital i).familyAllocationsWei.map Prod.snd).sum
    ≤ (allocateCapital i).deployableBankrollWei
  families_eligible : ∀ families family, i.eligibleFamilies = some families →
    Eligible families family → family ∈ baseFamilies →
      ∀ e ∈ (allocateCapital i).familyAllocationsWei, Eligible families e.1
  contracts : ∀ drawdownPct, i.drawdownPct ≤ drawdownPct →
    (allocateCapital { i with drawdownPct := drawdownPct }).deployableBankrollWei
        ≤ (allocateCapital i).deployableBankrollWei
      ∧ (allocateCapital { i with drawdownPct := drawdownPct }).experimentalBankrollWei
        ≤ (allocateCapital i).experimentalBankrollWei

/-- What the rounding adds to the shares in total, taken of the deployable amount, is no more than
what dropping the fractions of a wei keeps back. -/
def RoundingCovered (i : AllocationInput) : Prop :=
  i.deployable * gained (pyRound 6) i.exactShares
    ≤ dropped (i.deployable : ℚ) (i.exactShares.map (pyRound 6))

theorem deployable_nonneg (i : AllocationInput) : 0 ≤ i.deployable := (buckets_conserve i).1.1

/-- The families are handed whole wei of the deployable amount by the rounded shares. -/
theorem allocations_granted (i : AllocationInput) :
    (allocateCapital i).familyAllocationsWei.map Prod.snd
        = granted (i.deployable : ℚ) (i.exactShares.map (pyRound 6))
      ∧ ∀ s ∈ i.exactShares.map (pyRound 6), 0 ≤ s := by
  obtain ⟨hweights, hshares⟩ := i.targets_shares
  have hnonneg := hweights.rounded.1.nonneg
  refine ⟨?_, hnonneg⟩
  have hdeployable : (0 : ℚ) ≤ i.deployable := by exact_mod_cast deployable_nonneg i
  have hmap : (allocateCapital i).familyAllocationsWei.map Prod.snd
      = i.targets.shares.map fun s => Double.trunc (i.deployable * s) := by
    simp [allocateCapital, Targets.shares, Function.comp_def]
  rw [hmap, hshares]
  refine List.map_congr_left fun s hs => ?_
  exact trunc_eq_floor (mul_nonneg hdeployable (hnonneg s hs))

/-- From ten million deployable wei on, what the rounding adds is covered exactly when it adds
nothing in total. -/
theorem roundingCovered_iff_of_large {i : AllocationInput} (h : 10 ^ 7 ≤ i.deployable) :
    RoundingCovered i ↔ gained (pyRound 6) i.exactShares ≤ 0 := by
  obtain ⟨hweights, -⟩ := i.targets_shares
  have hsum := hweights.isShares.sum_eq
  have hgrid : ∀ s : ℚ, ∃ k : ℤ, pyRound 6 s * ((10 ^ 6 : ℕ) : ℚ) = k := fun s =>
    ⟨roundHalfEven (s * 10 ^ 6), by rw [pyRound]; push_cast; exact div_mul_cancel₀ _ (by norm_num)⟩
  have hlength : i.exactShares.length ≤ 10 := by
    rw [AllocationInput.exactShares, Apportion.normalize, List.length_map]
    exact hweights.few
  have hshares : i.exactShares.sum = 1 := hsum
  rw [RoundingCovered, ← granted_le_iff hshares]
  refine granted_le_iff_of_large hshares (by norm_num) hgrid ?_
  push_cast
  omega

instance (i : AllocationInput) : Decidable (RoundingCovered i) :=
  inferInstanceAs (Decidable (_ ≤ _))

def anEther (families : List String) : AllocationInput where
  estimatedCapitalWei := 10 ^ 18
  drawdownPct := 0
  regime := "balanced"
  aggressivenessLevel := "LOW"
  scorecards := none
  capitalMetrics := none
  covariancePenalties := none
  eligibleFamilies := some families

end SovereignCapital.Treasury
