import SovereignCapital.Capital.Bankroll
import SovereignCapital.Lib.Double

/-! # The next amount

`BankrollManager.next_amount_in`: the base amount grows with the profit, is scaled by the Kelly
fraction of the recent returns, capped, and halved after failures, but not below the base. Floats
are exact.
-/

namespace SovereignCapital.Capital

open Double

/-! ## Sizing -/

/-- The fields of `BankrollConfig` that the sizing reads. -/
structure BankrollSizingConfig extends BankrollConfig where
  reinvestRatePct : Int
  maxBorrowAmountWei : Int
  kellyEnabled : Bool
  kellyMinHistory : Int
  kellyCapFraction : ℚ
  kellyMinFraction : ℚ
  volatilityDownscale : ℚ

def kellyFraction (cfg : BankrollSizingConfig) (rets : List ℚ) : ℚ :=
  if rets = [] then cfg.kellyMinFraction
  else
    let mu := rets.sum / rets.length
    let var := (rets.map fun r => (r - mu) ^ 2).sum / max 1 ((rets.length : ℚ) - 1)
    let p := ((rets.filter fun r => 0 < r).length : ℚ) / rets.length
    let f := if var ≤ 1 / 10 ^ 12 then p * (1 / 10) else mu / var * (1 / 2 + 1 / 2 * p)
    let f := max 0 f * (1 - max 0 (min (8 / 10) cfg.volatilityDownscale))
    max cfg.kellyMinFraction (min cfg.kellyCapFraction f)

/-- The profit goes into the amount. -/
def reinvests (cfg : BankrollSizingConfig) (s : BankrollState) : Bool :=
  cfg.autoReinvestEnabled && decide (0 < cfg.reinvestRatePct) && decide (0 < s.realizedPnlUsd)

/-- The amount is scaled. -/
def kellyApplies (cfg : BankrollSizingConfig) (s : BankrollState) : Bool :=
  cfg.kellyEnabled && decide (intOr cfg.kellyMinHistory 20 ≤ s.recentReturns.length)

def kellyScale (cfg : BankrollSizingConfig) (rets : List ℚ) : ℚ :=
  max (1 / 4) (min 3 (1 / 2 + 2 * kellyFraction cfg rets))

/-- `amt` before the cap. -/
def uncappedAmount (cfg : BankrollSizingConfig) (s : BankrollState) : Int :=
  let base := max 0 cfg.baseBorrowAmountWei
  let amt :=
    if reinvests cfg s then base + s.realizedProfitWei * cfg.reinvestRatePct / 100 else base
  if kellyApplies cfg s then max 1 (trunc (amt * kellyScale cfg s.recentReturns)) else amt

/-- `next_amount_in`, with the state it leaves. Its records are mirrors. -/
def nextAmountIn (cfg : BankrollSizingConfig) (s : BankrollState) (now : Int) :
    Int × BankrollState :=
  let base := max 0 cfg.baseBorrowAmountWei
  if base ≤ 0 then (0, s)
  else
    let cap := max 0 cfg.maxBorrowAmountWei
    let amt := uncappedAmount cfg s
    let amt := if 0 < cap then min amt cap else amt
    let amt := if 2 ≤ s.failStreak then max base (amt / 2) else amt
    (amt, { s with lastAmountInWei := amt, updatedTsMs := now, sizingUpdatedTsMs := now })

/-! ## Backing off -/

/-- The amount stays at the base or above before the cap: the profit that is reinvested is no loss,
and the Kelly fraction does not scale the amount below the base. -/
def KeepsBase (cfg : BankrollSizingConfig) (s : BankrollState) : Prop :=
  if kellyApplies cfg s then
    cfg.baseBorrowAmountWei ≤ 1
      ∨ (cfg.baseBorrowAmountWei : ℚ)
        ≤ (cfg.baseBorrowAmountWei
          + if reinvests cfg s then s.realizedProfitWei * cfg.reinvestRatePct / 100 else 0 : ℤ)
            * kellyScale cfg s.recentReturns
  else reinvests cfg s = true → 0 ≤ s.realizedProfitWei

/-- There is nothing to size or no failure to back off from, or the base is an amount that may be
returned. -/
def FloorHarmless (cfg : BankrollSizingConfig) (s : BankrollState) : Prop :=
  cfg.baseBorrowAmountWei ≤ 0 ∨ s.failStreak < 2
    ∨ (cfg.maxBorrowAmountWei ≤ 0 ∨ cfg.baseBorrowAmountWei ≤ cfg.maxBorrowAmountWei)
      ∧ KeepsBase cfg s

/-- The amount with the cap, before the failures count. -/
def cappedAmount (cfg : BankrollSizingConfig) (s : BankrollState) : Int :=
  if 0 < cfg.maxBorrowAmountWei then min (uncappedAmount cfg s) cfg.maxBorrowAmountWei
  else uncappedAmount cfg s

theorem le_trunc_iff {b : ℤ} (hb : 0 < b) (x : ℚ) : b ≤ trunc x ↔ (b : ℚ) ≤ x := by
  unfold trunc
  split
  · exact Int.le_floor
  · rename_i hx
    have hx' : x < 0 := not_le.1 hx
    have hceil : ⌈x⌉ ≤ 0 := Int.ceil_le.2 (by exact_mod_cast hx'.le)
    have hbq : (0 : ℚ) < b := by exact_mod_cast hb
    constructor
    · intro h
      omega
    · intro h
      linarith

variable {cfg : BankrollSizingConfig}

theorem base_le_uncappedAmount_iff (s : BankrollState) (hbase : 0 < cfg.baseBorrowAmountWei) :
    cfg.baseBorrowAmountWei ≤ uncappedAmount cfg s ↔ KeepsBase cfg s := by
  have hsum : (if reinvests cfg s = true then
        cfg.baseBorrowAmountWei + s.realizedProfitWei * cfg.reinvestRatePct / 100
      else cfg.baseBorrowAmountWei)
      = cfg.baseBorrowAmountWei
        + if reinvests cfg s = true then s.realizedProfitWei * cfg.reinvestRatePct / 100
          else 0 := by
    split
    · rfl
    · rw [add_zero]
  unfold uncappedAmount KeepsBase
  dsimp only
  rw [max_eq_right hbase.le, hsum]
  by_cases hkelly : kellyApplies cfg s = true
  · rw [if_pos hkelly, if_pos hkelly, le_max_iff, le_trunc_iff hbase]
  · -- without Kelly only a reinvested loss brings the amount below the base
    rw [if_neg hkelly, if_neg hkelly, le_add_iff_nonneg_right]
    by_cases hreinvests : reinvests cfg s = true
    · have hrate : 0 < cfg.reinvestRatePct := by
        unfold reinvests at hreinvests
        simp only [Bool.and_eq_true, decide_eq_true_eq] at hreinvests
        exact hreinvests.1.2
      rw [if_pos hreinvests]
      constructor
      · intro h _
        by_contra hneg
        have hloss : s.realizedProfitWei * cfg.reinvestRatePct < 0 :=
          mul_neg_of_neg_of_pos (not_le.1 hneg) hrate
        omega
      · intro h
        exact Int.ediv_nonneg (mul_nonneg (h hreinvests) hrate.le) (by norm_num)
    · rw [if_neg hreinvests]
      exact iff_of_true le_rfl fun h => absurd h hreinvests

theorem nextAmountIn_of_base (s : BankrollState) (now : Int) (hbase : 0 < cfg.baseBorrowAmountWei) :
    (nextAmountIn cfg s now).1
      = if 2 ≤ s.failStreak then max cfg.baseBorrowAmountWei (cappedAmount cfg s / 2)
        else cappedAmount cfg s := by
  have hcap : (if 0 < max 0 cfg.maxBorrowAmountWei then
        min (uncappedAmount cfg s) (max 0 cfg.maxBorrowAmountWei) else uncappedAmount cfg s)
      = cappedAmount cfg s := by
    unfold cappedAmount
    by_cases hmax : 0 < cfg.maxBorrowAmountWei
    · rw [max_eq_right hmax.le]
    · rw [max_eq_left (not_lt.1 hmax), if_neg (lt_irrefl 0), if_neg hmax]
  unfold nextAmountIn
  dsimp only
  rw [max_eq_right hbase.le, if_neg (not_le.2 hbase), hcap]

theorem nextAmountIn_of_no_base (s : BankrollState) (now : Int)
    (hbase : cfg.baseBorrowAmountWei ≤ 0) : (nextAmountIn cfg s now).1 = 0 := by
  unfold nextAmountIn
  dsimp only
  rw [max_eq_left hbase, if_pos le_rfl]

theorem cappedAmount_le (s : BankrollState) (hmax : 0 < cfg.maxBorrowAmountWei) :
    cappedAmount cfg s ≤ cfg.maxBorrowAmountWei := by
  unfold cappedAmount
  rw [if_pos hmax]
  exact min_le_right _ _

theorem base_le_cappedAmount_iff (s : BankrollState) (hbase : 0 < cfg.baseBorrowAmountWei) :
    cfg.baseBorrowAmountWei ≤ cappedAmount cfg s
      ↔ (cfg.maxBorrowAmountWei ≤ 0 ∨ cfg.baseBorrowAmountWei ≤ cfg.maxBorrowAmountWei)
        ∧ KeepsBase cfg s := by
  rw [← base_le_uncappedAmount_iff s hbase]
  unfold cappedAmount
  by_cases hmax : 0 < cfg.maxBorrowAmountWei
  · rw [if_pos hmax, le_min_iff]
    constructor
    · rintro ⟨hamount, hcap⟩
      exact ⟨Or.inr hcap, hamount⟩
    · rintro ⟨hcap, hamount⟩
      exact ⟨hamount, hcap.resolve_left (not_le.2 hmax)⟩
  · rw [if_neg hmax]
    exact ⟨fun h => ⟨Or.inl (not_lt.1 hmax), h⟩, fun h => h.2⟩

/-- **Bankroll sizing.** The amount stays within the cap and backing off does not raise it, exactly
when the floor at the base does no harm. -/
theorem sizing_safe_iff (cfg : BankrollSizingConfig) (s : BankrollState) (now : Int) :
    ((0 < cfg.maxBorrowAmountWei → (nextAmountIn cfg s now).1 ≤ cfg.maxBorrowAmountWei)
      ∧ (2 ≤ s.failStreak →
        (nextAmountIn cfg s now).1 ≤ (nextAmountIn cfg { s with failStreak := 0 } now).1))
      ↔ FloorHarmless cfg s := by
  unfold FloorHarmless
  by_cases hbase : 0 < cfg.baseBorrowAmountWei
  · have hzero : (nextAmountIn cfg { s with failStreak := 0 } now).1 = cappedAmount cfg s := by
      rw [nextAmountIn_of_base _ now hbase]
      rfl
    rw [hzero, nextAmountIn_of_base s now hbase, or_iff_right (not_le.2 hbase),
      ← base_le_cappedAmount_iff s hbase]
    by_cases hfail : 2 ≤ s.failStreak
    · rw [if_pos hfail, or_iff_right (not_lt.2 hfail)]
      constructor
      · rintro ⟨-, hback⟩
        -- what is returned is at least the base, by the floor
        exact (le_max_left _ _).trans (hback hfail)
      · intro hfloor
        have hhalf : max cfg.baseBorrowAmountWei (cappedAmount cfg s / 2) ≤ cappedAmount cfg s :=
          max_le hfloor (by omega)
        exact ⟨fun hmax => hhalf.trans (cappedAmount_le s hmax), fun _ => hhalf⟩
    · rw [if_neg hfail]
      exact iff_of_true ⟨cappedAmount_le s, fun h => absurd h hfail⟩ (Or.inl (not_le.1 hfail))
  · have hnone := not_lt.1 hbase
    rw [nextAmountIn_of_no_base s now hnone, nextAmountIn_of_no_base _ now hnone]
    exact iff_of_true ⟨fun hmax => hmax.le, fun _ => le_rfl⟩ (Or.inl hnone)

/-! ## A base above the cap -/

def sampleSizingConfig : BankrollSizingConfig where
  autoReinvestEnabled := false
  baseBorrowAmountWei := 10
  kellyWindow := 50
  reinvestRatePct := 0
  maxBorrowAmountWei := 5
  kellyEnabled := false
  kellyMinHistory := 20
  kellyCapFraction := 3 / 4
  kellyMinFraction := 1 / 20
  volatilityDownscale := 7 / 20

def sampleFailedState : BankrollState where
  realizedProfitWei := 0
  realizedPnlUsd := 0
  realizedLossUsd := 0
  reinvestableProfitUsd := 0
  lastSettledReceiptId := ""
  lastSettledTransactionId := ""
  lastSettledPnlUsd := 0
  lastAmountInWei := 0
  successStreak := 0
  failStreak := 2
  updatedTsMs := 0
  profitUpdatedTsMs := 0
  sizingUpdatedTsMs := 0
  recentResults := [0, 0]
  recentReturns := [0, 0]

/-- With the cap at five, ten are returned after two failures and five before. -/
theorem sizing_above_cap :
    ¬ (∀ (cfg : BankrollSizingConfig) (s : BankrollState) (now : Int),
      (0 < cfg.maxBorrowAmountWei → (nextAmountIn cfg s now).1 ≤ cfg.maxBorrowAmountWei)
        ∧ (2 ≤ s.failStreak →
          (nextAmountIn cfg s now).1 ≤ (nextAmountIn cfg { s with failStreak := 0 } now).1)) := by
  intro h
  have hcap := (h sampleSizingConfig sampleFailedState 0).1 (by decide)
  revert hcap
  decide

end SovereignCapital.Capital
