import Mathlib.Algebra.Order.Ring.Rat

/-! # The bankroll

`BankrollManager` of `bankroll.py`, as far as the settlement of a receipt goes: the state, the
projection of a trade and the adoption of a projected payload.
-/

namespace SovereignCapital.Capital

/-- The fields of `BankrollConfig` a settlement reads. -/
structure BankrollConfig where
  autoReinvestEnabled : Bool
  baseBorrowAmountWei : Int
  kellyWindow : Int

/-- `BankrollState`; its payload has the same fields. -/
structure BankrollState where
  realizedProfitWei : Int
  realizedPnlUsd : ℚ
  realizedLossUsd : ℚ
  reinvestableProfitUsd : ℚ
  lastSettledReceiptId : String
  lastSettledTransactionId : String
  lastSettledPnlUsd : ℚ
  lastAmountInWei : Int
  successStreak : Int
  failStreak : Int
  updatedTsMs : Int
  profitUpdatedTsMs : Int
  sizingUpdatedTsMs : Int
  recentResults : List Int
  recentReturns : List ℚ
deriving DecidableEq

structure Bankroll where
  cfg : BankrollConfig
  state : BankrollState

/-- `x or y` on integers. -/
def intOr (x y : Int) : Int := if x = 0 then y else x

/-- `max(1, int(cfg.kelly_window or 50))`. -/
def BankrollConfig.window (cfg : BankrollConfig) : Nat := (max 1 (intOr cfg.kellyWindow 50)).toNat

/-- The last entries of a list, `l[-n:]` for a positive `n`. -/
def lastOf {α : Type} (n : Nat) (l : List α) : List α := l.drop (l.length - n)

def projectTradeState (b : Bankroll) (now : Int) (success : Bool)
    (realizedProfitAfterGasWei amountInWei : Int) : BankrollState :=
  let s := b.state
  let amountIn := max 1 amountInWei
  let realized := max 0 realizedProfitAfterGasWei
  { s with
    lastAmountInWei := amountIn
    realizedProfitWei := if success then s.realizedProfitWei + realized else s.realizedProfitWei
    successStreak := if success then s.successStreak + 1 else 0
    failStreak := if success then 0 else s.failStreak + 1
    updatedTsMs := now
    sizingUpdatedTsMs := now
    profitUpdatedTsMs := if success then now else intOr s.profitUpdatedTsMs now
    recentResults := lastOf b.cfg.window (s.recentResults ++ [if success then 1 else 0])
    recentReturns := lastOf b.cfg.window
      (s.recentReturns ++ [if success then (realized : ℚ) / amountIn else 0]) }

/-- `apply_state_payload`: the payload becomes the state. The state file is a mirror whose
failures are swallowed. -/
def applyStatePayload (b : Bankroll) (now : Int) (payload : BankrollState) : Bankroll :=
  { b with
    state :=
      { payload with
        updatedTsMs := intOr payload.updatedTsMs now
        profitUpdatedTsMs := intOr payload.profitUpdatedTsMs now
        sizingUpdatedTsMs := intOr payload.sizingUpdatedTsMs now
        recentResults := lastOf b.cfg.window payload.recentResults
        recentReturns := lastOf b.cfg.window payload.recentReturns } }

@[simp] theorem intOr_self (x : Int) : intOr x x = x := by
  unfold intOr
  split <;> rfl

@[simp] theorem intOr_intOr (x y : Int) : intOr (intOr x y) y = intOr x y := by
  unfold intOr
  split
  · split <;> rfl
  · rfl

theorem lastOf_lastOf {α : Type} (n : Nat) (l : List α) : lastOf n (lastOf n l) = lastOf n l := by
  unfold lastOf
  rw [List.length_drop, show l.length - (l.length - n) - n = 0 by omega, List.drop_zero]

/-- **A projected trade is adopted as it is.** -/
theorem applyStatePayload_projected (b : Bankroll) (now : Int) (success : Bool)
    (realizedProfitAfterGasWei amountInWei : Int) :
    (applyStatePayload b now
        (projectTradeState b now success realizedProfitAfterGasWei amountInWei)).state
      = projectTradeState b now success realizedProfitAfterGasWei amountInWei := by
  have hprofit : intOr (if success then now else intOr b.state.profitUpdatedTsMs now) now
      = if success then now else intOr b.state.profitUpdatedTsMs now := by
    cases success <;> simp
  simp only [applyStatePayload, projectTradeState, intOr_self, hprofit, lastOf_lastOf]

end SovereignCapital.Capital
