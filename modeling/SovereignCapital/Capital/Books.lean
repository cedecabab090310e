import Mathlib.Algebra.Order.BigOperators.Group.List
import SovereignCapital.Capital.NextAmount
import SovereignCapital.Lib.Runs

/-! # The books of the bankroll

`BankrollManager` over a run: settled outcomes and trades are recorded, amounts are sized, settings
are overridden, and the manager restarts from its state file. Floats are exact.

* `booksHold_iff` : the books are what was recorded exactly when no trade books a profit.
-/

namespace SovereignCapital.Capital

open Runs

/-! ## The manager -/

/-- `SettledReceiptEconomics`, as far as it is recorded. -/
structure SettledEconomics where
  receiptId : String
  transactionId : String
  amountInWei : Int
  realizedAfterGasWei : Int
  signedPnlUsd : ℚ
  success : Bool

def SettledEconomics.lossUsd (e : SettledEconomics) : ℚ := max 0 (-e.signedPnlUsd)

def SettledEconomics.reinvestableProfitUsd (e : SettledEconomics) : ℚ := max 0 e.signedPnlUsd

def BankrollState.default (now : Int) : BankrollState :=
  ⟨0, 0, 0, 0, "", "", 0, 0, 0, 0, now, now, now, [], []⟩

structure Manager where
  cfg : BankrollSizingConfig
  state : BankrollState
  /-- the payload of the state file -/
  file : Option BankrollState

def BankrollSizingConfig.keepWindow (cfg : BankrollSizingConfig) (s : BankrollState) :
    BankrollState :=
  { s with
    recentResults := lastOf cfg.window s.recentResults
    recentReturns := lastOf cfg.window s.recentReturns }

def loadState (cfg : BankrollSizingConfig) (file : Option BankrollState) (now : Int) :
    BankrollState :=
  match file with
  | none => .default now
  | some payload =>
    cfg.keepWindow { payload with
      updatedTsMs := intOr (max 0 payload.updatedTsMs) now
      profitUpdatedTsMs := intOr (max 0 payload.profitUpdatedTsMs) now
      sizingUpdatedTsMs := intOr (max 0 payload.sizingUpdatedTsMs) now }

/-- A new manager over a state file: the state is loaded, windowed and saved. -/
def Manager.start (cfg : BankrollSizingConfig) (file : Option BankrollState) (now : Int) :
    Manager :=
  let s := cfg.keepWindow (loadState cfg file now)
  ⟨cfg, s, some s⟩

def Manager.save (m : Manager) (s : BankrollState) : Manager :=
  { m with state := s, file := some s }

def Manager.bankroll (m : Manager) : Bankroll := ⟨m.cfg.toBankrollConfig, m.state⟩

def Manager.outcomeAmount (m : Manager) (e : SettledEconomics) : Int :=
  max 1 (intOr e.amountInWei m.state.lastAmountInWei)

def projectSettledOutcomeState (m : Manager) (now : Int) (e : SettledEconomics) : BankrollState :=
  let s := m.state
  let pnl := e.signedPnlUsd
  { realizedProfitWei :=
      if e.success ∧ 0 < e.realizedAfterGasWei then s.realizedProfitWei + e.realizedAfterGasWei
      else s.realizedProfitWei
    realizedPnlUsd := s.realizedPnlUsd + pnl
    realizedLossUsd := s.realizedLossUsd + e.lossUsd
    reinvestableProfitUsd := s.reinvestableProfitUsd + e.reinvestableProfitUsd
    lastSettledReceiptId := e.receiptId
    lastSettledTransactionId := e.transactionId
    lastSettledPnlUsd := pnl
    lastAmountInWei := m.outcomeAmount e
    successStreak := if 0 < pnl then s.successStreak + 1 else if pnl < 0 then 0 else s.successStreak
    failStreak := if 0 < pnl then 0 else if pnl < 0 then s.failStreak + 1 else s.failStreak
    updatedTsMs := now
    profitUpdatedTsMs := now
    sizingUpdatedTsMs := now
    recentResults := lastOf m.cfg.window (s.recentResults ++ [if 0 < pnl then 1 else 0])
    recentReturns := lastOf m.cfg.window (s.recentReturns ++ [pnl / m.outcomeAmount e]) }

def recordSettledOutcome (m : Manager) (now : Int) (e : SettledEconomics) : Manager :=
  m.save (applyStatePayload m.bankroll now (projectSettledOutcomeState m now e)).state

/-- `record_trade`: the wei of a profit are booked as dollars too. -/
def recordTrade (m : Manager) (now : Int) (success : Bool) (realizedProfitAfterGasWei : Int)
    (amountInWei : Option Int) : Manager :=
  let payload := projectTradeState m.bankroll now success realizedProfitAfterGasWei
    (amountInWei.getD m.state.lastAmountInWei)
  let legacyProfit : ℚ := if success then (max 0 realizedProfitAfterGasWei : Int) else 0
  m.save (applyStatePayload m.bankroll now { payload with
    realizedPnlUsd := payload.realizedPnlUsd + legacyProfit
    reinvestableProfitUsd := payload.reinvestableProfitUsd + legacyProfit }).state

def applyOverrides (m : Manager) (now : Int) (kellyEnabled autoReinvestEnabled : Option Bool) :
    Manager :=
  { m with
    cfg := { m.cfg with
      kellyEnabled := kellyEnabled.getD m.cfg.kellyEnabled
      autoReinvestEnabled := autoReinvestEnabled.getD m.cfg.autoReinvestEnabled } }.save
    { m.state with updatedTsMs := now }

/-- What is done to a manager; a restart reads the two settings anew. -/
inductive Event where
  | settled (now : Int) (economics : SettledEconomics)
  | trade (now : Int) (success : Bool) (realizedProfitAfterGasWei : Int) (amountInWei : Option Int)
  | sizing (now : Int)
  | overrides (now : Int) (kellyEnabled autoReinvestEnabled : Option Bool)
  | restart (now : Int) (kellyEnabled autoReinvestEnabled : Bool)

def Manager.step (m : Manager) : Event → Manager
  | .settled now e => recordSettledOutcome m now e
  | .trade now success realized amountIn => recordTrade m now success realized amountIn
  | .sizing now =>
    if max 0 m.cfg.baseBorrowAmountWei ≤ 0 then m else m.save (nextAmountIn m.cfg m.state now).2
  | .overrides now kelly reinvest => applyOverrides m now kelly reinvest
  | .restart now kelly reinvest =>
    .start { m.cfg with kellyEnabled := kelly, autoReinvestEnabled := reinvest } m.file now

/-! ## What is recorded -/

def Event.settledPnlUsd : Event → ℚ
  | .settled _ e => e.signedPnlUsd
  | _ => 0

/-- The wei of a successful trade that are booked as dollars. -/
def Event.legacyProfit : Event → ℚ
  | .trade _ true realized _ => (max 0 realized : Int)
  | _ => 0

def Event.lossUsd : Event → ℚ
  | .settled _ e => e.lossUsd
  | _ => 0

def Event.profitWei : Event → Int
  | .settled _ e => if e.success ∧ 0 < e.realizedAfterGasWei then e.realizedAfterGasWei else 0
  | .trade _ true realized _ => max 0 realized
  | _ => 0

def Manager.entry (m : Manager) : Event → Option (Int × ℚ)
  | .settled _ e =>
    some (if 0 < e.signedPnlUsd then 1 else 0, e.signedPnlUsd / m.outcomeAmount e)
  | .trade _ success realized amountIn =>
    let amount := max 1 (amountIn.getD m.state.lastAmountInWei)
    some (if success then (1, (max 0 realized : Int) / (amount : ℚ)) else (0, 0))
  | _ => none

def Manager.entries (m : Manager) : List Event → List (Int × ℚ)
  | [] => []
  | e :: events => (m.entry e).toList ++ (m.step e).entries events

structure Money where
  realizedProfitWei : Int
  realizedPnlUsd : ℚ
  realizedLossUsd : ℚ
  reinvestableProfitUsd : ℚ
  recentResults : List Int
  recentReturns : List ℚ

def BankrollState.money (s : BankrollState) : Money :=
  ⟨s.realizedProfitWei, s.realizedPnlUsd, s.realizedLossUsd, s.reinvestableProfitUsd,
    s.recentResults, s.recentReturns⟩

/-- The books of a run of a new manager are what was recorded: its state, and what one more event
and a restart make of it. -/
structure BooksHold (cfg : BankrollSizingConfig) (now : Int) (events : List Event) : Prop where
  split : (run Manager.step (.start cfg none now) events).state.realizedPnlUsd
    = (run Manager.step (.start cfg none now) events).state.reinvestableProfitUsd
      - (run Manager.step (.start cfg none now) events).state.realizedLossUsd
  settled : (run Manager.step (.start cfg none now) events).state.realizedPnlUsd
    = (events.map Event.settledPnlUsd).sum
  profit : (run Manager.step (.start cfg none now) events).state.realizedProfitWei
    = (events.map Event.profitWei).sum
  results : (run Manager.step (.start cfg none now) events).state.recentResults
    = lastOf cfg.window (((Manager.start cfg none now).entries events).map Prod.fst)
  returns : (run Manager.step (.start cfg none now) events).state.recentReturns
    = lastOf cfg.window (((Manager.start cfg none now).entries events).map Prod.snd)
  grows : ∀ e, (run Manager.step (.start cfg none now) events).state.reinvestableProfitUsd
      ≤ (run Manager.step (.start cfg none now) (events ++ [e])).state.reinvestableProfitUsd
    ∧ (run Manager.step (.start cfg none now) events).state.realizedLossUsd
      ≤ (run Manager.step (.start cfg none now) (events ++ [e])).state.realizedLossUsd
  restarts : ∀ later kelly reinvest,
    (run Manager.step (.start cfg none now) (events ++ [.restart later kelly reinvest])).state.money
      = (run Manager.step (.start cfg none now) events).state.money

/-! ## Steps -/

structure Manager.Saved (m : Manager) : Prop where
  file : m.file = some m.state
  results : lastOf m.cfg.window m.state.recentResults = m.state.recentResults
  returns : lastOf m.cfg.window m.state.recentReturns = m.state.recentReturns

structure Recorded (m : Manager) (events : List Event) (m' : Manager) : Prop extends
    m'.Saved where
  window : m'.cfg.window = m.cfg.window
  profit : m'.state.realizedProfitWei
    = m.state.realizedProfitWei + (events.map Event.profitWei).sum
  pnl : m'.state.realizedPnlUsd = m.state.realizedPnlUsd
    + (events.map Event.settledPnlUsd).sum + (events.map Event.legacyProfit).sum
  loss : m'.state.realizedLossUsd = m.state.realizedLossUsd + (events.map Event.lossUsd).sum
  reinvestable : m'.state.reinvestableProfitUsd = m.state.reinvestableProfitUsd
    + (events.map Event.settledPnlUsd).sum + (events.map Event.legacyProfit).sum
    + (events.map Event.lossUsd).sum
  recentResults : m'.state.recentResults
    = lastOf m.cfg.window (m.state.recentResults ++ (m.entries events).map Prod.fst)
  recentReturns : m'.state.recentReturns
    = lastOf m.cfg.window (m.state.recentReturns ++ (m.entries events).map Prod.snd)

theorem lastOf_append_lastOf {α : Type} (n : Nat) (a b : List α) :
    lastOf n (lastOf n a ++ b) = lastOf n (a ++ b) := by
  unfold lastOf
  have hle : a.length - n ≤ a.length := Nat.sub_le _ _
  by_cases h : a.length ≤ n
  · rw [Nat.sub_eq_zero_of_le h, List.drop_zero]
  · have hsplit : (a ++ b).length - n = a.length - n + b.length := by
      rw [List.length_append]
      omega
    have hshort : (a.drop (a.length - n) ++ b).length - n = b.length := by
      rw [List.length_append, List.length_drop]
      omega
    rw [hsplit, hshort, ← List.drop_drop, List.drop_append_of_le_length hle]

theorem SettledEconomics.reinvestable_eq (e : SettledEconomics) :
    e.reinvestableProfitUsd = e.signedPnlUsd + e.lossUsd := by
  unfold SettledEconomics.reinvestableProfitUsd SettledEconomics.lossUsd
  rcases le_total e.signedPnlUsd 0 with h | h
  · rw [max_eq_left h, max_eq_right (neg_nonneg.2 h), add_neg_cancel]
  · rw [max_eq_right h, max_eq_left (neg_nonpos.2 h), add_zero]

theorem recorded_of_money {m m' : Manager} {e : Event} (h : m.Saved)
    (hfile : m'.file = some m'.state) (hwindow : m'.cfg.window = m.cfg.window)
    (hmoney : m'.state.money = m.state.money) (hentry : m.entry e = none)
    (hnone : e.profitWei = 0 ∧ e.settledPnlUsd = 0 ∧ e.legacyProfit = 0 ∧ e.lossUsd = 0) :
    Recorded m [e] m' := by
  obtain ⟨hprofit, hpnl, hloss, hreinvestable, hresults, hreturns⟩ := Money.mk.inj hmoney
  obtain ⟨hwei, hsettled, hlegacy, hlost⟩ := hnone
  have hentries : m.entries [e] = [] := by rw [Manager.entries, hentry]; rfl
  refine ⟨⟨hfile, ?_, ?_⟩, hwindow, ?_, ?_, ?_, ?_, ?_, ?_⟩
  · rw [hwindow, hresults, h.results]
  · rw [hwindow, hreturns, h.returns]
  · simpa [hwei] using hprofit
  · simpa [hsettled, hlegacy] using hpnl
  · simpa [hlost] using hloss
  · simpa [hsettled, hlegacy, hlost] using hreinvestable
  · rw [hentries, List.map_nil, List.append_nil, h.results, hresults]
  · rw [hentries, List.map_nil, List.append_nil, h.returns, hreturns]

theorem money_restart {m : Manager} (h : m.Saved) (now : Int) (kelly reinvest : Bool) :
    (m.step (.restart now kelly reinvest)).state.money = m.state.money := by
  show (BankrollSizingConfig.keepWindow _ (loadState _ m.file now)).money = _
  rw [h.file]
  show Money.mk _ _ _ _ (lastOf m.cfg.window (lastOf m.cfg.window m.state.recentResults))
    (lastOf m.cfg.window (lastOf m.cfg.window m.state.recentReturns)) = _
  rw [lastOf_lastOf, lastOf_lastOf, h.results, h.returns]
  rfl

theorem recorded_settled (m : Manager) (now : Int) (e : SettledEconomics) :
    Recorded m [.settled now e] (m.step (.settled now e)) := by
  refine ⟨⟨rfl, lastOf_lastOf _ _, lastOf_lastOf _ _⟩, rfl, ?_, ?_, ?_, ?_, ?_, ?_⟩
  · show (if _ then _ else _) = m.state.realizedProfitWei + ([if _ then _ else _] : List Int).sum
    rw [List.sum_singleton]
    split
    · rfl
    · rw [add_zero]
  · show m.state.realizedPnlUsd + e.signedPnlUsd = _
    simp [Event.settledPnlUsd, Event.legacyProfit]
  · show m.state.realizedLossUsd + e.lossUsd = _
    simp [Event.lossUsd]
  · show m.state.reinvestableProfitUsd + e.reinvestableProfitUsd = _
    simp [Event.settledPnlUsd, Event.legacyProfit, Event.lossUsd, e.reinvestable_eq, add_assoc]
  · exact lastOf_lastOf _ _
  · exact lastOf_lastOf _ _

theorem recorded_trade (m : Manager) (now : Int) (success : Bool) (realized : Int)
    (amountIn : Option Int) : Recorded m [.trade now success realized amountIn]
      (m.step (.trade now success realized amountIn)) := by
  refine ⟨⟨rfl, lastOf_lastOf _ _, lastOf_lastOf _ _⟩, rfl, ?_, ?_, ?_, ?_, ?_, ?_⟩
  · cases success with
    | false => exact (add_zero _).symm
    | true => exact congrArg (m.state.realizedProfitWei + ·) (add_zero _).symm
  · show m.state.realizedPnlUsd + (if success then _ else _) = _
    cases success <;> simp [Event.settledPnlUsd, Event.legacyProfit]
  · show m.state.realizedLossUsd = _
    simp [Event.lossUsd]
  · show m.state.reinvestableProfitUsd + (if success then _ else _) = _
    cases success <;> simp [Event.settledPnlUsd, Event.legacyProfit, Event.lossUsd]
  · cases success <;> exact lastOf_lastOf _ _
  · cases success <;> exact lastOf_lastOf _ _

theorem recorded_step {m : Manager} (h : m.Saved) (e : Event) : Recorded m [e] (m.step e) := by
  cases e with
  | settled now e => exact recorded_settled m now e
  | trade now success realized amountIn => exact recorded_trade m now success realized amountIn
  | sizing now =>
    show Recorded m _ (if _ then _ else _)
    split
    · exact recorded_of_money h h.file rfl rfl rfl ⟨rfl, rfl, rfl, rfl⟩
    · rename_i hbase
      refine recorded_of_money h rfl rfl ?_ rfl ⟨rfl, rfl, rfl, rfl⟩
      show (nextAmountIn m.cfg m.state now).2.money = _
      rw [nextAmountIn, if_neg hbase]
      rfl
  | overrides now kelly reinvest =>
    exact recorded_of_money h rfl rfl rfl rfl ⟨rfl, rfl, rfl, rfl⟩
  | restart now kelly reinvest =>
    exact recorded_of_money h rfl rfl (money_restart h now kelly reinvest) rfl
      ⟨rfl, rfl, rfl, rfl⟩

theorem Recorded.cons {m m' : Manager} {e : Event} {events : List Event}
    (h : Recorded m [e] (m.step e)) (hrest : Recorded (m.step e) events m') :
    Recorded m (e :: events) m' := by
  have hentries : m.entries (e :: events) = m.entries [e] ++ (m.step e).entries events := by
    rw [Manager.entries, Manager.entries, Manager.entries, List.append_nil]
  refine ⟨hrest.toSaved, hrest.window.trans h.window, ?_, ?_, ?_, ?_, ?_, ?_⟩
  · rw [hrest.profit, h.profit]
    simp [add_assoc]
  · rw [hrest.pnl, h.pnl, List.map_cons, List.map_cons]
    simp only [List.map_cons, List.map_nil, List.sum_cons, List.sum_nil]
    ring
  · rw [hrest.loss, h.loss]
    simp [add_assoc]
  · rw [hrest.reinvestable, h.reinvestable]
    simp only [List.map_cons, List.map_nil, List.sum_cons, List.sum_nil]
    ring
  · rw [hrest.recentResults, h.window, h.recentResults, lastOf_append_lastOf, hentries,
      List.map_append, List.append_assoc]
  · rw [hrest.recentReturns, h.window, h.recentReturns, lastOf_append_lastOf, hentries,
      List.map_append, List.append_assoc]

theorem recorded_run (events : List Event) {m : Manager} (h : m.Saved) :
    Recorded m events (run Manager.step m events) := by
  induction events generalizing m with
  | nil =>
    refine ⟨h, rfl, ?_, ?_, ?_, ?_, ?_, ?_⟩
    · exact (add_zero _).symm
    · simp
    · simp
    · simp
    · simp [Manager.entries, h.results]
    · simp [Manager.entries, h.returns]
  | cons e events ih =>
    have hstep := recorded_step h e
    exact hstep.cons (ih hstep.toSaved)

/-! ## Runs -/

theorem start_saved (cfg : BankrollSizingConfig) (file : Option BankrollState) (now : Int) :
    (Manager.start cfg file now).Saved :=
  ⟨rfl, lastOf_lastOf _ _, lastOf_lastOf _ _⟩

theorem Event.legacyProfit_nonneg (e : Event) : 0 ≤ e.legacyProfit := by
  unfold Event.legacyProfit
  split
  · exact_mod_cast le_max_left 0 _
  · exact le_rfl

theorem Event.lossUsd_nonneg (e : Event) : 0 ≤ e.lossUsd := by
  cases e with
  | settled now e => exact le_max_left _ _
  | _ => exact le_rfl

theorem Event.gain_nonneg (e : Event) : 0 ≤ e.settledPnlUsd + e.legacyProfit + e.lossUsd := by
  cases e with
  | settled now e =>
    show 0 ≤ e.signedPnlUsd + 0 + e.lossUsd
    rw [add_zero, ← e.reinvestable_eq]
    exact le_max_left _ _
  | trade now success realized amountIn =>
    show 0 ≤ 0 + _ + 0
    rw [zero_add, add_zero]
    exact Event.legacyProfit_nonneg _
  | _ => simp [Event.settledPnlUsd, Event.legacyProfit, Event.lossUsd]

/-- The books of every run are what was recorded exactly when no trade of it is a success with a
profit. -/
theorem booksHold_iff (cfg : BankrollSizingConfig) (now : Int) (events : List Event) :
    BooksHold cfg now events ↔ ∀ e ∈ events, e.legacyProfit = 0 := by
  have hstart := start_saved cfg none now
  have hrun := recorded_run events hstart
  have hpnl : (run Manager.step (.start cfg none now) events).state.realizedPnlUsd
      = (events.map Event.settledPnlUsd).sum + (events.map Event.legacyProfit).sum := by
    rw [hrun.pnl]
    exact congrArg (· + _) (zero_add _)
  constructor
  · intro h e he
    have hzero : (events.map Event.legacyProfit).sum = 0 := by
      have := hpnl.symm.trans h.settled
      linarith
    refine List.all_zero_of_le_zero_le_of_sum_eq_zero ?_ hzero (List.mem_map_of_mem he)
    intro x hx
    obtain ⟨e', -, rfl⟩ := List.mem_map.1 hx
    exact e'.legacyProfit_nonneg
  · intro h
    have hzero : (events.map Event.legacyProfit).sum = 0 :=
      List.sum_eq_zero fun x hx => by
        obtain ⟨e, he, rfl⟩ := List.mem_map.1 hx
        exact h e he
    have hempty : (Manager.start cfg none now).state.recentResults = []
        ∧ (Manager.start cfg none now).state.recentReturns = [] :=
      ⟨List.drop_nil, List.drop_nil⟩
    have hstep := fun e => recorded_step hrun.toSaved e
    have hnext : ∀ e, run Manager.step (.start cfg none now) (events ++ [e])
        = (run Manager.step (.start cfg none now) events).step e := fun e => run_append _ _ _
    refine ⟨?_, ?_, hrun.profit.trans (zero_add _), ?_, ?_, fun e => ⟨?_, ?_⟩,
      fun later kelly reinvest => ?_⟩
    · rw [hrun.reinvestable, hrun.loss, hrun.pnl]
      show 0 + _ + _ = 0 + _ + _ + _ - (0 + _)
      ring
    · rw [hpnl, hzero, add_zero]
    · rw [hrun.recentResults, hempty.1]
      rfl
    · rw [hrun.recentReturns, hempty.2]
      rfl
    · rw [hnext, (hstep e).reinvestable]
      have := e.gain_nonneg
      simp only [List.map_cons, List.map_nil, List.sum_singleton]
      linarith
    · rw [hnext, (hstep e).loss]
      have := e.lossUsd_nonneg
      simp only [List.map_cons, List.map_nil, List.sum_singleton]
      linarith
    · rw [hnext, money_restart hrun.toSaved]

/-- A trade that makes five wei books five dollars. -/
theorem not_booksHold_of_trade : ¬ BooksHold
    ⟨⟨false, 100, 50⟩, 0, 0, false, 20, 3 / 4, 1 / 20, 7 / 20⟩ 1 [.trade 2 true 5 (some 100)] := by
  intro h
  have hfive := h.settled
  revert hfive
  decide +kernel

/-! ## Streaks -/

def Event.wins : Event → Bool
  | .settled _ e => decide (0 < e.signedPnlUsd)
  | .trade _ success _ _ => success
  | _ => false

def Event.loses : Event → Bool
  | .settled _ e => decide (e.signedPnlUsd < 0)
  | .trade _ success _ _ => !success
  | _ => false

/-- How many outcomes of a kind there are since the last one of the other kind. -/
def streak (kind other : Event → Bool) (events : List Event) : ℕ :=
  (events.reverse.takeWhile fun e => !other e).countP kind

theorem streak_append {kind other : Event → Bool} (events : List Event) (e : Event) :
    streak kind other (events ++ [e])
      = if other e then 0 else streak kind other events + (kind e).toNat := by
  unfold streak
  rw [List.reverse_append, List.reverse_singleton, List.singleton_append, List.takeWhile_cons]
  cases other e with
  | true => rfl
  | false =>
    rw [if_neg Bool.false_ne_true, Bool.not_false, if_pos rfl, List.countP_cons]
    cases kind e <;> rfl

theorem streaks_step {m : Manager} (h : m.Saved) (e : Event) :
    (m.step e).state.failStreak = (if e.wins then 0 else m.state.failStreak + e.loses.toNat)
      ∧ (m.step e).state.successStreak
        = if e.loses then 0 else m.state.successStreak + e.wins.toNat := by
  cases e with
  | settled now e =>
    show (if _ then _ else if _ then _ else _) = _ ∧ (if _ then _ else if _ then _ else _) = _
    simp only [Event.wins, Event.loses]
    rcases lt_trichotomy e.signedPnlUsd 0 with hneg | hzero | hpos
    · simp [hneg, not_lt.2 hneg.le]
    · simp [hzero]
    · simp [hpos, not_lt.2 hpos.le]
  | trade now success realized amountIn =>
    cases success with
    | false => exact ⟨rfl, rfl⟩
    | true => exact ⟨rfl, rfl⟩
  | sizing now =>
    show (if _ then _ else _ : Manager).state.failStreak = _
      ∧ (if _ then _ else _ : Manager).state.successStreak = _
    split
    · simp [Event.wins, Event.loses]
    · rename_i hbase
      simp only [Manager.save, nextAmountIn, if_neg hbase]
      simp [Event.wins, Event.loses]
  | overrides now kelly reinvest =>
    simp [Event.wins, Event.loses, Manager.step, applyOverrides, Manager.save]
  | restart now kelly reinvest =>
    show (BankrollSizingConfig.keepWindow _ (loadState _ m.file now)).failStreak = _
      ∧ (BankrollSizingConfig.keepWindow _ (loadState _ m.file now)).successStreak = _
    rw [h.file]
    simp [Event.wins, Event.loses, BankrollSizingConfig.keepWindow, loadState]

/-- **The streaks outlive restarts.** In every run of a new manager the losing streak is the number
of losses since the last win, and the winning streak that of wins since the last loss, whatever is
overridden, sized and restarted in between. -/
theorem streaks_run (cfg : BankrollSizingConfig) (now : Int) (events : List Event) :
    (run Manager.step (.start cfg none now) events).state.failStreak
        = streak Event.loses Event.wins events
      ∧ (run Manager.step (.start cfg none now) events).state.successStreak
        = streak Event.wins Event.loses events := by
  induction events using List.reverseRecOn with
  | nil => exact ⟨rfl, rfl⟩
  | append_singleton events e ih =>
    have hsaved := (recorded_run events (start_saved cfg none now)).toSaved
    obtain ⟨hfail, hsuccess⟩ := streaks_step hsaved e
    rw [run_append, run_cons, run_nil, hfail, hsuccess, ih.1, ih.2, streak_append, streak_append]
    constructor
    · cases e.wins <;> simp
    · cases e.loses <;> simp

end SovereignCapital.Capital
