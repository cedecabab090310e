import SovereignCapital.Lib.Decimal
import SovereignCapital.Lib.Dict
import SovereignCapital.Lib.LastRows
import SovereignCapital.Lib.PyText
import SovereignCapital.Lib.Runs

/-! # The drawdown store

`DrawdownStateStore`: `observe` adds a profit to the equity curve and the return histories,
`snapshot` measures them, `gate` refuses after a hard stop. Amounts are exact rationals, a day is
the number of the day since the epoch.

* `guards_iff` : the loss of the day is watched exactly as long as what left the curve is zero.
* `LatchedStop.run` : a hard stop stays.
-/

namespace SovereignCapital.Risk

open Bytes Decimal LastRows Runs

/-! ## The state -/

def utcDay (tsMs : Int) : Int := tsMs / 86400000

def clip (x lo hi : ℚ) : ℚ := max lo (min hi x)

structure Row where
  tsMs : Int
  equity : ℚ
  pnl : ℚ
  day : Int

structure HardStop where
  active : Bool
  reasonCodes : List Text
  triggeredTsMs : Int

/-- The returns by name, as they are kept. -/
abbrev Section := Dict Text (List ℚ)

structure State where
  equityCurve : List Row
  familyReturns : Section
  regimeReturns : Section
  routeFamilyDrawdown : Section
  venueDrawdown : Section
  laneDrawdown : Section
  hardStop : HardStop

def State.blank : State where
  equityCurve := []
  familyReturns := Dict.empty
  regimeReturns := Dict.empty
  routeFamilyDrawdown := Dict.empty
  venueDrawdown := Dict.empty
  laneDrawdown := Dict.empty
  hardStop := ⟨false, [], 0⟩

structure Limits where
  intradayLossLimitUsd : ℚ
  intradayDrawdownLimitPct : ℚ

/-- The arguments of `observe`, and the clock. -/
structure Observation where
  family : Text
  routeFamily : Text
  venue : Text
  lane : Text
  regime : Text
  realizedPnlUsd : ℚ
  tsMs : Option Int
  now : Int

/-- `int(ts_ms or time.time() * 1000)`. -/
def Observation.stamp (o : Observation) : Int :=
  match o.tsMs with
  | none => o.now
  | some tsMs => if tsMs = 0 then o.now else tsMs

/-- `str(name or "unknown")`. -/
def orUnknown (name : Text) : Text := if name = [] then "unknown".toList else name

def appendReturn (returns : Section) (name : Text) (value : ℚ) : Section :=
  returns.set (orUnknown name)
    (lastRows 250 (returns.getD (orUnknown name) [] ++ [pyRound 6 value]))

/-! ## Snapshots -/

structure Fall where
  running : ℚ := 0
  peak : ℚ := 0
  worst : ℚ := 0

def Fall.next (fall : Fall) (value : ℚ) : Fall :=
  let running := fall.running + value
  let peak := max fall.peak running
  ⟨running, peak, min fall.worst (running - peak)⟩

def sectionDrawdown (returns : Section) : Dict Text ℚ :=
  returns.mapVal fun series => pyRound 6 |((lastRows 90 series).foldl Fall.next {}).worst|

structure Snapshot where
  drawdownPct : ℚ
  drawdownUsd : ℚ
  intradayLossUsd : ℚ
  intradayDrawdownPct : ℚ
  familyDrawdown : Dict Text ℚ
  familyReturnHistory : Section
  routeFamilyDrawdown : Dict Text ℚ
  venueDrawdown : Dict Text ℚ
  laneDrawdown : Dict Text ℚ
  regimeDrawdown : Dict Text ℚ
  regimeReturnHistory : Section
  hardStop : HardStop

namespace State

def current (state : State) : ℚ := state.equityCurve.getLast?.elim 0 Row.equity

def peak (state : State) : ℚ := (state.equityCurve.map Row.equity).foldl max 0

def drawdownPct (state : State) : ℚ :=
  if 0 < state.peak then (state.peak - state.current) / max 1 |state.peak|
  else if state.current < 0 then 1
  else 0

def dayPnl (state : State) (today : Int) : List ℚ :=
  (state.equityCurve.filter fun row => row.day == today).map Row.pnl

def intradayDrawdownPct (state : State) (today : Int) : ℚ :=
  let pnl := state.dayPnl today
  let fall := pnl.foldl Fall.next {}
  if pnl = [] then 0
  else |fall.worst| / max 1 (if fall.peak ≠ 0 then |fall.peak| else max 1 |pnl.sum|)

def snapshot (state : State) (now : Int) : Snapshot where
  drawdownPct := pyRound 6 (clip state.drawdownPct 0 5)
  drawdownUsd := pyRound 6 (state.peak - state.current)
  intradayLossUsd := pyRound 6 (state.dayPnl (utcDay now)).sum
  intradayDrawdownPct := pyRound 6 (clip (state.intradayDrawdownPct (utcDay now)) 0 5)
  familyDrawdown := sectionDrawdown state.familyReturns
  familyReturnHistory := state.familyReturns.mapVal (lastRows 60)
  routeFamilyDrawdown := sectionDrawdown state.routeFamilyDrawdown
  venueDrawdown := sectionDrawdown state.venueDrawdown
  laneDrawdown := sectionDrawdown state.laneDrawdown
  regimeDrawdown := sectionDrawdown state.regimeReturns
  regimeReturnHistory := state.regimeReturns.mapVal (lastRows 60)
  hardStop := state.hardStop

/-! ## Observations -/

def rowOf (state : State) (o : Observation) : Row where
  tsMs := o.stamp
  equity := pyRound 6 (state.current + o.realizedPnlUsd)
  pnl := pyRound 6 o.realizedPnlUsd
  day := utcDay o.stamp

/-- `observe` up to the snapshot. -/
def record (state : State) (o : Observation) : State where
  equityCurve := lastRows 500 (state.equityCurve ++ [state.rowOf o])
  familyReturns := appendReturn state.familyReturns o.family o.realizedPnlUsd
  regimeReturns := appendReturn state.regimeReturns o.regime o.realizedPnlUsd
  routeFamilyDrawdown := appendReturn state.routeFamilyDrawdown o.routeFamily o.realizedPnlUsd
  venueDrawdown := appendReturn state.venueDrawdown o.venue o.realizedPnlUsd
  laneDrawdown := appendReturn state.laneDrawdown o.lane o.realizedPnlUsd
  hardStop := state.hardStop

def stopReasons (limits : Limits) (snap : Snapshot) : List Text :=
  (if snap.intradayLossUsd ≤ -|limits.intradayLossLimitUsd| then ["intraday_loss_limit".toList]
      else [])
    ++ if |limits.intradayDrawdownLimitPct| ≤ snap.intradayDrawdownPct then
        ["intraday_drawdown_limit".toList]
      else []

def observe (limits : Limits) (state : State) (o : Observation) : State :=
  let state' := state.record o
  let reasons := stopReasons limits (state'.snapshot o.now)
  { state' with hardStop := if reasons = [] then state.hardStop else ⟨true, reasons, o.stamp⟩ }

end State

structure Gate where
  allowed : Bool
  reasonCodes : List Text
  aggressivenessCap : ℚ
  snapshot : Snapshot

def State.gate (limits : Limits) (state : State) (now : Int) (family : Text) : Gate :=
  let snap := state.snapshot now
  let familyDrawdown := snap.familyDrawdown.getD (orUnknown family) 0
  let reasons := snap.hardStop.reasonCodes
    ++ if max 25 (|limits.intradayLossLimitUsd| * (35 / 100)) ≤ familyDrawdown then
        ["family_drawdown_stop".toList]
      else []
  { allowed := reasons.isEmpty
    reasonCodes := reasons.dedup.insertionSort fun a b => textLe a b
    aggressivenessCap :=
      if reasons ≠ [] then 35 / 100 else if 0 < familyDrawdown then 70 / 100 else 1
    snapshot := snap }

/-! ## What is to be guaranteed -/

/-- The calls of one day: the stamps and the clock are on it, the profits have six decimals. -/
def OnDay (day : Int) (o : Observation) : Prop :=
  utcDay o.stamp = day ∧ utcDay o.now = day ∧ Dec 6 o.realizedPnlUsd

def total (calls : List Observation) : ℚ := (calls.map Observation.realizedPnlUsd).sum

/-- **The loss of the day is watched.** On every part of the run the snapshot has the sum of what
was observed, a stop is active once the sum is at or below the limit, and it stays. -/
structure Guards (limits : Limits) (day : Int) (calls : List Observation) : Prop where
  loss : ∀ reached, reached <+: calls → ∀ now, utcDay now = day →
    ((run (State.observe limits) State.blank reached).snapshot now).intradayLossUsd = total reached
  stops : ∀ reached, reached <+: calls → reached ≠ [] →
    total reached ≤ -|limits.intradayLossLimitUsd| →
    (run (State.observe limits) State.blank reached).hardStop.active = true
  latched : ∀ reached, reached <+: calls →
    (run (State.observe limits) State.blank reached).hardStop.active = true →
    ∀ further now family,
      let state := run (State.observe limits) State.blank (reached ++ further)
      state.hardStop.active = true ∧ (state.gate limits now family).allowed = false

/-! ## The latch -/

namespace State

theorem equityCurve_observe (limits : Limits) (state : State) (o : Observation) :
    (state.observe limits o).equityCurve
      = lastRows 500 (state.equityCurve ++ [state.rowOf o]) := by
  simp only [observe, record]

theorem hardStop_observe (limits : Limits) (state : State) (o : Observation) :
    (state.observe limits o).hardStop = state.hardStop
      ∨ (state.observe limits o).hardStop.active = true
        ∧ (state.observe limits o).hardStop.reasonCodes ≠ [] := by
  by_cases h : stopReasons limits ((state.record o).snapshot o.now) = []
  · exact .inl (if_pos h)
  · have hstop : (state.observe limits o).hardStop
        = ⟨true, stopReasons limits ((state.record o).snapshot o.now), o.stamp⟩ := if_neg h
    rw [hstop]
    exact .inr ⟨rfl, h⟩

theorem active_of_loss (limits : Limits) (state : State) (o : Observation)
    (h : ((state.observe limits o).snapshot o.now).intradayLossUsd
      ≤ -|limits.intradayLossLimitUsd|) :
    (state.observe limits o).hardStop.active = true := by
  have hloss : ((state.record o).snapshot o.now).intradayLossUsd
      ≤ -|limits.intradayLossLimitUsd| := by
    simpa only [snapshot, dayPnl, observe] using h
  have hreasons : stopReasons limits ((state.record o).snapshot o.now) ≠ [] := by
    rw [stopReasons, if_pos hloss]
    exact List.append_ne_nil_of_left_ne_nil (List.cons_ne_nil _ _) _
  have hstop : (state.observe limits o).hardStop
      = ⟨true, stopReasons limits ((state.record o).snapshot o.now), o.stamp⟩ := if_neg hreasons
  rw [hstop]

end State

def Reasoned (state : State) : Prop := state.hardStop.active = true → state.hardStop.reasonCodes ≠ []

theorem reasoned_observe (limits : Limits) {state : State} (h : Reasoned state)
    (o : Observation) : Reasoned (state.observe limits o) := by
  rcases state.hardStop_observe limits o with hsame | ⟨-, hreasons⟩
  · unfold Reasoned
    rw [hsame]
    exact h
  · exact fun _ => hreasons

theorem reasoned_run (limits : Limits) (calls : List Observation) :
    Reasoned (run (State.observe limits) State.blank calls) := by
  induction calls using List.reverseRecOn with
  | nil => exact fun h => absurd h Bool.false_ne_true
  | append_singleton calls o ih =>
    rw [run_append]
    exact reasoned_observe limits ih o

theorem active_run (limits : Limits) {state : State} (h : state.hardStop.active = true)
    (calls : List Observation) :
    (run (State.observe limits) state calls).hardStop.active = true := by
  induction calls generalizing state with
  | nil => exact h
  | cons o calls ih =>
    rw [run_cons]
    refine ih ?_
    rcases state.hardStop_observe limits o with hsame | ⟨hactive, -⟩
    · rw [hsame]
      exact h
    · exact hactive

theorem gate_refuses (limits : Limits) {state : State} (h : Reasoned state)
    (hactive : state.hardStop.active = true) (now : Int) (family : Text) :
    (state.gate limits now family).allowed = false := by
  have hreasons := h hactive
  simp only [State.gate, State.snapshot, List.isEmpty_eq_false_iff]
  exact List.append_ne_nil_of_left_ne_nil hreasons _

/-! ## The returns by name -/

def ownReturns (nameOf : Observation → Text) (name : Text) (calls : List Observation) : List ℚ :=
  (calls.filter fun o => orUnknown (nameOf o) = name).map fun o => pyRound 6 o.realizedPnlUsd

theorem section_run {limits : Limits} {part : State → Section} {nameOf : Observation → Text}
    (hblank : part State.blank = Dict.empty)
    (hobserve : ∀ state o, part (state.observe limits o)
      = appendReturn (part state) (nameOf o) o.realizedPnlUsd)
    (calls : List Observation) (name : Text) :
    (part (run (State.observe limits) State.blank calls)).getD name []
      = lastRows 250 (ownReturns nameOf name calls) := by
  induction calls using List.reverseRecOn with
  | nil =>
    rw [run_nil, hblank]
    exact List.drop_nil.symm
  | append_singleton calls o ih =>
    rw [run_append, run_cons, run_nil, hobserve, appendReturn, Dict.getD_set]
    unfold ownReturns at ih ⊢
    rw [List.filter_append, List.map_append]
    by_cases hname : orUnknown (nameOf o) = name
    · subst hname
      rw [if_pos rfl, ih, lastRows_append]
      simp
    · rw [if_neg fun h => hname h.symm, ih]
      simp [hname]

/-- **Every name has its own returns**: in all five sections the last 250 profits that were observed
under it. -/
theorem returns_run (limits : Limits) (calls : List Observation) (name : Text) :
    let state := run (State.observe limits) State.blank calls
    let own := fun nameOf => lastRows 250 (ownReturns nameOf name calls)
    state.familyReturns.getD name [] = own Observation.family
      ∧ state.regimeReturns.getD name [] = own Observation.regime
      ∧ state.routeFamilyDrawdown.getD name [] = own Observation.routeFamily
      ∧ state.venueDrawdown.getD name [] = own Observation.venue
      ∧ state.laneDrawdown.getD name [] = own Observation.lane := by
  refine ⟨?_, ?_, ?_, ?_, ?_⟩ <;> 
    exact section_run rfl (fun _ _ => by simp only [State.observe, State.record]) calls name

/-! ## The loss of the day -/

theorem curve_run (limits : Limits) {day : Int} {calls : List Observation}
    (h : ∀ o ∈ calls, OnDay day o) :
    (run (State.observe limits) State.blank calls).equityCurve.map
        (fun row => (row.day, row.pnl))
      = lastRows 500 (calls.map fun o => (day, o.realizedPnlUsd)) := by
  induction calls using List.reverseRecOn with
  | nil => simp [State.blank, lastRows_eq_self]
  | append_singleton calls o ih =>
    have hprev := ih fun o ho => h o (List.mem_append_left _ ho)
    obtain ⟨hday, -, hdec⟩ := h o (List.mem_append_right _ (List.mem_singleton_self o))
    have hrow : ∀ state : State,
        [((state.rowOf o).day, (state.rowOf o).pnl)] = [(day, o.realizedPnlUsd)] := by
      intro state
      simp only [State.rowOf, hday, hdec.pyRound_eq]
    rw [run_append, run_cons, run_nil, State.equityCurve_observe, map_lastRows, List.map_append, hprev, List.map_singleton, hrow, lastRows_append,
      List.map_append, List.map_singleton]

theorem loss_run (limits : Limits) {day : Int} {calls : List Observation}
    (h : ∀ o ∈ calls, OnDay day o) {now : Int} (hnow : utcDay now = day) :
    ((run (State.observe limits) State.blank calls).snapshot now).intradayLossUsd
      = (lastRows 500 (calls.map Observation.realizedPnlUsd)).sum := by
  have hcurve := curve_run limits h
  generalize run (State.observe limits) State.blank calls = state at hcurve
  have hrows : ∀ rows : List (Int × ℚ), (∀ row ∈ rows, row.1 = day) →
      (rows.filter fun row => row.1 == day).map Prod.snd = rows.map Prod.snd := by
    intro rows hrows
    rw [List.filter_eq_self.2 fun row hrow => beq_iff_eq.2 (hrows row hrow)]
  have hlast : ∀ row ∈ lastRows 500 (calls.map fun o => (day, o.realizedPnlUsd)), row.1 = day := by
    intro row hrow
    obtain ⟨o, -, rfl⟩ := List.mem_map.1 (List.mem_of_mem_drop hrow)
    rfl
  have hpnl : state.dayPnl day = lastRows 500 (calls.map Observation.realizedPnlUsd) := by
    calc state.dayPnl day
        = ((state.equityCurve.map fun row => (row.day, row.pnl)).filter
            fun row => row.1 == day).map Prod.snd := by
          rw [State.dayPnl, List.filter_map, List.map_map]
          rfl
      _ = (lastRows 500 (calls.map fun o => (day, o.realizedPnlUsd))).map Prod.snd := by
          rw [hcurve, hrows _ hlast]
      _ = lastRows 500 (calls.map Observation.realizedPnlUsd) := by
          rw [map_lastRows, List.map_map]
          rfl
  have hdec : ∀ x ∈ lastRows 500 (calls.map Observation.realizedPnlUsd), Dec 6 x := by
    intro x hx
    obtain ⟨o, ho, rfl⟩ := List.mem_map.1 (List.mem_of_mem_drop hx)
    exact (h o ho).2.2
  simp only [State.snapshot, hnow, hpnl]
  exact (dec_list_sum hdec).pyRound_eq

theorem total_take (calls : List Observation) (n : Nat) :
    (calls.map Observation.realizedPnlUsd).take n
      = (calls.take n).map Observation.realizedPnlUsd :=
  List.map_take.symm

/-- **When the loss of the day is watched**: the profits of all calls but the last five hundred are
zero. -/
theorem guards_iff (limits : Limits) (day : Int) (calls : List Observation)
    (h : ∀ o ∈ calls, OnDay day o) :
    Guards limits day calls ↔ ∀ o ∈ calls.take (calls.length - 500), o.realizedPnlUsd = 0 := by
  have hsums : (∀ reached, reached <+: calls →
        (lastRows 500 (reached.map Observation.realizedPnlUsd)).sum = total reached)
      ↔ ∀ o ∈ calls.take (calls.length - 500), o.realizedPnlUsd = 0 := by
    have hkept := sums_kept_iff 500 (calls.map Observation.realizedPnlUsd)
    rw [List.length_map, total_take, List.forall_mem_map] at hkept
    rw [← hkept]
    constructor
    · intro hall reached hreached
      rw [List.prefix_iff_eq_take.1 hreached, total_take]
      exact hall _ (List.take_prefix _ _)
    · exact fun hall reached hreached => hall _ (hreached.map _)
  rw [← hsums]
  have hreached : ∀ reached, reached <+: calls → ∀ o ∈ reached, OnDay day o :=
    fun reached hinit o ho => h o (hinit.subset ho)
  constructor
  · intro hguards reached hinit
    have hnow : utcDay (day * 86400000) = day := Int.mul_ediv_cancel _ (by decide)
    rw [← loss_run limits (hreached reached hinit) hnow]
    exact hguards.loss reached hinit _ hnow
  · intro hall
    have hloss : ∀ reached, reached <+: calls → ∀ now, utcDay now = day →
        ((run (State.observe limits) State.blank reached).snapshot now).intradayLossUsd
          = total reached := by
      intro reached hinit now hnow
      rw [loss_run limits (hreached reached hinit) hnow, hall reached hinit]
    refine ⟨hloss, fun reached hinit hne hlimit => ?_, fun reached _ hactive => ?_⟩
    · obtain ⟨before, o, rfl⟩ := (List.eq_nil_or_concat' reached).resolve_left hne
      have hnow := (hreached _ hinit o (List.mem_append_right _ (List.mem_singleton_self o))).2.1
      have hafter := hloss _ hinit o.now hnow
      rw [← hafter, run_append] at hlimit
      rw [run_append]
      exact State.active_of_loss limits _ o hlimit
    · intro further now family
      have hstays := active_run limits hactive further
      rw [← run_append] at hstays
      exact ⟨hstays, gate_refuses limits (reasoned_run limits _) hstays now family⟩

/-! A day with one profit and five hundred calls of nothing after it. -/

def sampleLimits : Limits := ⟨250, 5 / 100⟩

def sampleObservation (pnl : ℚ) : Observation := ⟨[], [], [], [], [], pnl, none, 0⟩

theorem onDay_sample {pnl : ℚ} (h : Dec 6 pnl) : OnDay 0 (sampleObservation pnl) := ⟨rfl, rfl, h⟩

theorem guards_sample : Guards sampleLimits 0 [sampleObservation (-3)] := by
  have hday : ∀ o ∈ [sampleObservation (-3)], OnDay 0 o := by
    intro o ho
    rw [List.mem_singleton.1 ho]
    exact onDay_sample (dec_intCast 6 (-3))
  exact (guards_iff sampleLimits 0 [sampleObservation (-3)] hday).2 nofun

/-- The profit leaves the curve with the five hundred and first call. -/
theorem profit_forgotten :
    ¬∀ (limits : Limits) (day : Int) (calls : List Observation),
      (∀ o ∈ calls, OnDay day o) → Guards limits day calls := by
  intro h
  let calls := sampleObservation 1 :: List.replicate 500 (sampleObservation 0)
  have hday : ∀ o ∈ calls, OnDay 0 o := by
    intro o ho
    rcases List.mem_cons.1 ho with rfl | ho
    · exact onDay_sample (dec_intCast 6 1)
    · rw [List.eq_of_mem_replicate ho]
      exact onDay_sample (dec_zero 6)
  have hloss := (h sampleLimits 0 calls hday).loss calls List.prefix_rfl 0 rfl
  have hpnl : calls.map Observation.realizedPnlUsd = [1] ++ List.replicate 500 0 :=
    congrArg (List.cons 1) List.map_replicate
  have hzero : (List.replicate 500 (0 : ℚ)).sum = 0 := by
    rw [List.sum_replicate, nsmul_zero]
  have htotal : total calls = 1 := by
    rw [total, hpnl, List.sum_append, hzero, add_zero, List.sum_singleton]
  have hwindow : (lastRows 500 (calls.map Observation.realizedPnlUsd)).sum = 0 := by
    rw [hpnl, lastRows_append_of_length [1] List.length_replicate, hzero]
  rw [loss_run sampleLimits hday rfl, hwindow, htotal] at hloss
  exact absurd hloss (by norm_num)

end SovereignCapital.Risk
