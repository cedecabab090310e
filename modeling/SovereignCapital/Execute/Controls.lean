import SovereignCapital.Execute.Modes
import SovereignCapital.Execute.ProfitGate

/-! # The operator's safety controls

A pause is only in force when its result can be recorded: a handled exception of the record is
taken for one of the controls, and the attempt goes on. The defensive controls only clamp the
decision: where there is none, where its multipliers are not read or are replaced by the binding
of a quote, the amount is what it would be without them.
-/

namespace SovereignCapital.Execute

open Guarded

/-! ## The amount of a submission -/

def amountAt (config : ExecConfig) (base : Int) (size borrow : ℚ) : Int :=
  if notionalMult size borrow ≠ 1 ∧ 0 < base then
    (targetAmount config.borrowCap base (notionalMult size borrow)).getD 0
  else base

def sizedAmount (config : ExecConfig) (cache : Bool) (opp : Opportunity)
    (decision : Option Decision) : Int :=
  let base := opp.amountInBase.getD 0
  if cache then amountAt config base (multipliers opp decision).1 (multipliers opp decision).2
  else base

theorem sizedAmount_without_cache (config : ExecConfig) (opp : Opportunity)
    (decision : Option Decision) :
    sizedAmount config false opp decision = opp.amountInBase.getD 0 := rfl

variable {config : ExecConfig} {opp : Opportunity} {decision : Option Decision} {tx tx' : SignedTx}
  {a : Attempt} {m : Modes} {d : Decision} {c : Controls}

theorem sizeOpportunity_amount {answers : Answers} {sized : Opportunity} {amountIn : Int}
    (h : sizeOpportunity config answers opp decision = .ok (amountIn, sized)) :
    opp.amountInBase.isSome ∧ amountIn = sizedAmount config answers.cache opp decision := by
  simp only [sizeOpportunity, bind_ok_iff, require_eq_ok] at h
  obtain ⟨base, hbase, h⟩ := h
  simp only [sizedAmount, amountAt, hbase, Option.getD_some, Option.isSome_some, true_and]
  split at h
  · rename_i hsize
    rw [if_pos hsize]
    simp only [bind_ok_iff, require_eq_ok] at h
    obtain ⟨target, htarget, h⟩ := h
    rw [htarget, Option.getD_some]
    cases hcache : answers.cache with
    | true =>
      simp only [hcache, if_true, bind_ok_iff, require_eq_ok, Except.ok.injEq, Prod.mk.injEq] at h
      obtain ⟨_, -, _, -, rfl, -⟩ := h
      rfl
    | false =>
      simp only [hcache, Bool.false_eq_true, if_false, Except.ok.injEq, Prod.mk.injEq] at h
      exact h.1.symm
  · rename_i hsize
    rw [if_neg hsize, ite_self]
    exact (Prod.mk.inj (Except.ok.inj h)).1.symm

def SignedTx.amount (tx : SignedTx) : Int := tx.data.amountBorrow.val

theorem tryExecuteOpportunity_amount {answers : Answers} {forceDryRun : Bool}
    (h : tryExecuteOpportunity config answers opp decision forceDryRun = .ok tx) :
    forceDryRun = false ∧ opp.amountInBase.isSome
      ∧ tx.amount = sizedAmount config answers.cache opp decision ∧ 0 < tx.amount := by
  obtain ⟨p⟩ := tryExecuteOpportunity_ok_iff.1 h
  have hamount : tx.amount = p.amountIn := p.signed.1
  obtain ⟨hbase, hsized⟩ := sizeOpportunity_amount p.sizing
  have hlive := p.live
  rw [Bool.or_eq_false_iff] at hlive
  exact ⟨hlive.2, hbase, hamount.trans hsized, hamount ▸ p.positive.1⟩

/-! ## Stages of a submission -/

def Attempt.executed (a : Attempt) : Opportunity :=
  match a.service with
  | none => a.opp
  | some service => (service.governance.toOption.map GateAnswer.opportunity).getD a.opp

theorem passGate_eq_ok {record : String → Except Exc Unit} {answer : Except Exc GateAnswer}
    (h : passGate record answer = .ok opp) :
    answer.toOption.map GateAnswer.opportunity = some opp := by
  unfold passGate at h
  split at h
  · cases h
  · split at h
    · cases h
    · cases h
      rfl

theorem selectAndGovern_eq_ok {admitted : Admitted} (hgate : entryGate a = .ok admitted)
    (h : selectAndGovern a m admitted.super.opportunity = .ok opp) : opp = a.executed := by
  unfold selectAndGovern at h
  extract_lets toPrivate sendUrl at h
  by_cases hurl : sendUrl = "" ∨ a.bestRead = ""
  · rw [if_pos hurl] at h
    cases h
  · rw [if_neg hurl] at h
    unfold Attempt.executed
    cases hservice : a.service with
    | none =>
      obtain ⟨_, -, hrest⟩ := bind_ok_iff.1 hgate
      rw [hservice] at h hrest
      cases hrest
      cases h
      rfl
    | some service =>
      rw [hservice] at h
      dsimp only
      rw [passGate_eq_ok h, Option.getD_some]

structure Submission (a : Attempt) (m : Modes) (tx : SignedTx) where
  admitted : Admitted
  controls : controlsStage a.record a.controls a.decision
    = .ok (admitted.forceDry, admitted.decision)
  bound : Opportunity × Option Decision
  binding : boundExecution a a.executed admitted.decision = .ok bound
  live : admitted.forceDry = false
  base : bound.1.amountInBase.isSome
  amount : tx.amount = sizedAmount a.config a.answers.cache bound.1 bound.2
  positive : 0 < tx.amount

theorem submission_of_submitted (h : (executeAuto a m).submitted = some tx) :
    Nonempty (Submission a m tx) := by
  unfold executeAuto at h
  split at h
  · cases h
  · rename_i admitted hgate
    dsimp only at h
    split at h
    · cases h
    · split at h
      · cases h
      · rename_i opp hselect
        split at h
        · cases h
        · cases h
        · rename_i tx' hrun
          cases h
          cases selectAndGovern_eq_ok hgate hselect
          simp only [runPrepared, bind_ok_iff, Prod.exists] at hrun
          obtain ⟨_, -, opp', decision', hbound, _, -, htry⟩ := hrun
          obtain ⟨hlive, hbase, hamount, hpositive⟩ := tryExecuteOpportunity_amount htry
          have hcontrols : controlsStage a.record a.controls a.decision
              = .ok (admitted.forceDry, admitted.decision) := by
            unfold entryGate at hgate
            obtain ⟨⟨forceDry, decision⟩, hcontrols, hrest⟩ := bind_ok_iff.1 hgate
            rw [hcontrols]
            cases hservice : a.service with
            | none =>
              rw [hservice] at hrest
              cases hrest
              rfl
            | some service =>
              simp only [hservice, bind_ok_iff, Except.ok.injEq] at hrest
              obtain ⟨_, -, _, -, rfl⟩ := hrest
              rfl
          exact ⟨⟨admitted, hcontrols, (opp', decision'), hbound, hlive, hbase, hamount, hpositive⟩⟩

/-! ## The binding -/

/-- There is no sizing identity to bind, or no approved notional. -/
def Attempt.Unbound (a : Attempt) : Prop :=
  ∃ text ∈ unboundTexts, lineageOf a.lineage = .error (.binding text)

/-- A failure after which the attempt is over. -/
def BindingFailure.Stops : BindingFailure → Prop
  | .binding text => text ∉ unboundTexts
  | .raised => True

instance : DecidablePred BindingFailure.Stops
  | .binding text => inferInstanceAs (Decidable (text ∉ unboundTexts))
  | .raised => .isTrue trivial

theorem bindFinalQuote_stops {a : Attempt} {opp : Opportunity} {decision : Option Decision}
    (hlineage : ¬ a.Unbound) :
    FailsWith BindingFailure.Stops (bindFinalQuoteToExecution a opp decision) := by
  unfold bindFinalQuoteToExecution
  apply FailsWith.bind
  · intro e he
    cases e with
    | binding text => exact fun htext => hlineage ⟨text, htext, he⟩
    | raised => trivial
  · intro _
    refine .bind (.bind (.ensure (by decide)) fun _ => .ensure (by decide)) fun _ => ?_
    refine .bind (.ensure (by decide)) fun _ => ?_
    refine .bind (.require trivial) fun quote => ?_
    refine .bind (.ensure (by decide)) fun _ => ?_
    refine .bind (.require trivial) fun units => ?_
    refine .bind (.require trivial) fun cap => ?_
    refine .bind (.ensure (by decide)) fun _ => ?_
    refine .bind (.require trivial) fun quoted => ?_
    refine .bind (.require (by decide)) fun opp => ?_
    exact .bind (.ensure (by decide)) fun _ => .ok opp

theorem boundExecution_of_unbound (h : a.Unbound) (opp : Opportunity) (decision : Option Decision) :
    boundExecution a opp decision = .ok (opp, decision) := by
  obtain ⟨text, htext, hlineage⟩ := h
  have hbind : bindFinalQuoteToExecution a opp decision = .error (.binding text) := by
    unfold bindFinalQuoteToExecution
    rw [hlineage]
    rfl
  rw [boundExecution, hbind]
  exact if_pos htext

theorem boundExecution_of_not_unbound (h : ¬ a.Unbound) {bound : Opportunity × Option Decision}
    (hbound : boundExecution a opp decision = .ok bound) :
    ∃ d, decision = some d ∧ bindFinalQuoteToExecution a opp decision = .ok bound.1
      ∧ bound.2 = some { d with multipliers := ⟨some 1, some 1⟩ } := by
  have hstops := @bindFinalQuote_stops a opp decision h
  unfold boundExecution at hbound
  cases hbind : bindFinalQuoteToExecution a opp decision with
  | ok opp' =>
    rw [hbind] at hbound
    cases decision with
    | none => cases hbound
    | some d =>
      cases hset : d.settable with
      | false => simp [hset] at hbound
      | true =>
        simp only [hset, if_true, Except.ok.injEq] at hbound
        exact ⟨d, rfl, by rw [← hbound], by rw [← hbound, hset]⟩
  | error failure =>
    rw [hbind] at hbound
    have hstop := hstops _ hbind
    cases failure with
    | binding text =>
      dsimp only at hbound
      rw [if_neg hstop] at hbound
      cases hbound
    | raised => cases hbound

/-! ## With and without the defensive controls -/

/-- The attempt with the two defensive flags clear. -/
def Attempt.undefended (a : Attempt) : Attempt :=
  { a with
    controls := a.controls.map fun c =>
      { c with defensiveMode := false, reduceExposureHalf := false } }

/-- The flags have no part in the binding. -/
theorem boundExecution_undefended (a : Attempt) (opp : Opportunity) (decision : Option Decision) :
    boundExecution a.undefended opp decision = boundExecution a opp decision := by
  have hbind : bindFinalQuoteToExecution a.undefended opp decision
      = bindFinalQuoteToExecution a opp decision := by
    unfold bindFinalQuoteToExecution
    rfl
  unfold boundExecution
  rw [hbind]

theorem executeAuto_undefended
    (h : controlsStage a.record a.undefended.controls a.decision
      = controlsStage a.record a.controls a.decision)
    (m : Modes) : executeAuto a.undefended m = executeAuto a m := by
  have hgate : entryGate a.undefended = entryGate a := by
    show (controlsStage a.record a.undefended.controls a.decision >>= _) = _
    rw [h]
    rfl
  have hforce (m : Modes) : operatorOverrides a.undefended m = operatorOverrides a m := by
    unfold operatorOverrides
    have hmodes : m.force a.undefended.controls = m.force a.controls := by
      unfold Attempt.undefended
      cases a.controls <;> rfl
    rw [hmodes]
    rfl
  unfold executeAuto
  rw [hgate]
  simp only [hforce]
  rfl

def Binds (a : Attempt) (m : Modes) : Prop :=
  ∀ c, a.controls = some c →
    (c.paused = true → (executeAuto a m).submitted = none)
      ∧ (c.sandboxOnly = true → (executeAuto a m).submitted = none)
      ∧ (c.defensiveMode = true ∨ c.reduceExposureHalf = true → ∀ tx tx',
        (executeAuto a m).submitted = some tx → (executeAuto a.undefended m).submitted = some tx'
          → 2 * tx.amount ≤ tx'.amount)

/-- The clamp of the decision reaches the amount and halves it: nothing is bound, the decision
can be set and its multipliers read, there is a cache, and the sizing with the clamped
multipliers is at most half of the sizing with those of the decision. -/
structure Attempt.Halves (a : Attempt) : Prop where
  unbound : a.Unbound
  cache : a.answers.cache = true
  sizing : ∃ d size borrow base, a.decision = some d ∧ d.settable = true
    ∧ d.multipliers = ⟨some size, some borrow⟩ ∧ a.executed.amountInBase = some base
    ∧ 2 * amountAt a.config base (min (orOne size) (1 / 2)) (min (orOne borrow) 1)
      ≤ amountAt a.config base (orOne size) (orOne borrow)

/-- What the controls need: the recorded pause raises no exception that is handled, and without
a pause the clamp of the defensive controls halves the amount. -/
def Attempt.Controlled (a : Attempt) : Prop :=
  ∀ c, a.controls = some c →
    (c.paused = true → ∀ e, a.record "cc_paused" = .error e → e.dispatchSafe = false)
      ∧ (c.paused = false → c.defensiveMode = true ∨ c.reduceExposureHalf = true → a.Halves)

/-! ## The clamp -/

theorem orOne_ne_zero (x : ℚ) : orOne x ≠ 0 := by
  unfold orOne
  split
  · exact one_ne_zero
  · assumption

theorem orOne_min {x c : ℚ} (hc : c ≠ 0) : orOne (min (orOne x) c) = min (orOne x) c := by
  apply if_neg
  rcases min_choice (orOne x) c with h | h
  · rw [h]
    exact orOne_ne_zero x
  · rwa [h]

theorem sizedAmount_of_multipliers {size borrow : ℚ} {base : Int}
    (hbase : opp.amountInBase = some base)
    (hmultipliers : d.multipliers = ⟨some size, some borrow⟩) :
    sizedAmount config true opp (some d) = amountAt config base (orOne size) (orOne borrow) := by
  simp only [sizedAmount, hbase, Option.getD_some, if_true, multipliers, Option.map_some,
    hmultipliers, readMultipliers]

theorem sizedAmount_clamp {size borrow : ℚ} {base : Int} (hbase : opp.amountInBase = some base)
    (hmultipliers : d.multipliers = ⟨some size, some borrow⟩) (hset : d.settable = true) :
    sizedAmount config true opp (some d.clamp)
      = amountAt config base (min (orOne size) (1 / 2)) (min (orOne borrow) 1) := by
  have hclamp : d.clamp.multipliers
      = ⟨some (min (orOne size) (1 / 2)), some (min (orOne borrow) 1)⟩ := by
    simp only [Decision.clamp, hmultipliers, hset, if_true]
  rw [sizedAmount_of_multipliers hbase hclamp, orOne_min (by norm_num), orOne_min one_ne_zero]

/-- A clamp that changes the decision reads both multipliers and sets them. -/
theorem clamp_ne (h : d.clamp ≠ d) :
    d.settable = true ∧ ∃ size borrow, d.multipliers = ⟨some size, some borrow⟩ := by
  unfold Decision.clamp at h
  split at h
  · rename_i size borrow hsize hborrow
    cases hset : d.settable with
    | false => simp [hset] at h
    | true => exact ⟨rfl, size, borrow, by cases hm : d.multipliers; simp_all⟩
  · exact absurd rfl h

/-! ## Two attempts that submit -/

theorem Submission.controlled (s : Submission a m tx) (hc : a.controls = some c) :
    (c.paused = true → ∃ e, a.record "cc_paused" = .error e ∧ e.dispatchSafe = true)
      ∧ (c.paused = false → c.sandboxOnly = false ∧ s.admitted.decision
        = if c.defensiveMode ∨ c.reduceExposureHalf then a.decision.map Decision.clamp
          else a.decision) := by
  have hcontrols := s.controls
  have hlive := s.live
  simp only [controlsStage, hc] at hcontrols
  constructor
  · intro hpaused
    simp only [hpaused, if_true] at hcontrols
    split at hcontrols
    · cases hcontrols
    · rename_i e hrecord
      cases hsafe : e.dispatchSafe with
      | true => exact ⟨e, hrecord, hsafe⟩
      | false => simp [hsafe] at hcontrols
  · intro hpaused
    simp only [hpaused, Bool.false_eq_true, if_false] at hcontrols
    split at hcontrols <;> simp only [Except.ok.injEq, Prod.mk.injEq] at hcontrols
    · rename_i hflags
      rw [if_pos hflags]
      exact ⟨hcontrols.1.trans hlive, hcontrols.2.symm⟩
    · rename_i hflags
      rw [if_neg hflags]
      exact ⟨hcontrols.1.trans hlive, hcontrols.2.symm⟩

/-- The decision under a defensive flag, and with both clear. -/
theorem Submission.decision_eq (s : Submission a m tx) (hc : a.controls = some c)
    (hpaused : c.paused = false) (hflags : c.defensiveMode = true ∨ c.reduceExposureHalf = true) :
    s.admitted.decision = a.decision.map Decision.clamp := by
  rw [((s.controlled hc).2 hpaused).2, if_pos hflags]

theorem Submission.undefended_decision (s : Submission a.undefended m tx) (hc : a.controls = some c)
    (hpaused : c.paused = false) : s.admitted.decision = a.decision := by
  have hc' : a.undefended.controls
      = some { c with defensiveMode := false, reduceExposureHalf := false } := by
    rw [Attempt.undefended, hc]
    rfl
  rw [((s.controlled hc').2 hpaused).2, if_neg (by simp)]
  rfl

theorem Submission.undefended_binding (s : Submission a.undefended m tx) :
    boundExecution a a.executed s.admitted.decision = .ok s.bound := by
  rw [← boundExecution_undefended]
  exact s.binding

theorem amount_eq_of_bound (s : Submission a m tx) (s' : Submission a.undefended m tx')
    (hbound : ¬ a.Unbound) : tx.amount = tx'.amount := by
  have hbinding' := s'.undefended_binding
  obtain ⟨d', hd', hopp', hone'⟩ := boundExecution_of_not_unbound hbound hbinding'
  obtain ⟨d, hd, hopp, hone⟩ := boundExecution_of_not_unbound hbound s.binding
  have hsame : bindFinalQuoteToExecution a a.executed (some d)
      = bindFinalQuoteToExecution a a.executed (some d') := rfl
  rw [hd] at hopp
  rw [hd'] at hopp'
  have hopps : s.bound.1 = s'.bound.1 := Except.ok.inj (hopp.symm.trans (hsame.trans hopp'))
  calc tx.amount = sizedAmount a.config a.answers.cache s.bound.1 s.bound.2 := s.amount
    _ = sizedAmount a.config a.answers.cache s'.bound.1 s'.bound.2 := by
      rw [hopps, hone, hone']
      rfl
    _ = tx'.amount := s'.amount.symm

/-- Two submissions of which the one under the flags borrows at most half. -/
theorem halves_of_le (s : Submission a m tx) (s' : Submission a.undefended m tx')
    (hdecision : s.admitted.decision = a.decision.map Decision.clamp)
    (hdecision' : s'.admitted.decision = a.decision) (hle : 2 * tx.amount ≤ tx'.amount) :
    a.Halves := by
  have hne : tx.amount ≠ tx'.amount := by
    have hpositive := s.positive
    omega
  have hunbound : a.Unbound := by
    by_contra hbound
    exact hne (amount_eq_of_bound s s' hbound)
  have hbinding' := s'.undefended_binding
  have hbound : s.bound = (a.executed, a.decision.map Decision.clamp) := by
    rw [← hdecision]
    exact Except.ok.inj (s.binding.symm.trans (boundExecution_of_unbound hunbound _ _))
  have hbound' : s'.bound = (a.executed, a.decision) := by
    rw [← hdecision']
    exact Except.ok.inj (hbinding'.symm.trans (boundExecution_of_unbound hunbound _ _))
  have hamount : tx.amount
      = sizedAmount a.config a.answers.cache a.executed (a.decision.map Decision.clamp) := by
    rw [s.amount, hbound]
  have hamount' : tx'.amount = sizedAmount a.config a.answers.cache a.executed a.decision := by
    have h := s'.amount
    rwa [hbound'] at h
  have hcache : a.answers.cache = true := by
    by_contra hcache
    apply hne
    rw [hamount, hamount', Bool.eq_false_of_not_eq_true hcache, sizedAmount_without_cache,
      sizedAmount_without_cache]
  refine ⟨hunbound, hcache, ?_⟩
  cases hd : a.decision with
  | none =>
    rw [hd, Option.map_none] at hamount
    rw [hd] at hamount'
    exact absurd (hamount.trans hamount'.symm) hne
  | some d =>
    rw [hd, Option.map_some] at hamount
    rw [hd] at hamount'
    have hclamp : d.clamp ≠ d := by
      intro hsame
      rw [hsame] at hamount
      exact hne (hamount.trans hamount'.symm)
    obtain ⟨hset, size, borrow, hmultipliers⟩ := clamp_ne hclamp
    have hbase := s.base
    rw [hbound] at hbase
    obtain ⟨base, hbase⟩ := Option.isSome_iff_exists.1 hbase
    refine ⟨d, size, borrow, base, rfl, hset, hmultipliers, hbase, ?_⟩
    rw [hcache] at hamount hamount'
    rw [hamount, hamount', sizedAmount_clamp hbase hmultipliers hset,
      sizedAmount_of_multipliers hbase hmultipliers] at hle
    exact hle

theorem le_of_halves (s : Submission a m tx) (s' : Submission a.undefended m tx')
    (hdecision : s.admitted.decision = a.decision.map Decision.clamp)
    (hdecision' : s'.admitted.decision = a.decision) (hhalves : a.Halves) :
    2 * tx.amount ≤ tx'.amount := by
  obtain ⟨hunbound, hcache, d, size, borrow, base, hd, hset, hmultipliers, hbase, hle⟩ := hhalves
  have hbinding' := s'.undefended_binding
  rw [boundExecution_of_unbound hunbound, hdecision', hd] at hbinding'
  have hbinding := s.binding
  rw [boundExecution_of_unbound hunbound, hdecision, hd, Option.map_some] at hbinding
  have hamount : tx.amount = sizedAmount a.config true a.executed (some d.clamp) := by
    rw [s.amount, ← Except.ok.inj hbinding, hcache]
  have hamount' : tx'.amount = sizedAmount a.config true a.executed (some d) := by
    have h := s'.amount
    rw [← Except.ok.inj hbinding'] at h
    rw [h, ← hcache]
    rfl
  rw [hamount, hamount', sizedAmount_clamp hbase hmultipliers hset,
    sizedAmount_of_multipliers hbase hmultipliers]
  exact hle

/-- **The safety controls bind an attempt exactly when** what they need holds, wherever the
attempt is submitted with and without the defensive flags. -/
theorem controls_bind_iff (a : Attempt) (m : Modes) :
    Binds a m ↔ ((executeAuto a m).submitted.isSome → (executeAuto a.undefended m).submitted.isSome
      → a.Controlled) := by
  constructor
  · intro hbinds hsubmitted hsubmitted' c hc
    obtain ⟨hpause, -, hhalf⟩ := hbinds c hc
    obtain ⟨tx, htx⟩ := Option.isSome_iff_exists.1 hsubmitted
    obtain ⟨tx', htx'⟩ := Option.isSome_iff_exists.1 hsubmitted'
    obtain ⟨s⟩ := submission_of_submitted htx
    obtain ⟨s'⟩ := submission_of_submitted htx'
    constructor
    · intro hpaused
      rw [hpause hpaused] at htx
      cases htx
    · intro hpaused hflags
      exact halves_of_le s s' (s.decision_eq hc hpaused hflags) (s'.undefended_decision hc hpaused)
        (hhalf hflags tx tx' htx htx')
  · intro hcontrolled c hc
    -- a pause that is passed is passed with and without the flags
    have hpause (hpaused : c.paused = true) : (executeAuto a m).submitted = none := by
      by_contra hsubmitted
      obtain ⟨tx, htx⟩ := Option.ne_none_iff_exists'.1 hsubmitted
      obtain ⟨s⟩ := submission_of_submitted htx
      obtain ⟨e, hrecord, hsafe⟩ := (s.controlled hc).1 hpaused
      have hsame : executeAuto a.undefended m = executeAuto a m := by
        apply executeAuto_undefended
        simp only [Attempt.undefended, hc, Option.map_some, controlsStage, hpaused, if_true]
      have hsome : (executeAuto a m).submitted.isSome := by rw [htx]; rfl
      have hstops := (hcontrolled hsome (hsame ▸ hsome) c hc).1 hpaused e hrecord
      rw [hstops] at hsafe
      cases hsafe
    refine ⟨hpause, fun hsandbox => ?_, fun hflags tx tx' htx htx' => ?_⟩
    · by_contra hsubmitted
      obtain ⟨tx, htx⟩ := Option.ne_none_iff_exists'.1 hsubmitted
      obtain ⟨s⟩ := submission_of_submitted htx
      cases hpaused : c.paused with
      | true => exact hsubmitted (hpause hpaused)
      | false =>
        have hsandbox' := ((s.controlled hc).2 hpaused).1
        rw [hsandbox] at hsandbox'
        cases hsandbox'
    · obtain ⟨s⟩ := submission_of_submitted htx
      obtain ⟨s'⟩ := submission_of_submitted htx'
      cases hpaused : c.paused with
      | true =>
        rw [hpause hpaused] at htx
        cases htx
      | false =>
        have hhalves := (hcontrolled (by rw [htx]; rfl) (by rw [htx']; rfl) c hc).2 hpaused hflags
        exact le_of_halves s s' (s.decision_eq hc hpaused hflags)
          (s'.undefended_decision hc hpaused) hhalves

/-! ## A pause that is passed, a halving that is bound away -/

/-- The record of the pause raises a handled exception. -/
def pausedAttempt : Attempt :=
  { sampleAttempt with
    controls := some ⟨true, false, false, false, "", ""⟩
    record := fun _ => .error .runtimeError }

/-- The sizing identity of the trade is bound to two million units. -/
def boundAttempt : Attempt :=
  { sampleAttempt with
    controls := some ⟨false, false, false, true, "", ""⟩
    decision := some instantDecision
    answers := { sampleAnswers with quote := fun _ amount => .ok (some (amount * 2, amount * 2)) }
    lineage := ⟨⟨"sizing", "decision", "", "correlation"⟩, ⟨"", "", "", ""⟩, ⟨"", "", "", ""⟩,
      ⟨"", "", "", ""⟩, some (some 2000), none⟩
    finalQuote := .ok ⟨"decision", "correlation", .ok 2000000⟩ }

/-- A paused attempt is sent; and one that should be halved borrows the two million it would
borrow anyway. -/
theorem controls_do_not_bind :
    ¬ Binds pausedAttempt sampleModes ∧ ¬ Binds boundAttempt sampleModes := by
  constructor
  · intro hbinds
    have hnone := (hbinds _ rfl).1 rfl
    have hsent : (executeAuto pausedAttempt sampleModes).submitted.isSome = true := by
      decide +kernel
    rw [hnone] at hsent
    cases hsent
  · intro hbinds
    have hsent : (executeAuto boundAttempt sampleModes).submitted.map SignedTx.amount
        = some 2000000 := by decide +kernel
    have hsent' : (executeAuto boundAttempt.undefended sampleModes).submitted.map SignedTx.amount
        = some 2000000 := by decide +kernel
    obtain ⟨tx, htx, hamount⟩ := Option.map_eq_some_iff.1 hsent
    obtain ⟨tx', htx', hamount'⟩ := Option.map_eq_some_iff.1 hsent'
    have hle := (hbinds _ rfl).2.2 (.inr rfl) tx tx' htx htx'
    rw [hamount, hamount'] at hle
    exact absurd hle (by decide)

end SovereignCapital.Execute
