import SovereignCapital.Launch.LifeCycle

/-! # The exploration budget

Every `enable_family` of a family that is not core counts a trade. The guard at its entry asks for
an open budget only when the family is not active yet, and the interaction gate of the readiness,
which turns active families away, lets `funding_arb` through: enabled again while it is active, it
spends beyond the budget.
-/

namespace SovereignCapital.Launch

open Runs

/-! ## The readiness of a family -/

/-- `interaction_ok` of `build_family_readiness`. -/
def LaunchProfile.interactionOk (p : LaunchProfile) (family : String) : Bool :=
  decide (family = "funding_arb")
    || !((p.activeFamilies.filter fun f => f != "").map canonicalLaunchFamilyId).contains family
    || isCoreLaunchFamily family

/-- What `build_family_readiness` finds beside the state of the family: `evidence` is what the
scorecards, the engines, the telemetry and the summaries come to. No entry of the engines matches
the empty name, for which there is never evidence. -/
def LaunchProfile.readinessGates (p : LaunchProfile) (family : String) (evidence : Bool) : Bool :=
  evidence && p.interactionOk family && family != ""

def World.gated (w : World) : Call → Call
  | .enableFamily family stage actor evidence now =>
    .enableFamily family stage actor
      (w.profile.readinessGates (canonicalLaunchFamilyId family) evidence) now
  | call => call

def World.advance (w : World) (call : Call) : World := w.step (w.gated call)

/-! ## What should hold -/

def Within (b : ExplorationBudget) : Prop := b.usedTrades ≤ b.maxTrades

/-- The funding family is enabled once more: it is active, the budget is used up, and nothing else
turns it away. -/
def FundedAgain (w : World) : Call → Prop
  | .enableFamily family _ _ evidence _ =>
    canonicalLaunchFamilyId family = "funding_arb" ∧ "funding_arb" ∈ w.profile.activeFamilies
      ∧ w.profile.explorationBudget.maxTrades ≤ w.profile.explorationBudget.usedTrades
      ∧ w.profile.mode ≠ "V1_ONLY" ∧ evidence = true
      ∧ ¬ (w.profile.readinessState "funding_arb").halted
      ∧ w.profile.health "funding_arb" ≠ .quarantined
  | _ => False

/-! ## What a call counts -/

def Counts (w : World) : Call → Prop
  | .enableFamily family _ _ gates _ =>
    isCoreLaunchFamily (canonicalLaunchFamilyId family) = false
      ∧ w.profile.enableRefusal (canonicalLaunchFamilyId family) gates = none
      ∧ w.profile.health (canonicalLaunchFamilyId family) ≠ .quarantined
  | _ => False

/-- The budget on file is the budget in memory. -/
def Agrees (w : World) : Prop :=
  w.saved.profile.explorationBudget = w.profile.explorationBudget

theorem agrees_touchAndSave (p : LaunchProfile) (reason : String) (now : Int) :
    Agrees (touchAndSave p reason now) := rfl

variable {p q : LaunchProfile} {family : String} {w : World}

theorem applyFamilyState_budget {target : HealthState} {actor reasonCode : String}
    {stage : Option String} {now : Int}
    (h : p.applyFamilyState family target actor reasonCode stage now = some q) :
    q.explorationBudget = p.explorationBudget := by
  unfold LaunchProfile.applyFamilyState at h
  by_cases hlawful : mayBecome (p.health family) target
  · rw [if_pos hlawful] at h
    rw [← Option.some.inj h]
    rfl
  · rw [if_neg hlawful] at h
    cases h

theorem withdraw_budget (p : LaunchProfile) (family : String) :
    (p.withdraw family).explorationBudget = p.explorationBudget := by
  unfold LaunchProfile.withdraw
  split <;> rfl

theorem setMode_budget (p : LaunchProfile) (mode : String) :
    (p.setMode mode).explorationBudget = p.explorationBudget := by
  unfold LaunchProfile.setMode
  dsimp only
  split
  · rfl
  · split <;> rfl

theorem normalizeProfile_budget (p : LaunchProfile) :
    (normalizeProfile p).explorationBudget = p.explorationBudget := by
  unfold normalizeProfile
  dsimp only
  split <;> rfl

/-- A call that leaves the budget as it is, in memory and on file. -/
structure SameBudget (w w' : World) : Prop where
  agrees : Agrees w'
  budget_eq : w'.profile.explorationBudget = w.profile.explorationBudget

theorem sameBudget_saved (h : q.explorationBudget = w.profile.explorationBudget) (reason : String)
    (now : Int) : SameBudget w (touchAndSave q reason now) := ⟨rfl, h⟩

theorem sameBudget_unsaved (hagrees : Agrees w)
    (h : q.explorationBudget = w.profile.explorationBudget) :
    SameBudget w { w with profile := q } := ⟨hagrees.trans h.symm, h⟩

theorem sameBudget_withdrawThenApply (h : Agrees w) (family : String) (target : HealthState)
    (actor reasonCode touchReason : String) (now : Int) :
    SameBudget w (w.withdrawThenApply family target actor reasonCode touchReason now).1 := by
  unfold World.withdrawThenApply
  dsimp only
  cases hq : (w.profile.withdraw (canonicalLaunchFamilyId family)).applyFamilyState
      (canonicalLaunchFamilyId family) target actor reasonCode none now with
  | some q =>
    exact sameBudget_saved ((applyFamilyState_budget hq).trans (withdraw_budget _ _)) _ _
  | none => exact sameBudget_unsaved h (withdraw_budget _ _)

theorem sameBudget_revertFamily (h : Agrees w) (family actor : String) (now : Int) :
    SameBudget w (w.revertFamily family actor now).1 := by
  unfold World.revertFamily
  dsimp only
  cases hq : w.profile.applyFamilyState (canonicalLaunchFamilyId family)
      (if isCoreLaunchFamily (canonicalLaunchFamilyId family) then HealthState.cappedLive
        else .observeOnly) actor "family_reverted" none now with
  | some q =>
    exact sameBudget_saved ((withdraw_budget _ _).trans (applyFamilyState_budget hq)) _ _
  | none => exact sameBudget_unsaved h rfl

theorem sameBudget_load (h : Agrees w) (now : Int) : SameBudget w (World.load w.saved now) := by
  have hbudget : (normalizeProfile w.saved.profile).explorationBudget
      = w.profile.explorationBudget := (normalizeProfile_budget _).trans h
  unfold World.load
  dsimp only
  split
  · exact sameBudget_saved hbudget _ _
  · exact ⟨(normalizeProfile_budget _).symm, hbudget⟩

/-! ## Enabling a family -/

def ExplorationBudget.spend (b : ExplorationBudget) : ExplorationBudget :=
  { b with usedTrades := b.usedTrades + 1 }

theorem countTrade_of_core (h : isCoreLaunchFamily family = true) : p.countTrade family = p :=
  if_pos h

theorem countTrade_budget (h : isCoreLaunchFamily family = false) :
    (p.countTrade family).explorationBudget = p.explorationBudget.spend := by
  unfold LaunchProfile.countTrade
  rw [if_neg (by rw [h]; decide)]
  rfl

theorem not_mayBecome_of_quarantined (hstate : ¬ (p.readinessState family).halted)
    (hhealth : p.health family = .quarantined) :
    ¬ mayBecome (p.health family) (p.enableTarget family)
      ∧ ¬ mayBecome (p.health family) .cappedLive := by
  rw [hhealth]
  refine ⟨fun hlawful => ?_, by decide⟩
  rcases mayBecome_of_quarantined hlawful with hobserve | hhalted
  · revert hobserve
    unfold LaunchProfile.enableTarget
    split
    · decide
    · cases hs : p.readinessState family <;> simp
  · exact (enableTarget_spec hstate).1 hhalted

theorem enableFamily_counted {w : World} {family stage actor : String} {gates : Bool} {now : Int}
    (hnone : w.profile.enableRefusal (canonicalLaunchFamilyId family) gates = none)
    (hhealth : w.profile.health (canonicalLaunchFamilyId family) ≠ .quarantined) :
    ∃ (q : LaunchProfile) (reason : String), w.enableFamily family stage actor gates now
        = (touchAndSave (q.countTrade (canonicalLaunchFamilyId family)) reason now, .ok)
      ∧ q.explorationBudget = w.profile.explorationBudget := by
  generalize hfam : canonicalLaunchFamilyId family = f at hnone hhealth ⊢
  have hsame : (w.profile.admitFamily f).explorationBudget = w.profile.explorationBudget := rfl
  cases hfirst : (w.profile.admitFamily f).applyFamilyState f (w.profile.enableTarget f) actor
      "family_enabled" (some stage) now with
  | some q =>
    refine ⟨q, "family_enabled:" ++ f, ?_, (applyFamilyState_budget hfirst).trans hsame⟩
    simp only [World.enableFamily, hfam, hnone, hfirst, Option.some_or]
  | none =>
    cases hsecond : (w.profile.admitFamily f).applyFamilyState f .cappedLive actor
        "family_enabled_safe_fallback" (some stage) now with
    | some q =>
      refine ⟨q, "family_enabled:" ++ f, ?_, (applyFamilyState_budget hsecond).trans hsame⟩
      simp only [World.enableFamily, hfam, hnone, hfirst, hsecond, Option.none_or]
    | none =>
      -- the fallback fails for a quarantined family only
      have hnot := applyFamilyState_eq_none_iff.1 hsecond
      rw [mayBecome_cappedLive_iff, not_not] at hnot
      exact absurd hnot hhealth

/-- A quarantined family does not enter: what was written before stays in memory. -/
theorem enableFamily_quarantined {stage actor : String} {gates : Bool} {now : Int}
    (hnone : w.profile.enableRefusal (canonicalLaunchFamilyId family) gates = none)
    (hhealth : w.profile.health (canonicalLaunchFamilyId family) = .quarantined) :
    w.enableFamily family stage actor gates now
      = ({ w with profile := w.profile.admitFamily (canonicalLaunchFamilyId family) },
          .raised) := by
  obtain ⟨hstate, -⟩ := enableRefusal_eq_none hnone
  obtain ⟨htarget, hfallback⟩ := not_mayBecome_of_quarantined hstate hhealth
  generalize hfam : canonicalLaunchFamilyId family = f at *
  have hfirst : (w.profile.admitFamily f).applyFamilyState f (w.profile.enableTarget f) actor
      "family_enabled" (some stage) now = none := applyFamilyState_eq_none_iff.2 htarget
  have hsecond : (w.profile.admitFamily f).applyFamilyState f .cappedLive actor
      "family_enabled_safe_fallback" (some stage) now = none :=
    applyFamilyState_eq_none_iff.2 hfallback
  simp only [World.enableFamily, hfam, hnone, hfirst, hsecond, Option.none_or]

/-- What `enable_family` does to the budget: one trade more exactly when the call counts. -/
theorem enableFamily_budget (h : Agrees w) (family stage actor : String) (gates : Bool)
    (now : Int) :
    Agrees (w.enableFamily family stage actor gates now).1
      ∧ (Counts w (.enableFamily family stage actor gates now) →
        (w.enableFamily family stage actor gates now).1.profile.explorationBudget
          = w.profile.explorationBudget.spend)
      ∧ (¬ Counts w (.enableFamily family stage actor gates now) →
        (w.enableFamily family stage actor gates now).1.profile.explorationBudget
          = w.profile.explorationBudget) := by
  cases hrefusal : w.profile.enableRefusal (canonicalLaunchFamilyId family) gates with
  | some reason =>
    have hsame : w.enableFamily family stage actor gates now = (w, .refused reason) := by
      simp only [World.enableFamily, hrefusal]
    rw [hsame]
    refine ⟨h, fun hcounts => ?_, fun _ => rfl⟩
    rw [hcounts.2.1] at hrefusal
    cases hrefusal
  | none =>
    by_cases hhealth : w.profile.health (canonicalLaunchFamilyId family) = .quarantined
    · rw [enableFamily_quarantined hrefusal hhealth]
      exact ⟨h, fun hcounts => absurd hhealth hcounts.2.2, fun _ => rfl⟩
    · obtain ⟨q, reason, hsaved, hbudget⟩ :=
        @enableFamily_counted w family stage actor gates now hrefusal hhealth
      rw [hsaved]
      refine ⟨agrees_touchAndSave _ _ _, fun hcounts => ?_, fun hcounts => ?_⟩
      · rw [← hbudget]
        exact countTrade_budget hcounts.1
      · have hcore : isCoreLaunchFamily (canonicalLaunchFamilyId family) = true := by
          by_contra hnot
          exact hcounts ⟨Bool.not_eq_true _ ▸ hnot, hrefusal, hhealth⟩
        rw [countTrade_of_core hcore]
        exact hbudget

/-! ## One call -/

structure Spends (w w' : World) (counts : Prop) : Prop where
  agrees : Agrees w'
  counted : counts → w'.profile.explorationBudget = w.profile.explorationBudget.spend
  kept : ¬ counts → w'.profile.explorationBudget = w.profile.explorationBudget

theorem SameBudget.spends {w' : World} (h : SameBudget w w') {counts : Prop} (hcounts : ¬ counts) :
    Spends w w' counts :=
  ⟨h.agrees, fun hc => absurd hc hcounts, fun _ => h.budget_eq⟩

/-- **Every call** leaves the budget as it is, or counts one trade. -/
theorem step_spends (h : Agrees w) (call : Call) : Spends w (w.step call) (Counts w call) := by
  cases call with
  | setMode mode now =>
    exact (sameBudget_saved (setMode_budget w.profile mode) _ _).spends fun hc => hc
  | enableFamily family stage actor gates now =>
    obtain ⟨hagrees, hcounted, hkept⟩ := enableFamily_budget h family stage actor gates now
    exact ⟨hagrees, hcounted, hkept⟩
  | pauseFamily family actor now =>
    exact (sameBudget_withdrawThenApply h family _ _ _ _ _).spends fun hc => hc
  | revertFamily family actor now =>
    exact (sameBudget_revertFamily h family actor now).spends fun hc => hc
  | quarantineFamily family actor reasonCode now =>
    exact (sameBudget_withdrawThenApply h family _ _ _ _ _).spends fun hc => hc
  | restart now => exact (sameBudget_load h now).spends fun hc => hc

/-! ## Beyond the budget -/

theorem interactionOk_of_active (hidem : canonicalLaunchFamilyId family = family)
    (hactive : family ∈ p.activeFamilies) (hnamed : family ≠ "")
    (hcore : isCoreLaunchFamily family = false) :
    p.interactionOk family = true ↔ family = "funding_arb" := by
  have hlisted : ((p.activeFamilies.filter fun f => f != "").map canonicalLaunchFamilyId).contains
      family = true :=
    List.contains_iff_mem.2 (List.mem_map.2 ⟨family, List.mem_filter.2 ⟨hactive, by simpa⟩, hidem⟩)
  simp only [LaunchProfile.interactionOk, hlisted, hcore]
  simp

/-- Once the budget is used up, only an active family is enabled, and then nothing of its own
turns it away. -/
theorem enableRefusal_full_iff {gates : Bool} (hcore : isCoreLaunchFamily family = false)
    (hfull : p.explorationBudget.maxTrades ≤ p.explorationBudget.usedTrades) :
    p.enableRefusal family gates = none
      ↔ p.mode ≠ "V1_ONLY" ∧ family ∈ p.activeFamilies ∧ p.activationAllowed family gates := by
  unfold LaunchProfile.enableRefusal
  by_cases hmode : p.mode = "V1_ONLY"
  · rw [if_pos ⟨hmode, hcore⟩]
    simp [hmode]
  · rw [if_neg fun hv1 => hmode hv1.1]
    by_cases hactive : family ∈ p.activeFamilies
    · rw [if_neg fun hout => hout.1 hactive]
      by_cases hallowed : p.activationAllowed family gates
      · simp [hmode, hactive, hallowed]
      · simp [hallowed]
    · rw [if_pos ⟨hactive, hfull⟩]
      simp [hactive]

/-- A trade beyond the budget is counted exactly when the funding family is enabled once more. -/
theorem counts_full_iff (w : World) (call : Call) :
    (Counts w (w.gated call) ∧ w.profile.explorationBudget.maxTrades
        ≤ w.profile.explorationBudget.usedTrades) ↔ FundedAgain w call := by
  cases call with
  | enableFamily family stage actor evidence now =>
    have hidem := canonical_idem family
    simp only [World.gated, Counts, FundedAgain]
    generalize canonicalLaunchFamilyId family = f at hidem ⊢
    constructor
    · rintro ⟨⟨hcore, hnone, hhealth⟩, hfull⟩
      obtain ⟨hmode, hactive, hgates, hstate⟩ := (enableRefusal_full_iff hcore hfull).1 hnone
      simp only [LaunchProfile.readinessGates, Bool.and_eq_true, bne_iff_ne] at hgates
      obtain ⟨⟨hevidence, hinteraction⟩, hnamed⟩ := hgates
      obtain rfl := (interactionOk_of_active hidem hactive hnamed hcore).1 hinteraction
      exact ⟨rfl, hactive, hfull, hmode, hevidence, hstate, hhealth⟩
    · rintro ⟨rfl, hactive, hfull, hmode, rfl, hstate, hhealth⟩
      have hcore : isCoreLaunchFamily "funding_arb" = false := by decide
      refine ⟨⟨hcore, (enableRefusal_full_iff hcore hfull).2 ⟨hmode, hactive, ?_, hstate⟩,
        hhealth⟩, hfull⟩
      simp [LaunchProfile.readinessGates, LaunchProfile.interactionOk]
  | setMode => exact ⟨fun h => h.1, False.elim⟩
  | pauseFamily => exact ⟨fun h => h.1, False.elim⟩
  | revertFamily => exact ⟨fun h => h.1, False.elim⟩
  | quarantineFamily => exact ⟨fun h => h.1, False.elim⟩
  | restart => exact ⟨fun h => h.1, False.elim⟩

/-! ## Runs -/

/-- What holds along a run: the budget is kept, and the file agrees. -/
structure BudgetInv (w : World) : Prop where
  agrees : Agrees w
  within : Within w.profile.explorationBudget

theorem budgetInv_advance (h : BudgetInv w) {call : Call} (hok : ¬ FundedAgain w call) :
    BudgetInv (w.advance call) := by
  have hspends : Spends w (w.advance call) (Counts w (w.gated call)) :=
    step_spends h.agrees (w.gated call)
  refine ⟨hspends.agrees, ?_⟩
  by_cases hcounts : Counts w (w.gated call)
  · -- the trade is counted, so that the budget had one left
    have hopen : w.profile.explorationBudget.usedTrades
        < w.profile.explorationBudget.maxTrades := by
      by_contra hfull
      exact hok ((counts_full_iff w call).1 ⟨hcounts, by omega⟩)
    rw [hspends.counted hcounts]
    show w.profile.explorationBudget.usedTrades + 1 ≤ w.profile.explorationBudget.maxTrades
    omega
  · rw [hspends.kept hcounts]
    exact h.within

theorem notFundedAgain_of_within (h : BudgetInv w) {call : Call}
    (hwithin : Within (w.advance call).profile.explorationBudget) : ¬ FundedAgain w call := by
  intro hagain
  obtain ⟨hcounts, hfull⟩ := (counts_full_iff w call).2 hagain
  have hspends : Spends w (w.advance call) (Counts w (w.gated call)) :=
    step_spends h.agrees (w.gated call)
  rw [hspends.counted hcounts] at hwithin
  have hover : w.profile.explorationBudget.usedTrades + 1
      ≤ w.profile.explorationBudget.maxTrades := hwithin
  omega

theorem load_budget (raw : Stored) (now : Int) :
    (World.load raw now).profile.explorationBudget = raw.profile.explorationBudget := by
  rcases load_profile raw now with h | h
  · rw [h, normalizeProfile_budget]
  · rw [h]
    exact normalizeProfile_budget raw.profile

theorem agrees_load (raw : Stored) (now : Int) : Agrees (World.load raw now) := by
  unfold World.load
  dsimp only
  split
  · exact agrees_touchAndSave _ _ _
  · exact (normalizeProfile_budget raw.profile).symm

theorem budgetInv_load {raw : Stored} (h : Within raw.profile.explorationBudget) (now : Int) :
    BudgetInv (World.load raw now) := by
  refine ⟨agrees_load raw now, ?_⟩
  rw [load_budget]
  exact h

/-- **The exploration budget of a run.** From any file that is within its budget, whatever is
called with whatever evidence and whenever the manager restarts, the count stays within the
budget in every state reached exactly when the funding family is never enabled once more on a
budget that is used up. -/
theorem exploration_budget_run (raw : Stored) (now : Int) (calls : List Call)
    (h : Within raw.profile.explorationBudget) :
    (∀ reached, reached <+: calls →
        Within (run World.advance (World.load raw now) reached).profile.explorationBudget)
      ↔ AllSteps World.advance (fun w call => ¬ FundedAgain w call) (World.load raw now) calls := by
  refine @reached_iff _ _ World.advance (fun _ _ => True) (fun w call => ¬ FundedAgain w call)
    BudgetInv (fun w => Within w.profile.explorationBudget) ?_ ?_ ?_ _ (budgetInv_load h now) _
    (allSteps_of_forall (fun _ _ => trivial) _ _)
  · exact fun w hinv => hinv.within
  · exact fun w call hinv _ hok => budgetInv_advance hinv hok
  · exact fun w call hinv _ hwithin => notFundedAgain_of_within hinv hwithin

/-- A file whose budget is used up, with the funding family active. -/
def usedUp : Stored where
  mode := some "STAGED_MULTI_STRATEGY"
  activeFamilies := some ["flash_arb", "funding_arb"]
  requestedFamilies := none
  familyStates := none
  history := none
  explorationBudget := some ⟨3, 3⟩
  lastTransition := none
  updatedTsMs := none

def enableFunding : Call := .enableFamily "funding_arb" "seed" "operator" true 2

def pauseFunding : Call := .pauseFamily "funding_arb" "operator" 2

/-- Once paused, the funding family is not enabled again, over a restart either. -/
theorem exploration_budget_run_paused :
    Within usedUp.profile.explorationBudget
      ∧ Within (run World.advance (World.load usedUp 1)
          [pauseFunding, .restart 3, enableFunding]).profile.explorationBudget :=
  have hwithin : Within usedUp.profile.explorationBudget := by unfold Within; decide
  ⟨hwithin, (exploration_budget_run usedUp 1 [pauseFunding, .restart 3, enableFunding] hwithin).2
    ⟨id, id, fun h => absurd h.2.1 (by decide +kernel), trivial⟩ _ (List.prefix_refl _)⟩

/-- Active, it is enabled again: a fourth trade is counted in a budget of three. -/
theorem budget_overspent :
    Within usedUp.profile.explorationBudget
      ∧ (run World.advance (World.load usedUp 1) [enableFunding]).profile.explorationBudget
        = ⟨3, 4⟩
      ∧ ¬ Within (run World.advance (World.load usedUp 1)
          [enableFunding]).profile.explorationBudget := by
  have hspent : (run World.advance (World.load usedUp 1) [enableFunding]).profile.explorationBudget
      = ⟨3, 4⟩ := by decide +kernel
  refine ⟨by unfold Within; decide, hspent, ?_⟩
  rw [hspent]
  unfold Within
  decide

/-! ## Spent for good -/

def Call.isEnable : Call → Bool
  | .enableFamily .. => true
  | _ => false

/-- The limit stays, and at most `n` trades are counted. -/
structure Grows (w w' : World) (n : Nat) : Prop where
  agrees : Agrees w'
  limit : w'.profile.explorationBudget.maxTrades = w.profile.explorationBudget.maxTrades
  le : w.profile.explorationBudget.usedTrades ≤ w'.profile.explorationBudget.usedTrades
  le_add : w'.profile.explorationBudget.usedTrades ≤ w.profile.explorationBudget.usedTrades + n

theorem grows_advance (h : Agrees w) (call : Call) :
    Grows w (w.advance call) call.isEnable.toNat := by
  have hspends : Spends w (w.advance call) (Counts w (w.gated call)) := step_spends h (w.gated call)
  by_cases hcounts : Counts w (w.gated call)
  · have henable : call.isEnable = true := by
      cases call with
      | enableFamily => rfl
      | _ => exact hcounts.elim
    constructor <;> simp [hspends.agrees, hspends.counted hcounts, henable, ExplorationBudget.spend]
  · constructor <;> simp [hspends.agrees, hspends.kept hcounts]

theorem grows_run (h : Agrees w) (calls : List Call) :
    Grows w (run World.advance w calls) (calls.countP Call.isEnable) := by
  induction calls generalizing w with
  | nil => constructor <;> simp [h]
  | cons call calls ih =>
    obtain ⟨hagrees, hlimit, hle, hadd⟩ := grows_advance h call
    obtain ⟨hagrees', hlimit', hle', hadd'⟩ := ih hagrees
    have hcount : (call :: calls).countP Call.isEnable
        = calls.countP Call.isEnable + call.isEnable.toNat := by
      cases hcall : call.isEnable <;> simp [hcall]
    refine ⟨hagrees', hlimit'.trans hlimit, hle.trans hle', ?_⟩
    rw [hcount, run_cons]
    push_cast
    omega

/-- **No call gives a trade back**, a restart neither, and only enabling a family takes one. -/
theorem budget_run (raw : Stored) (now : Int) (calls later : List Call) :
    let budget := (run World.advance (World.load raw now) calls).profile.explorationBudget
    let after := (run World.advance (World.load raw now) (calls ++ later)).profile.explorationBudget
    after.maxTrades = raw.profile.explorationBudget.maxTrades ∧
      budget.usedTrades ≤ after.usedTrades ∧
      after.usedTrades ≤ budget.usedTrades + later.countP Call.isEnable := by
  have hcalls := grows_run (agrees_load raw now) calls
  have hlater := grows_run hcalls.agrees later
  rw [run_append]
  refine ⟨?_, hlater.le, hlater.le_add⟩
  rw [hlater.limit, hcalls.limit, load_budget]

end SovereignCapital.Launch
