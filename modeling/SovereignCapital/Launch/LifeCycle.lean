import SovereignCapital.Launch.Invariant
import SovereignCapital.Lib.Runs

/-! # The life cycle of the launch profile

What each call and each restart of `StagedRolloutManager` should keep, and exactly when it does.
Two writes of `set_mode` go past the transition table, `enable_family` writes its lists before
the transitions that may fail, and a restart keeps only the families of the default order.
-/

namespace SovereignCapital.Launch

open Runs

/-! ## What should hold -/

structure Kept (p q : LaunchProfile) : Prop where
  mode : q.mode = p.mode
  active : q.activeFamilies = p.activeFamilies
  states : ∀ f, q.familyStates.get? f = p.familyStates.get? f

/-- What a call should do. -/
structure StepSound (w : World) (call : Call) : Prop where
  transitions : ∀ f, mayBecome (w.profile.health f) ((w.step call).profile.health f)
  sound : Sound (w.step call).profile
  raised : (w.perform call).2 = .raised → (w.step call).profile = w.profile
  restarted : ∀ now, call = .restart now → Kept w.profile (w.step call).profile

/-- The condition under which a call does it. -/
def CallOk (w : World) : Call → Prop
  | .setMode mode _ =>
    (modeOf mode = "V1_ONLY" ∨ modeOf mode = "V1_PLUS_STABLE_ALPHA" →
      mayBecome (w.profile.health "flash_arb") .live)
    ∧ (modeOf mode = "V1_PLUS_STABLE_ALPHA" → ¬ (w.profile.health "funding_arb").halted)
  | .enableFamily family _ _ gates _ =>
    w.profile.enableRefusal (canonicalLaunchFamilyId family) gates = none →
      w.profile.health (canonicalLaunchFamilyId family) = .quarantined →
        w.profile.admitFamily (canonicalLaunchFamilyId family) = w.profile
  | .restart _ => ∀ f ∈ w.profile.activeFamilies, f ∈ defaultActivationOrder
  | _ => True

/-! ## What a call does -/

/-- A call that does what it should, and keeps the invariant. -/
structure Keeps (w : World) (call : Call) : Prop where
  good : StepSound w call
  inv : Inv (w.step call)

variable {w : World} {q p : LaunchProfile} {family mode : String} {target : HealthState}

theorem keeps_of_saved {call : Call} {reason : String} {now : Int}
    (hperform : w.perform call = (touchAndSave q reason now, .ok)) (hwell : WellFormed q)
    (hsound : Sound q) (htrans : ∀ f, mayBecome (w.profile.health f) (q.health f))
    (hrestart : ∀ n, call ≠ .restart n) : Keeps w call := by
  have hstep : w.step call = touchAndSave q reason now := by rw [World.step, hperform]
  refine ⟨⟨?_, ?_, ?_, fun n hn => absurd hn (hrestart n)⟩, ?_⟩
  · rw [hstep]
    exact htrans
  · rw [hstep]
    exact (sound_touch_iff q reason now).2 hsound
  · intro hraised
    rw [hperform] at hraised
    cases hraised
  · rw [hstep]
    exact inv_touchAndSave hwell hsound reason now

/-- A call that changes nothing. -/
theorem keeps_of_same {call : Call} (h : Inv w) (hsame : w.step call = w)
    (hrestart : ∀ n, call ≠ .restart n) : Keeps w call := by
  refine ⟨⟨fun f => ?_, ?_, fun _ => ?_, fun n hn => absurd hn (hrestart n)⟩, ?_⟩
  · rw [hsame]
    exact mayBecome_refl _
  · rw [hsame]
    exact h.sound
  · rw [hsame]
  · rw [hsame]
    exact h

/-- `pause_family` and `quarantine_family`: either the family moves and is withdrawn, or the
table does not have the pair. -/
theorem withdrawThenApply_cases (h : WellFormed w.profile) (family : String) (target : HealthState)
    (actor reasonCode touchReason : String) (now : Int) :
    (∃ q reason, w.withdrawThenApply family target actor reasonCode touchReason now
        = (touchAndSave q reason now, .ok)
      ∧ Withdrawn w.profile q (canonicalLaunchFamilyId family) target)
    ∨ (¬ mayBecome (w.profile.health (canonicalLaunchFamilyId family)) target
      ∧ w.withdrawThenApply family target actor reasonCode touchReason now
        = ({ w with profile := w.profile.withdraw (canonicalLaunchFamilyId family) },
            .raised)) := by
  obtain ⟨hstates, hmode⟩ := withdraw_states w.profile (canonicalLaunchFamilyId family)
  have hhealth : ∀ f, (w.profile.withdraw (canonicalLaunchFamilyId family)).health f
      = w.profile.health f := fun f => health_congr (by rw [hstates])
  cases hq : (w.profile.withdraw (canonicalLaunchFamilyId family)).applyFamilyState
      (canonicalLaunchFamilyId family) target actor reasonCode none now with
  | some q =>
    refine Or.inl ⟨q, touchReason ++ ":" ++ canonicalLaunchFamilyId family,
      by simp only [World.withdrawThenApply, hq], ?_⟩
    obtain ⟨hmoves, hactive⟩ := applyFamilyState_moves hq
    refine ⟨⟨hhealth _ ▸ hmoves.lawful, hmoves.mode.trans hmode, fun f => ?_⟩, ?_⟩
    · rw [hmoves.states, hstates]
    · rw [hactive, withdraw_active h.canonical]
  | none =>
    refine Or.inr ⟨?_, by simp only [World.withdrawThenApply, hq]⟩
    rw [← hhealth]
    exact applyFamilyState_eq_none_iff.1 hq

theorem keeps_pauseFamily (h : Inv w) (family actor : String) (now : Int) :
    Keeps w (.pauseFamily family actor now) := by
  have hcanon := canonical_idem family
  rcases withdrawThenApply_cases h.wellFormed family .observeOnly actor "family_paused"
    "family_paused" now with ⟨q, reason, hperform, hq⟩ | ⟨hnot, -⟩
  · exact keeps_of_saved hperform (hq.wellFormed h.wellFormed hcanon fun _ => by decide)
      (hq.sound h.sound hcanon) hq.moves.transitions fun n hn => by cases hn
  · exact absurd (mayBecome_observeOnly _) hnot

theorem keeps_quarantineFamily (h : Inv w) (family actor reasonCode : String) (now : Int) :
    Keeps w (.quarantineFamily family actor reasonCode now) := by
  have hcanon := canonical_idem family
  rcases withdrawThenApply_cases h.wellFormed family .quarantined actor reasonCode
    "family_quarantined" now with ⟨q, reason, hperform, hq⟩ | ⟨hnot, hperform⟩
  · exact keeps_of_saved hperform (hq.wellFormed h.wellFormed hcanon fun _ => by decide)
      (hq.sound h.sound hcanon) hq.moves.transitions fun n hn => by cases hn
  · -- a disabled family that is not core is not active, so that nothing was withdrawn
    refine keeps_of_same h ?_ fun n hn => by cases hn
    have hdisabled : w.profile.health (canonicalLaunchFamilyId family) = .disabled := by
      by_contra hne
      exact hnot ((mayBecome_quarantined_iff _).2 hne)
    have hsame := withdraw_of_notMem h.wellFormed fun hcore hmem =>
      h.sound.restricted _ hmem hcore (Or.inr hdisabled)
    have hstep : w.step (.quarantineFamily family actor reasonCode now)
        = { w with profile := w.profile.withdraw (canonicalLaunchFamilyId family) } :=
      congrArg Prod.fst hperform
    rw [hstep, hsame]

theorem keeps_revertFamily (h : Inv w) (family actor : String) (now : Int) :
    Keeps w (.revertFamily family actor now) := by
  have hcanon := canonical_idem family
  have hperform : w.perform (.revertFamily family actor now) = w.revertFamily family actor now :=
    rfl
  generalize htarget : (if isCoreLaunchFamily (canonicalLaunchFamilyId family) then
    HealthState.cappedLive else .observeOnly) = target
  cases hq : w.profile.applyFamilyState (canonicalLaunchFamilyId family) target actor
      "family_reverted" none now with
  | none =>
    refine keeps_of_same h ?_ fun n hn => by cases hn
    simp only [World.step, hperform, World.revertFamily, htarget, hq]
  | some q =>
    obtain ⟨hmoves, hactive⟩ := applyFamilyState_moves hq
    obtain ⟨hstates, hmode⟩ := withdraw_states q (canonicalLaunchFamilyId family)
    have hwithdrawn : Withdrawn w.profile (q.withdraw (canonicalLaunchFamilyId family))
        (canonicalLaunchFamilyId family) target := by
      refine ⟨⟨hmoves.lawful, hmode.trans hmoves.mode, fun f => ?_⟩, ?_⟩
      · rw [hstates, hmoves.states]
      · rw [withdraw_active, hactive]
        rw [hactive]
        exact h.wellFormed.canonical
    have hlive : canonicalLaunchFamilyId family ≠ "flash_arb" → target ≠ .live := by
      rintro - rfl
      split at htarget <;> cases htarget
    have hsaved : w.perform (.revertFamily family actor now)
        = (touchAndSave (q.withdraw (canonicalLaunchFamilyId family))
            ("family_reverted:" ++ canonicalLaunchFamilyId family) now, .ok) := by
      simp only [hperform, World.revertFamily, htarget, hq]
    exact keeps_of_saved hsaved (hwithdrawn.wellFormed h.wellFormed hcanon hlive)
      (hwithdrawn.sound h.sound hcanon) hwithdrawn.moves.transitions fun n hn => by cases hn

/-! ## Enabling a family -/

theorem countTrade_same (p : LaunchProfile) (family : String) :
    (p.countTrade family).familyStates = p.familyStates ∧ (p.countTrade family).mode = p.mode
      ∧ (p.countTrade family).activeFamilies = p.activeFamilies := by
  unfold LaunchProfile.countTrade
  split <;> exact ⟨rfl, rfl, rfl⟩

theorem enableTarget_spec (h : ¬ (p.readinessState family).halted) :
    ¬ (p.enableTarget family).halted ∧ (family ≠ "flash_arb" → p.enableTarget family ≠ .live) := by
  unfold LaunchProfile.enableTarget
  by_cases hflash : family = "flash_arb"
  · rw [if_pos hflash]
    exact ⟨by decide, fun hne => absurd hflash hne⟩
  · rw [if_neg hflash]
    cases hs : p.readinessState family with
    | disabled => exact absurd (Or.inr hs) h
    | quarantined => exact absurd (Or.inl hs) h
    | _ => exact ⟨by decide, fun _ => by decide⟩

/-- From quarantine a transition leads to no state but the observed and the disabled. -/
theorem mayBecome_of_quarantined (h : mayBecome .quarantined target) :
    target = .observeOnly ∨ target.halted := by
  revert h
  cases target <;> decide

/-- When no reason speaks against a family, the readiness of its own state does not either, and
before the other modes it is the core family. -/
theorem enableRefusal_eq_none {gates : Bool} (h : p.enableRefusal family gates = none) :
    ¬ (p.readinessState family).halted
      ∧ (p.mode = "V1_ONLY" → isCoreLaunchFamily family = true) := by
  unfold LaunchProfile.enableRefusal at h
  split at h
  · cases h
  · rename_i hmode
    split at h
    · cases h
    · split at h
      · rename_i hallowed
        refine ⟨hallowed.2, fun hv1 => ?_⟩
        by_contra hcore
        exact hmode ⟨hv1, Bool.not_eq_true _ ▸ hcore⟩
      · cases h

structure Entered (p q : LaunchProfile) (family : String) (target : HealthState) : Prop where
  moves : Moves p q family target
  active : q.activeFamilies
    = if family ∈ p.activeFamilies then p.activeFamilies else p.activeFamilies ++ [family]

theorem Entered.mem_iff {f : String} (hq : Entered p q family target) :
    f ∈ q.activeFamilies ↔ f ∈ p.activeFamilies ∨ f = family := by
  rw [hq.active]
  split
  · rename_i hmem
    constructor
    · exact Or.inl
    · rintro (hf | rfl)
      · exact hf
      · exact hmem
  · simp

theorem Entered.wellFormed (hq : Entered p q family target) (h : WellFormed p)
    (hcanon : canonicalLaunchFamilyId family = family)
    (hlive : p.mode = "V1_ONLY" → family ≠ "flash_arb" → target ≠ .live) : WellFormed q := by
  refine h.moved hq.moves ?_ (hq.mem_iff.2 (Or.inl h.core)) hlive
  intro f hf
  rcases hq.mem_iff.1 hf with hold | rfl
  · exact h.canonical f hold
  · exact hcanon

theorem Entered.sound (hq : Entered p q family target) (h : WellFormed p) (hs : Sound p)
    (hcanon : canonicalLaunchFamilyId family = family) (hhalt : ¬ target.halted)
    (hv1 : p.mode = "V1_ONLY" → isCoreLaunchFamily family = true) : Sound q := by
  refine hs.moved hq.moves ?_ (fun _ _ => hhalt) ?_
  · intro f hf hne
    exact (hq.mem_iff.1 hf).resolve_right hne
  · intro hmode
    have hflash : family = "flash_arb" := (isCore_canonical_iff hcanon).1 (hv1 hmode)
    rw [hq.active, hflash, if_pos h.core]
    exact hs.v1Only hmode

/-- What an accepted `enable_family` does: the family enters, or both transitions fail and the
lists stay written. -/
theorem enableFamily_cases {stage actor : String} {gates : Bool} {now : Int}
    (hnone : w.profile.enableRefusal (canonicalLaunchFamilyId family) gates = none) :
    (∃ q reason target, w.enableFamily family stage actor gates now
        = (touchAndSave q reason now, .ok)
      ∧ Entered w.profile q (canonicalLaunchFamilyId family) target
      ∧ (target = w.profile.enableTarget (canonicalLaunchFamilyId family)
          ∨ target = .cappedLive))
    ∨ (w.profile.health (canonicalLaunchFamilyId family) = .quarantined
      ∧ w.enableFamily family stage actor gates now
        = ({ w with profile := w.profile.admitFamily (canonicalLaunchFamilyId family) }, .raised)) := by
  generalize hfam : canonicalLaunchFamilyId family = f at hnone ⊢
  have hentered : ∀ {q : LaunchProfile} {target : HealthState} {reasonCode : String},
      (w.profile.admitFamily f).applyFamilyState f target actor reasonCode (some stage) now = some q →
      Entered w.profile (q.countTrade f) f target := by
    intro q target reasonCode hq
    obtain ⟨hmoves, hactive⟩ := applyFamilyState_moves hq
    obtain ⟨hstates, hmode, hact⟩ := countTrade_same q f
    refine ⟨⟨hmoves.lawful, hmode.trans hmoves.mode, fun g => ?_⟩, hact.trans hactive⟩
    rw [hstates, hmoves.states]
    rfl
  have hunfold : ∀ r : Option LaunchProfile,
      (((w.profile.admitFamily f).applyFamilyState f (w.profile.enableTarget f) actor "family_enabled"
          (some stage) now).or
        ((w.profile.admitFamily f).applyFamilyState f .cappedLive actor "family_enabled_safe_fallback"
          (some stage) now)) = r →
      w.enableFamily family stage actor gates now
        = r.elim ({ w with profile := w.profile.admitFamily f }, .raised)
            fun q => (touchAndSave (q.countTrade f) ("family_enabled:" ++ f) now, .ok) := by
    intro r hr
    cases r <;> simp only [World.enableFamily, hfam, hnone, hr, Option.elim]
  cases hfirst : (w.profile.admitFamily f).applyFamilyState f (w.profile.enableTarget f) actor
      "family_enabled" (some stage) now with
  | some q =>
    refine Or.inl ⟨q.countTrade f, _, _, hunfold (some q) ?_, hentered hfirst, Or.inl rfl⟩
    rw [hfirst]
    rfl
  | none =>
    cases hsecond : (w.profile.admitFamily f).applyFamilyState f .cappedLive actor
        "family_enabled_safe_fallback" (some stage) now with
    | some q =>
      refine Or.inl ⟨q.countTrade f, _, _, hunfold (some q) ?_, hentered hsecond, Or.inr rfl⟩
      rw [hfirst, hsecond]
      rfl
    | none =>
      refine Or.inr ⟨?_, hunfold none (by rw [hfirst, hsecond]; rfl)⟩
      have hnot := applyFamilyState_eq_none_iff.1 hsecond
      rw [mayBecome_cappedLive_iff, not_not] at hnot
      exact hnot

/-- `enable_family` does what it should unless both transitions fail after a list was
written. -/
theorem enableFamily_spec (h : Inv w) (family stage actor : String) (gates : Bool) (now : Int) :
    (CallOk w (.enableFamily family stage actor gates now) →
      Keeps w (.enableFamily family stage actor gates now))
    ∧ (StepSound w (.enableFamily family stage actor gates now) →
      CallOk w (.enableFamily family stage actor gates now)) := by
  have hperform : w.perform (.enableFamily family stage actor gates now)
      = w.enableFamily family stage actor gates now := rfl
  have hcanon := canonical_idem family
  cases hrefusal : w.profile.enableRefusal (canonicalLaunchFamilyId family) gates with
  | some reason =>
    refine ⟨fun _ => keeps_of_same h ?_ (fun n hn => by cases hn), fun _ hnone => ?_⟩
    · simp only [World.step, hperform, World.enableFamily, hrefusal]
    · rw [hrefusal] at hnone
      cases hnone
  | none =>
    obtain ⟨hstate, hv1⟩ := enableRefusal_eq_none hrefusal
    obtain ⟨hhalt, hlive⟩ := enableTarget_spec hstate
    rcases enableFamily_cases hrefusal with
      ⟨q, reason, target, hsaved, hq, htarget⟩ | ⟨hquarantined, hraised⟩
    · have htargetHalt : ¬ target.halted := by
        rcases htarget with rfl | rfl
        · exact hhalt
        · decide
      have htargetLive : canonicalLaunchFamilyId family ≠ "flash_arb" → target ≠ .live := by
        rcases htarget with rfl | rfl
        · exact hlive
        · exact fun _ => by decide
      refine ⟨fun _ => ?_, fun _ _ hquarantined => ?_⟩
      · exact keeps_of_saved hsaved (hq.wellFormed h.wellFormed hcanon fun _ => htargetLive)
          (hq.sound h.wellFormed h.sound hcanon htargetHalt hv1) hq.moves.transitions
          fun n hn => by cases hn
      · -- a quarantined family reaches neither target
        have hlawful := hq.moves.lawful
        rw [hquarantined] at hlawful
        rcases mayBecome_of_quarantined hlawful with hobserve | hhalted
        · rcases htarget with rfl | rfl
          · unfold LaunchProfile.enableTarget at hobserve
            split at hobserve
            · cases hobserve
            · cases hs : w.profile.readinessState (canonicalLaunchFamilyId family) <;>
                simp [hs] at hobserve
          · cases hobserve
        · exact absurd hhalted htargetHalt
    · have hstep : w.step (.enableFamily family stage actor gates now)
          = { w with profile := w.profile.admitFamily (canonicalLaunchFamilyId family) } :=
        congrArg Prod.fst hraised
      constructor
      · intro hok
        refine keeps_of_same h ?_ fun n hn => by cases hn
        rw [hstep, hok hrefusal hquarantined]
      · intro hgood _ _
        have hsame := hgood.raised (congrArg Prod.snd hraised)
        rw [hstep] at hsame
        exact hsame

/-! ## Changing the mode -/

theorem setMode_mode (p : LaunchProfile) (mode : String) : (p.setMode mode).mode = modeOf mode := by
  by_cases h1 : modeOf mode = "V1_ONLY"
  · simp [LaunchProfile.setMode, h1]
  · by_cases h2 : modeOf mode = "V1_PLUS_STABLE_ALPHA" <;> simp [LaunchProfile.setMode, h1, h2]

/-- `set_mode` to the first mode: every family of the order is set to where it starts. -/
theorem setMode_v1 (hmode : modeOf mode = "V1_ONLY") :
    (p.setMode mode).activeFamilies = ["flash_arb"]
      ∧ ∀ f, (p.setMode mode).familyStates.get? f
        = if f ∈ defaultActivationOrder then some (defaultState f).value
          else p.familyStates.get? f := by
  have hset : (p.setMode mode).activeFamilies = ["flash_arb"]
      ∧ (p.setMode mode).familyStates = p.familyStates.updateEach defaultActivationOrder
        fun family _ => some (defaultState family).value := by
    simp [LaunchProfile.setMode, hmode]
  refine ⟨hset.1, fun f => ?_⟩
  rw [hset.2, Dict.get?_updateEach _ nodup_order]
  rfl

/-- `set_mode` to the second mode: the core family is live, the states of the others stay. -/
theorem setMode_alpha (h : WellFormed p) (hmode : modeOf mode = "V1_PLUS_STABLE_ALPHA") :
    (p.setMode mode).activeFamilies = ["flash_arb", "funding_arb"]
      ∧ ∀ f, (p.setMode mode).familyStates.get? f
        = if f = "flash_arb" then some HealthState.live.value else p.familyStates.get? f := by
  have hfunding := h.listed "funding_arb" (by decide)
  have hset : (p.setMode mode).activeFamilies = ["flash_arb", "funding_arb"]
      ∧ (p.setMode mode).familyStates
        = (p.familyStates.set "flash_arb" HealthState.live.value).set "funding_arb"
          (p.health "funding_arb").value := by
    simp [LaunchProfile.setMode, hmode, Dict.getD, Dict.get?_set, hfunding]
  refine ⟨hset.1, fun f => ?_⟩
  rw [hset.2, Dict.get?_set, Dict.get?_set]
  by_cases hf : f = "funding_arb"
  · rw [hf, hfunding]
    simp
  · rw [if_neg hf]

theorem setMode_staged (h1 : modeOf mode ≠ "V1_ONLY") (h2 : modeOf mode ≠ "V1_PLUS_STABLE_ALPHA") :
    p.setMode mode = { p with mode := modeOf mode } := by
  simp [LaunchProfile.setMode, h1, h2]

theorem setMode_spec (h : Inv w) (mode : String) (now : Int) :
    (CallOk w (.setMode mode now) → Keeps w (.setMode mode now))
    ∧ (StepSound w (.setMode mode now) → CallOk w (.setMode mode now)) := by
  have hperform : w.perform (.setMode mode now)
      = (touchAndSave (w.profile.setMode mode) ("mode_set:" ++ modeOf mode) now, .ok) := rfl
  have hrestart : ∀ n, Call.setMode mode now ≠ .restart n := fun n hn => by cases hn
  have hqmode := setMode_mode w.profile mode
  by_cases hv1 : modeOf mode = "V1_ONLY"
  · obtain ⟨hactive, hstates⟩ := setMode_v1 (p := w.profile) hv1
    have horder : ∀ f ∈ defaultActivationOrder,
        (w.profile.setMode mode).health f = defaultState f := fun f hf =>
      health_of_get? (by rw [hstates, if_pos hf])
    constructor
    · intro hok
      refine keeps_of_saved hperform ⟨?_, ?_, ?_, ?_⟩ ⟨?_, fun _ => hactive⟩ ?_ hrestart
      · rw [hactive]
        exact fun f hf => by rw [List.mem_singleton.1 hf]; decide
      · rw [hactive]
        exact List.mem_singleton_self _
      · intro f hf
        rw [hstates, if_pos hf, horder f hf]
      · intro _ f hf hne
        rw [horder f hf, defaultState, if_neg hne]
        decide
      · intro f hf hcore
        rw [hactive, List.mem_singleton] at hf
        rw [hf] at hcore
        cases hcore
      · intro f
        by_cases hf : f ∈ defaultActivationOrder
        · rw [horder f hf]
          by_cases hflash : f = "flash_arb"
          · rw [hflash]
            exact hok.1 (Or.inl hv1)
          · rw [defaultState, if_neg hflash]
            exact mayBecome_observeOnly _
        · have hsame : (w.profile.setMode mode).health f = w.profile.health f :=
            health_congr (by rw [hstates, if_neg hf])
          rw [hsame]
          exact mayBecome_refl _
    · intro hgood
      refine ⟨fun _ => ?_, fun halpha => ?_⟩
      · have hflash := hgood.transitions "flash_arb"
        have hlive : (w.step (.setMode mode now)).profile.health "flash_arb" = .live :=
          horder "flash_arb" flash_mem_order
        rwa [hlive] at hflash
      · rw [hv1] at halpha
        exact absurd halpha (by decide)
  · by_cases halpha : modeOf mode = "V1_PLUS_STABLE_ALPHA"
    · obtain ⟨hactive, hstates⟩ := setMode_alpha h.wellFormed halpha
      have hflash : (w.profile.setMode mode).health "flash_arb" = .live :=
        health_of_get? (by rw [hstates, if_pos rfl])
      have hothers : ∀ f, f ≠ "flash_arb" →
          (w.profile.setMode mode).health f = w.profile.health f := fun f hf =>
        health_congr (by rw [hstates, if_neg hf])
      have hne : (w.profile.setMode mode).mode ≠ "V1_ONLY" := by rwa [hqmode]
      constructor
      · intro hok
        refine keeps_of_saved hperform ⟨?_, ?_, ?_, fun hm => absurd hm hne⟩
          ⟨?_, fun hm => absurd hm hne⟩ ?_ hrestart
        · rw [hactive]
          decide
        · rw [hactive]
          exact List.mem_cons_self
        · intro f hf
          by_cases hfl : f = "flash_arb"
          · rw [hfl, hflash, hstates, if_pos rfl]
          · rw [hothers f hfl, hstates, if_neg hfl]
            exact h.wellFormed.listed f hf
        · intro f hf hcore
          rw [hactive] at hf
          rcases List.mem_cons.1 hf with rfl | hf
          · cases hcore
          · rw [List.mem_singleton.1 hf, hothers _ (by decide)]
            exact hok.2 halpha
        · intro f
          by_cases hfl : f = "flash_arb"
          · rw [hfl, hflash]
            exact hok.1 (Or.inr halpha)
          · rw [hothers f hfl]
            exact mayBecome_refl _
      · intro hgood
        refine ⟨fun _ => ?_, fun _ => ?_⟩
        · have htrans := hgood.transitions "flash_arb"
          have hlive : (w.step (.setMode mode now)).profile.health "flash_arb" = .live := hflash
          rwa [hlive] at htrans
        · have hmem : "funding_arb" ∈ (w.step (.setMode mode now)).profile.activeFamilies := by
            change "funding_arb" ∈ (w.profile.setMode mode).activeFamilies
            rw [hactive]
            simp
          have hopen := hgood.sound.restricted "funding_arb" hmem (by decide)
          have hsame : (w.step (.setMode mode now)).profile.health "funding_arb"
              = w.profile.health "funding_arb" := hothers "funding_arb" (by decide)
          rwa [hsame] at hopen
    · -- the other modes change nothing but the mode
      have hset := setMode_staged (p := w.profile) hv1 halpha
      have hhealth : ∀ f, (w.profile.setMode mode).health f = w.profile.health f := fun f =>
        health_congr (by rw [hset])
      have hwell : WellFormed (w.profile.setMode mode) := by
        rw [hset]
        exact ⟨h.wellFormed.canonical, h.wellFormed.core, h.wellFormed.listed,
          fun hm => absurd hm hv1⟩
      have hsound : Sound (w.profile.setMode mode) := by
        rw [hset]
        exact ⟨h.sound.restricted, fun hm => absurd hm hv1⟩
      constructor
      · intro _
        refine keeps_of_saved hperform hwell hsound (fun f => ?_) hrestart
        rw [hhealth]
        exact mayBecome_refl _
      · intro _
        exact ⟨fun hor => absurd hor (by rintro (h' | h') <;> contradiction),
          fun h' => absurd h' halpha⟩

/-! ## Restarting -/

theorem startOk_of_inv (h : Inv w) : StartOk w.saved := by
  rw [← sound_normalizeProfile_iff]
  have hhealth : ∀ f, (normalizeProfile w.saved.profile).health f = w.profile.health f :=
    fun f => health_congr (h.reloads.states f)
  refine ⟨?_, fun hmode => ?_⟩
  · intro f hf hcore
    rw [h.reloads.active] at hf
    rw [hhealth]
    exact h.sound.restricted f (List.mem_filter.1 hf).1 hcore
  · exact normalizeProfile_active_of_v1 (normalizeProfile_mode _ ▸ hmode)

/-- A restart keeps what it should exactly when every active family is in the default order. -/
theorem restart_spec (h : Inv w) (now : Int) :
    (CallOk w (.restart now) → Keeps w (.restart now))
    ∧ (StepSound w (.restart now) → CallOk w (.restart now)) := by
  have hinv : Inv (w.step (.restart now)) := inv_load (startOk_of_inv h) now
  have hload : (w.step (.restart now)).profile.mode = w.profile.mode
      ∧ (w.step (.restart now)).profile.activeFamilies
        = w.profile.activeFamilies.filter (fun f => f ∈ defaultActivationOrder)
      ∧ ∀ f, (w.step (.restart now)).profile.familyStates.get? f
        = w.profile.familyStates.get? f := by
    have hmode : (normalizeProfile w.saved.profile).mode = w.profile.mode :=
      (normalizeProfile_mode _).trans h.reloads.mode
    have hstep : w.step (.restart now) = World.load w.saved now := rfl
    rw [hstep]
    rcases load_profile w.saved now with hp | hp
    · rw [hp]
      exact ⟨hmode, h.reloads.active, h.reloads.states⟩
    · rw [hp]
      exact ⟨hmode, h.reloads.active, h.reloads.states⟩
  obtain ⟨hmode, hactive, hstates⟩ := hload
  constructor
  · intro hok
    refine ⟨⟨fun f => ?_, hinv.sound, fun hraised => ?_, fun n _ => ⟨hmode, ?_, hstates⟩⟩, hinv⟩
    · rw [health_congr (hstates f)]
      exact mayBecome_refl _
    · cases hraised
    · rw [hactive, List.filter_eq_self]
      exact fun f hf => decide_eq_true (hok f hf)
  · intro hgood f hf
    rw [(hgood.restarted now rfl).active, eq_comm, List.filter_eq_self] at hactive
    exact of_decide_eq_true (hactive f hf)

/-! ## Whole runs -/

theorem call_spec (h : Inv w) (call : Call) :
    (CallOk w call → Keeps w call) ∧ (StepSound w call → CallOk w call) := by
  cases call with
  | setMode mode now => exact setMode_spec h mode now
  | enableFamily family stage actor gates now =>
    exact enableFamily_spec h family stage actor gates now
  | pauseFamily family actor now =>
    exact ⟨fun _ => keeps_pauseFamily h family actor now, fun _ => trivial⟩
  | revertFamily family actor now =>
    exact ⟨fun _ => keeps_revertFamily h family actor now, fun _ => trivial⟩
  | quarantineFamily family actor reasonCode now =>
    exact ⟨fun _ => keeps_quarantineFamily h family actor reasonCode now, fun _ => trivial⟩
  | restart now => exact restart_spec h now

/-- **The life cycle.** From a loaded profile on, through any calls and restarts, the profile is
sound, families change their state by the table only, a call that raises changes nothing and a
restart keeps the profile, exactly when the file and every call meet their conditions. -/
theorem lifeCycle_iff (raw : Stored) (now : Int) (calls : List Call) :
    (Sound (World.load raw now).profile
      ∧ AllSteps World.step StepSound (World.load raw now) calls)
    ↔ StartOk raw ∧ AllSteps World.step CallOk (World.load raw now) calls := by
  rw [sound_load_iff]
  refine and_congr_right fun hstart => ?_
  have hcall : ∀ w call, Inv w → (StepSound w call ↔ CallOk w call) := fun w call h =>
    ⟨(call_spec h call).2, fun hok => ((call_spec h call).1 hok).good⟩
  have hstep : ∀ w call, Inv w → CallOk w call → Inv (w.step call) := fun w call h hok =>
    ((call_spec h call).1 hok).inv
  exact allSteps_iff hcall hstep (inv_load hstart now) calls

/-- Nothing has been saved yet. -/
def Stored.empty : Stored where
  mode := none
  activeFamilies := none
  requestedFamilies := none
  familyStates := none
  history := none
  explorationBudget := none
  lastTransition := none
  updatedTsMs := none

/-- A family is quarantined, and the next change of the mode puts it among the active ones. -/
theorem quarantined_family_activated :
    Sound (World.load .empty 1700000000000).profile
    ∧ ¬ AllSteps World.step StepSound (World.load .empty 1700000000000)
      [.quarantineFamily "funding_arb" "system" "quarantined" 1700000001000,
        .setMode "V1_PLUS_STABLE_ALPHA" 1700000002000] := by
  refine ⟨(sound_load_iff _ _).2 fun hmode => absurd rfl hmode, ?_⟩
  rintro ⟨-, hmode, -⟩
  have hopen := hmode.sound.restricted "funding_arb" (by decide +kernel) (by decide)
  exact hopen (by decide +kernel)

end SovereignCapital.Launch
