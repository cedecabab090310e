import SovereignCapital.Launch.Rollout

/-! # What a launch profile keeps

The invariant of a loaded profile: its families go by their canonical names, each family of the
default order has a state, and loading what was saved gives the profile back. The two ways in
which a call changes a profile, moving a family to a state and withdrawing it, keep it.
-/

namespace SovereignCapital.Launch

/-! ## What should hold -/

/-- No halted family may trade, the core family apart, and before the other modes only the core
family trades. -/
structure Sound (p : LaunchProfile) : Prop where
  restricted : ∀ f ∈ p.activeFamilies, isCoreLaunchFamily f = false → ¬ (p.health f).halted
  v1Only : p.mode = "V1_ONLY" → p.activeFamilies = ["flash_arb"]

/-- The condition on the file a manager starts from. -/
def StartOk (raw : Stored) : Prop :=
  raw.profile.mode ≠ "V1_ONLY" → ∀ f ∈ raw.profile.activeFamilies, f ∈ defaultActivationOrder →
    f ≠ "flash_arb" → ¬ (raw.profile.health f).halted

/-! ## Names and states -/

variable {f family : String} {p q : LaunchProfile} {target : HealthState}

theorem canonical_of_mem_order (h : f ∈ defaultActivationOrder) :
    canonicalLaunchFamilyId f = f := by
  revert f
  decide

theorem flash_mem_order : "flash_arb" ∈ defaultActivationOrder := by decide

theorem nodup_order : defaultActivationOrder.Nodup := by decide

theorem canonical_idem (f : String) :
    canonicalLaunchFamilyId (canonicalLaunchFamilyId f) = canonicalLaunchFamilyId f := by
  have htable : ∀ e ∈ aliasToLaunch, canonicalLaunchFamilyId e.2 = e.2 := by decide
  cases hf : aliasToLaunch.lookup f with
  | none =>
    have hself : canonicalLaunchFamilyId f = f := by simp [canonicalLaunchFamilyId, hf]
    rw [hself, hself]
  | some g =>
    have hg : canonicalLaunchFamilyId f = g := by simp [canonicalLaunchFamilyId, hf]
    obtain ⟨l₁, l₂, hsplit, -⟩ := List.lookup_eq_some_iff.1 hf
    rw [hg]
    exact htable (f, g) (by rw [hsplit]; simp)

theorem isCore_canonical_iff (h : canonicalLaunchFamilyId f = f) :
    isCoreLaunchFamily f = true ↔ f = "flash_arb" := by
  simp [isCoreLaunchFamily, h]

theorem mayBecome_refl (h : HealthState) : mayBecome h h := Or.inl rfl

theorem health_of_get? {h : HealthState} (hget : p.familyStates.get? f = some h.value) :
    p.health f = h := by
  simp [LaunchProfile.health, Dict.getD, hget]

theorem health_congr (h : q.familyStates.get? f = p.familyStates.get? f) :
    q.health f = p.health f := by
  simp [LaunchProfile.health, Dict.getD, h]

/-! ## The invariant -/

/-- What loading a profile establishes and every call keeps. -/
structure WellFormed (p : LaunchProfile) : Prop where
  canonical : ∀ f ∈ p.activeFamilies, canonicalLaunchFamilyId f = f
  core : "flash_arb" ∈ p.activeFamilies
  listed : ∀ f ∈ defaultActivationOrder, p.familyStates.get? f = some (p.health f).value
  observed : p.mode = "V1_ONLY" → ∀ f ∈ defaultActivationOrder, f ≠ "flash_arb" →
    p.health f ≠ .live

/-- Loading what is saved gives the profile back, but for the families outside the default
order. -/
structure Reloads (p : LaunchProfile) (raw : Stored) : Prop where
  mode : raw.profile.mode = p.mode
  active : (normalizeProfile raw.profile).activeFamilies
    = p.activeFamilies.filter fun f => f ∈ defaultActivationOrder
  states : ∀ f, (normalizeProfile raw.profile).familyStates.get? f = p.familyStates.get? f

structure Inv (w : World) : Prop where
  wellFormed : WellFormed w.profile
  sound : Sound w.profile
  reloads : Reloads w.profile w.saved

/-! ## Loading -/

theorem normalizeProfile_mode (p : LaunchProfile) : (normalizeProfile p).mode = p.mode := by
  by_cases hmode : p.mode = "V1_ONLY" <;> simp [normalizeProfile, hmode]

theorem get?_normalizeStates (states : Dict String String) (f : String) :
    (normalizeStates states).get? f
      = if f ∈ defaultActivationOrder then
          some ((states.get? f).elim (defaultState f)
            fun v => normalizeHealthState v (defaultState f)).value
        else states.get? f := by
  rw [normalizeStates, Dict.get?_updateEach _ nodup_order]
  rfl

theorem get?_observeOthers (states : Dict String String) (f : String) :
    (observeOthers states).get? f
      = if f ∈ defaultActivationOrder ∧ f ≠ "flash_arb" ∧ states.get? f = some "live" then
          some "observe_only"
        else states.get? f := by
  rw [observeOthers, Dict.get?_updateEach _ nodup_order]
  by_cases hf : f ∈ defaultActivationOrder
  · by_cases hlive : f ≠ "flash_arb" ∧ states.get? f = some "live"
    · simp [hf, hlive]
    · rw [if_pos hf, if_neg hlive, if_neg fun h => hlive h.2]
      rfl
  · simp [hf]

theorem normalizeProfile_states_of_ne (hmode : p.mode ≠ "V1_ONLY") :
    (normalizeProfile p).familyStates = normalizeStates p.familyStates := by
  simp [normalizeProfile, hmode]

theorem normalizeProfile_states_of_v1 (hmode : p.mode = "V1_ONLY") :
    (normalizeProfile p).familyStates = observeOthers (normalizeStates p.familyStates) := by
  simp [normalizeProfile, hmode]

theorem value_eq_live_iff (h : HealthState) : h.value = "live" ↔ h = .live := by
  cases h <;> decide

theorem normalizeProfile_listed (p : LaunchProfile) (hf : f ∈ defaultActivationOrder) :
    ∃ h : HealthState, (normalizeProfile p).familyStates.get? f = some h.value
      ∧ (p.mode = "V1_ONLY" → f ≠ "flash_arb" → h ≠ .live)
      ∧ (p.mode ≠ "V1_ONLY" → h = (p.familyStates.get? f).elim (defaultState f)
          fun v => normalizeHealthState v (defaultState f)) := by
  have hfirst := get?_normalizeStates p.familyStates f
  rw [if_pos hf] at hfirst
  generalize (p.familyStates.get? f).elim (defaultState f)
    (fun v => normalizeHealthState v (defaultState f)) = h at hfirst
  by_cases hmode : p.mode = "V1_ONLY"
  · have hstates := normalizeProfile_states_of_v1 hmode
    by_cases hlive : f ≠ "flash_arb" ∧ h = .live
    · refine ⟨.observeOnly, ?_, fun _ _ => by decide, fun hne => absurd hmode hne⟩
      rw [hstates, get?_observeOthers, hfirst, if_pos ⟨hf, hlive.1, by rw [hlive.2]; rfl⟩]
      rfl
    · refine ⟨h, ?_, fun _ hne hl => hlive ⟨hne, hl⟩, fun hne => absurd hmode hne⟩
      rw [hstates, get?_observeOthers, hfirst, if_neg]
      rintro ⟨-, hne, hl⟩
      exact hlive ⟨hne, (value_eq_live_iff h).1 (Option.some.inj hl)⟩
  · refine ⟨h, ?_, fun hm => absurd hm hmode, fun _ => rfl⟩
    rw [normalizeProfile_states_of_ne hmode, hfirst]

theorem normalizeProfile_active_of_ne (hmode : p.mode ≠ "V1_ONLY") :
    (normalizeProfile p).activeFamilies
      = (if "flash_arb" ∈ p.activeFamilies then p.activeFamilies
          else "flash_arb" :: p.activeFamilies).filter fun f => f ∈ defaultActivationOrder := by
  simp [normalizeProfile, hmode]

theorem normalizeProfile_active_of_v1 (hmode : p.mode = "V1_ONLY") :
    (normalizeProfile p).activeFamilies = ["flash_arb"] := by
  simp [normalizeProfile, hmode]

theorem wellFormed_normalizeProfile (p : LaunchProfile) : WellFormed (normalizeProfile p) := by
  have hactive : "flash_arb" ∈ (normalizeProfile p).activeFamilies
      ∧ ∀ f ∈ (normalizeProfile p).activeFamilies, f ∈ defaultActivationOrder := by
    by_cases hmode : p.mode = "V1_ONLY"
    · rw [normalizeProfile_active_of_v1 hmode]
      exact ⟨List.mem_singleton_self _, fun f hf => by rw [List.mem_singleton.1 hf]; decide⟩
    · rw [normalizeProfile_active_of_ne hmode]
      refine ⟨?_, fun f hf => of_decide_eq_true (List.mem_filter.1 hf).2⟩
      refine List.mem_filter.2 ⟨?_, by decide⟩
      split
      · assumption
      · exact List.mem_cons_self
  refine ⟨fun f hf => canonical_of_mem_order (hactive.2 f hf), hactive.1, ?_, ?_⟩
  · intro f hf
    obtain ⟨h, hget, -⟩ := normalizeProfile_listed p hf
    rw [hget, health_of_get? hget]
  · intro hmode f hf hne
    obtain ⟨h, hget, hlive, -⟩ := normalizeProfile_listed p hf
    rw [health_of_get? hget]
    exact hlive (normalizeProfile_mode p ▸ hmode) hne

/-- Loading what a well formed profile was saved as gives it back. -/
theorem reloads_stored (h : WellFormed p) (hs : Sound p) : Reloads p p.stored := by
  have hget : ∀ f, p.stored.profile.familyStates.get? f = p.familyStates.get? f := fun f =>
    Dict.get?_sortKeys p.familyStates _ f
  refine ⟨rfl, ?_, ?_⟩
  · by_cases hmode : p.mode = "V1_ONLY"
    · have hload : (normalizeProfile p.stored.profile).activeFamilies = ["flash_arb"] :=
        normalizeProfile_active_of_v1 hmode
      rw [hload, hs.v1Only hmode]
      decide
    · have hload := normalizeProfile_active_of_ne (p := p.stored.profile) hmode
      rw [hload, if_pos (show "flash_arb" ∈ p.stored.profile.activeFamilies from h.core)]
      rfl
  · intro f
    have hfirst : (normalizeStates p.stored.profile.familyStates).get? f
        = p.familyStates.get? f := by
      rw [get?_normalizeStates, hget]
      by_cases hf : f ∈ defaultActivationOrder
      · rw [if_pos hf, h.listed f hf]
        simp
      · rw [if_neg hf]
    by_cases hmode : p.mode = "V1_ONLY"
    · have hstates := normalizeProfile_states_of_v1 (p := p.stored.profile) hmode
      rw [hstates, get?_observeOthers, hfirst, if_neg]
      rintro ⟨hf, hne, hlive⟩
      rw [h.listed f hf] at hlive
      exact h.observed hmode f hf hne ((value_eq_live_iff _).1 (Option.some.inj hlive))
    · have hstates := normalizeProfile_states_of_ne (p := p.stored.profile) hmode
      rw [hstates, hfirst]

/-- A loaded profile is sound exactly when the file meets its condition. -/
theorem sound_normalizeProfile_iff (raw : Stored) :
    Sound (normalizeProfile raw.profile) ↔ StartOk raw := by
  -- outside the first mode a family of the default order keeps the state it was saved in
  have hhealth : raw.profile.mode ≠ "V1_ONLY" → ∀ f ∈ defaultActivationOrder, f ≠ "flash_arb" →
      (normalizeProfile raw.profile).health f = raw.profile.health f := by
    intro hmode f hf hne
    obtain ⟨h, hget, -, hval⟩ := normalizeProfile_listed raw.profile hf
    have hstart : defaultState f = .observeOnly := if_neg hne
    rw [health_of_get? hget, hval hmode, hstart]
    cases hraw : raw.profile.familyStates.get? f with
    | none =>
      have hdefault : raw.profile.health f
          = normalizeHealthState HealthState.observeOnly.value .observeOnly := by
        simp [LaunchProfile.health, Dict.getD, hraw, HealthState.value]
      rw [hdefault, normalizeHealthState_value]
      rfl
    | some v => simp [LaunchProfile.health, Dict.getD, hraw]
  have hcore : ∀ f ∈ defaultActivationOrder, (isCoreLaunchFamily f = false ↔ f ≠ "flash_arb") := by
    intro f hf
    rw [ne_eq, ← isCore_canonical_iff (canonical_of_mem_order hf), Bool.not_eq_true]
  constructor
  · intro hs hmode f hactive hf hne hhalt
    refine hs.restricted f ?_ ((hcore f hf).2 hne) (hhealth hmode f hf hne ▸ hhalt)
    rw [normalizeProfile_active_of_ne hmode]
    refine List.mem_filter.2 ⟨?_, decide_eq_true hf⟩
    split
    · exact hactive
    · exact List.mem_cons_of_mem _ hactive
  · intro hstart
    refine ⟨?_, fun hmode => normalizeProfile_active_of_v1 (normalizeProfile_mode _ ▸ hmode)⟩
    intro f hactive hnot
    by_cases hmode : raw.profile.mode = "V1_ONLY"
    · rw [normalizeProfile_active_of_v1 hmode, List.mem_singleton] at hactive
      rw [hactive] at hnot
      cases hnot
    · rw [normalizeProfile_active_of_ne hmode] at hactive
      obtain ⟨hmem, hin⟩ := List.mem_filter.1 hactive
      have hf : f ∈ defaultActivationOrder := of_decide_eq_true hin
      have hne := (hcore f hf).1 hnot
      rw [hhealth hmode f hf hne]
      refine hstart hmode f ?_ hf hne
      split at hmem
      · exact hmem
      · exact (List.mem_cons.1 hmem).resolve_left hne

theorem WellFormed.touch (h : WellFormed p) (reason : String) (now : Int) :
    WellFormed (p.touch reason now) :=
  ⟨h.canonical, h.core, h.listed, h.observed⟩

theorem sound_touch_iff (p : LaunchProfile) (reason : String) (now : Int) :
    Sound (p.touch reason now) ↔ Sound p :=
  ⟨fun h => ⟨h.restricted, h.v1Only⟩, fun h => ⟨h.restricted, h.v1Only⟩⟩

/-- A profile that is saved after a call is loaded as it is. -/
theorem inv_touchAndSave (h : WellFormed p) (hs : Sound p) (reason : String) (now : Int) :
    Inv (touchAndSave p reason now) :=
  let hsound := (sound_touch_iff p reason now).2 hs
  ⟨h.touch reason now, hsound, reloads_stored (h.touch reason now) hsound⟩

/-- What a manager is loaded with, but for the note of a first start. -/
theorem load_profile (raw : Stored) (now : Int) :
    (World.load raw now).profile = normalizeProfile raw.profile
    ∨ (World.load raw now).profile = (normalizeProfile raw.profile).touch "bootstrap" now := by
  by_cases hnew : (normalizeProfile raw.profile).updatedTsMs = 0
  · exact Or.inr (by simp [World.load, hnew, touchAndSave])
  · exact Or.inl (by simp [World.load, hnew])

theorem sound_load_iff (raw : Stored) (now : Int) :
    Sound (World.load raw now).profile ↔ StartOk raw := by
  rw [← sound_normalizeProfile_iff]
  rcases load_profile raw now with h | h
  · rw [h]
  · rw [h, sound_touch_iff]

theorem inv_load {raw : Stored} (hs : StartOk raw) (now : Int) : Inv (World.load raw now) := by
  have hwell := wellFormed_normalizeProfile raw.profile
  have hsound := (sound_normalizeProfile_iff raw).2 hs
  by_cases hnew : (normalizeProfile raw.profile).updatedTsMs = 0
  · have hload : World.load raw now
        = touchAndSave (normalizeProfile raw.profile) "bootstrap" now := if_pos hnew
    rw [hload]
    exact inv_touchAndSave hwell hsound _ _
  · have hload : World.load raw now = ⟨normalizeProfile raw.profile, raw⟩ := if_neg hnew
    rw [hload]
    refine ⟨hwell, hsound, (normalizeProfile_mode _).symm, ?_, fun _ => rfl⟩
    -- what loading keeps is in the default order already
    refine (List.filter_eq_self.2 fun f hf => ?_).symm
    change f ∈ (normalizeProfile raw.profile).activeFamilies at hf
    by_cases hmode : raw.profile.mode = "V1_ONLY"
    · rw [normalizeProfile_active_of_v1 hmode, List.mem_singleton] at hf
      rw [hf]
      decide
    · rw [normalizeProfile_active_of_ne hmode] at hf
      exact (List.mem_filter.1 hf).2

/-! ## Transitions -/

structure Moves (p q : LaunchProfile) (family : String) (target : HealthState) : Prop where
  lawful : mayBecome (p.health family) target
  mode : q.mode = p.mode
  states : ∀ f, q.familyStates.get? f
    = if f = family then some target.value else p.familyStates.get? f

theorem Moves.health_self (h : Moves p q family target) : q.health family = target :=
  health_of_get? (by rw [h.states, if_pos rfl])

theorem Moves.health_of_ne (h : Moves p q family target) (hf : f ≠ family) :
    q.health f = p.health f :=
  health_congr (by rw [h.states, if_neg hf])

theorem Moves.transitions (h : Moves p q family target) (f : String) :
    mayBecome (p.health f) (q.health f) := by
  by_cases hf : f = family
  · rw [hf, h.health_self]
    exact h.lawful
  · rw [h.health_of_ne hf]
    exact mayBecome_refl _

theorem WellFormed.moved (h : WellFormed p) (hm : Moves p q family target)
    (hcanon : ∀ f ∈ q.activeFamilies, canonicalLaunchFamilyId f = f)
    (hcore : "flash_arb" ∈ q.activeFamilies)
    (hlive : p.mode = "V1_ONLY" → family ≠ "flash_arb" → target ≠ .live) : WellFormed q := by
  refine ⟨hcanon, hcore, ?_, ?_⟩
  · intro f hf
    by_cases hfam : f = family
    · rw [hfam, hm.health_self, hm.states, if_pos rfl]
    · rw [hm.health_of_ne hfam, hm.states, if_neg hfam]
      exact h.listed f hf
  · intro hmode f hf hne
    rw [hm.mode] at hmode
    by_cases hfam : f = family
    · rw [hfam, hm.health_self]
      exact hlive hmode (hfam ▸ hne)
    · rw [hm.health_of_ne hfam]
      exact h.observed hmode f hf hne

theorem Sound.moved (h : Sound p) (hm : Moves p q family target)
    (hactive : ∀ f ∈ q.activeFamilies, f ≠ family → f ∈ p.activeFamilies)
    (hself : family ∈ q.activeFamilies → isCoreLaunchFamily family = false → ¬ target.halted)
    (hv1 : p.mode = "V1_ONLY" → q.activeFamilies = ["flash_arb"]) : Sound q := by
  refine ⟨?_, fun hmode => hv1 (hm.mode ▸ hmode)⟩
  intro f hf hcore
  by_cases hfam : f = family
  · rw [hfam, hm.health_self]
    exact hself (hfam ▸ hf) (hfam ▸ hcore)
  · rw [hm.health_of_ne hfam]
    exact h.restricted f (hactive f hf hfam) hcore

/-- What `_apply_family_state` does when it does not raise. -/
theorem applyFamilyState_moves {actor reasonCode : String} {stage : Option String} {now : Int}
    (h : p.applyFamilyState family target actor reasonCode stage now = some q) :
    Moves p q family target ∧ q.activeFamilies = p.activeFamilies := by
  unfold LaunchProfile.applyFamilyState at h
  by_cases hlawful : mayBecome (p.health family) target
  · rw [if_pos hlawful] at h
    obtain rfl := Option.some.inj h
    exact ⟨⟨hlawful, rfl, fun f => Dict.get?_set _ _ _ _⟩, rfl⟩
  · rw [if_neg hlawful] at h
    cases h

theorem applyFamilyState_eq_none_iff {actor reasonCode : String} {stage : Option String}
    {now : Int} :
    p.applyFamilyState family target actor reasonCode stage now = none
      ↔ ¬ mayBecome (p.health family) target := by
  unfold LaunchProfile.applyFamilyState
  by_cases hlawful : mayBecome (p.health family) target
  · simp [hlawful]
  · simp [hlawful]

theorem mayBecome_observeOnly (h : HealthState) : mayBecome h .observeOnly := by
  cases h <;> decide

theorem mayBecome_quarantined_iff (h : HealthState) :
    mayBecome h .quarantined ↔ h ≠ .disabled := by
  cases h <;> decide

theorem mayBecome_cappedLive_iff (h : HealthState) :
    mayBecome h .cappedLive ↔ h ≠ .quarantined := by
  cases h <;> decide

/-! ## Withdrawing a family -/

theorem withdraw_states (p : LaunchProfile) (family : String) :
    (p.withdraw family).familyStates = p.familyStates ∧ (p.withdraw family).mode = p.mode := by
  unfold LaunchProfile.withdraw
  split <;> exact ⟨rfl, rfl⟩

theorem withdraw_active (h : ∀ f ∈ p.activeFamilies, canonicalLaunchFamilyId f = f)
    (family : String) :
    (p.withdraw family).activeFamilies
      = if isCoreLaunchFamily family then p.activeFamilies
        else p.activeFamilies.filter (· ≠ family) := by
  have hmap : p.activeFamilies.map canonicalLaunchFamilyId = p.activeFamilies :=
    (List.map_congr_left fun f hf => h f hf).trans (List.map_id _)
  by_cases hcore : isCoreLaunchFamily family = true
  · simp [LaunchProfile.withdraw, hcore]
  · simp [LaunchProfile.withdraw, hcore, hmap]

theorem withdraw_of_notMem (h : WellFormed p)
    (hf : isCoreLaunchFamily family = false → family ∉ p.activeFamilies) :
    p.withdraw family = p := by
  by_cases hcore : isCoreLaunchFamily family = true
  · exact if_pos hcore
  · have hactive := withdraw_active h.canonical family
    rw [if_neg hcore, List.filter_eq_self.2] at hactive
    · unfold LaunchProfile.withdraw at hactive ⊢
      rw [if_neg hcore] at hactive ⊢
      cases p
      simpa using hactive
    · intro g hg
      refine decide_eq_true ?_
      rintro rfl
      exact hf (Bool.not_eq_true _ ▸ hcore) hg

/-- What is left after a family moved and was withdrawn, in either order. -/
structure Withdrawn (p q : LaunchProfile) (family : String) (target : HealthState) : Prop where
  moves : Moves p q family target
  active : q.activeFamilies
    = if isCoreLaunchFamily family then p.activeFamilies
      else p.activeFamilies.filter (· ≠ family)

theorem Withdrawn.wellFormed (hq : Withdrawn p q family target) (h : WellFormed p)
    (hcanon : canonicalLaunchFamilyId family = family)
    (hlive : family ≠ "flash_arb" → target ≠ .live) : WellFormed q := by
  have hsub : ∀ f ∈ q.activeFamilies, f ∈ p.activeFamilies := by
    intro f hf
    rw [hq.active] at hf
    split at hf
    · exact hf
    · exact (List.mem_filter.1 hf).1
  refine h.moved hq.moves (fun f hf => h.canonical f (hsub f hf)) ?_ fun _ => hlive
  rw [hq.active]
  split
  · exact h.core
  · rename_i hcore
    refine List.mem_filter.2 ⟨h.core, decide_eq_true fun heq => hcore ?_⟩
    exact (isCore_canonical_iff hcanon).2 heq.symm

theorem Withdrawn.sound (hq : Withdrawn p q family target) (hs : Sound p)
    (hcanon : canonicalLaunchFamilyId family = family) : Sound q := by
  refine hs.moved hq.moves ?_ ?_ ?_
  · intro f hf _
    rw [hq.active] at hf
    split at hf
    · exact hf
    · exact (List.mem_filter.1 hf).1
  · intro hf hcore
    -- a family that is not core is gone
    rw [hq.active, if_neg (by rw [hcore]; decide)] at hf
    exact absurd rfl (of_decide_eq_true (List.mem_filter.1 hf).2)
  · intro hmode
    rw [hq.active, hs.v1Only hmode]
    split
    · rfl
    · rename_i hcore
      have hne : "flash_arb" ≠ family := fun heq =>
        hcore ((isCore_canonical_iff hcanon).2 heq.symm)
      simp [hne]

end SovereignCapital.Launch
