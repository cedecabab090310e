import SovereignCapital.Superstructure.Gate

/-! # What an approved trade has passed

`Sound` is what an approval is to mean on return. The gate passes four things that it does not
know: a monitor that trips after the checks, a registry or a governance that raises, and a size
below a tenth of what is required.

* `sound_iff` : an approval is sound exactly when the call `Heeds` them.
* `tripped_call_approves` : the call that enters safe mode is approved.
-/

namespace SovereignCapital.Superstructure

open Bytes Guarded

/-- The services are there. -/
structure Configured (env : Environment) (s : State) : Prop where
  negotiation : env.negotiation.configured = true
  governance : env.governance.configured = true
  auction : env.auction.configured = true
  planner : env.planner.configured = true
  stability : env.stability.configured = true
  command : s.command.isSome = true

/-- Neither agent of the trade is suspended. -/
def Unsuspended (s : State) : Prop :=
  s.registry.isSuspended "strategy_initiator" = false
    ∧ s.registry.isSuspended "trade_executor" = false

/-- **An approval is sound** for the proposal: on return there is no safe mode and no suspension,
the profit is verified and positive, the governance has allowed it, a human has approved where one
is asked, and the size fits what the auction has allocated. -/
structure Sound (cfg : Config) (env : Environment) (p : Proposal) (verdict : Verdict)
    (s : State) : Prop where
  safeMode : s.forceSafeModeUntil < env.now
  agents : Unsuspended s
  profit : p.profitAfterVerified = true ∧ 0 < p.profitAfterCosts
  governance : ∃ g, env.governance = .answered g ∧ g.allow = some true
  human : cfg.humanEnabled = true → cfg.humanRequireApprovalForHighRisk = true →
    (cfg.humanHighRiskThreshold ≤ p.riskScore
      ∨ ∃ g, env.governance = .answered g ∧ g.humanRequired = true) →
    ∃ center, s.command = some center ∧ center.Approved p.proposalId env.now
  size : 0 < verdict.sizeMult ∧ (cfg.requireCapitalAuction = true →
    ∃ auction got, env.auction = .answered auction
      ∧ allocated p (totalCapital cfg p) auction = some got
      ∧ verdict.sizeMult * p.capitalRequired ≤ got)

/-- The monitor does not trip, a registry that raises has nobody suspended, the governance answers
and with an `allow` of its own, and the auction allocates a tenth of what is required. -/
structure Heeds (cfg : Config) (env : Environment) (p : Proposal) (s : State) : Prop where
  calm : env.stability ≠ .answered true
  registry : env.initiatorRaises = true ∨ env.executorRaises = true → Unsuspended s
  governance : ∃ g, env.governance = .answered g ∧ g.allow.isSome = true
  auction : cfg.requireCapitalAuction = true → ∀ auction got, env.auction = .answered auction →
    allocated p (totalCapital cfg p) auction = some got → p.capitalRequired ≤ 10 * got

/-! ## Refusals -/

/-- An end that does not allow the trade. -/
def Refuses : Exit → Prop
  | .raised _ => True
  | .refused verdict _ => verdict.allow = false

theorem negotiate_refuses (env : Environment) (s : State) :
    FailsWith Refuses (negotiate env s) := by
  unfold negotiate
  split
  · exact .ok _
  · rintro e ⟨⟩
    exact trivial
  · exact .ensure rfl

theorem propose_refuses (cfg : Config) (env : Environment) (opp : Opportunity) (s : State) :
    FailsWith Refuses (propose cfg env opp s) :=
  .bind (.ensure rfl) fun _ => .bind (.ensure rfl) fun _ => .bind (.ensure rfl) fun _ =>
    .bind (.ensure rfl) fun _ => .bind (.require trivial) fun _ => .bind (.ensure rfl) fun _ =>
      .bind (.ensure rfl) fun _ => .bind (negotiate_refuses env _) fun _ => .ok _

theorem authorize_refuses (cfg : Config) (env : Environment) (p : Proposal) (s : State) :
    FailsWith Refuses (authorize cfg env p s) := by
  unfold authorize
  refine .bind (.ensure rfl) fun _ => ?_
  split
  · cases s.command with
    | none =>
      rintro e ⟨⟩
      rfl
    | some center => exact .bind (.ensure rfl) fun _ => .ok _
  · exact .ok _

theorem auctionSize_refuses (cfg : Config) (env : Environment) (p : Proposal) (s : State) :
    FailsWith Refuses (auctionSize cfg env p s) := by
  unfold auctionSize
  split
  · split
    · exact .ok _
    · rintro e ⟨⟩
      exact trivial
    · split
      · rintro e ⟨⟩
        exact trivial
      · exact .ok _
  · exact .ok _

variable {cfg : Config} {env : Environment} {opp : Opportunity} {s s' : State} {verdict : Verdict}
  {p : Proposal} {size : ℚ}

theorem preExecuteTrade_allows (henabled : cfg.enabled = true)
    (h : preExecuteTrade cfg env opp s = (some verdict, s')) (hallow : verdict.allow = true) :
    ∃ p s₁ s₂ size, propose cfg env opp s = .ok (p, s₁) ∧ authorize cfg env p s₁ = .ok s₂
      ∧ auctionSize cfg env p s₂ = .ok size ∧ dispatch cfg env size s₂ = (verdict, s') := by
  have hrefuses : FailsWith Refuses (propose cfg env opp s >>= fun x =>
      completeTrade cfg env x.1 x.2) :=
    .bind (propose_refuses cfg env opp s) fun x =>
      .bind (authorize_refuses cfg env x.1 x.2) fun _ =>
        .bind (auctionSize_refuses cfg env x.1 _) fun _ => .ok _
  have hchain : conclude (propose cfg env opp s >>= fun x => completeTrade cfg env x.1 x.2)
      = (some verdict, s') := by
    rw [preExecuteTrade, if_pos henabled] at h
    exact h
  cases hresult : propose cfg env opp s >>= fun x => completeTrade cfg env x.1 x.2 with
  | error e =>
    rw [hresult] at hchain
    have hrefused := hrefuses e hresult
    cases e with
    | raised t => cases hchain
    | refused v t =>
      cases hchain
      rw [show verdict.allow = false from hrefused] at hallow
      cases hallow
  | ok result =>
    rw [hresult] at hchain
    cases hchain
    obtain ⟨⟨p, s₁⟩, hpropose, hcomplete⟩ := bind_ok_iff.1 hresult
    obtain ⟨s₂, hauthorize, hcomplete⟩ := bind_ok_iff.1 hcomplete
    obtain ⟨size, hsize, hdispatch⟩ := bind_ok_iff.1 hcomplete
    exact ⟨p, s₁, s₂, size, hpropose, hauthorize, hsize, Except.ok.inj hdispatch⟩

/-! ## What the gates have checked -/

structure SameGuards (s s' : State) : Prop where
  limit : s'.forceSafeModeUntil = s.forceSafeModeUntil
  suspended : ∀ agent, s'.registry.isSuspended agent = s.registry.isSuspended agent
  command : s'.command = s.command

theorem SameGuards.transition (s : State) (agent : String) (state : AgentState) :
    SameGuards s (s.transition agent state) :=
  ⟨rfl, fun agent' => s.registry.isSuspended_transition agent agent' state, rfl⟩

theorem SameGuards.trans {s₁ s₂ s₃ : State} (h₁ : SameGuards s₁ s₂) (h₂ : SameGuards s₂ s₃) :
    SameGuards s₁ s₃ :=
  ⟨h₂.limit.trans h₁.limit, fun agent => (h₂.suspended agent).trans (h₁.suspended agent),
    h₂.command.trans h₁.command⟩

theorem propose_spec {s₁ : State} (h : propose cfg env opp s = .ok (p, s₁)) :
    s.forceSafeModeUntil < env.now
      ∧ (env.initiatorRaises = true ∨ s.registry.isSuspended "strategy_initiator" = false)
      ∧ (env.initiatorRaises = true ∨ env.executorRaises = true
        ∨ s.registry.isSuspended "trade_executor" = false)
      ∧ (∃ projection, env.projection = some projection
        ∧ p = buildTradeProposal env opp projection)
      ∧ p.profitAfterVerified = true ∧ 0 < p.expectedReturn ∧ SameGuards s s₁ := by
  simp only [propose, bind_ok_iff, ensure_eq_ok, require_eq_ok, exists_const] at h
  obtain ⟨hsafe, hinitiator, hexecutor, -, projection, hprojection, hverified, hpositive, -, -,
    hresult⟩ := h
  cases hresult
  exact ⟨hsafe, hinitiator, hexecutor, ⟨projection, hprojection, rfl⟩, hverified, hpositive,
    (SameGuards.transition _ _ _).trans (SameGuards.transition _ _ _)⟩

/-- A positive return is a positive profit on a positive amount. -/
theorem expectedReturn_pos {projection : Projection}
    (h : 0 < (buildTradeProposal env opp projection).expectedReturn) :
    0 < (buildTradeProposal env opp projection).profitAfterCosts
      ∧ 1 ≤ (buildTradeProposal env opp projection).capitalRequired := by
  simp only [buildTradeProposal, expectedReturnBps] at h ⊢
  generalize (opp.legs.head?.elim 0 fun leg => intOrDefault leg.amountIn) = amountIn at h ⊢
  split at h
  · exact absurd h (lt_irrefl 0)
  · rename_i hamount
    have hamount' : (0 : ℚ) < amountIn := by
      have : 0 < amountIn := by omega
      exact_mod_cast this
    have hone : (1 : ℚ) ≤ amountIn := by
      have : 1 ≤ amountIn := by omega
      exact_mod_cast this
    refine ⟨?_, le_trans hone (le_max_right _ _)⟩
    have hprofit := (mul_pos_iff_of_pos_right (by norm_num)).1 h
    have hprofit' := (div_pos_iff_of_pos_right hamount').1 hprofit
    exact_mod_cast hprofit'

theorem authorize_spec {s₂ : State} (h : authorize cfg env p s = .ok s₂) :
    s₂ = s ∧ env.governance.answer?.bind GovernanceAnswer.allow ≠ some false
      ∧ (cfg.humanEnabled = true → cfg.humanRequireApprovalForHighRisk = true →
        (cfg.humanHighRiskThreshold ≤ p.riskScore
          ∨ env.governance.answer?.elim false GovernanceAnswer.humanRequired = true) →
        ∃ center, s.command = some center ∧ center.Approved p.proposalId env.now) := by
  simp only [authorize, bind_ok_iff, ensure_eq_ok, exists_const] at h
  obtain ⟨hallow, h⟩ := h
  split at h
  · cases hcommand : s.command with
    | none =>
      rw [hcommand] at h
      cases h
    | some center =>
      rw [hcommand] at h
      simp only [bind_ok_iff, ensure_eq_ok, exists_const] at h
      obtain ⟨happroved, hresult⟩ := h
      obtain ⟨hlive, hsame⟩ := CommandCenter.isApproved_spec happroved
      cases hresult
      refine ⟨?_, hallow, fun _ _ _ => ⟨center, rfl, hlive⟩⟩
      rw [hsame, ← hcommand]
  · rename_i hnot
    cases h
    exact ⟨rfl, hallow, fun h₁ h₂ h₃ => absurd ⟨h₁, h₂, h₃⟩ hnot⟩

/-- The size after the auction: a tenth at least, and else what is allocated of what is required. -/
theorem auctionSize_spec (hauction : env.auction.configured = true)
    (h : auctionSize cfg env p s = .ok size) :
    1 / 10 ≤ size ∧ (cfg.requireCapitalAuction = true → ∃ auction got,
      env.auction = .answered auction ∧ allocated p (totalCapital cfg p) auction = some got
        ∧ size = max (1 / 10) (min 1 (got / max 1 p.capitalRequired))) := by
  unfold auctionSize at h
  split at h
  · split at h
    · rename_i habsent
      rw [habsent] at hauction
      cases hauction
    · cases h
    · rename_i auction hanswer
      split at h
      · cases h
      · rename_i got hgot
        cases h
        exact ⟨le_max_left _ _, fun _ => ⟨auction, got, hanswer, hgot, rfl⟩⟩
  · rename_i hnot
    cases h
    exact ⟨by norm_num, fun hrequired => absurd hrequired hnot⟩

/-- A size of at least a tenth fits what is allocated exactly when that is a tenth, too. -/
theorem size_fits_iff {required got : ℚ} (hrequired : 1 ≤ required) (hlow : 1 / 10 ≤ size)
    (hhigh : size ≤ max (1 / 10) (min 1 (got / max 1 required))) :
    size * required ≤ got ↔ required ≤ 10 * got := by
  have hpos : 0 < required := lt_of_lt_of_le one_pos hrequired
  rw [max_eq_right hrequired] at hhigh
  constructor
  · intro hfits
    have := mul_le_mul_of_nonneg_right hlow hpos.le
    linarith
  · intro htenth
    have hquotient : 1 / 10 ≤ got / required := by
      rw [le_div_iff₀ hpos]
      linarith
    have hsize : size ≤ got / required :=
      le_trans hhigh (max_le hquotient (min_le_right _ _))
    exact (le_div_iff₀ hpos).1 hsize

/-! ## What the rest of the call does -/

theorem applyDirective_size (directive : PyDict) (size : ℚ) (overrides : PyDict)
    (h : 1 / 10 ≤ size) :
    1 / 10 ≤ (applyDirective directive size overrides).1
      ∧ (applyDirective directive size overrides).1 ≤ size := by
  unfold applyDirective
  dsimp only
  split
  · exact ⟨le_min h (by norm_num), min_le_left _ _⟩
  · exact ⟨h, le_rfl⟩

theorem degrade_of_calm (h : env.stability ≠ .answered true) (s : State) :
    s.degrade cfg env = s := by
  unfold State.degrade
  split
  · rename_i htripped
    exact absurd htripped h
  · rfl

/-- A monitor that trips leaves the runtime in safe mode. -/
theorem degrade_of_tripped (h : env.stability = .answered true) (s : State) :
    env.now < (s.degrade cfg env).forceSafeModeUntil := by
  have hlimit : (s.degrade cfg env).forceSafeModeUntil
      = max s.forceSafeModeUntil (env.now + max 10 cfg.instabilityCooldown) := by
    unfold State.degrade
    rw [h]
    rfl
  rw [hlimit]
  refine lt_max_of_lt_right ?_
  have : (10 : ℚ) ≤ max 10 cfg.instabilityCooldown := le_max_left _ _
  linarith

theorem degrade_suspended (cfg : Config) (env : Environment) (s : State) (agent : String) :
    (s.degrade cfg env).registry.isSuspended agent = s.registry.isSuspended agent := by
  unfold State.degrade
  split
  · exact AgentRegistry.isSuspended_transition _ _ _ _
  · rfl

theorem dispatch_approvals {center : CommandCenter} (h : s.command = some center) :
    ∃ center', (dispatch cfg env size s).2.command = some center'
      ∧ center'.approvals = center.approvals := by
  have hcurrent : ∀ center : CommandCenter,
      (center.currentDirective env.now).2.approvals = center.approvals := by
    intro center
    unfold CommandCenter.currentDirective
    split <;> rfl
  obtain ⟨f, hf, hdegrade⟩ : ∃ f : CommandCenter → CommandCenter,
      (∀ center, (f center).approvals = center.approvals)
        ∧ (s.degrade cfg env).command = s.command.map f := by
    unfold State.degrade
    split
    · exact ⟨fun center => center.stabilize cfg.instabilityCooldown env.now, fun _ => rfl, rfl⟩
    · exact ⟨id, fun _ => rfl, (Option.map_id_apply).symm⟩
  have hdispatch : (dispatch cfg env size s).2.command
      = (s.degrade cfg env).command.map fun center => (center.currentDirective env.now).2 := rfl
  rw [hdispatch, hdegrade, h]
  exact ⟨_, rfl, (hcurrent _).trans (hf center)⟩

theorem dispatch_suspended (cfg : Config) (env : Environment) (size : ℚ) (s : State)
    (agent : String) :
    (dispatch cfg env size s).2.registry.isSuspended agent = s.registry.isSuspended agent := by
  show (((s.degrade cfg env).transition "trade_executor" .executing).transition "trade_executor"
    .waiting).registry.isSuspended agent = _
  rw [((SameGuards.transition _ _ _).trans (SameGuards.transition _ _ _)).suspended,
    degrade_suspended]

/-! ## When an approval is sound -/

/-- What an approved call has passed, and the state it leaves. -/
structure Passed (cfg : Config) (env : Environment) (p : Proposal) (s : State) (verdict : Verdict)
    (s' : State) : Prop where
  safe : s.forceSafeModeUntil < env.now
  initiator : env.initiatorRaises = true ∨ s.registry.isSuspended "strategy_initiator" = false
  executor : env.initiatorRaises = true ∨ env.executorRaises = true
    ∨ s.registry.isSuspended "trade_executor" = false
  profit : p.profitAfterVerified = true ∧ 0 < p.profitAfterCosts
  required : 1 ≤ p.capitalRequired
  governance : env.governance.answer?.bind GovernanceAnswer.allow ≠ some false
  human : cfg.humanEnabled = true → cfg.humanRequireApprovalForHighRisk = true →
    (cfg.humanHighRiskThreshold ≤ p.riskScore
      ∨ env.governance.answer?.elim false GovernanceAnswer.humanRequired = true) →
    ∃ center, s'.command = some center ∧ center.Approved p.proposalId env.now
  low : 1 / 10 ≤ verdict.sizeMult
  high : cfg.requireCapitalAuction = true → ∃ auction got, env.auction = .answered auction
    ∧ allocated p (totalCapital cfg p) auction = some got
    ∧ verdict.sizeMult ≤ max (1 / 10) (min 1 (got / max 1 p.capitalRequired))
  tripped : env.stability = .answered true → env.now < s'.forceSafeModeUntil
  calm : env.stability ≠ .answered true → s'.forceSafeModeUntil = s.forceSafeModeUntil
  suspended : ∀ agent, s'.registry.isSuspended agent = s.registry.isSuspended agent

theorem preExecuteTrade_passed (henabled : cfg.enabled = true)
    (hauction : env.auction.configured = true)
    (h : preExecuteTrade cfg env opp s = (some verdict, s')) (hallow : verdict.allow = true) :
    ∃ projection, env.projection = some projection
      ∧ Passed cfg env (buildTradeProposal env opp projection) s verdict s' := by
  obtain ⟨p, s₁, s₂, size, hpropose, hauthorize, hsize, hdispatch⟩ :=
    preExecuteTrade_allows henabled h hallow
  obtain ⟨hsafe, hinitiator, hexecutor, ⟨projection, hprojection, rfl⟩, hverified, hreturn,
    hsame⟩ := propose_spec hpropose
  obtain ⟨rfl, hgovernance, hhuman⟩ := authorize_spec hauthorize
  obtain ⟨hlow, hhigh⟩ := auctionSize_spec hauction hsize
  obtain ⟨hprofit, hrequired⟩ := expectedReturn_pos hreturn
  have hdirected := applyDirective_size ((s₂.degrade cfg env).command.elim Dict.empty
    fun center => (center.currentDirective env.now).1) size (planOverrides cfg env) hlow
  obtain rfl : (dispatch cfg env size s₂).1 = verdict := (Prod.mk.inj hdispatch).1
  obtain rfl : (dispatch cfg env size s₂).2 = s' := (Prod.mk.inj hdispatch).2
  refine ⟨projection, hprojection, hsafe, hinitiator, hexecutor, ⟨hverified, hprofit⟩, hrequired,
    hgovernance, fun h₁ h₂ hasked => ?_, hdirected.1, fun hneeded => ?_,
    fun htripped => degrade_of_tripped htripped s₂, fun hcalm => ?_, fun agent => ?_⟩
  · obtain ⟨center, hcenter, hlive⟩ := hhuman h₁ h₂ hasked
    obtain ⟨center', hcenter', happrovals⟩ := dispatch_approvals hcenter
    refine ⟨center', hcenter', ?_⟩
    unfold CommandCenter.Approved
    rw [happrovals]
    exact hlive
  · obtain ⟨auction, got, hanswer, hgot, hvalue⟩ := hhigh hneeded
    exact ⟨auction, got, hanswer, hgot, hvalue ▸ hdirected.2⟩
  · have hlimit : (dispatch cfg env size s₂).2.forceSafeModeUntil
        = (s₂.degrade cfg env).forceSafeModeUntil := rfl
    rw [hlimit, degrade_of_calm hcalm, hsame.limit]
  · exact (dispatch_suspended cfg env size s₂ agent).trans (hsame.suspended agent)

theorem Passed.heeds (h : Passed cfg env p s verdict s') (hsound : Sound cfg env p verdict s') :
    Heeds cfg env p s := by
  refine ⟨fun htripped => lt_asymm (h.tripped htripped) hsound.safeMode, fun _ => ?_, ?_,
    fun hneeded auction got hanswer hgot => ?_⟩
  · have hagents := hsound.agents
    unfold Unsuspended at hagents ⊢
    rwa [h.suspended, h.suspended] at hagents
  · obtain ⟨g, hanswer, hg⟩ := hsound.governance
    exact ⟨g, hanswer, by rw [hg]; rfl⟩
  · obtain ⟨auction', got', hanswer', hgot', hfits⟩ := hsound.size.2 hneeded
    obtain rfl := Call.answered.inj (hanswer.symm.trans hanswer')
    obtain rfl := Option.some.inj (hgot.symm.trans hgot')
    have htenth := mul_le_mul_of_nonneg_right h.low (le_trans zero_le_one h.required)
    linarith

theorem Passed.sound (h : Passed cfg env p s verdict s') (hheeds : Heeds cfg env p s) :
    Sound cfg env p verdict s' := by
  refine ⟨?_, ?_, h.profit, ?_, fun h₁ h₂ hasked => h.human h₁ h₂ (hasked.imp_right ?_),
    lt_of_lt_of_le (by norm_num) h.low, fun hneeded => ?_⟩
  · rw [h.calm hheeds.calm]
    exact h.safe
  · unfold Unsuspended
    rw [h.suspended, h.suspended]
    by_cases hraises : env.initiatorRaises = true ∨ env.executorRaises = true
    · exact hheeds.registry hraises
    · obtain ⟨hfirst, hsecond⟩ := not_or.1 hraises
      exact ⟨h.initiator.resolve_left hfirst,
        (h.executor.resolve_left hfirst).resolve_left hsecond⟩
  · obtain ⟨g, hanswer, hg⟩ := hheeds.governance
    refine ⟨g, hanswer, ?_⟩
    have hgovernance := h.governance
    rw [hanswer] at hgovernance
    -- the governance has an `allow` of its own, and it does not block
    obtain ⟨allow, hvalue⟩ := Option.isSome_iff_exists.1 hg
    cases allow with
    | true => exact hvalue
    | false => exact absurd hvalue hgovernance
  · rintro ⟨g, hanswer, hg⟩
    rw [hanswer]
    exact hg
  · obtain ⟨auction, got, hanswer, hgot, hhigh⟩ := h.high hneeded
    exact ⟨auction, got, hanswer, hgot,
      (size_fits_iff h.required h.low hhigh).2 (hheeds.auction hneeded auction got hanswer hgot)⟩

/-- **When an approval is sound.** -/
theorem sound_iff (cfg : Config) (env : Environment) (opp : Opportunity) (s s' : State)
    (verdict : Verdict) (henabled : cfg.enabled = true) (hconfigured : Configured env s)
    (h : preExecuteTrade cfg env opp s = (some verdict, s')) (hallow : verdict.allow = true) :
    ∃ projection, env.projection = some projection
      ∧ (Sound cfg env (buildTradeProposal env opp projection) verdict s'
        ↔ Heeds cfg env (buildTradeProposal env opp projection) s) := by
  obtain ⟨projection, hprojection, hpassed⟩ :=
    preExecuteTrade_passed henabled hconfigured.auction h hallow
  exact ⟨projection, hprojection, hpassed.heeds, hpassed.sound⟩

/-! ## The auction as it is -/

/-! A call whose services all answer, with the auction as it is. -/

def sampleConfig : Config where
  enabled := true
  requireNegotiation := true
  requireCapitalAuction := true
  requirePathPlanning := true
  capitalTotalWei := "0"
  humanEnabled := true
  humanHighRiskThreshold := 4 / 5
  humanRequireApprovalForHighRisk := true
  instabilityCooldown := 120

def sampleOpportunity : Opportunity := ⟨"00", "", [⟨.text "1000", "0xaa"⟩]⟩

def sampleEnvironment (tripped : Bool) : Environment where
  now := 1000
  initiatorRaises := false
  executorRaises := false
  projection := some ⟨.int 10, true, "ok", false⟩
  signals := ⟨9 / 10, 0, 0, 0, 0, 1 / 2, 1⟩
  govPower := some (1 / 10)
  govRep := some (1 / 2)
  negotiation := .answered true
  governance := .answered ⟨some true, false, "FULLY_AUTONOMOUS"⟩
  auction := .answered fun p total => some ((CapitalAuction.new (3 / 5)).allocate [p] total)
  planner := .answered Dict.empty
  stability := .answered tripped

def sampleState : State := ⟨0, AgentRegistry.default, some {}⟩

theorem configured_sample (tripped : Bool) :
    Configured (sampleEnvironment tripped) sampleState := ⟨rfl, rfl, rfl, rfl, rfl, rfl⟩

theorem approves_sample (tripped : Bool) : ∃ verdict s',
    preExecuteTrade sampleConfig (sampleEnvironment tripped) sampleOpportunity sampleState
        = (some verdict, s')
      ∧ verdict.allow = true := by
  have happroved : (preExecuteTrade sampleConfig (sampleEnvironment tripped) sampleOpportunity
      sampleState).1.map Verdict.allow = some true := by
    cases tripped <;> decide +kernel
  obtain ⟨verdict, hresult, hallow⟩ := Option.map_eq_some_iff.1 happroved
  exact ⟨verdict, _, Prod.ext hresult rfl, hallow⟩

theorem sound_sample : ∃ verdict s' projection,
    preExecuteTrade sampleConfig (sampleEnvironment false) sampleOpportunity sampleState
        = (some verdict, s')
      ∧ Sound sampleConfig (sampleEnvironment false)
        (buildTradeProposal (sampleEnvironment false) sampleOpportunity projection) verdict s' := by
  obtain ⟨verdict, s', hresult, hallow⟩ := approves_sample false
  obtain ⟨projection, hprojection, hiff⟩ := sound_iff sampleConfig (sampleEnvironment false)
    sampleOpportunity sampleState s' verdict rfl (configured_sample false) hresult hallow
  refine ⟨verdict, s', projection, hresult, hiff.2 ⟨nofun, nofun, ⟨_, rfl, rfl⟩, ?_⟩⟩
  obtain rfl : (⟨.int 10, true, "ok", false⟩ : Projection) = projection := Option.some.inj hprojection
  rintro - auction got ⟨⟩ hgot
  have hallocated : allocated (buildTradeProposal (sampleEnvironment false) sampleOpportunity
      ⟨.int 10, true, "ok", false⟩) (totalCapital sampleConfig (buildTradeProposal
        (sampleEnvironment false) sampleOpportunity ⟨.int 10, true, "ok", false⟩))
      (fun p total => some ((CapitalAuction.new (3 / 5)).allocate [p] total)) = some 600 := by
    decide +kernel
  obtain rfl := Option.some.inj (hallocated.symm.trans hgot)
  decide +kernel

/-- The call in which the monitor trips enters safe mode and is approved. -/
theorem tripped_call_approves :
    ¬∀ (cfg : Config) (env : Environment) (opp : Opportunity) (s s' : State) (verdict : Verdict),
      cfg.enabled = true → Configured env s →
      preExecuteTrade cfg env opp s = (some verdict, s') → verdict.allow = true →
      ∃ projection, env.projection = some projection
        ∧ Sound cfg env (buildTradeProposal env opp projection) verdict s' := by
  intro h
  obtain ⟨verdict, s', hresult, hallow⟩ := approves_sample true
  obtain ⟨projection, hprojection, hsound⟩ := h sampleConfig (sampleEnvironment true)
    sampleOpportunity sampleState s' verdict rfl (configured_sample true) hresult hallow
  obtain ⟨_, -, hpassed⟩ := preExecuteTrade_passed rfl rfl hresult hallow
  exact lt_asymm (hpassed.tripped rfl) hsound.safeMode

end SovereignCapital.Superstructure
