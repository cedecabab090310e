import SovereignCapital.Selection.Select

/-! # The gates of a selection

A candidate without a blocking reason has passed every gate, and it passes only on what it and its
runtime show: what is missing or unreadable does not let a candidate through where it is required.
-/

namespace SovereignCapital.Selection

open Profitability

/-! ## Reasons -/

theorem orText_eq_empty {text default : String} :
    orText text default = "" ↔ text = "" ∧ default = "" := by
  unfold orText
  split
  · rename_i h
    simp [h]
  · rename_i h
    simp [h]

theorem textOr_ne_empty (v : PyTree) {default : String} (h : default ≠ "") :
    textOr [v] default ≠ "" :=
  PyTree.str_orElse_ne_empty v h

structure Passes (truth : ProfitAfterCostsTruth) (micro : Option Int) (state : BlockingState) :
    Prop where
  verified : truth.verified = true
  positive : truth.positive = true
  usd : ∃ n, micro = some n ∧ 0 < n
  token : state.executionTokenAuthorized = true
  routeReady : state.routeReady = true
  notDegraded : state.routeDegraded = false
  capacity : insufficient state.liquidityCapacity state.requiredNotional = false
  sizing : state.sizingAvailable = true
  capital : state.capitalAuthority = true
  flashloan : state.flashloanEligible = true
  admitted : state.admissionAllowed = true
  gate : state.gateAllowed = true
  recovery : state.recoveryReady = true
  execution : state.executionReady = true

variable {truth : ProfitAfterCostsTruth} {state : BlockingState} {candidate : Opportunity}
  {e : RuntimeOpportunityEvidence} {metadata : PyMap}

theorem profitabilityBlockingReason_eq_empty {micro : Option Int}
    (hreason : truth.reasonCode ≠ "") :
    profitabilityBlockingReason truth micro = ""
      ↔ truth.verified = true ∧ truth.positive = true ∧ ∃ n, micro = some n ∧ 0 < n := by
  unfold profitabilityBlockingReason
  cases truth.verified
  · simp [hreason]
  · cases truth.positive
    · simp [hreason]
    · cases micro with
      | none => simp
      | some n =>
        simp only [Bool.true_eq_false, if_false, true_and, Option.some.injEq,
          exists_eq_left']
        split
        · rename_i hn
          simpa using hn
        · rename_i hn
          simpa using hn

theorem executionBlockingReason_eq_empty :
    executionBlockingReason state = ""
      ↔ state.executionTokenAuthorized = true ∧ state.routeReady = true
        ∧ state.routeDegraded = false
        ∧ insufficient state.liquidityCapacity state.requiredNotional = false
        ∧ state.sizingAvailable = true ∧ state.capitalAuthority = true
        ∧ state.flashloanEligible = true := by
  unfold executionBlockingReason
  cases state.executionTokenAuthorized
  · simp
  · cases state.routeReady
    · simp [orText_eq_empty]
    · cases state.routeDegraded
      · cases insufficient state.liquidityCapacity state.requiredNotional
        · cases state.sizingAvailable
          · simp
          · cases state.capitalAuthority
            · simp
            · cases state.flashloanEligible <;> simp
        · simp
      · simp

theorem governanceBlockingReason_eq_empty :
    governanceBlockingReason state = ""
      ↔ state.admissionAllowed = true ∧ state.gateAllowed = true ∧ state.recoveryReady = true
        ∧ state.executionReady = true := by
  unfold governanceBlockingReason
  cases state.admissionAllowed
  · simp [textOr_ne_empty]
  · cases state.gateAllowed
    · simp [orText_eq_empty]
    · cases state.recoveryReady
      · simp [textOr_ne_empty]
      · cases state.executionReady <;> simp [orText_eq_empty]

/-- **No reason.** A candidate is not blocked exactly when it passes every gate. -/
theorem blockingReason_eq_empty_iff {micro : Option Int} (hreason : truth.reasonCode ≠ "") :
    blockingReason truth micro state = "" ↔ Passes truth micro state := by
  unfold blockingReason
  rw [orText_eq_empty, orText_eq_empty, profitabilityBlockingReason_eq_empty hreason,
    executionBlockingReason_eq_empty, governanceBlockingReason_eq_empty]
  constructor
  · rintro ⟨⟨⟨hverified, hpositive, husd⟩, htoken, hready, hdegraded, hcapacity, hsizing,
      hcapital, hflashloan⟩, hadmitted, hgate, hrecovery, hexecution⟩
    exact ⟨hverified, hpositive, husd, htoken, hready, hdegraded, hcapacity, hsizing, hcapital,
      hflashloan, hadmitted, hgate, hrecovery, hexecution⟩
  · intro h
    exact ⟨⟨⟨h.verified, h.positive, h.usd⟩, h.token, h.routeReady, h.notDegraded, h.capacity,
      h.sizing, h.capital, h.flashloan⟩, h.admitted, h.gate, h.recovery, h.execution⟩

/-! ## Evidence -/

/-- The figure of the state is read as it is. -/
theorem numberInt_int (n : Int) : numberInt (.leaf (.int n)) = some n := by
  simp [numberInt, PyTree.blank, PyTree.str, PyValue.str, Bytes.pyInt_pyDecimal]

theorem candidateEvidence_cases {name : String} {count : Nat} {summary : PyMap} {authorized : Bool}
    (h : candidateEvidence name count candidate summary authorized = .ok e) :
    ∃ metadata view truth route capacity notional ready,
      candidate.rawMeta = .ok metadata ∧ profitabilityStateView candidate = .ok view
        ∧ inspectProfitAfterCostsTruth candidate = .ok truth
        ∧ executionRouteTruth metadata = .ok route
        ∧ liquidityCapacity metadata = .ok capacity
        ∧ requiredNotional metadata = .ok notional
        ∧ executionReady metadata candidate = .ok ready
        ∧ e.runtime = name
        ∧ e.afterFeeUsdMicro = some view.profitAfterCostsUsdMicroInt
        ∧ (e.eligible = true ↔ Passes truth (some view.profitAfterCostsUsdMicroInt)
          (blockingStateOf metadata summary authorized route capacity notional ready))
        ∧ (e.eligible = true → ∃ rest,
          e.selectionScore = toLex (1, toLex (view.profitAfterCostsUsdMicroInt, rest))) := by
  unfold candidateEvidence at h
  obtain ⟨metadata, hmeta, h⟩ := Guarded.bind_ok_iff.1 h
  obtain ⟨view, hview, h⟩ := Guarded.bind_ok_iff.1 h
  obtain ⟨truth, htruth, h⟩ := Guarded.bind_ok_iff.1 h
  obtain ⟨route, hroute, h⟩ := Guarded.bind_ok_iff.1 h
  obtain ⟨provided, -, h⟩ := Guarded.bind_ok_iff.1 h
  obtain ⟨capacity, hcapacity, h⟩ := Guarded.bind_ok_iff.1 h
  obtain ⟨notional, hnotional, h⟩ := Guarded.bind_ok_iff.1 h
  obtain ⟨ready, hready, h⟩ := Guarded.bind_ok_iff.1 h
  rw [numberInt_int] at h
  obtain ⟨rank, -, h⟩ := Guarded.bind_ok_iff.1 h
  obtain ⟨id, -, h⟩ := Guarded.bind_ok_iff.1 h
  obtain ⟨routeId, -, h⟩ := Guarded.bind_ok_iff.1 h
  obtain ⟨strategy, -, h⟩ := Guarded.bind_ok_iff.1 h
  obtain ⟨sizeMultiplier, -, h⟩ := Guarded.bind_ok_iff.1 h
  obtain ⟨borrowMultiplier, -, h⟩ := Guarded.bind_ok_iff.1 h
  obtain rfl := Except.ok.inj h
  refine ⟨metadata, view, truth, route, capacity, notional, ready, hmeta, hview, htruth, hroute,
    hcapacity, hnotional, hready, rfl, rfl, ?_, ?_⟩
  · rw [← blockingReason_eq_empty_iff (reasonCode_ne_empty htruth)]
    exact beq_iff_eq
  · intro heligible
    dsimp only at heligible ⊢
    rw [heligible]
    exact ⟨_, rfl⟩

/-! ## What was shown -/

def Given (d : PyMap) (key : String) : Prop :=
  ∃ value, d.get? key = some value ∧ value.truthy = true

theorem flag_eq_true_iff {d : PyMap} {key : String} : d.flag key false = true ↔ Given d key := by
  unfold PyMap.flag Given
  cases d.get? key <;> simp

theorem firstFlag_given {d : PyMap} {keys : List String} (h : d.firstFlag keys = some true) :
    ∃ key ∈ keys, Given d key := by
  unfold PyMap.firstFlag at h
  obtain ⟨value, hfound, htruthy⟩ := Option.map_eq_some_iff.1 h
  obtain ⟨key, hkey, hvalue⟩ := List.exists_of_findSome?_eq_some hfound
  exact ⟨key, hkey, value, hvalue, htruthy⟩

theorem firstFlag_nil (keys : List String) : PyMap.firstFlag [] keys = none := by
  unfold PyMap.firstFlag
  induction keys with
  | nil => rfl
  | cons key keys ih => exact ih

structure Shown (runtime : Runtime) (candidate : Opportunity) (metadata : PyMap)
    (view : ProfitabilityView) : Prop where
  metadata_eq : candidate.rawMeta = .ok metadata
  view_eq : profitabilityStateView candidate = .ok view
  /-- A profit after costs: that of the contract where there is one. -/
  figure : canonicalContractPresent metadata = false
      ∧ (∃ value, 0 < value ∧ ScanFigure metadata value)
    ∨ canonicalContractPresent metadata = true ∧ ContractFigure view
  usd : 0 < view.profitAfterCostsUsdMicroInt
  /-- The input token is one of the chain's. -/
  token : ∃ tokens token, executionTokens runtime = .ok tokens ∧ inputToken candidate = .ok token
    ∧ token ∈ tokens
  /-- The summary came back, with an open gate and a recovery that is ready. -/
  summary : ∃ summary, runtime.summary = .returned summary
    ∧ Given (gate summary.mapping) "allowed" ∧ Given (recovery summary.mapping) "ready"
    ∧ ¬ Given (recovery summary.mapping) "blocked"
  sizing : sizingAvailable metadata = true ∧ (sizingBody metadata ≠ []
    ∨ ∃ key ∈ ["sizing_available", "sizingAvailable"], Given (admissionDetails metadata) key)
  capital : capitalAuthority metadata = true
    ∧ ((∃ key ∈ ["capital_authority_available", "capitalAuthorityAvailable"],
        Given (sizingBody metadata) key)
      ∨ capitalRecordOk ((sizingBody metadata).firstNested ["capital", "capital_authority"]) = true)
  execution : executionReady metadata candidate = .ok true ∧ (executionFlag metadata = some true
    ∨ ∃ value, candidate.attr "can_execute" = .ok (some value) ∧ value.truthy = true)
  /-- What may be left out does not speak against the candidate where it is there. -/
  admission : ∀ flag, admissionFlag metadata = some flag → flag = true
  flashloan : ∀ flag, flashloanFlag metadata = some flag → flag = true
  ownGate : gate metadata ≠ [] → Given (gate metadata) "allowed"
  ownRecovery : recovery metadata ≠ [] →
    Given (recovery metadata) "ready" ∧ ¬ Given (recovery metadata) "blocked"
  capacity : ∀ capacity notional, liquidityCapacity metadata = .ok (some capacity) →
    requiredNotional metadata = .ok (some notional) → capacity.lt notional = false
  route : ∃ route, executionRouteTruth metadata = .ok route ∧ route.planExecutable = true
    ∧ route.runtimeDegraded = false ∧ route.invalidCauses = []

theorem recovered_iff {record : PyMap} :
    recovered record = true ↔ Given record "ready" ∧ ¬ Given record "blocked" := by
  unfold recovered
  rw [Bool.and_eq_true, flag_eq_true_iff, Bool.not_eq_true', ← Bool.not_eq_true, flag_eq_true_iff]

theorem sizing_shown (h : sizingAvailable metadata = true) :
    sizingBody metadata ≠ []
      ∨ ∃ key ∈ ["sizing_available", "sizingAvailable"], Given (admissionDetails metadata) key := by
  unfold sizingAvailable at h
  cases hbody : sizingBody metadata with
  | cons item items => exact Or.inl nofun
  | nil =>
    right
    rw [hbody, firstFlag_nil, Option.orElse_none] at h
    cases hflag : (admissionDetails metadata).firstFlag
        ["sizing_available", "sizingAvailable"] with
    | none =>
      rw [hflag] at h
      cases h
    | some flag =>
      rw [hflag, Option.getD_some] at h
      subst h
      exact firstFlag_given hflag

theorem capital_shown (h : capitalAuthority metadata = true) :
    (∃ key ∈ ["capital_authority_available", "capitalAuthorityAvailable"],
        Given (sizingBody metadata) key)
      ∨ capitalRecordOk
        ((sizingBody metadata).firstNested ["capital", "capital_authority"]) = true := by
  unfold capitalAuthority at h
  cases hflag : (sizingBody metadata).firstFlag
      ["capital_authority_available", "capitalAuthorityAvailable"] with
  | none =>
    rw [hflag, Option.getD_none] at h
    exact Or.inr h
  | some flag =>
    rw [hflag, Option.getD_some] at h
    subst h
    exact Or.inl (firstFlag_given hflag)

theorem execution_shown (h : executionReady metadata candidate = .ok true) :
    executionFlag metadata = some true
      ∨ ∃ value, candidate.attr "can_execute" = .ok (some value) ∧ value.truthy = true := by
  unfold executionReady at h
  cases hflag : executionFlag metadata with
  | some flag =>
    rw [hflag] at h
    obtain rfl : flag = true := Except.ok.inj h
    exact Or.inl rfl
  | none =>
    right
    rw [hflag] at h
    unfold Opportunity.getattr at h
    cases hattr : candidate.attr "can_execute" with
    | error e =>
      rw [hattr] at h
      cases h
    | ok found =>
      rw [hattr] at h
      cases found with
      | none => cases Except.ok.inj h
      | some value => exact ⟨value, rfl, Except.ok.inj h⟩

theorem flag_of_getD {flag : Option Bool} {default : Bool} (h : flag.getD default = true) :
    ∀ b, flag = some b → b = true := by
  rintro b rfl
  exact h

theorem shown_of_passes {runtime : Runtime} {summary : PyMap} {error : Option String}
    {tokens : List String} {token : String} {view : ProfitabilityView} {route : RouteTruth}
    {capacity notional : Option PyFloat} {ready : Bool} (hmeta : candidate.rawMeta = .ok metadata)
    (hview : profitabilityStateView candidate = .ok view)
    (htruth : inspectProfitAfterCostsTruth candidate = .ok truth)
    (hroute : executionRouteTruth metadata = .ok route)
    (hcapacity : liquidityCapacity metadata = .ok capacity)
    (hnotional : requiredNotional metadata = .ok notional)
    (hready : executionReady metadata candidate = .ok ready)
    (hsummary : runtimeSummary runtime = .ok (summary, error))
    (htokens : executionTokens runtime = .ok tokens) (htoken : inputToken candidate = .ok token)
    (h : Passes truth (some view.profitAfterCostsUsdMicroInt)
      (blockingStateOf metadata summary (executionTokenAuthorized tokens token) route capacity
        notional ready)) :
    Shown runtime candidate metadata view := by
  have hgate : (gate summary).flag "allowed" false = true
      ∧ ((gate metadata).isEmpty || (gate metadata).flag "allowed" false) = true :=
    Bool.and_eq_true_iff.1 h.gate
  have hrecovery : recovered (recovery summary) = true
      ∧ ((recovery metadata).isEmpty || recovered (recovery metadata)) = true :=
    Bool.and_eq_true_iff.1 h.recovery
  have hexecution : executionReady metadata candidate = .ok true :=
    hready.trans (congrArg Except.ok h.execution)
  refine {
    metadata_eq := hmeta
    view_eq := hview
    figure := ?_
    usd := ?_
    token := ?_
    summary := ?_
    sizing := ⟨h.sizing, sizing_shown h.sizing⟩
    capital := ⟨h.capital, capital_shown h.capital⟩
    execution := ⟨hexecution, execution_shown hexecution⟩
    admission := flag_of_getD h.admitted
    flashloan := flag_of_getD h.flashloan
    ownGate := ?_
    ownRecovery := ?_
    capacity := ?_
    route := ?_ }
  · obtain ⟨metadata', hmeta', hfigure⟩ := figure_of_positive htruth h.positive
    obtain rfl : metadata = metadata' := Except.ok.inj (hmeta.symm.trans hmeta')
    rcases hfigure with hscan | ⟨hcontract, view', hview', hfigure⟩
    · exact Or.inl hscan
    · obtain rfl : view = view' := Except.ok.inj (hview.symm.trans hview')
      exact Or.inr ⟨hcontract, hfigure⟩
  · obtain ⟨n, hn, hpos⟩ := h.usd
    obtain rfl := Option.some.inj hn
    exact hpos
  · have hauthorized : tokens.contains token = true := (Bool.and_eq_true_iff.1 h.token).2
    exact ⟨tokens, token, htokens, htoken, List.contains_iff_mem.1 hauthorized⟩
  · unfold runtimeSummary at hsummary
    have hallowed := flag_eq_true_iff.1 hgate.1
    have hnil : summary ≠ [] := by
      rintro rfl
      obtain ⟨value, hvalue, -⟩ := hallowed
      cases hvalue
    cases hanswer : runtime.summary with
    | returned answer =>
      rw [hanswer] at hsummary
      obtain rfl : answer.mapping = summary := (Prod.mk.inj (Except.ok.inj hsummary)).1
      exact ⟨answer, rfl, hallowed, recovered_iff.1 hrecovery.1⟩
    | late =>
      rw [hanswer] at hsummary
      exact absurd (Prod.mk.inj (Except.ok.inj hsummary)).1.symm hnil
    | raised exception =>
      rw [hanswer] at hsummary
      dsimp only at hsummary
      cases hexpected : expected exception with
      | none =>
        rw [hexpected] at hsummary
        cases hsummary
      | some name =>
        rw [hexpected] at hsummary
        exact absurd (Prod.mk.inj (Except.ok.inj hsummary)).1.symm hnil
  · intro hne
    rcases Bool.or_eq_true_iff.1 hgate.2 with hempty | hallowed
    · exact absurd (List.isEmpty_iff.1 hempty) hne
    · exact flag_eq_true_iff.1 hallowed
  · intro hne
    rcases Bool.or_eq_true_iff.1 hrecovery.2 with hempty | hrecovered
    · exact absurd (List.isEmpty_iff.1 hempty) hne
    · exact recovered_iff.1 hrecovered
  · intro c n hc hn
    obtain rfl : capacity = some c := Except.ok.inj (hcapacity.symm.trans hc)
    obtain rfl : notional = some n := Except.ok.inj (hnotional.symm.trans hn)
    exact h.capacity
  · exact ⟨route, hroute, (ready_iff hroute).1 h.routeReady⟩

theorem runtimeEvidence_cases {name : String} {runtime : Runtime} {error : Option String}
    {evidence : List RuntimeOpportunityEvidence}
    (h : runtimeEvidence name runtime = .ok (evidence, error)) (he : e ∈ evidence) :
    ∃ opportunities candidate summary tokens token,
      runtime.opportunities = .ok opportunities ∧ candidate ∈ opportunities
        ∧ runtimeSummary runtime = .ok (summary, error) ∧ executionTokens runtime = .ok tokens
        ∧ inputToken candidate = .ok token
        ∧ candidateEvidence name opportunities.length candidate summary
          (executionTokenAuthorized tokens token) = .ok e := by
  unfold runtimeEvidence at h
  obtain ⟨opportunities, hopportunities, h⟩ := Guarded.bind_ok_iff.1 h
  split at h
  · obtain ⟨rfl, -⟩ := Prod.mk.inj (Except.ok.inj h)
    cases he
  · obtain ⟨⟨summary, error'⟩, hsummary, h⟩ := Guarded.bind_ok_iff.1 h
    obtain ⟨tokens, htokens, h⟩ := Guarded.bind_ok_iff.1 h
    obtain ⟨evidence', hevidence, h⟩ := Guarded.bind_ok_iff.1 h
    obtain ⟨rfl, rfl⟩ := Prod.mk.inj (Except.ok.inj h)
    obtain ⟨candidate, hcandidate, hone⟩ := Guarded.mem_of_mapM hevidence he
    obtain ⟨token, htoken, hone⟩ := Guarded.bind_ok_iff.1 hone
    exact ⟨opportunities, candidate, summary, tokens, token, hopportunities, hcandidate, hsummary,
      htokens, htoken, hone⟩

/-- The evidence comes from a candidate of one of the runtimes, which passed on what was shown. -/
def LetThrough (runtimes : List (String × Runtime)) (e : RuntimeOpportunityEvidence) : Prop :=
  ∃ item ∈ runtimes, ∃ opportunities candidate metadata view,
    item.2.opportunities = .ok opportunities ∧ candidate ∈ opportunities
      ∧ Shown item.2 candidate metadata view ∧ e.runtime = item.1
      ∧ e.afterFeeUsdMicro = some view.profitAfterCostsUsdMicroInt

/-- The score of evidence that is eligible starts with its after-fee profit. -/
def Scored (e : RuntimeOpportunityEvidence) : Prop :=
  ∃ n rest, e.afterFeeUsdMicro = some n ∧ e.selectionScore = toLex (1, toLex (n, rest))

theorem allEvidence_eligible {runtimes : List (String × Runtime)} (he : e ∈ allEvidence runtimes)
    (heligible : e.eligible = true) : LetThrough runtimes e ∧ Scored e := by
  obtain ⟨item, hitem, hgathered⟩ := List.mem_flatMap.1 he
  unfold gathered at hgathered
  cases hevidence : runtimeEvidence item.1 item.2 with
  | error exception =>
    rw [hevidence] at hgathered
    cases hgathered
  | ok result =>
    obtain ⟨evidence, error⟩ := result
    rw [hevidence] at hgathered
    obtain ⟨opportunities, candidate, summary, tokens, token, hopportunities, hcandidate,
      hsummary, htokens, htoken, hone⟩ := runtimeEvidence_cases hevidence hgathered
    obtain ⟨metadata, view, truth, route, capacity, notional, ready, hmeta, hview, htruth, hroute,
      hcapacity, hnotional, hready, hruntime, hmicro, hpasses, hscore⟩ :=
      candidateEvidence_cases hone
    obtain ⟨rest, hrest⟩ := hscore heligible
    exact ⟨⟨item, hitem, opportunities, candidate, metadata, view, hopportunities, hcandidate,
      shown_of_passes hmeta hview htruth hroute hcapacity hnotional hready hsummary htokens
        htoken (hpasses.1 heligible), hruntime, hmicro⟩, _, rest, hmicro, hrest⟩

end SovereignCapital.Selection
