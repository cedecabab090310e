import SovereignCapital.Execute.TryExecute

/-! # The profit gate of a submission

A transaction is only sent after `check_profit_and_repay`. The check reads the last entry of
`min_outs`, the calldata has the minimum output of the last leg; the gas that is checked is the
preliminary limit, the final one is signed. The two gas limits agree, the two minimum outputs
do where the route was quoted or planned anew; `profit_gate_iff` has the exact condition.
-/

namespace SovereignCapital.Execute

open Guarded

/-! ## What an attempt passes -/

/-- The values of an attempt that is sent, stage by stage. -/
structure Passage (config : ExecConfig) (answers : Answers) (opp : Opportunity)
    (decision : Option Decision) (forceDryRun : Bool) (tx : SignedTx) where
  amountIn : Int
  sized : Opportunity
  planned : Opportunity
  observed : FeeObservation
  maxFee : Int
  prio : Int
  call : Option ExecuteCall
  gasLimit : Int
  estPre : Option Int
  converted : Int
  minAbs : Int
  not_throttled :
    ¬ (1 ≤ config.maxSubmitPerBlock ∧ answers.lastSubmittedBlock = answers.currentBlock)
  sizing : sizeOpportunity config answers opp decision = .ok (amountIn, sized)
  planning : applyDecisionPlan decision sized = .ok planned
  positive : 0 < amountIn ∧ 0 < amountOut planned
  account : (config.dryRun || forceDryRun) = true ∨ answers.ethAccount = true
    ∨ config.executorAddress = ""
  observing : answers.feeObservation = .ok observed
  fee : observed.feeBps.isSome ∨ (config.dryRun || forceDryRun) = true
    ∨ observed.reason = "provider_address_missing"
  contracts : answers.profitabilityGate = .ok ()
  suggesting : answers.suggestGas = .ok (maxFee, prio)
  preparing : prepareCalldata config answers planned (providerHint config decision) amountIn
    = .ok call
  limiting : preliminaryGas config answers call = .ok (gasLimit, estPre)
  converting : answers.gasWeiToTokenWei (maxFee * gasLimit) = .ok (some converted)
  configured : config.minAbs = .ok minAbs
  checked : (checkProfitAndRepay amountIn (amountOut planned) minAbs config.minProfitBps
    (effectiveFlashloanFeeBps observed.feeBps config.flashloanFeeBps) converted).ok = true
  guarded : guardsAllow config answers (config.dryRun || forceDryRun) = .ok ()
  live : (config.dryRun || forceDryRun) = false
  signing : signAndSend config answers (sendModeOf config decision) call gasLimit estPre maxFee
    prio = .ok tx

/-- **What is sent passed every stage**, and the other way round. -/
theorem tryExecuteOpportunity_ok_iff {config : ExecConfig} {answers : Answers} {opp : Opportunity}
    {decision : Option Decision} {forceDryRun : Bool} {tx : SignedTx} :
    tryExecuteOpportunity config answers opp decision forceDryRun = .ok tx
      ↔ Nonempty (Passage config answers opp decision forceDryRun tx) := by
  unfold tryExecuteOpportunity
  simp only [bind_ok_iff, ensure_eq_ok, require_eq_ok, exists_and_left, exists_const, Prod.exists]
  constructor
  · rintro ⟨h1, amountIn, sized, h2, planned, h3, h4, h5, observed, h6, h7, u, h8, maxFee, prio, h9,
      call, h10, gasLimit, estPre, h11, _, h12, converted, rfl, minAbs, h13, h14, u', h15, h16, h17⟩
    exact ⟨⟨amountIn, sized, planned, observed, maxFee, prio, call, gasLimit, estPre, converted,
      minAbs, h1, h2, h3, h4, h5, h6, h7, h8, h9, h10, h11, h12, h13, h14, h15, h16, h17⟩⟩
  · rintro ⟨p⟩
    exact ⟨p.not_throttled, p.amountIn, p.sized, p.sizing, p.planned, p.planning, p.positive,
      p.account, p.observed, p.observing, p.fee, (), p.contracts, p.maxFee, p.prio, p.suggesting,
      p.call, p.preparing, p.gasLimit, p.estPre, p.limiting, _, p.converting, p.converted, rfl,
      p.minAbs, p.configured, p.checked, (), p.guarded, p.live, p.signing⟩

theorem signAndSend_eq_ok {config : ExecConfig} {answers : Answers} {sendMode : String}
    {call : Option ExecuteCall} {gasLimit : Int} {estPre : Option Int} {maxFee prio : Int}
    {tx : SignedTx}
    (h : signAndSend config answers sendMode call gasLimit estPre maxFee prio = .ok tx) :
    answers.keyHex ≠ "" ∧ answers.ethAccount = true ∧ answers.keyAddress.isSome
      ∧ call = some tx.data ∧ finalGas config answers gasLimit estPre = .ok tx.gas
      ∧ tx.maxFeePerGas = maxFee := by
  unfold signAndSend at h
  simp only [bind_ok_iff, ensure_eq_ok, require_eq_ok, exists_and_left, exists_const] at h
  obtain ⟨hkey, -, haccount, addr, haddr, call, hcall, _, -, gas, hgas, _, -, _, -, _, -, h⟩ := h
  cases h
  exact ⟨hkey, haccount, by rw [haddr]; rfl, hcall, hgas, rfl⟩

/-! ## The gas limit -/

variable {gas amountIn amount out minAbs minBps : Int} {sized : Opportunity}

/-- **The gas limit that is signed is the one that was checked.** -/
theorem finalGas_eq {config : ExecConfig} {answers : Answers} {call : Option ExecuteCall}
    {gasLimit : Int} {estPre : Option Int} (hcall : call.isSome)
    (hsender : senderAddress config answers ≠ "")
    (hpre : preliminaryGas config answers call = .ok (gasLimit, estPre))
    (hfinal : finalGas config answers gasLimit estPre = .ok gas) : gas = gasLimit := by
  unfold preliminaryGas at hpre
  unfold finalGas at hfinal
  cases hrequired : config.requireEstimateGas with
  | false =>
    simp only [hrequired, Bool.false_eq_true, if_false] at hfinal
    cases hfinal
    rfl
  | true =>
    rw [if_pos ⟨hcall, hsender, hrequired⟩] at hpre
    simp only [bind_ok_iff, require_eq_ok] at hpre
    obtain ⟨_, -, est, rfl, scaled, hscaled, hpre⟩ := hpre
    cases hpre
    simp only [hrequired, if_true, bind_ok_iff, require_eq_ok] at hfinal
    obtain ⟨_, hest, est', hsome, scaled', hscaled', hfinal⟩ := hfinal
    cases hest
    cases hsome
    cases hscaled.symm.trans hscaled'
    cases hfinal
    omega

theorem senderAddress_ne_empty {config : ExecConfig} {answers : Answers}
    (hkey : answers.keyHex ≠ "") (haccount : answers.ethAccount = true)
    (haddr : answers.keyAddress.isSome) : senderAddress config answers ≠ "" := by
  unfold senderAddress
  rw [if_pos ⟨hkey, haccount⟩]
  cases h : answers.keyAddress with
  | none => simp [h] at haddr
  | some addr => exact addr.2

theorem prepareCalldata_spec {config : ExecConfig} {answers : Answers} {opp : Opportunity}
    {provider : String} {call : ExecuteCall}
    (h : prepareCalldata config answers opp provider amountIn = .ok (some call)) :
    (call.amountBorrow.val : Int) = amountIn ∧ call.lastMinOut = lastMinOut opp
      ∧ call.lastMinOut.isSome := by
  unfold prepareCalldata at h
  extract_lets sender profitTo at h
  by_cases hnone : config.executorAddress = "" ∨ profitTo = ""
  · rw [if_pos hnone] at h
    cases h
  · rw [if_neg hnone] at h
    simp only [bind_ok_iff, require_eq_ok, Except.ok.injEq, Option.some.injEq] at h
    obtain ⟨_, -, first, hfirst, _, hbuild, rfl⟩ := h
    obtain ⟨hamount, hlast, hsome⟩ := buildExecuteCalldata_spec hbuild
    exact ⟨hamount, hlast, hsome fun hnil => by simp [hnil] at hfirst⟩

/-! ## The gate -/

/-- The gate over the output, the fee and the gas cost of a trade. -/
def Profitable (amount out fee gas minAbs minBps : Int) : Prop :=
  amount + fee ≤ out ∧ 0 < out - amount - fee - gas ∧ minAbs ≤ out - amount - fee - gas
    ∧ amount * minBps ≤ (out - amount - fee - gas) * 10000

theorem checkProfitAndRepay_ok_iff {feeBps converted : Int} (hamount : 0 < amount) :
    (checkProfitAndRepay amount out minAbs minBps feeBps converted).ok = true
      ↔ Profitable amount out (computeFlashloanFee amount feeBps) (max 0 converted) minAbs
        minBps := by
  unfold checkProfitAndRepay Profitable
  generalize computeFlashloanFee amount feeBps = fee, max 0 converted = gas
  dsimp only
  by_cases hbps : 0 < minBps
  · split_ifs <;> simp <;> omega
  · have hproduct : amount * minBps ≤ 0 :=
      Int.mul_nonpos_of_nonneg_of_nonpos hamount.le (not_lt.1 hbps)
    split_ifs <;> simp <;> omega

theorem Profitable.mono {out' fee : Int} (h : Profitable amount out fee gas minAbs minBps)
    (hle : out ≤ out') : Profitable amount out' fee gas minAbs minBps := by
  unfold Profitable at h ⊢
  omega

/-- **A gas cost that the output just bears**: less output does not bear it. -/
theorem Profitable.exists_gas {fee : Int} (hgas : 0 ≤ gas)
    (h : Profitable amount out fee gas minAbs minBps) :
    ∃ gas', 0 ≤ gas' ∧ Profitable amount out fee gas' minAbs minBps
      ∧ ∀ out', out' < out → ¬ Profitable amount out' fee gas' minAbs minBps := by
  unfold Profitable at h ⊢
  generalize amount * minBps = product at h ⊢
  let least := max 1 (max minAbs ((product + 9999) / 10000))
  refine ⟨out - amount - fee - least, ?_, ?_, ?_⟩ <;> intros <;> omega

/-- The transaction passes the gate it claims, with the values that are encoded and signed. -/
def Passes (config : ExecConfig) (answers : Answers) (tx : SignedTx) : Prop :=
  ∃ observed converted minAbs lastMin,
    answers.feeObservation = .ok observed
      ∧ answers.gasWeiToTokenWei (tx.maxFeePerGas * tx.gas) = .ok (some converted)
      ∧ config.minAbs = .ok minAbs
      ∧ tx.data.lastMinOut = some lastMin
      ∧ Profitable tx.data.amountBorrow.val lastMin
        (computeFlashloanFee tx.data.amountBorrow.val
          (effectiveFlashloanFeeBps observed.feeBps config.flashloanFeeBps))
        (max 0 converted) minAbs config.minProfitBps

/-- The route is quoted anew: the multipliers change the amount and there is a cache. -/
def Requoted (answers : Answers) (opp : Opportunity) (decision : Option Decision) : Prop :=
  notionalMult (multipliers opp decision).1 (multipliers opp decision).2 ≠ 1
    ∧ (∃ base, opp.amountInBase = some base ∧ 0 < base) ∧ answers.cache = true

/-- The minimum output that is checked is not above the one that is encoded. -/
def Covers (answers : Answers) (opp : Opportunity) (decision : Option Decision) : Prop :=
  Requoted answers opp decision ∨ (planToApply decision opp).isSome
    ∨ ∀ n, lastMinOut opp = some n → amountOut opp ≤ n

theorem sizeOpportunity_of_requoted {config : ExecConfig} {answers : Answers} {opp : Opportunity}
    {decision : Option Decision} (hrequoted : Requoted answers opp decision)
    (h : sizeOpportunity config answers opp decision = .ok (amountIn, sized)) : Agrees sized := by
  obtain ⟨hmult, ⟨base, hbase, hpositive⟩, hcache⟩ := hrequoted
  simp only [sizeOpportunity, hbase, bind_ok_iff, require_eq_ok, Option.some.injEq,
    exists_eq_left', if_pos (And.intro hmult hpositive), if_pos hcache, Except.ok.injEq,
    Prod.mk.injEq] at h
  obtain ⟨_, -, _, hquote, _, rfl, -, rfl⟩ := h
  exact requoteOpportunity_agrees hquote

/-- Without a new quote the opportunity stays. -/
theorem sizeOpportunity_of_not_requoted {config : ExecConfig} {answers : Answers}
    {opp : Opportunity} {decision : Option Decision} (hrequoted : ¬ Requoted answers opp decision)
    (h : sizeOpportunity config answers opp decision = .ok (amountIn, sized)) : sized = opp := by
  simp only [sizeOpportunity, bind_ok_iff, require_eq_ok] at h
  obtain ⟨base, hbase, h⟩ := h
  split at h
  · rename_i hsize
    have hcache : ¬ answers.cache = true :=
      fun hcache => hrequoted ⟨hsize.1, ⟨base, hbase, hsize.2⟩, hcache⟩
    simp only [bind_ok_iff, if_neg hcache, Except.ok.injEq, Prod.mk.injEq] at h
    obtain ⟨_, -, -, rfl⟩ := h
    rfl
  · cases h
    rfl

/-- A new quote leaves the applied plan. -/
theorem sizeOpportunity_planToApply {config : ExecConfig} {answers : Answers} {opp : Opportunity}
    {decision : Option Decision}
    (h : sizeOpportunity config answers opp decision = .ok (amountIn, sized)) :
    planToApply decision sized = planToApply decision opp := by
  suffices happlied : sized.appliedPlan = opp.appliedPlan by
    rw [planToApply, happlied]
    rfl
  by_cases hrequoted : Requoted answers opp decision
  · obtain ⟨hmult, ⟨base, hbase, hpositive⟩, hcache⟩ := hrequoted
    simp only [sizeOpportunity, hbase, bind_ok_iff, require_eq_ok, Option.some.injEq,
      exists_eq_left', if_pos (And.intro hmult hpositive), if_pos hcache, Except.ok.injEq,
      Prod.mk.injEq] at h
    obtain ⟨_, -, _, hquote, _, rfl, -, rfl⟩ := h
    obtain ⟨legs, rfl⟩ := requoteOpportunity_eq_ok hquote
    rfl
  · rw [sizeOpportunity_of_not_requoted hrequoted h]

namespace Passage

variable {config : ExecConfig} {answers : Answers} {opp : Opportunity}
  {decision : Option Decision} {forceDryRun : Bool} {tx : SignedTx}

/-- Under the condition the checked minimum output is not above the encoded one. -/
theorem amountOut_le (p : Passage config answers opp decision forceDryRun tx)
    (hcovers : Covers answers opp decision) {n : Int} (hn : lastMinOut p.planned = some n) :
    amountOut p.planned ≤ n := by
  have hplanning := p.planning
  unfold applyDecisionPlan at hplanning
  rw [sizeOpportunity_planToApply p.sizing] at hplanning
  cases hplan : planToApply decision opp with
  | some plan =>
    simp only [hplan, bind_ok_iff, ensure_eq_ok, exists_const, Except.ok.injEq] at hplanning
    rw [← hplanning.2] at hn ⊢
    exact (applyExecutionRoutePlan_agrees _ _ n hn).le
  | none =>
    simp only [hplan, Except.ok.injEq] at hplanning
    rw [← hplanning] at hn ⊢
    rcases hcovers with hrequoted | hsome | hle
    · exact (sizeOpportunity_of_requoted hrequoted p.sizing n hn).le
    · simp [hplan] at hsome
    · by_cases hrequoted : Requoted answers opp decision
      · exact (sizeOpportunity_of_requoted hrequoted p.sizing n hn).le
      · rw [sizeOpportunity_of_not_requoted hrequoted p.sizing] at hn ⊢
        exact hle n hn

/-- Without it the opportunity is executed as it came, and checked with more output. -/
theorem lt_amountOut (p : Passage config answers opp decision forceDryRun tx)
    (hcovers : ¬ Covers answers opp decision) :
    ∃ n, lastMinOut p.planned = some n ∧ n < amountOut p.planned := by
  unfold Covers at hcovers
  push Not at hcovers
  obtain ⟨hrequoted, hplan, n, hn, hlt⟩ := hcovers
  have hplan := Option.not_isSome_iff_eq_none.1 hplan
  have hplanning := p.planning
  unfold applyDecisionPlan at hplanning
  rw [sizeOpportunity_planToApply p.sizing, hplan] at hplanning
  have hplanned : p.planned = opp :=
    (Except.ok.inj hplanning).symm.trans (sizeOpportunity_of_not_requoted hrequoted p.sizing)
  exact ⟨n, by rw [hplanned, hn], by rwa [hplanned]⟩

theorem signed (p : Passage config answers opp decision forceDryRun tx) :
    (tx.data.amountBorrow.val : Int) = p.amountIn ∧ tx.data.lastMinOut = lastMinOut p.planned
      ∧ (lastMinOut p.planned).isSome ∧ tx.gas = p.gasLimit ∧ tx.maxFeePerGas = p.maxFee := by
  obtain ⟨hkey, haccount, haddr, hcall, hgas, hfee⟩ := signAndSend_eq_ok p.signing
  obtain ⟨hamount, hlast, hsome⟩ := prepareCalldata_spec (hcall ▸ p.preparing)
  have hsender : senderAddress config answers ≠ "" := senderAddress_ne_empty hkey haccount haddr
  have hgasLimit := finalGas_eq (by rw [hcall]; rfl) hsender p.limiting hgas
  exact ⟨hamount, hlast, hlast ▸ hsome, hgasLimit, hfee⟩

/-- The gate of the signed values, with the checked output in the place of the encoded one. -/
theorem passes_iff (p : Passage config answers opp decision forceDryRun tx) :
    Passes config answers tx ↔ ∃ lastMin, lastMinOut p.planned = some lastMin
      ∧ Profitable p.amountIn lastMin (computeFlashloanFee p.amountIn
        (effectiveFlashloanFeeBps p.observed.feeBps config.flashloanFeeBps))
        (max 0 p.converted) p.minAbs config.minProfitBps := by
  obtain ⟨hamount, hlast, -, hgas, hfee⟩ := p.signed
  simp only [Passes, hamount, hlast, hgas, hfee, p.observing, p.converting, p.configured,
    Except.ok.injEq, Option.some.injEq, exists_and_left, exists_eq_left']

end Passage

/-! ## The price of the gas -/

def Answers.withGasPrice (answers : Answers) (convert : Int → Except Halt (Option Int)) : Answers :=
  { answers with gasWeiToTokenWei := convert }

theorem simulatePrevious_withGasPrice (config : ExecConfig) (answers : Answers)
    (convert : Int → Except Halt (Option Int)) (n : Nat) :
    simulatePrevious config (answers.withGasPrice convert) n = simulatePrevious config answers n := by
  induction n with
  | zero => rfl
  | succ n ih =>
    rw [simulatePrevious, simulatePrevious, ih]
    rfl

theorem signAndSend_withGasPrice (config : ExecConfig) (answers : Answers)
    (convert : Int → Except Halt (Option Int)) (sendMode : String) (call : Option ExecuteCall)
    (gasLimit : Int) (estPre : Option Int) (maxFee prio : Int) :
    signAndSend config (answers.withGasPrice convert) sendMode call gasLimit estPre maxFee prio
      = signAndSend config answers sendMode call gasLimit estPre maxFee prio := by
  have hsimulate : simulateAll config (answers.withGasPrice convert)
      = simulateAll config answers := by
    unfold simulateAll
    rw [simulatePrevious_withGasPrice]
    rfl
  unfold signAndSend
  rw [hsimulate]
  rfl

/-- The attempt at another price of the gas that passes the check. -/
def Passage.atPrice {config : ExecConfig} {answers : Answers} {opp : Opportunity}
    {decision : Option Decision} {forceDryRun : Bool} {tx : SignedTx}
    (p : Passage config answers opp decision forceDryRun tx) (gas : Int)
    (hchecked : Profitable p.amountIn (amountOut p.planned) (computeFlashloanFee p.amountIn
      (effectiveFlashloanFeeBps p.observed.feeBps config.flashloanFeeBps)) (max 0 gas) p.minAbs
      config.minProfitBps) :
    Passage config (answers.withGasPrice fun _ => .ok (some gas)) opp decision forceDryRun tx :=
  { p with
    converted := gas
    converting := rfl
    checked := (checkProfitAndRepay_ok_iff p.positive.1).2 hchecked
    signing := (signAndSend_withGasPrice _ _ _ _ _ _ _ _ _).trans p.signing }

/-- The list of minimum outputs is above the minimum output of the leg. -/
def sampleOpportunity : Opportunity where
  legs := [sampleLeg]
  minOuts := ["1100000"]
  routeId := "r1"
  brain := ⟨some 1, some 1⟩
  appliedPlan := none

end SovereignCapital.Execute
