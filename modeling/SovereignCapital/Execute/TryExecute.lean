import SovereignCapital.Execute.Calldata

/-! # The execution of an opportunity

`try_execute_opportunity`: the amount is sized and the route quoted and planned, the flash-loan
fee is observed, calldata and gas are prepared, the profit is checked (`check_profit_and_repay`),
and after the guards and the simulations the transaction is signed. The function is a chain of
exits; its result is the transaction that is handed to the node or to the relay.
-/

namespace SovereignCapital.Execute

open Double Guarded

/-! ## Configuration and answers -/

structure ExecConfig where
  dryRun : Bool
  sendMode : String
  maxSubmitPerBlock : Int
  gasLimit : Int
  executorAddress : String
  profitTo : String
  fromAddress : String
  flashProvider : String
  flashloanFeeBps : Int
  deadlineSeconds : Int
  /-- texts of `cfg.safety` -/
  minProfitAbs : String
  maxBorrowAmount : String
  minProfitBps : Int
  requireEstimateGas : Bool
  requireSimulation : Bool
  simulationPrevBlocks : Nat
  simulationSoftFail : Bool
  simulationTryPending : Bool
  adversarialEval : Bool
  requireAdversarialPositive : Bool

/-- `observe_flashloan_fee_bps`: the fee, or why there is none. -/
structure FeeObservation where
  feeBps : Option Int
  reason : String

structure Answers where
  currentBlock : Int
  lastSubmittedBlock : Int
  nowS : Int
  /-- the caller passed a cache -/
  cache : Bool
  quote : QuoteLeg
  feeObservation : Except Halt FeeObservation
  /-- the profitability contracts of the opportunity: `stopped` where one blocks -/
  profitabilityGate : Except Halt Unit
  /-- `suggest_gas`: the maximum and the priority fee -/
  suggestGas : Except Halt (Int × Int)
  /-- `eth_account` is installed -/
  ethAccount : Bool
  keyHex : String
  /-- the address of the key; nothing where `from_key` raises -/
  keyAddress : Option { s : String // s ≠ "" }
  estimateGas : Except Halt (Option Int)
  /-- `int(est * mult)`, the estimate times `VICTOR_GAS_SAFETY_MULT` -/
  gasSafety : Int → Except Halt Int
  /-- `gas_wei_to_token_wei` of a gas cost; nothing also where it raises a handled exception -/
  gasWeiToTokenWei : Int → Except Halt (Option Int)
  /-- the guards allow the trade; an exception they handle allows it -/
  mevAllows : Except Halt Bool
  adversarialOk : Except Halt Bool
  /-- `simulate_call` on the current block, on the one `i` before, and on the pending one -/
  simulate : Except Halt Bool
  simulatePrev : Nat → Except Halt Bool
  simulatePending : Except Halt Bool
  nonce : Except Halt (Option Int)
  /-- `sign_transaction` does not raise -/
  signs : Except Halt Unit

structure SignedTx where
  toAddress : String
  data : ExecuteCall
  gas : Int
  maxFeePerGas : Int
  maxPriorityFeePerGas : Int
  nonce : Int
  /-- it goes to the private relay -/
  toRelay : Bool

/-! ## The profit check -/

structure SafetyResult where
  ok : Bool
  reason : String
  profitAfterCostsWei : Int
  flashloanFeeWei : Int
  gasCostProfitTokenWei : Int
deriving DecidableEq

def computeFlashloanFee (amountInWei feeBps : Int) : Int := amountInWei * feeBps / 10000

def checkProfitAndRepay (amountInWei amountOutWei minProfitAbsWei minProfitBps feeBps
    gasCostProfitTokenWei : Int) : SafetyResult :=
  let flashFee := computeFlashloanFee amountInWei feeBps
  let gasCost := max 0 gasCostProfitTokenWei
  let repay := amountInWei + flashFee
  let profitAfter := amountOutWei - amountInWei - flashFee - gasCost
  if amountOutWei < repay then ⟨false, "does_not_repay_flashloan", -1, flashFee, gasCost⟩
  else if profitAfter ≤ 0 then
    ⟨false, "profit_after_costs_not_positive", profitAfter, flashFee, gasCost⟩
  else if profitAfter < minProfitAbsWei then
    ⟨false, "minProfitAbs_not_met", profitAfter, flashFee, gasCost⟩
  else if 0 < minProfitBps ∧ profitAfter * 10000 < amountInWei * minProfitBps then
    ⟨false, "minProfitBps_not_met", profitAfter, flashFee, gasCost⟩
  else ⟨true, "ok", profitAfter, flashFee, gasCost⟩

def effectiveFlashloanFeeBps (observed : Option Int) (configured : Int) : Int :=
  max 0 (observed.getD configured)

/-! ## Sizing -/

/-- `float(x or 1.0)`. -/
def orOne (x : ℚ) : ℚ := if x = 0 then 1 else x

def readMultipliers (m : Multipliers) : ℚ × ℚ :=
  match m.size, m.borrow with
  | some size, some borrow => (orOne size, orOne borrow)
  | _, _ => (1, 1)

def multipliers (opp : Opportunity) (decision : Option Decision) : ℚ × ℚ :=
  readMultipliers ((decision.map Decision.multipliers).getD opp.brain)

def notionalMult (size borrow : ℚ) : ℚ := max (nearest (1 / 10)) (mul size borrow)

/-- `int(getattr(cfg.safety, "max_borrow_amount", "0") or "0")`, zero where it raises. -/
def ExecConfig.borrowCap (config : ExecConfig) : Int := (readAmount config.maxBorrowAmount).getD 0

/-- The base amount of the route; nothing where there is no leg or `int` raises. -/
def Opportunity.amountInBase (opp : Opportunity) : Option Int :=
  opp.legs.head?.bind fun leg => readAmount leg.amountIn

/-- `max(1, int(amount_in_base * notional_mult))` under the cap; nothing on an overflow. -/
def targetAmount (cap base : Int) (mult : ℚ) : Option Int :=
  (ofInt base).map fun x =>
    let target := max 1 (trunc (mul x mult))
    if 0 < cap then min target cap else target

/-- The amount to borrow and the route quoted for it. -/
def sizeOpportunity (config : ExecConfig) (answers : Answers) (opp : Opportunity)
    (decision : Option Decision) : Except Halt (Int × Opportunity) := do
  let base ← require opp.amountInBase .raised
  let (size, borrow) := multipliers opp decision
  let mult := notionalMult size borrow
  if mult ≠ 1 ∧ 0 < base then
    let target ← require (targetAmount config.borrowCap base mult) .raised
    if answers.cache then
      let quoted ← requoteOpportunity answers.quote opp target
      let opp ← require quoted (.stopped "requote_failed")
      .ok (target, opp)
    else .ok (base, opp)
  else .ok (base, opp)

/-! ## Calldata and gas -/

/-- The configured amount `minProfitAbs`; `int` of it may raise. -/
def ExecConfig.minAbs (config : ExecConfig) : Except Halt Int :=
  require (readDecimal config.minProfitAbs) .raised

def providerHint (config : ExecConfig) (decision : Option Decision) : String :=
  let hint := (decision.map Decision.providerHint).getD ""
  if hint ≠ "" then hint
  else if config.flashProvider ≠ "" then config.flashProvider
  else "aave"

/-- The sender for the estimate: the address of the key, else the configured one. -/
def senderAddress (config : ExecConfig) (answers : Answers) : String :=
  if answers.keyHex ≠ "" ∧ answers.ethAccount = true then
    match answers.keyAddress with
    | some addr => addr
    | none => config.fromAddress
  else config.fromAddress

/-- The calldata, when an executor and a receiver of the profit are known. -/
def prepareCalldata (config : ExecConfig) (answers : Answers) (opp : Opportunity)
    (provider : String) (amountIn : Int) : Except Halt (Option ExecuteCall) :=
  let sender := senderAddress config answers
  let profitTo := if config.profitTo ≠ "" then config.profitTo else sender
  if config.executorAddress = "" ∨ profitTo = "" then .ok none
  else do
    let minAbs ← config.minAbs
    let minProfit := max minAbs (amountIn * config.minProfitBps / 10000)
    let first ← require opp.legs.head? .raised
    let call ← require (buildExecuteCalldata provider first.tokenIn amountIn minProfit profitTo
      (answers.nowS + config.deadlineSeconds) opp.legs) .raised
    .ok (some call)

/-- The gas limit before the profit check, with the estimate when one was made; the simulation
runs beside it when it is required too. -/
def preliminaryGas (config : ExecConfig) (answers : Answers) (call : Option ExecuteCall) :
    Except Halt (Int × Option Int) :=
  if call.isSome ∧ senderAddress config answers ≠ "" ∧ config.requireEstimateGas = true then do
    let estimate ← answers.estimateGas
    let est ← require estimate (.stopped "estimateGas_failed_abort")
    let scaled ← answers.gasSafety est
    .ok (max config.gasLimit scaled, some est)
  else .ok (config.gasLimit, none)

def finalGas (config : ExecConfig) (answers : Answers) (gasLimit : Int) (estPre : Option Int) :
    Except Halt Int :=
  if config.requireEstimateGas then do
    let estimate ← match estPre with
      | some est => .ok (some est)
      | none => answers.estimateGas
    let est ← require estimate (.stopped "estimateGas_failed_abort")
    let scaled ← answers.gasSafety est
    .ok (max gasLimit scaled)
  else .ok gasLimit

/-! ## Simulation -/

/-- The simulations of earlier blocks; a failed one stops unless failures are soft. -/
def simulatePrevious (config : ExecConfig) (answers : Answers) : Nat → Except Halt Unit
  | 0 => .ok ()
  | n + 1 => do
    simulatePrevious config answers n
    let ok ← answers.simulatePrev (n + 1)
    ensure (ok = true ∨ config.simulationSoftFail = true) (.stopped "simulation_failed")

/-- The required simulations. -/
def simulateAll (config : ExecConfig) (answers : Answers) : Except Halt Unit :=
  if config.requireSimulation then do
    let ok ← answers.simulate
    ensure (ok = true) (.stopped "simulation_failed")
    if 0 < answers.currentBlock then simulatePrevious config answers config.simulationPrevBlocks
    if config.simulationTryPending then
      let ok ← answers.simulatePending
      ensure (ok = true ∨ config.simulationSoftFail = true) (.stopped "simulation_failed")
  else .ok ()

/-! ## The attempt -/

def sendModeOf (config : ExecConfig) (decision : Option Decision) : String :=
  let mode := (decision.map Decision.sendMode).getD ""
  if mode ≠ "" then mode
  else if config.sendMode ≠ "" then config.sendMode
  else "public"

/-- The guards after the profit check, which stop only live attempts. -/
def guardsAllow (config : ExecConfig) (answers : Answers) (dryRun : Bool) : Except Halt Unit := do
  let allows ← answers.mevAllows
  ensure (dryRun = true ∨ allows = true) (.stopped "mev_guard_block")
  if config.adversarialEval then
    let ok ← answers.adversarialOk
    ensure (dryRun = true ∨ config.requireAdversarialPositive = false ∨ ok = true)
      (.stopped "adversarial_ev_negative")

/-- The part of an attempt from the checked profit on: what live execution requires, the
simulations, the final gas and the signature. -/
def signAndSend (config : ExecConfig) (answers : Answers) (sendMode : String)
    (call : Option ExecuteCall) (gasLimit : Int) (estPre : Option Int) (maxFee prio : Int) :
    Except Halt SignedTx := do
  ensure (answers.keyHex ≠ "") (.stopped "missing_private_key_env")
  ensure (config.executorAddress ≠ "") (.stopped "missing_executor_address")
  ensure (answers.ethAccount = true) (.stopped "missing_eth_account_dependency")
  let _ ← require answers.keyAddress .raised
  let call ← require call (.stopped "missing_calldata")
  simulateAll config answers
  let gas ← finalGas config answers gasLimit estPre
  let nonce ← answers.nonce
  let nonce ← require nonce (.stopped "nonce_fetch_failed")
  answers.signs
  .ok
    { toAddress := config.executorAddress
      data := call
      gas := gas
      maxFeePerGas := maxFee
      maxPriorityFeePerGas := prio
      nonce := nonce
      toRelay := sendMode = "private" }

/-- `try_execute_opportunity`: the transaction that is sent, or how the attempt ends. -/
def tryExecuteOpportunity (config : ExecConfig) (answers : Answers) (opp : Opportunity)
    (decision : Option Decision) (forceDryRun : Bool) : Except Halt SignedTx := do
  let dryRun := config.dryRun || forceDryRun
  ensure (¬ (1 ≤ config.maxSubmitPerBlock ∧ answers.lastSubmittedBlock = answers.currentBlock))
    (.stopped "throttled_one_tx_per_block")
  let (amountIn, opp) ← sizeOpportunity config answers opp decision
  let opp ← applyDecisionPlan decision opp
  ensure (0 < amountIn ∧ 0 < amountOut opp) (.stopped "invalid_amounts")
  ensure (dryRun = true ∨ answers.ethAccount = true ∨ config.executorAddress = "")
    (.stopped "missing_eth_account_dependency")
  let observed ← answers.feeObservation
  ensure (observed.feeBps.isSome ∨ dryRun = true ∨ observed.reason = "provider_address_missing")
    (.stopped "flashloan_fee_unavailable")
  answers.profitabilityGate
  let (maxFee, prio) ← answers.suggestGas
  let call ← prepareCalldata config answers opp (providerHint config decision) amountIn
  let (gasLimit, estPre) ← preliminaryGas config answers call
  let converted ← answers.gasWeiToTokenWei (maxFee * gasLimit)
  let converted ← require converted (.stopped "safety:gas_cost_profit_token_unavailable")
  let minAbs ← config.minAbs
  let sr := checkProfitAndRepay amountIn (amountOut opp) minAbs config.minProfitBps
    (effectiveFlashloanFeeBps observed.feeBps config.flashloanFeeBps) converted
  ensure (sr.ok = true) (.stopped ("safety:" ++ sr.reason))
  guardsAllow config answers dryRun
  ensure (dryRun = false) (.stopped "dry_run_ok")
  signAndSend config answers (sendModeOf config decision) call gasLimit estPre maxFee prio

/-! ## A sample -/

def sampleConfig : ExecConfig where
  dryRun := false
  sendMode := "public"
  maxSubmitPerBlock := 1
  gasLimit := 500000
  executorAddress := "0x00000000000000000000000000000000000000aa"
  profitTo := "0x00000000000000000000000000000000000000bb"
  fromAddress := ""
  flashProvider := "aave"
  flashloanFeeBps := 5
  deadlineSeconds := 30
  minProfitAbs := "0"
  maxBorrowAmount := "0"
  minProfitBps := 0
  requireEstimateGas := true
  requireSimulation := true
  simulationPrevBlocks := 0
  simulationSoftFail := false
  simulationTryPending := false
  adversarialEval := false
  requireAdversarialPositive := false

def sampleAnswers : Answers where
  currentBlock := 100
  lastSubmittedBlock := 99
  nowS := 1700000000
  cache := true
  quote _ _ := .ok none
  feeObservation := .ok ⟨some 5, "ok"⟩
  profitabilityGate := .ok ()
  suggestGas := .ok (30, 1)
  ethAccount := true
  keyHex := "01"
  keyAddress := some ⟨"0x00000000000000000000000000000000000000cc", by decide⟩
  estimateGas := .ok (some 400000)
  gasSafety est := .ok (est + est / 5)
  gasWeiToTokenWei _ := .ok (some 100)
  mevAllows := .ok true
  adversarialOk := .ok true
  simulate := .ok true
  simulatePrev _ := .ok true
  simulatePending := .ok true
  nonce := .ok (some 7)
  signs := .ok ()

def sampleLeg : RouteLeg where
  dex := "univ3"
  venue := "0x0000000000000000000000000000000000000001"
  tokenIn := "0x00000000000000000000000000000000000000a1"
  tokenOut := "0x00000000000000000000000000000000000000a1"
  amountIn := "1000000"
  minOut := "900000"
  data := "0x0bb8"

end SovereignCapital.Execute
