import SovereignCapital.Execute.TryExecute

/-! # The dispatch of an automatic execution

`_execute_auto`: the operator controls are looked at, the gates of the execution service are
passed, the modes of gas and sending are overridden for this trade, the endpoints are chosen
(`_prepare_auto_execution_dispatch`), the final quote is bound to the sizing and the opportunity
executed, and the modes are restored (`_run_prepared_auto_execution`).
-/

namespace SovereignCapital.Execute

open Bytes Double Guarded

/-! ## Data -/

/-- The exceptions of the services, by the classes that the handlers name. -/
inductive Exc where
  | attributeError
  | queueFull
  | runtimeError
  | typeError
  | valueError
  | keyError
  | osError
  | other
deriving DecidableEq

/-- `_SAFE_EXECUTE_DISPATCH_EXCEPTIONS`. -/
def Exc.dispatchSafe : Exc → Bool
  | .attributeError | .queueFull | .runtimeError | .typeError | .valueError => true
  | _ => false

/-- `_SAFE_RUNTIME_EXCEPTIONS`. -/
def Exc.runtimeSafe : Exc → Bool
  | .attributeError | .keyError | .osError | .runtimeError | .typeError | .valueError => true
  | _ => false

structure Controls where
  paused : Bool
  sandboxOnly : Bool
  defensiveMode : Bool
  reduceExposureHalf : Bool
  forceGasMode : String
  forceSendMode : String

structure Modes where
  cfgGas : String
  cfgSend : String
  metricsGas : String
  metricsSend : String
deriving DecidableEq

structure GateAnswer where
  opportunity : Opportunity
  blocked : Option String

structure SuperGate where
  allow : Bool
  reason : String
  /-- the opportunity, scaled when the answer says so -/
  opportunity : Opportunity
  /-- its overrides -/
  gasMode : String
  sendMode : String

structure ServiceAnswers where
  admission : Except Exc GateAnswer
  /-- nothing where the superstructure is not enabled -/
  superstructure : Option (Except Exc SuperGate)
  /-- `build_execution_runtime_signals` -/
  signals : Except Exc Unit
  governance : Except Exc GateAnswer
  /-- the wrapper of the execution runs its core, or denies -/
  fioa : Except Exc Bool

structure LineageTexts where
  sizingId : String
  canonicalDecisionId : String
  decisionId : String
  correlationId : String

/-- The metadata that a binding reads; an approved notional may be absent, or not read. -/
structure LineageSources where
  decisionMeta : LineageTexts
  lineage : LineageTexts
  brain : LineageTexts
  oppMeta : LineageTexts
  approvedLineage : Option (Option ℚ)
  approvedDecision : Option (Option ℚ)

structure FinalQuote where
  decisionId : String
  correlationId : String
  rawUnits : Except Exc Int

structure Attempt where
  config : ExecConfig
  answers : Answers
  opp : Opportunity
  decision : Option Decision
  /-- nothing without a command centre -/
  controls : Option Controls
  /-- `_record_exec` of a result with this reason -/
  record : String → Except Exc Unit
  service : Option ServiceAnswers
  bestSend : String
  bestPrivate : String
  bestRead : String
  /-- the clients open and the identity of the execution is attached -/
  opens : Except Exc Unit
  lineage : LineageSources
  finalQuote : Except Exc FinalQuote
  /-- what follows the execution -/
  bookkeeping : Except Exc Unit

/-- What an attempt leaves. -/
structure Ended where
  modes : Modes
  submitted : Option SignedTx
  ending : Except Halt Unit

/-! ## Modes -/

def gasModes : List String := ["standard", "fast", "instant"]

def sendModes : List String := ["public", "private", "protected_rpc"]

def orDefault (mode default : String) : String := if mode = "" then default else mode

def Modes.writeGas (m : Modes) (mode : String) : Modes :=
  if mode ∈ gasModes then { m with cfgGas := mode, metricsGas := mode } else m

def Modes.writeSend (m : Modes) (mode : String) : Modes :=
  if mode ∈ sendModes then { m with cfgSend := mode, metricsSend := mode } else m

/-- `restore_operator_overrides`. -/
def Modes.restore (oldGas oldSend : String) : Modes :=
  { cfgGas := oldGas, cfgSend := oldSend, metricsGas := oldGas, metricsSend := oldSend }

/-! ## The gates -/

def blockedBy (record : String → Except Exc Unit) (reason : String) : Halt :=
  match record reason with
  | .ok () => .stopped reason
  | .error _ => .raised

/-- The clamp of the defensive controls; a decision that does not read or cannot be set stays. -/
def Decision.clamp (decision : Decision) : Decision :=
  match decision.multipliers.size, decision.multipliers.borrow with
  | some size, some borrow =>
    if decision.settable then
      { decision with
        multipliers := ⟨some (min (orOne size) (1 / 2)), some (min (orOne borrow) 1)⟩ }
    else decision
  | _, _ => decision

/-- The controls: a forced dry run and the decision, unless the attempt is over. A handled
exception of the recorded pause goes on as if there were no controls. -/
def controlsStage (record : String → Except Exc Unit) (controls : Option Controls)
    (decision : Option Decision) : Except Halt (Bool × Option Decision) :=
  match controls with
  | none => .ok (false, decision)
  | some c =>
    if c.paused then
      match record "cc_paused" with
      | .ok () => .error (.stopped "cc_paused")
      | .error e => if e.dispatchSafe then .ok (false, decision) else .error .raised
    else if c.defensiveMode ∨ c.reduceExposureHalf then
      .ok (c.sandboxOnly, decision.map Decision.clamp)
    else .ok (c.sandboxOnly, decision)

def passGate (record : String → Except Exc Unit) (answer : Except Exc GateAnswer) :
    Except Halt Opportunity :=
  match answer with
  | .error _ => .error .raised
  | .ok gate =>
    match gate.blocked with
    | some reason => .error (blockedBy record reason)
    | none => .ok gate.opportunity

/-- What the superstructure leaves: whether it is enabled, and its overrides. -/
structure SuperResult where
  enabled : Bool
  opportunity : Opportunity
  gasMode : String
  sendMode : String

/-- `handle_superstructure_pre_execute`; after a handled exception nothing is overridden. -/
def superstructureStage (record : String → Except Exc Unit)
    (answer : Option (Except Exc SuperGate)) (opp : Opportunity) : Except Halt SuperResult :=
  match answer with
  | none => .ok ⟨false, opp, "", ""⟩
  | some (.error e) => if e.runtimeSafe then .ok ⟨true, opp, "", ""⟩ else .error .raised
  | some (.ok gate) =>
    if gate.allow then .ok ⟨true, gate.opportunity, gate.gasMode, gate.sendMode⟩
    else .error (blockedBy record ("negotiation_rejected:" ++ gate.reason))

/-- What the stages before the first override hand on. -/
structure Admitted where
  forceDry : Bool
  decision : Option Decision
  super : SuperResult

/-- The stages of `_prepare_auto_execution_dispatch` before the first override. -/
def entryGate (a : Attempt) : Except Halt Admitted := do
  let (forceDry, decision) ← controlsStage a.record a.controls a.decision
  match a.service with
  | none => .ok ⟨forceDry, decision, false, a.opp, "", ""⟩
  | some service => do
    let opp ← passGate a.record service.admission
    let super ← superstructureStage a.record service.superstructure opp
    .ok ⟨forceDry, decision, super⟩

/-! ## The overrides -/

/-- The overrides of the superstructure, or of the decision without it. -/
def Modes.plan (m : Modes) (admitted : Admitted) : Modes :=
  let m := (m.writeGas admitted.super.gasMode).writeSend admitted.super.sendMode
  if admitted.super.enabled then m
  else m.writeGas ((admitted.decision.map Decision.gasMode).getD "")

/-- `str(mode or "").strip().lower()`. -/
def normalizedMode (mode : String) : String := String.ofList (pyLower (pyStrip mode.toList))

def Modes.force (m : Modes) (controls : Option Controls) : Modes :=
  match controls with
  | none => m
  | some c =>
    (m.writeGas (normalizedMode c.forceGasMode)).writeSend (normalizedMode c.forceSendMode)

/-- `apply_operator_overrides`: the modes and the old ones, which are the current ones. -/
def operatorOverrides (a : Attempt) (m : Modes) : Except Halt (Modes × String × String) :=
  match a.service with
  | none => .ok (m, m.cfgGas, m.cfgSend)
  | some service =>
    match service.signals with
    | .error _ => .error .raised
    | .ok () => .ok (m.force a.controls, orDefault m.cfgGas "standard", orDefault m.cfgSend "public")

/-- The endpoints and the governance gate: the opportunity that is executed. -/
def selectAndGovern (a : Attempt) (m : Modes) (opp : Opportunity) : Except Halt Opportunity :=
  let toPrivate := m.cfgSend = "private" ∨ m.cfgSend = "protected_rpc"
  let sendUrl := if toPrivate ∧ a.bestPrivate ≠ "" then a.bestPrivate else a.bestSend
  if sendUrl = "" ∨ a.bestRead = "" then .error (.stopped "no_endpoint")
  else
    match a.service with
    | none => .ok opp
    | some service => passGate a.record service.governance

/-! ## The binding of the final quote -/

/-- Why there is no binding: an `ExecutionQuoteBindingError` with its text, or another one. -/
inductive BindingFailure where
  | binding (text : String)
  | raised
deriving DecidableEq

def firstText (values : List String) : String :=
  ((values.map fun s => String.ofList (pyStrip s.toList)).find? (· ≠ "")).getD ""

/-- `_lineage`: the identifiers of the decision and its correlation, and the approved notional. -/
def lineageOf (s : LineageSources) : Except BindingFailure (String × String × ℚ) :=
  let sizingId := firstText
    [s.decisionMeta.sizingId, s.lineage.sizingId, s.brain.sizingId, s.oppMeta.sizingId]
  let decisionId := firstText
    [s.decisionMeta.canonicalDecisionId, s.decisionMeta.decisionId, s.lineage.decisionId,
      s.brain.canonicalDecisionId]
  let correlationId := firstText
    [s.decisionMeta.correlationId, s.lineage.correlationId, s.brain.correlationId]
  if sizingId = "" then .error (.binding "sizing_id_required")
  else if decisionId = "" ∨ correlationId = "" then
    .error (.binding "canonical_decision_lineage_required")
  else
    match (s.approvedLineage.or s.approvedDecision).getD none with
    | none => .error (.binding "approved_notional_usd_missing")
    | some approved =>
      if approved ≤ 0 then .error (.binding "approved_notional_usd_invalid")
      else .ok (decisionId, correlationId, approved)

def validateDecisionLineage (s : LineageSources) (decision : Option Decision)
    (decisionId correlationId : String) : Except BindingFailure Unit := do
  ensure (decision.isNone ∨ firstText [s.decisionMeta.canonicalDecisionId, decisionId] = decisionId)
    (.binding "decision_lineage_conflict")
  let correlation := firstText [s.decisionMeta.correlationId]
  ensure (decision.isNone ∨ correlation = "" ∨ correlation = correlationId)
    (.binding "correlation_lineage_conflict")

/-- `bind_final_quote_to_execution`: the opportunity with the bound amount. -/
def bindFinalQuoteToExecution (a : Attempt) (opp : Opportunity) (decision : Option Decision) :
    Except BindingFailure Opportunity := do
  let (decisionId, correlationId, _) ← lineageOf a.lineage
  validateDecisionLineage a.lineage decision decisionId correlationId
  ensure (a.answers.cache = true) (.binding "quote_requote_cache_required")
  let quote ← require a.finalQuote.toOption .raised
  ensure (quote.decisionId = decisionId ∧ quote.correlationId = correlationId)
    (.binding "quote_lineage_conflict")
  let units ← require quote.rawUnits.toOption .raised
  let cap ← require (readAmount a.config.maxBorrowAmount) .raised
  let raw := if 0 < cap then min units cap else units
  ensure (0 < raw) (.binding "quote_bound_raw_amount_invalid")
  let quoted ← require (requoteOpportunity a.answers.quote opp raw).toOption .raised
  let opp ← require quoted (.binding "quote_bound_requote_failed")
  ensure (opp.amountInBase = some raw) (.binding "quote_bound_raw_amount_not_applied")
  .ok opp

/-! ## The run -/

/-- The texts of a binding error after which the attempt goes on without a binding. -/
def unboundTexts : List String := ["sizing_id_required", "approved_notional_usd_missing"]

/-- The opportunity and the decision that are executed: bound with multipliers of one, or as
they are. -/
def boundExecution (a : Attempt) (opp : Opportunity) (decision : Option Decision) :
    Except Halt (Opportunity × Option Decision) :=
  match bindFinalQuoteToExecution a opp decision with
  | .ok opp =>
    match decision with
    | some d =>
      if d.settable then .ok (opp, some { d with multipliers := ⟨some 1, some 1⟩ })
      else .error .raised
    | none => .error .raised
  | .error (.binding text) => if text ∈ unboundTexts then .ok (opp, decision) else .error .raised
  | .error .raised => .error .raised

/-- `handle_fioa_execution_wrapper`: the wrapper may deny. -/
def fioaStage (a : Attempt) : Except Halt Unit :=
  match a.service with
  | none => .ok ()
  | some service =>
    match service.fioa with
    | .error _ => .error .raised
    | .ok passes => ensure (passes = true) (.stopped "fioa_denied")

def runPrepared (a : Attempt) (m : Modes) (forceDry : Bool) (opp : Opportunity)
    (decision : Option Decision) : Except Halt SignedTx := do
  require a.opens.toOption .raised
  let (opp, decision) ← boundExecution a opp decision
  fioaStage a
  tryExecuteOpportunity { a.config with sendMode := m.cfgSend } a.answers opp decision forceDry

/-- `_execute_auto`. Once the run has begun the modes are restored however it ends; an attempt
that ends before keeps the modes in force. -/
def executeAuto (a : Attempt) (m : Modes) : Ended :=
  match entryGate a with
  | .error halt => ⟨m, none, .error halt⟩
  | .ok admitted =>
    let planned := m.plan admitted
    match operatorOverrides a planned with
    | .error halt => ⟨planned, none, .error halt⟩
    | .ok (forced, overrideGas, overrideSend) =>
      match selectAndGovern a forced admitted.super.opportunity with
      | .error halt => ⟨forced, none, .error halt⟩
      | .ok opp =>
        -- without an execution service the old modes are those before the decision's
        let old := if a.service.isSome then (overrideGas, overrideSend)
          else (m.cfgGas, m.cfgSend)
        let restored := Modes.restore old.1 old.2
        match runPrepared a forced admitted.forceDry opp admitted.decision with
        | .error (.stopped reason) =>
          ⟨restored, none, if a.bookkeeping.toOption.isSome then .error (.stopped reason)
            else .error .raised⟩
        | .error .raised => ⟨restored, none, .error .raised⟩
        | .ok tx =>
          ⟨restored, some tx, if a.bookkeeping.toOption.isSome then .ok ()
            else .error .raised⟩

/-! ## A sample -/

def agreedOpportunity : Opportunity where
  legs := [{ sampleLeg with minOut := "1100000" }]
  minOuts := ["1100000"]
  routeId := "r1"
  brain := ⟨some 1, some 1⟩
  appliedPlan := none

def sampleService : ServiceAnswers where
  admission := .ok ⟨agreedOpportunity, none⟩
  superstructure := none
  signals := .ok ()
  governance := .ok ⟨agreedOpportunity, none⟩
  fioa := .ok true

/-- An attempt without a decision that is sent. -/
def sampleAttempt : Attempt where
  config := sampleConfig
  answers := sampleAnswers
  opp := agreedOpportunity
  decision := none
  controls := some ⟨false, false, false, false, "", ""⟩
  record _ := .ok ()
  service := some sampleService
  bestSend := "http://send"
  bestPrivate := ""
  bestRead := "http://read"
  opens := .ok ()
  lineage := ⟨⟨"", "", "", ""⟩, ⟨"", "", "", ""⟩, ⟨"", "", "", ""⟩, ⟨"", "", "", ""⟩, none, none⟩
  finalQuote := .error .valueError
  bookkeeping := .ok ()

def sampleModes : Modes := .restore "standard" "public"

end SovereignCapital.Execute
