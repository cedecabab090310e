import SovereignCapital.Lib.PyValue

/-! # Observing the recovery of a component

`observe` folds one observation of a component into its stored payload and writes at most one
event. The readings of one fact follow the source: what the caller adds, what is stored, and what
was just computed, in an order that depends on the transition. Both writes are one transaction,
so that an observation that raises leaves nothing.
-/

namespace SovereignCapital.Recovery

open Bytes

inductive HistoryStatus where
  | steady
  | blocked
  | recovered
deriving DecidableEq

inductive EventType where
  | blocked
  | blockedUpdate
  | recovered
deriving DecidableEq

structure Context where
  reasonCode : String
  stage : String
  blockerComponent : String
  nextAction : String
  reasonCodes : List String
deriving DecidableEq

structure Reliability where
  reliabilityClass : String
  reasonCode : String
  reasonCodes : List String
  nextAction : String

structure Payload where
  isDegraded : Bool
  degradedSinceTsMs : Int
  lastRecoveredTsMs : Int
  degradedCount : Int
  lastHealthyTsMs : Int
  updatedTsMs : Int
  historyStatus : HistoryStatus
  /-- the `last_*` fields -/
  last : Context
  /-- the `history_*` fields -/
  history : Context
  historyDegradedSinceTsMs : Int
  historyRecoveredAtTsMs : Int
  reliability : Reliability
  componentReliability : Reliability
  componentRecoveredFragile : Bool
  familyHardeningReasonCodes : List String
  receiptOutcomeTruthReasonCodes : List String

/-- What a missing row reads as: every field falsy. -/
def Payload.missing : Payload :=
  { isDegraded := false, degradedSinceTsMs := 0, lastRecoveredTsMs := 0, degradedCount := 0,
    lastHealthyTsMs := 0, updatedTsMs := 0, historyStatus := .steady,
    last := ⟨"", "", "", "", []⟩, history := ⟨"", "", "", "", []⟩,
    historyDegradedSinceTsMs := 0, historyRecoveredAtTsMs := 0,
    reliability := ⟨"", "", [], ""⟩, componentReliability := ⟨"", "", [], ""⟩,
    componentRecoveredFragile := false, familyHardeningReasonCodes := [],
    receiptOutcomeTruthReasonCodes := [] }

/-- `payload_extras`: the entries under the names that `observe` reads, a missing one being `None`
or an empty list. It writes every one of these names anew after merging the rest. -/
structure PayloadExtras where
  text : PyDict
  strings : Dict String (List String)

def PayloadExtras.none : PayloadExtras := ⟨Dict.empty, Dict.empty⟩

def PayloadExtras.get (extra : PayloadExtras) (key : String) : PyValue := extra.text.get key

def PayloadExtras.list (extra : PayloadExtras) (key : String) : List String :=
  extra.strings.getD key []

/-- The arguments of `observe`. -/
structure Observation where
  component : String
  degraded : Bool
  tsMs : Int
  context : Context
  payloadExtras : PayloadExtras

structure Event where
  component : String
  tsMs : Int
  eventType : EventType
  context : Context
  degraded : Bool
  historyStatus : HistoryStatus
  history : Context
  historyDegradedSinceTsMs : Int
  historyRecoveredAtTsMs : Int
  degradedCount : Int
  degradedSinceTsMs : Int
  recoveredAtTsMs : Int
  lastHealthyTsMs : Int
  updatedTsMs : Int
  reliability : Reliability
  componentReliability : Reliability
  componentRecoveredFragile : Bool
  familyHardeningReasonCodes : List String
  receiptOutcomeTruthReasonCodes : List String

/-- The tables of one chain. -/
structure Repository where
  state : Dict String Payload
  events : List Event

namespace Repository

def empty : Repository := ⟨Dict.empty, []⟩

def load (repo : Repository) (component : String) : Payload :=
  repo.state.getD component .missing

def log (repo : Repository) (component : String) : List EventType :=
  (repo.events.filter fun event => event.component == component).map Event.eventType

end Repository

/-! ## Readings -/

def intLike (value : PyValue) : Int := (value.orElse (.int 0)).int?.getD 0

def stringList (values : List String) : List String := values.filter fun x => x != ""

/-- `a or b` of two texts. -/
def orText (a b : String) : String := if a = "" then b else a

def pickString (values : List PyValue) (default : String) : String :=
  match values with
  | [] => default
  | value :: values =>
    let s := String.ofList (pyStrip (value.orElse (.text "")).str.toList)
    if s = "" then pickString values default else s

def pickStrings (values : List (List String)) : List String :=
  match values with
  | [] => []
  | value :: values =>
    if stringList value = [] then pickStrings values else stringList value

def pickInt (values : List PyValue) : Int :=
  match values with
  | [] => 0
  | value :: values => if 0 < intLike value then intLike value else pickInt values

@[simp] theorem intLike_int (n : Int) : intLike (.int n) = n := by
  unfold intLike PyValue.orElse
  split
  · rfl
  · rename_i h
    simp only [PyValue.truthy, bne_iff_ne, ne_eq, not_not] at h
    rw [h]
    rfl

theorem pickInt_cons_of_pos {value : PyValue} (h : 0 < intLike value) (values : List PyValue) :
    pickInt (value :: values) = intLike value := if_pos h

/-! ## The normaliser -/

/-- The `normalized_*` fields. -/
def normalized (o : Observation) (current : Payload) : Context :=
  if o.degraded then
    let given := if o.context.reasonCodes = [] then current.last.reasonCodes
      else o.context.reasonCodes
    let codes := stringList given
    let code := orText o.context.reasonCode (orText current.last.reasonCode "degraded")
    { reasonCode := code
      stage := orText o.context.stage (orText current.last.stage "ok")
      blockerComponent := orText o.context.blockerComponent current.last.blockerComponent
      nextAction := orText o.context.nextAction current.last.nextAction
      reasonCodes := if code ≠ "ok" ∧ code ∉ codes then code :: codes else codes }
  else ⟨"ok", "ok", "", "", []⟩

/-- A reading of two sources, the stored one first when the component recovers. -/
def reading {α : Type} (recovering : Bool) (extra current : α) (rest : List α) : List α :=
  if recovering then current :: extra :: rest else extra :: current :: rest

/-- `not degraded and was_degraded`. -/
def recovering (o : Observation) (current : Payload) : Bool := !o.degraded && current.isDegraded

/-- The `effective_history_*` texts. -/
def effectiveHistory (o : Observation) (current : Payload) : Context :=
  let pick := fun (extra : PyValue) (stored computed : String) (default : String) =>
    pickString (reading (recovering o current) extra (.text stored) [.text computed]) default
  let n := normalized o current
  { blockerComponent := pick (o.payloadExtras.get "history_component")
      current.history.blockerComponent n.blockerComponent ""
    stage := pick (o.payloadExtras.get "history_stage") current.history.stage n.stage "ok"
    reasonCode := pick (o.payloadExtras.get "history_reason_code") current.last.reasonCode
      n.reasonCode (if o.degraded then "degraded" else "ok")
    reasonCodes := pickStrings (reading (recovering o current)
      (o.payloadExtras.list "history_reason_codes") current.last.reasonCodes [n.reasonCodes])
    nextAction := pick (o.payloadExtras.get "history_next_action") current.last.nextAction
      n.nextAction "" }

/-- `effective_history_degraded_since_ts_ms`, read before the transition. -/
def historyDegradedSince (o : Observation) (current : Payload) : Int :=
  let given := o.payloadExtras.get "history_degraded_since_ts_ms"
  if recovering o current then
    pickInt [.int current.degradedSinceTsMs, given, .int current.historyDegradedSinceTsMs]
  else if o.degraded then
    pickInt [given, .int current.historyDegradedSinceTsMs, .int current.degradedSinceTsMs]
  else pickInt [given, .int current.historyDegradedSinceTsMs]

/-- `effective_history_recovered_at_ts_ms`, read before the transition: on a recovery it is the
stored time of the last one that comes first. -/
def historyRecoveredAt (o : Observation) (current : Payload) : Int :=
  let given := o.payloadExtras.get "history_recovered_at_ts_ms"
  if recovering o current then
    pickInt [.int current.lastRecoveredTsMs, given, .int current.historyRecoveredAtTsMs,
      .int o.tsMs]
  else if o.degraded then 0
  else pickInt [given, .int current.historyRecoveredAtTsMs, .int current.lastRecoveredTsMs]

def effectiveReliability (o : Observation) (current : Payload) : Reliability :=
  { reliabilityClass := pickString [o.payloadExtras.get "reliability_class",
      .text current.reliability.reliabilityClass, .text "stable"] "stable"
    reasonCode := pickString [o.payloadExtras.get "reliability_reason_code",
      .text current.reliability.reasonCode, .text "ok"] "ok"
    reasonCodes := pickStrings [o.payloadExtras.list "reliability_reason_codes",
      current.reliability.reasonCodes]
    nextAction := pickString [o.payloadExtras.get "reliability_next_action",
      .text current.reliability.nextAction, .text (normalized o current).nextAction] "" }

def effectiveComponentReliability (o : Observation) (current : Payload) : Reliability :=
  let whole := effectiveReliability o current
  { reliabilityClass := pickString [o.payloadExtras.get "component_reliability_class",
      .text current.componentReliability.reliabilityClass, .text whole.reliabilityClass]
      whole.reliabilityClass
    reasonCode := pickString [o.payloadExtras.get "component_reliability_reason_code",
      .text current.componentReliability.reasonCode, .text whole.reasonCode] whole.reasonCode
    reasonCodes := pickStrings [o.payloadExtras.list "component_reliability_reason_codes",
      current.componentReliability.reasonCodes, whole.reasonCodes]
    nextAction := pickString [o.payloadExtras.get "component_reliability_next_action",
      .text current.componentReliability.nextAction, .text whole.nextAction] "" }

def effectiveFragile (o : Observation) (current : Payload) : Bool :=
  if o.degraded then false
  else if (effectiveHistory o current).blockerComponent ≠ ""
      ∧ (effectiveComponentReliability o current).reliabilityClass = "fragile" then true
  else ((o.payloadExtras.text.get? "component_recovered_fragile").getD
    (.bool current.componentRecoveredFragile)).truthy

/-! ## The transition -/

/-- A new blocked episode starts. -/
def starts (o : Observation) (current : Payload) : Bool :=
  o.degraded && (!current.isDegraded || decide (current.degradedSinceTsMs ≤ 0))

def nextDegradedSince (o : Observation) (current : Payload) : Int :=
  if starts o current then o.tsMs else if o.degraded then current.degradedSinceTsMs else 0

def nextLastRecovered (o : Observation) (current : Payload) : Int :=
  if recovering o current then o.tsMs else current.lastRecoveredTsMs

def canonicalHistoryStatus (o : Observation) (current : Payload) : HistoryStatus :=
  if o.degraded then .blocked
  else if 0 < nextLastRecovered o current then .recovered else .steady

def nextPayload (o : Observation) (current : Payload) : Payload :=
  { isDegraded := o.degraded
    degradedSinceTsMs := nextDegradedSince o current
    lastRecoveredTsMs := nextLastRecovered o current
    degradedCount := if starts o current then max 0 current.degradedCount + 1
      else current.degradedCount
    lastHealthyTsMs := if o.degraded = false ∧ 0 < o.tsMs then o.tsMs else current.lastHealthyTsMs
    updatedTsMs := o.tsMs
    historyStatus := canonicalHistoryStatus o current
    last := normalized o current
    history := effectiveHistory o current
    historyDegradedSinceTsMs := historyDegradedSince o current
    historyRecoveredAtTsMs := historyRecoveredAt o current
    reliability := effectiveReliability o current
    componentReliability := effectiveComponentReliability o current
    componentRecoveredFragile := effectiveFragile o current
    familyHardeningReasonCodes := pickStrings (reading (recovering o current)
      (o.payloadExtras.list "family_hardening_reason_codes")
      current.familyHardeningReasonCodes [])
    receiptOutcomeTruthReasonCodes := pickStrings (reading (recovering o current)
      (o.payloadExtras.list "receipt_outcome_truth_reason_codes")
      current.receiptOutcomeTruthReasonCodes []) }

def materialContextChanged (o : Observation) (current : Payload) : Bool :=
  decide (normalized o current
    ≠ { current.last with reasonCodes := stringList current.last.reasonCodes })

def eventType (o : Observation) (current : Payload) : Option EventType :=
  if o.degraded && !current.isDegraded then some .blocked
  else if recovering o current then some .recovered
  else if o.degraded && current.isDegraded && materialContextChanged o current then
    some .blockedUpdate
  else none

def eventOf (o : Observation) (current : Payload) (kind : EventType) : Event :=
  let payload := nextPayload o current
  { component := o.component
    tsMs := o.tsMs
    eventType := kind
    context := payload.last
    degraded := kind ≠ .recovered
    historyStatus := if o.degraded then .blocked else .recovered
    history := payload.history
    historyDegradedSinceTsMs := payload.historyDegradedSinceTsMs
    historyRecoveredAtTsMs := payload.historyRecoveredAtTsMs
    degradedCount := payload.degradedCount
    degradedSinceTsMs := if kind = .recovered then payload.historyDegradedSinceTsMs
      else payload.degradedSinceTsMs
    recoveredAtTsMs := if kind = .recovered then payload.historyRecoveredAtTsMs
      else payload.lastRecoveredTsMs
    lastHealthyTsMs := payload.lastHealthyTsMs
    updatedTsMs := payload.updatedTsMs
    reliability := payload.reliability
    componentReliability := payload.componentReliability
    componentRecoveredFragile := payload.componentRecoveredFragile
    familyHardeningReasonCodes := payload.familyHardeningReasonCodes
    receiptOutcomeTruthReasonCodes := payload.receiptOutcomeTruthReasonCodes }

def Observation.name (o : Observation) : String := orText o.component "auto_trade_admission"

def Observation.named (o : Observation) : Observation := { o with component := o.name }

def observe (repo : Repository) (o : Observation) : Repository :=
  let current := repo.load o.name
  { state := repo.state.set o.name (nextPayload o.named current)
    events := repo.events ++ ((eventType o.named current).map (eventOf o.named current)).toList }

/-! ## What one observation changes -/

theorem load_observe_self (repo : Repository) (o : Observation) :
    (observe repo o).load o.name = nextPayload o.named (repo.load o.name) := by
  simp only [observe, Repository.load, Dict.getD, Dict.get?_set_self, Option.getD_some]

theorem load_observe_of_ne (repo : Repository) {o : Observation} {component : String}
    (h : component ≠ o.name) : (observe repo o).load component = repo.load component := by
  simp only [observe, Repository.load, Dict.getD]
  rw [Dict.get?_set_of_ne _ _ h]

theorem log_observe_self (repo : Repository) (o : Observation) :
    (observe repo o).log o.name
      = repo.log o.name ++ (eventType o.named (repo.load o.name)).toList := by
  simp only [observe, Repository.log, List.filter_append, List.map_append]
  congr 1
  cases eventType o.named (repo.load o.name) with
  | none => rfl
  | some kind => simp [eventOf, Observation.named]

theorem log_observe_of_ne (repo : Repository) {o : Observation} {component : String}
    (h : component ≠ o.name) : (observe repo o).log component = repo.log component := by
  simp only [observe, Repository.log, List.filter_append, List.map_append]
  cases eventType o.named (repo.load o.name) with
  | none => simp
  | some kind => simp [eventOf, Observation.named, Ne.symm h]

end SovereignCapital.Recovery
