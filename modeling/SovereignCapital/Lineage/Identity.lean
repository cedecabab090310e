import SovereignCapital.Lib.Aliases
import SovereignCapital.Lib.PyValue
import SovereignCapital.Lib.Sha256

/-! # Identities of a decision

The three functions that write identities into the metadata of an opportunity and of its decision.
A dictionary under a name that the code reads as a dictionary is a field of its own here, empty
where the name is missing; the other names stay in one dictionary (`Record.fields`).
-/

namespace SovereignCapital.Lineage

open Bytes Aliases

/-! ## Metadata -/

/-- What stands under `operator_intent`: a dictionary, or another value. -/
inductive Intent where
  | value (v : PyValue)
  | mapping (d : PyDict)

/-- No such key. -/
def Intent.missing : Intent := .value .none

/-- What `a or b` keeps. -/
def Intent.Truthy : Intent → Prop
  | .value v => v.truthy = true
  | .mapping d => d.entries ≠ []

instance : DecidablePred Intent.Truthy
  | .value v => inferInstanceAs (Decidable (v.truthy = true))
  | .mapping d => inferInstanceAs (Decidable (d.entries ≠ []))

def Intent.dict : Intent → PyDict
  | .value _ => Dict.empty
  | .mapping d => d

/-- A value that `a or b` keeps. -/
def Truthy (v : PyValue) : Prop := v.truthy = true

instance : DecidablePred Truthy := fun v => inferInstanceAs (Decidable (v.truthy = true))

/-- A dictionary of identities. -/
structure Record where
  fields : PyDict
  operatorIntent : Intent

def Record.empty : Record := ⟨Dict.empty, .missing⟩

/-- `key in record`. -/
def Record.Has (r : Record) (key : String) : Prop :=
  r.fields.contains key = true ∨ (key = "operator_intent" ∧ r.operatorIntent ≠ .missing)

/-- `record[key] = v`. -/
def Record.put (r : Record) (key : String) (v : PyValue) : Record :=
  { r with fields := r.fields.set key v }

/-- `if text: record[key] = text`. -/
def Record.putText (r : Record) (key s : String) : Record :=
  if s = "" then r else r.put key (.text s)

/-- `if intent_snapshot: record["operator_intent"] = dict(intent_snapshot)`. -/
def Record.putIntent (r : Record) (snapshot : PyDict) : Record :=
  if snapshot.entries = [] then r else { r with operatorIntent := .mapping snapshot }

structure Meta where
  brain : Record
  canonicalLineage : Record
  sizingId : PyValue
  /-- `pending_context["execution_lineage"]` -/
  pendingLineage : PyDict

/-- `decision.metadata`. -/
structure DecisionMeta where
  record : Record
  decisionLineage : PyDict
  executionLineage : PyDict

structure ExecutionIdentity where
  executionId : String
  decisionId : String
  correlationId : String

structure Pair where
  opportunityId : String
  routeId : String
  info : Meta
  decision : Option DecisionMeta
  /-- what `create_execution_identity` has returned for the pair so far -/
  minted : List ExecutionIdentity

/-! ## Places -/

/-- Where an identity may stand. -/
inductive Place where
  | brain (key : String)
  | lineage (key : String)
  | sizing
  | pendingLineage (key : String)
  | decision (key : String)
  | decisionLineage (key : String)
  | executionLineage (key : String)

inductive IntentPlace where
  | brain
  | lineage
  | decision

namespace Pair

def value (p : Pair) : Place → PyValue
  | .brain key => p.info.brain.fields.get key
  | .lineage key => p.info.canonicalLineage.fields.get key
  | .sizing => p.info.sizingId
  | .pendingLineage key => p.info.pendingLineage.get key
  | .decision key => (p.decision.map fun d => d.record.fields.get key).getD .none
  | .decisionLineage key => (p.decision.map fun d => d.decisionLineage.get key).getD .none
  | .executionLineage key => (p.decision.map fun d => d.executionLineage.get key).getD .none

def intent (p : Pair) : IntentPlace → Intent
  | .brain => p.info.brain.operatorIntent
  | .lineage => p.info.canonicalLineage.operatorIntent
  | .decision => (p.decision.map fun d => d.record.operatorIntent).getD .missing

end Pair

/-- `a or b or …` of the values at some places. -/
def Pair.first (p : Pair) (places : List Place) : PyValue :=
  firstOf Truthy .none (places.map p.value)

/-! ## Texts -/

def text (v : PyValue) : String := String.ofList (pyStrip (v.orElse (.text "")).str.toList)

/-- `a or b` of two texts. -/
def orText (a b : String) : String := if a = "" then b else a

def stableId (kind : String) (parts : List PyValue) : String :=
  let body := ['|'].intercalate (parts.map fun v => (text v).toList)
  String.ofList (kind.toList ++ '_' :: (toHex (Sha256.sha256 (encodeUtf8 body))).take 24)

/-! ## `ensure_decision_identity` -/

structure EnsureArgs where
  chainName : String
  currentBlock : Int
  operatorIntent : Option PyDict
  intentFingerprint : PyValue
  nowMs : Int

def ensuredDecisionId (p : Pair) (a : EnsureArgs) : String :=
  orText
    (text (p.first [.brain "canonical_decision_id", .lineage "decision_id",
      .decision "canonical_decision_id", .decision "decision_id"]))
    (stableId "decision"
      [.text a.chainName, .int a.currentBlock, .text p.opportunityId, .text p.routeId])

def ensuredCorrelationId (p : Pair) (a : EnsureArgs) : String :=
  orText
    (text (p.first [.brain "correlation_id", .lineage "correlation_id",
      .decision "correlation_id"]))
    (stableId "corr" [.text (ensuredDecisionId p a), .text a.chainName])

def intentSnapshot (p : Pair) (a : EnsureArgs) : PyDict :=
  let stored := (firstOf Intent.Truthy .missing
    ([IntentPlace.brain, .lineage, .decision].map p.intent)).dict
  if stored.entries = [] then a.operatorIntent.getD Dict.empty else stored

def ensuredFingerprint (p : Pair) (a : EnsureArgs) : String :=
  orText
    (text (p.first [.brain "intent_fingerprint", .lineage "intent_fingerprint",
      .decision "intent_fingerprint"]))
    (text a.intentFingerprint)

/-- The identities under the names that `brain` and the decision use. -/
def Record.name (r : Record) (p : Pair) (a : EnsureArgs) : Record :=
  (((r.put "canonical_decision_id" (.text (ensuredDecisionId p a))).put "correlation_id"
    (.text (ensuredCorrelationId p a))).putIntent (intentSnapshot p a)).putText
      "intent_fingerprint" (ensuredFingerprint p a)

/-- `canonical_lineage`, built anew. -/
def ensuredLineage (p : Pair) (a : EnsureArgs) (createdAt : Int) : Record :=
  ((((Record.empty.put "decision_id" (.text (ensuredDecisionId p a))).put "correlation_id"
    (.text (ensuredCorrelationId p a))).put "created_at_ms" (.int createdAt)).putIntent
      (intentSnapshot p a)).putText "intent_fingerprint" (ensuredFingerprint p a)

/-- What the call writes: the two other dictionaries are updated, the lineage of the decision is
built anew as well. -/
def ensured (p : Pair) (a : EnsureArgs) (createdAt : Int) : Pair :=
  { p with
    info := { p.info with
      brain := p.info.brain.name p a
      canonicalLineage := ensuredLineage p a createdAt }
    decision := p.decision.map fun d =>
      { d with
        record := d.record.name p a
        decisionLineage := PyDict.literal
          [("decision_id", .text (ensuredDecisionId p a)),
            ("correlation_id", .text (ensuredCorrelationId p a))] } }

def ensureDecisionIdentity (p : Pair) (a : EnsureArgs) : Except String Pair :=
  match ((p.value (.lineage "created_at_ms")).orElse (.int a.nowMs)).int? with
  | none => .error "created_at_ms"
  | some createdAt => .ok (ensured p a createdAt)

/-! ## `attach_sizing_identity` -/

/-- What the call writes. `approved` is the float that `float(approved_notional_usd)` is, nothing
where there is none. -/
def sized (p : Pair) (sid : String) (approved : Option PyValue) : Pair :=
  let lineage := p.info.canonicalLineage.put "sizing_id" (.text sid)
  { p with
    info := { p.info with
      brain := p.info.brain.put "sizing_id" (.text sid)
      canonicalLineage := match approved with
        | some usd => lineage.put "approved_notional_usd" usd
        | none => lineage
      sizingId := .text sid }
    decision := p.decision.map fun d =>
      { d with
        record := d.record.put "sizing_id" (.text sid)
        decisionLineage := d.decisionLineage.set "sizing_id" (.text sid) } }

def attachSizingIdentity (p : Pair) (sizingId : PyValue) (approved : Option PyValue) :
    Except String Pair :=
  let sid := text sizingId
  if sid = "" then .error "sizing_id_missing"
  else
    let existing := text (p.first [.brain "sizing_id", .lineage "sizing_id",
      .decision "sizing_id"])
    if existing ≠ "" ∧ existing ≠ sid then .error "sizing_id_lineage_conflict"
    else .ok (sized p sid approved)

/-! ## Execution identities -/

/-- `uuidHex` is the text of a fresh identifier. -/
def createExecutionIdentity (p : Pair) (uuidHex : String) : Except String ExecutionIdentity :=
  let decisionId := text (p.first [.decision "canonical_decision_id", .decision "decision_id",
    .brain "canonical_decision_id", .lineage "decision_id"])
  let correlationId := text (p.first [.decision "correlation_id", .brain "correlation_id",
    .lineage "correlation_id"])
  if decisionId = "" ∨ correlationId = "" then
    .error "canonical_decision_lineage_required_for_execution_identity"
  else .ok ⟨"execution_" ++ uuidHex, decisionId, correlationId⟩

/-- `d.update({...})` with the three identities under the names the lineages use. -/
def putExecution (d : PyDict) (i : ExecutionIdentity) : PyDict :=
  ((d.set "decision_id" (.text i.decisionId)).set "correlation_id" (.text i.correlationId)).set
    "execution_id" (.text i.executionId)

/-- `if sizing_id: d["sizing_id"] = sizing_id`. -/
def putSizing (d : PyDict) (sid : String) : PyDict :=
  if sid = "" then d else d.set "sizing_id" (.text sid)

/-- The same with the names that `brain` and the decision use. -/
def putCanonical (r : Record) (i : ExecutionIdentity) : Record :=
  ((r.put "execution_id" (.text i.executionId)).put "canonical_decision_id"
    (.text i.decisionId)).put "correlation_id" (.text i.correlationId)

def attachExecutionIdentity (p : Pair) (i : ExecutionIdentity) : Pair :=
  let sid := text (p.first [.brain "sizing_id", .lineage "sizing_id", .sizing])
  { p with
    info := { p.info with
      brain := putCanonical p.info.brain i
      canonicalLineage := { p.info.canonicalLineage with
        fields := putSizing (putExecution p.info.canonicalLineage.fields i) sid }
      pendingLineage := putSizing (putExecution Dict.empty i) sid }
    decision := p.decision.map fun d =>
      { d with
        record := putCanonical d.record i
        executionLineage := putSizing (putExecution d.executionLineage i)
          (text (d.record.fields.get "sizing_id")) } }

/-! ## Calls -/

inductive Call where
  | ensure (a : EnsureArgs)
  | attachSizing (sizingId : PyValue) (approved : Option PyValue)
  | create (uuidHex : String)
  | attachExecution (i : ExecutionIdentity)

/-- One call; one that raises leaves everything as it is. -/
def step (p : Pair) : Call → Pair
  | .ensure a => (ensureDecisionIdentity p a).toOption.getD p
  | .attachSizing sizingId approved => (attachSizingIdentity p sizingId approved).toOption.getD p
  | .create uuidHex =>
    match createExecutionIdentity p uuidHex with
    | .ok i => { p with minted := i :: p.minted }
    | .error _ => p
  | .attachExecution i => attachExecutionIdentity p i

/-! ## Reading what was written -/

@[simp] theorem get_set (d : PyDict) (k k' : String) (v : PyValue) :
    PyDict.get (d.set k v) k' = if k' = k then v else d.get k' := by
  simp only [PyDict.get, Dict.getD, Dict.get?_set]
  split <;> rfl

@[simp] theorem contains_set (d : PyDict) (k k' : String) (v : PyValue) :
    (d.set k v).contains k' = (decide (k' = k) || d.contains k') := by
  simp only [Dict.contains, Dict.get?_set]
  by_cases hk : k' = k
  · simp [hk]
  · simp [hk]

@[simp] theorem get_empty (k : String) : PyDict.get Dict.empty k = .none := rfl

namespace Record

@[simp] theorem empty_fields : empty.fields = Dict.empty := rfl

@[simp] theorem empty_operatorIntent : empty.operatorIntent = .missing := rfl

@[simp] theorem put_fields (r : Record) (k : String) (v : PyValue) :
    (r.put k v).fields = r.fields.set k v := rfl

@[simp] theorem put_operatorIntent (r : Record) (k : String) (v : PyValue) :
    (r.put k v).operatorIntent = r.operatorIntent := rfl

@[simp] theorem putIntent_fields (r : Record) (d : PyDict) :
    (r.putIntent d).fields = r.fields := by
  unfold putIntent
  split <;> rfl

@[simp] theorem putText_operatorIntent (r : Record) (k s : String) :
    (r.putText k s).operatorIntent = r.operatorIntent := by
  unfold putText
  split <;> rfl

theorem putIntent_operatorIntent (r : Record) (d : PyDict) :
    (r.putIntent d).operatorIntent
      = if d.entries = [] then r.operatorIntent else .mapping d := by
  unfold putIntent
  split <;> rfl

@[simp] theorem putText_get (r : Record) (k s k' : String) :
    (r.putText k s).fields.get k'
      = if k' = k ∧ s ≠ "" then .text s else r.fields.get k' := by
  unfold putText
  by_cases hs : s = ""
  · simp [hs]
  · simp [hs]

@[simp] theorem putText_contains (r : Record) (k s k' : String) :
    (r.putText k s).fields.contains k'
      = (decide (k' = k ∧ s ≠ "") || r.fields.contains k') := by
  unfold putText
  by_cases hs : s = ""
  · simp [hs]
  · simp [hs]

end Record

@[simp] theorem contains_empty (k : String) :
    Dict.contains (Dict.empty : PyDict) k = false := rfl

@[simp] theorem putSizing_get (d : PyDict) (sid k : String) :
    PyDict.get (putSizing d sid) k
      = if k = "sizing_id" ∧ sid ≠ "" then .text sid else d.get k := by
  unfold putSizing
  by_cases hs : sid = ""
  · simp [hs]
  · simp [hs]

@[simp] theorem putSizing_contains (d : PyDict) (sid k : String) :
    Dict.contains (putSizing d sid) k
      = (decide (k = "sizing_id" ∧ sid ≠ "") || d.contains k) := by
  unfold putSizing
  by_cases hs : sid = ""
  · simp [hs]
  · simp [hs]

theorem ensured_canonicalLineage (p : Pair) (a : EnsureArgs) (t : Int) :
    (ensured p a t).info.canonicalLineage = ensuredLineage p a t := by
  rw [ensured]

theorem ensured_minted (p : Pair) (a : EnsureArgs) (t : Int) :
    (ensured p a t).minted = p.minted := by
  rw [ensured]

theorem ensured_sizingId (p : Pair) (a : EnsureArgs) (t : Int) :
    (ensured p a t).value .sizing = p.value .sizing := by
  rw [ensured, Pair.value, Pair.value]

theorem ensured_pendingLineage (p : Pair) (a : EnsureArgs) (t : Int) (key : String) :
    (ensured p a t).value (.pendingLineage key) = p.value (.pendingLineage key) := by
  rw [ensured, Pair.value, Pair.value]

theorem ensured_decisionLineage (p : Pair) (a : EnsureArgs) (t : Int) {key : String}
    (hkey : key ≠ "decision_id" ∧ key ≠ "correlation_id") :
    (ensured p a t).value (.decisionLineage key) = .none := by
  cases hdec : p.decision <;> simp [Pair.value, ensured, hdec, PyDict.literal, hkey]

end SovereignCapital.Lineage
