import SovereignCapital.Lib.CanonicalJson
import SovereignCapital.Lib.PyTree
import SovereignCapital.Lib.Sha256

/-! # The store of replay bundles

A bundle records what a decision was made on and, once it is finalised, what came of it. It is
kept in a file under its event id, a digest of the decision; a second file finds the event id of
a transaction. The documents in a bundle are JSON documents, which a file gives back as they were
written. Writing and reading do not fail here.
-/

namespace SovereignCapital.Replay

open Bytes Bytes.CanonicalJson

/-! ## Identities -/

def digest (data : List Byte) : Text := (toHex (Sha256.sha256 data)).take 24

/-- What `_stable_id` takes the digest of. -/
def payload (kind : String) (parts : List (Text × Value)) : List Byte :=
  encodeUtf8 (objectJson (("prefix".toList, .text kind.toList) :: parts))

def stableId (kind : String) (parts : List (Text × Value)) : String :=
  String.ofList (kind.toList ++ '_' :: digest (payload kind parts))

/-- `rl_action or -1`. -/
def orNoAction (rlAction : Int) : Int := if rlAction = 0 then -1 else rlAction

structure Decision where
  blockNumber : Int
  opportunityId : String
  routeId : String
  mode : String
  rlState : String
  rlAction : Int
deriving DecidableEq

def decisionParts (chainId : Int) (d : Decision) : List (Text × Value) :=
  [("chain_id".toList, .int chainId), ("block_number".toList, .int d.blockNumber),
    ("opportunity_id".toList, .text d.opportunityId.toList),
    ("route_id".toList, .text d.routeId.toList), ("mode".toList, .text d.mode.toList),
    ("rl_state".toList, .text d.rlState.toList),
    ("rl_action".toList, .int (orNoAction d.rlAction))]

def makeDecisionId (chainId : Int) (d : Decision) : String :=
  stableId "decision" (decisionParts chainId d)

def replayParts (chainId blockNumber : Int) (opportunityId routeId decisionId : String) :
    List (Text × Value) :=
  [("chain_id".toList, .int chainId), ("block_number".toList, .int blockNumber),
    ("opportunity_id".toList, .text opportunityId.toList),
    ("route_id".toList, .text routeId.toList), ("decision_id".toList, .text decisionId.toList)]

def makeReplayEventId (chainId blockNumber : Int)
    (opportunityId routeId decisionId : String) : String :=
  stableId "replay" (replayParts chainId blockNumber opportunityId routeId decisionId)

/-- The decision as `create_bundle` passes it on. -/
def Decision.seen (d : Decision) : Decision := { d with rlAction := orNoAction d.rlAction }

def decisionIdOf (chainId : Int) (d : Decision) : String := makeDecisionId chainId d.seen

def eventIdOf (chainId : Int) (d : Decision) : String :=
  makeReplayEventId chainId d.blockNumber d.opportunityId d.routeId (decisionIdOf chainId d)

/-! ## Bundles -/

/-- The documents that describe the decision. -/
structure Context where
  runtime : PyMap
  controls : PyMap
  wealthGoal : PyMap
  opportunities : List PyMap
  execution : PyMap

structure Bundle where
  eventId : String
  chain : String
  chainId : Int
  blockNumber : Int
  opportunityId : String
  routeId : String
  decisionId : String
  createdAtMs : Int
  status : String
  auditHash : String
  txHash : String
  context : Context
  receipt : PyMap
  decodedReceipt : PyMap
  rewardTrace : PyMap

/-- What came of a transaction. -/
structure Outcome where
  status : String
  receipt : PyMap
  decodedReceipt : PyMap
  rewardTrace : PyMap

/-- `str(status or "settled")`. -/
def Outcome.finalStatus (o : Outcome) : String := if o.status = "" then "settled" else o.status

def Bundle.finalized (b : Bundle) (o : Outcome) : Bundle :=
  { b with
    status := o.finalStatus
    receipt := o.receipt
    decodedReceipt := o.decodedReceipt
    rewardTrace := o.rewardTrace }

@[simp] theorem Bundle.finalized_eventId (b : Bundle) (o : Outcome) :
    (b.finalized o).eventId = b.eventId := rfl

/-- The two kinds of files: the bundles by event id, and `tx_index.json`. -/
structure Store where
  chain : String
  chainId : Int
  bundles : Dict String Bundle
  index : Dict String String

namespace Store

/-- `load`; the id is the name of a file in the directory of the bundles. -/
def load (s : Store) (eventId : String) : Option Bundle := s.bundles.get? eventId

/-- `str.strip`. -/
def stripped (t : String) : String := String.ofList (pyStrip t.toList)

def loadByTxHash (s : Store) (txHash : String) : Option Bundle :=
  if stripped txHash = "" then none
  else
    match s.index.get? (stripped txHash) with
    | none => none
    | some eventId => if eventId = "" then none else s.load eventId

def writeBundle (s : Store) (b : Bundle) : Store :=
  { s with
    bundles := s.bundles.set b.eventId b
    index := if b.txHash = "" then s.index else s.index.set b.txHash b.eventId }

/-- `create_bundle` keeps a status it knows. -/
def knownStatuses : List String := ["draft", "dry_run", "submitted", "settled", "failed"]

def createdStatus (status : String) : String :=
  if status ∈ knownStatuses then status else "draft"

/-- The bundle that `create_bundle` builds. -/
def newBundle (s : Store) (d : Decision) (context : Context) (txHash status auditHash : String)
    (nowMs : Int) : Bundle where
  eventId := eventIdOf s.chainId d
  chain := s.chain
  chainId := s.chainId
  blockNumber := d.blockNumber
  opportunityId := d.opportunityId
  routeId := d.routeId
  decisionId := decisionIdOf s.chainId d
  createdAtMs := nowMs
  status := createdStatus status
  auditHash := auditHash
  txHash := txHash
  context := context
  receipt := []
  decodedReceipt := []
  rewardTrace := []

def createBundle (s : Store) (d : Decision) (context : Context) (txHash status auditHash : String)
    (nowMs : Int) : Store :=
  s.writeBundle (s.newBundle d context txHash status auditHash nowMs)

/-- The store after `finalize`; the flag is whether a bundle was found. -/
def finalize (s : Store) (txHash : String) (o : Outcome) : Bool × Store :=
  match s.loadByTxHash txHash with
  | none => (false, s)
  | some b => (true, s.writeBundle (b.finalized o))

def finalizeDryRun (s : Store) (eventId : String) (rewardTrace : PyMap) : Store :=
  match s.load eventId with
  | none => s
  | some b => s.writeBundle { b with status := "dry_run", rewardTrace := rewardTrace }

end Store

/-! ## Different decisions have different identities -/

theorem orNoAction_orNoAction (a : Int) : orNoAction (orNoAction a) = orNoAction a := by
  unfold orNoAction
  split_ifs <;> omega

theorem stableId_inj {kind : String} {parts parts' : List (Text × Value)}
    (h : stableId kind parts = stableId kind parts') :
    digest (payload kind parts) = digest (payload kind parts') := by
  have htail := List.append_cancel_left (String.ofList_injective h)
  exact (List.cons.inj htail).2

/-- The keys in order. -/
theorem sorted_decision (chainId : Int) (d : Decision) :
    objectJson (("prefix".toList, .text "decision".toList) :: decisionParts chainId d)
      = sortedJson
        [("block_number".toList, .int d.blockNumber), ("chain_id".toList, .int chainId),
          ("mode".toList, .text d.mode.toList),
          ("opportunity_id".toList, .text d.opportunityId.toList),
          ("prefix".toList, .text "decision".toList),
          ("rl_action".toList, .int (orNoAction d.rlAction)),
          ("rl_state".toList, .text d.rlState.toList),
          ("route_id".toList, .text d.routeId.toList)] :=
  rfl

theorem sorted_replay (chainId blockNumber : Int) (opportunityId routeId decisionId : String) :
    objectJson (("prefix".toList, .text "replay".toList)
        :: replayParts chainId blockNumber opportunityId routeId decisionId)
      = sortedJson
        [("block_number".toList, .int blockNumber), ("chain_id".toList, .int chainId),
          ("decision_id".toList, .text decisionId.toList),
          ("opportunity_id".toList, .text opportunityId.toList),
          ("prefix".toList, .text "replay".toList),
          ("route_id".toList, .text routeId.toList)] :=
  rfl

/-- The text of a decision says everything about it but whether its action is zero or none. -/
theorem payload_decision_inj {chainId : Int} {d e : Decision}
    (h : payload "decision" (decisionParts chainId d.seen)
      = payload "decision" (decisionParts chainId e.seen)) : d.seen = e.seen := by
  have hjson := encodeUtf8_injective h
  rw [sorted_decision, sorted_decision] at hjson
  have hfields := sortedJson_inj (by rfl) hjson
  simp only [List.cons.injEq, Prod.mk.injEq, Value.int.injEq, Value.text.injEq, true_and,
    and_true, String.toList_inj] at hfields
  obtain ⟨hblock, hmode, hopportunity, haction, hstate, hroute⟩ := hfields
  have hseen : ∀ d : Decision, orNoAction d.seen.rlAction = d.seen.rlAction := fun d =>
    orNoAction_orNoAction d.rlAction
  rw [hseen, hseen] at haction
  cases hd : d.seen
  cases he : e.seen
  simp_all

theorem payload_replay_inj {chainId block block' : Int} {opp opp' route route' id id' : String}
    (h : payload "replay" (replayParts chainId block opp route id)
      = payload "replay" (replayParts chainId block' opp' route' id')) : id = id' := by
  have hjson := encodeUtf8_injective h
  rw [sorted_replay, sorted_replay] at hjson
  have hfields := sortedJson_inj (by rfl) hjson
  simp only [List.cons.injEq, Prod.mk.injEq, Value.text.injEq, true_and, and_true,
    String.toList_inj] at hfields
  exact hfields.2.1

/-- What the ids of a bundle are digests of. -/
def hashed (chainId : Int) (d : Decision) : List (List Byte) :=
  [payload "decision" (decisionParts chainId d.seen),
    payload "replay" (replayParts chainId d.blockNumber d.opportunityId d.routeId
      (decisionIdOf chainId d))]

/-- **Identities.** Where the digests do not collide, decisions with one event id are one decision,
but for action zero and no action. -/
theorem eventIdOf_inj {chainId : Int} {H : Set (List Byte)} (hsha : Set.InjOn digest H)
    {d e : Decision} (hd : ∀ p ∈ hashed chainId d, p ∈ H) (he : ∀ p ∈ hashed chainId e, p ∈ H)
    (h : eventIdOf chainId d = eventIdOf chainId e) : d.seen = e.seen := by
  have hreplay := hsha (hd _ (by simp [hashed])) (he _ (by simp [hashed])) (stableId_inj h)
  have hid : decisionIdOf chainId d = decisionIdOf chainId e := payload_replay_inj hreplay
  have hdecision := hsha (hd _ (by simp [hashed])) (he _ (by simp [hashed])) (stableId_inj hid)
  exact payload_decision_inj hdecision

theorem eventIdOf_ne_empty (chainId : Int) (d : Decision) : eventIdOf chainId d ≠ "" := by
  intro h
  have hlist := congrArg String.toList h
  simp [eventIdOf, makeReplayEventId, stableId] at hlist

end SovereignCapital.Replay
