import SovereignCapital.Withdraw.Executor
import SovereignCapital.WithdrawAll.State

/-! # Calls of the withdraw-all service

`configure`, `preview` and `execute`, cut where a coroutine waits. Each section takes the state
the coroutine has loaded and says what it saves, or how it goes on.
-/

namespace SovereignCapital.WithdrawAll

open Bytes Tx

/-! ## Requests -/

/-- `_coerce_canonical_bool`; nothing where the value is no boolean. -/
def coerceCanonicalBool : PyValue → Option Bool
  | .bool b => some b
  | .int n => if n = 0 then some false else if n = 1 then some true else none
  | .text s =>
    let normalized := pyLower (pyStrip s.toList)
    if normalized ∈ ["true", "1", "yes", "on"].map String.toList then some true
    else if normalized ∈ ["false", "0", "no", "off"].map String.toList then some false
    else none
  | _ => none

def unexpectedRequestFields (payload : PyDict) (allowed : List String) : List String :=
  (payload.entries.map Prod.fst).filter (· ∉ allowed)

/-- `str(payload.get(key) or "")`. -/
def fieldText (payload : PyDict) (key : String) : Text :=
  ((payload.get key).orElse (.text "")).str.toList

def fieldBool (payload : PyDict) (key : String) (default : Bool) : Option Bool :=
  if payload.contains key then coerceCanonicalBool (payload.get key) else some default

def configAllowedFields : List String := ["destination", "enabled", "activate_destination"]

def executeAllowedFields : List String := ["preview_id", "confirm_text", "dry_run"]

/-! ## Plans -/

/-- What a call reads of the runtime: its configuration, the truth about the capital and the
balances the node answers with. -/
structure Runtime where
  withdrawAllowlist : List Text
  executorAddress : Text
  withdrawMode : Text
  /-- the configured tokens, each with the balance its answer stands for -/
  withdrawTokens : List (Text × Int)
  truthStatus : String
  withdrawalAvailable : Bool
  withdrawalReasonCode : String
  withdrawableBalance : Text
  paused : Bool
  publicMode : Bool
  /-- `VICTOR_PRIVATE_KEY`: absent, or whether it is a key -/
  privateKey : Option Bool
  readUrl : Bool
  sendUrl : Bool

def allowlisted (allowlist : List Text) (destination : Text) : Bool :=
  destination ≠ [] ∧ (allowlist = [] ∨ pyLower destination ∈ allowlist.map pyLower)

def blockReason (rt : Runtime) (s : State) : String :=
  if !s.enabled then "withdraw_all_disabled"
  else if !isAddress s.approvedDestination then "approved_destination_missing"
  else if !allowlisted rt.withdrawAllowlist s.approvedDestination then "destination_not_allowlisted"
  else if rt.executorAddress = [] then "executor_not_configured"
  else if !isAddress rt.executorAddress then "invalid_executor_address"
  else if rt.truthStatus ≠ "ok" then "capital_truth_degraded"
  else if !rt.withdrawalAvailable then
    if rt.withdrawalReasonCode = "" then "no_withdrawable_balance" else rt.withdrawalReasonCode
  else if rt.paused then "command_center_paused"
  else "ok"

def tokenBalances (rt : Runtime) : List (Text × Nat) :=
  if rt.executorAddress = [] ∨ !rt.readUrl then []
  else (rt.withdrawTokens.filter fun t => isAddress t.1).map fun t => (t.1, (max 0 t.2).toNat)

structure Plan where
  reasonCode : String
  approvedDestination : Text
  withdrawableBalance : Text
  mode : Text
  items : List Item

/-- `_plan`: the tokens with a balance, and why they cannot be withdrawn. -/
def plan (rt : Runtime) (s : State) : Plan :=
  let mode := if rt.withdrawMode = [] then "txdata".toList else rt.withdrawMode
  let items := ((tokenBalances rt).filter fun row => 0 < row.2).map fun row =>
    ⟨row.1, row.2, s.approvedDestination, mode⟩
  let reason := blockReason rt s
  { reasonCode := if reason = "ok" ∧ items = [] then "no_token_balances" else reason
    approvedDestination := s.approvedDestination
    withdrawableBalance :=
      if rt.withdrawableBalance = [] then "0".toList else rt.withdrawableBalance
    mode := mode
    items := items }

/-- An object of JSON without spaces; the fields are in the order of their keys. -/
def jsonObject (fields : List (String × Text)) : Text :=
  '\x7b' :: [','].intercalate (fields.map fun f => jsonString f.1.toList ++ ':' :: f.2) ++ ['\x7d']

def jsonArray (items : List Text) : Text := '[' :: [','].intercalate items ++ [']']

def planDigest (p : Plan) : Text :=
  let item := fun i : Item => jsonObject
    [("amount", jsonString (pyDecimal i.amount)), ("mode", jsonString i.mode),
      ("to", jsonString i.dest), ("token", jsonString i.token)]
  toHex (Sha256.sha256 (encodeUtf8 (jsonObject
    [("approved_destination", jsonString p.approvedDestination),
      ("items", jsonArray (p.items.map item)),
      ("mode", jsonString p.mode),
      ("reason_code", jsonString p.reasonCode.toList),
      ("withdrawable_balance_wei", jsonString p.withdrawableBalance)])))

def previewTtlMs : Int := 5 * 60 * 1000

def previewExpired (s : State) (nowMs : Int) : Bool :=
  s.lastPreviewTsMs = 0 ∨ previewTtlMs < nowMs - s.lastPreviewTsMs

/-! ## Configure and preview -/

/-- `configure`: the state that is saved; nothing where the payload is turned away or changes
nothing. -/
def configure (allowlist : List Text) (s : State) (payload : PyDict) : Option State := do
  guard (unexpectedRequestFields payload configAllowedFields = [])
  let present := payload.contains "destination"
  let destination := pyStrip (fieldText payload "destination")
  guard (present = true → isAddress destination = true)
  let activate ← fieldBool payload "activate_destination" false
  let enabled ← fieldBool payload "enabled" s.enabled
  guard (activate = true → present = true)
  guard (present = true ∧ activate = true → allowlisted allowlist destination = true)
  let approved := if present && activate then destination else s.approvedDestination
  let pending :=
    if present then if activate then [] else destination else s.pendingDestination
  let changed :=
    if present then
      if activate then destination ≠ s.approvedDestination else destination ≠ s.pendingDestination
    else False
  guard (changed ∨ enabled ≠ s.enabled)
  return { s with
    approvedDestination := approved
    pendingDestination := pending
    enabled := enabled }.clearPreview

def preview (s : State) (p : Plan) (previewId : Text) (nowMs : Int) : State :=
  { s with
    lastPreviewId := previewId
    lastPreviewDigest := planDigest p
    lastPreviewTsMs := nowMs
    lastExecutedPreviewId := []
    lastExecutedResult := none
    lastStatus := if p.reasonCode = "ok" then .previewReady else .previewBlocked
    lastReasonCode := p.reasonCode }

/-! ## Execute -/

/-- How `execute` begins. -/
inductive Begun where
  /-- the payload is malformed -/
  | invalid
  | blocked (reasonCode : String)
  | replayed (result : Result)
  /-- it waits for its plan -/
  | planning (previewId : Text) (dryRun : Bool)

def confirmText : Text := "WITHDRAW EVERYTHING".toList

/-- `execute` up to its plan: the checks of the payload and the replay guard. -/
def beginExecute (s : State) (payload : PyDict) (nowMs : Int) : Begun :=
  if unexpectedRequestFields payload executeAllowedFields ≠ [] then .invalid
  else
    match fieldBool payload "dry_run" false with
    | none => .invalid
    | some dryRun =>
      let previewId := fieldText payload "preview_id"
      if previewId = [] ∨ previewId ≠ s.lastPreviewId then .blocked "preview_id_mismatch"
      else if fieldText payload "confirm_text" ≠ confirmText then
        .blocked "confirmation_text_mismatch"
      else if previewExpired s nowMs then .blocked "preview_expired"
      else if previewId = s.lastExecutedPreviewId then
        match s.lastExecutedResult with
        | some result => .replayed result
        | none => .planning previewId dryRun
      else .planning previewId dryRun

/-- How `execute` goes on when its plan is made. -/
inductive Planned where
  | blocked (reasonCode : String)
  | prepared (items : List ResultItem)
  | raises
  /-- it waits for the proof that it owns the executor -/
  | proving (items : List Item)

/-- The calldata of an item; nothing where building it raises. -/
def itemCalldata (s : State) (item : Item) : Option Text :=
  Withdraw.buildWithdrawCalldata item.token s.approvedDestination item.amount

/-- `execute` from its plan to the proof of the owner. -/
def planned (s : State) (rt : Runtime) (dryRun : Bool) : Planned :=
  let p := plan rt s
  if planDigest p ≠ s.lastPreviewDigest then .blocked "preview_stale"
  else if p.reasonCode ≠ "ok" then .blocked p.reasonCode
  else if dryRun ∨ p.mode ≠ "backend".toList then
    match p.items.mapM fun item => (itemCalldata s item).map (ResultItem.prepared item) with
    | some items => .prepared items
    | none => .raises
  else if rt.publicMode then .blocked "withdraw_execute_disabled_in_public_mode"
  else
    match rt.privateKey with
    | none => .blocked "missing_private_key_env"
    | some false => .blocked "invalid_private_key_env"
    | some true =>
      if !rt.readUrl ∨ !rt.sendUrl then .blocked "no_rpc_endpoints"
      else if rt.executorAddress = [] then .blocked "executor_not_configured"
      else if !isAddress rt.executorAddress then .blocked "invalid_executor_address"
      else .proving p.items

/-- The outcome of a dry run, or of a mode in which somebody else sends. -/
def State.prepare (s : State) (previewId : Text) (items : List ResultItem) : State :=
  s.withOutcome .prepared "ok"
    { ok := true
      status := some .prepared
      reasonCode := ""
      submissionState := none
      failedItem := none
      items := items }
    previewId

/-- The outcome of an item that was refused by the broadcaster. -/
def State.sendFailed (s : State) (previewId : Text) (results : List ResultItem) (item : Item) :
    State :=
  s.clearRefreshMetadata.withOutcome .executeFailed "send_failed"
    { ok := false
      status := none
      reasonCode := "send_failed"
      submissionState := none
      failedItem := some (.planned item)
      items := results }
    previewId

def State.assessed (s : State) (nowMs : Int) : State :=
  { s.clearRefreshFailure with refresh := ⟨nowMs, .executionAssessed, "ok"⟩ }

def State.receiptReverted (s : State) (previewId : Text) (results : List ResultItem) (item : Item)
    (tx : SubmittedTxStatus) (nowMs : Int) : State :=
  (s.assessed nowMs).withOutcome .executeFailed "receipt_reverted"
    { ok := false
      status := none
      reasonCode := "receipt_reverted"
      submissionState := none
      failedItem := some (.submitted item tx)
      items := results }
    previewId

def State.executed (s : State) (previewId : Text) (results : List ResultItem) (nowMs : Int) :
    State :=
  let completed := submissionState results = .single .minedSuccess
  let status := if completed then .completed else .submitted
  (s.assessed nowMs).withOutcome status "ok"
    { ok := true
      status := some status
      reasonCode := ""
      submissionState := if completed then none else some (submissionState results)
      failedItem := none
      items := results }
    previewId

/-- How `execute` goes on when an item was assessed. -/
inductive Assessed where
  | closes (s : State)
  /-- the next item is to be sent -/
  | preparing (results : List ResultItem) (item : Item) (rest : List Item)

/-- `execute` when the transaction of an item was assessed. -/
def assessed (s : State) (previewId : Text) (results : List ResultItem) (item : Item)
    (rest : List Item) (tx : SubmittedTxStatus) (nowMs : Int) : Assessed :=
  if tx.txStatus = .minedReverted then .closes (s.receiptReverted previewId results item tx nowMs)
  else
    let results := results ++ [.submitted item tx]
    match rest with
    | [] => .closes (s.executed previewId results nowMs)
    | next :: rest => .preparing results next rest

/-! ## A sample -/

def sampleAddress : Text := with0x (List.replicate 40 '1')

def sampleRuntime : Runtime where
  withdrawAllowlist := []
  executorAddress := sampleAddress
  withdrawMode := "backend".toList
  withdrawTokens := [(sampleAddress, 100)]
  truthStatus := "ok"
  withdrawalAvailable := true
  withdrawalReasonCode := ""
  withdrawableBalance := []
  paused := false
  publicMode := false
  privateKey := some true
  readUrl := true
  sendUrl := true

def sampleConfig : PyDict := PyDict.literal
  [("destination", .text (String.ofList sampleAddress)), ("activate_destination", .bool true),
    ("enabled", .bool true)]

/-- The preview `wipe_1` is executed. -/
def samplePayload : PyDict := PyDict.literal
  [("preview_id", .text "wipe_1"), ("confirm_text", .text "WITHDRAW EVERYTHING")]

end SovereignCapital.WithdrawAll
