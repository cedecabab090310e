import SovereignCapital.Lib.PyValue
import SovereignCapital.Withdraw.Request

/-! # State of the withdraw-all service

`withdraw_all_service.py`: what the service keeps in its one file, how the file is read and
written, and the results of an execution. Times are milliseconds of the clock.
-/

namespace SovereignCapital.WithdrawAll

open Bytes Tx

/-! ## Results -/

def isAddress (value : Text) : Bool := Withdraw.isEvmAddress value

def isTxHash (value : Text) : Bool := Withdraw.isTxHash value

/-- An item of a plan: what is withdrawn of a token. -/
structure Item where
  token : Text
  amount : Nat
  dest : Text
  mode : Text
deriving DecidableEq

inductive ResultItem where
  | planned (item : Item)
  | prepared (item : Item) (calldata : Text)
  | submitted (item : Item) (tx : SubmittedTxStatus)
deriving DecidableEq

def ResultItem.txHash : ResultItem → Text
  | .submitted _ tx => tx.txHash
  | _ => []

def ResultItem.txStatus : ResultItem → Option TxStatus
  | .submitted _ tx => some tx.txStatus
  | _ => none

/-- The statuses of the service and of its results. -/
inductive Status where
  | idle
  | degraded
  | previewReady
  | previewBlocked
  | executeBlocked
  | prepared
  | executing
  | submitted
  | completed
  | executeFailed
deriving DecidableEq

/-- `_submission_state`: the one status of the items, or that there are several. -/
inductive SubmissionState where
  | single (status : TxStatus)
  | mixed
deriving DecidableEq

/-- A result; an absent reason code is empty. -/
structure Result where
  ok : Bool
  status : Option Status
  reasonCode : String
  submissionState : Option SubmissionState
  failedItem : Option ResultItem
  items : List ResultItem
deriving DecidableEq

/-- A result of a call that was turned away. -/
def Result.blocked (reasonCode : String) : Result where
  ok := false
  status := none
  reasonCode := reasonCode
  submissionState := none
  failedItem := none
  items := []

def submissionState (items : List ResultItem) : SubmissionState :=
  match items.filterMap ResultItem.txStatus with
  | [] => .single .sent
  | status :: statuses => if statuses.all (· == status) then .single status else .mixed

/-! ## State -/

inductive RefreshStatus where
  | idle
  | skipped
  | refreshed
  | executionAssessed
deriving DecidableEq

/-- The last failure of a refresh and how often it came. -/
structure RefreshFailure where
  tsMs : Int
  reasonCode : String
  count : Int
deriving DecidableEq

/-- When and how the last result was refreshed. -/
structure RefreshMetadata where
  tsMs : Int
  status : RefreshStatus
  reasonCode : String
deriving DecidableEq

/-- What the service keeps; no result is an empty dictionary. -/
structure State where
  enabled : Bool
  approvedDestination : Text
  pendingDestination : Text
  lastPreviewId : Text
  lastPreviewDigest : Text
  lastPreviewTsMs : Int
  lastStatus : Status
  lastReasonCode : String
  lastResult : Option Result
  lastExecutedPreviewId : Text
  lastExecutedResult : Option Result
  refresh : RefreshMetadata
  failure : RefreshFailure
deriving DecidableEq

def State.default : State where
  enabled := false
  approvedDestination := []
  pendingDestination := []
  lastPreviewId := []
  lastPreviewDigest := []
  lastPreviewTsMs := 0
  lastStatus := .idle
  lastReasonCode := "not_configured"
  lastResult := none
  lastExecutedPreviewId := []
  lastExecutedResult := none
  refresh := ⟨0, .idle, "never_checked"⟩
  failure := ⟨0, "", 0⟩

def State.items (s : State) : List ResultItem := (s.lastResult.map Result.items).getD []

/-! ## The file -/

/-- What is at the path of the service; a torn file is not the JSON of a state. -/
inductive File where
  | missing
  | torn
  | saved (s : State)

/-- How a save ends: the state is written, the file cannot be opened, or it is left torn. -/
inductive Save where
  | written
  | unopened
  | torn
deriving DecidableEq

def File.load : File → State
  | .missing => State.default
  | .torn => { State.default with lastStatus := .degraded, lastReasonCode := "state_load_failed" }
  | .saved s => s

/-- `_save`: the file it leaves, whether or not it raises. -/
def File.save (file : File) (s : State) : Save → File
  | .written => .saved s
  | .unopened => file
  | .torn => .torn

@[simp] theorem File.load_saved (s : State) : (File.saved s).load = s := rfl

@[simp] theorem File.save_written (file : File) (s : State) : file.save s .written = .saved s := rfl

/-! ## Writers -/

def State.clearPreview (s : State) : State :=
  { s with
    lastPreviewId := []
    lastPreviewDigest := []
    lastPreviewTsMs := 0
    lastExecutedPreviewId := []
    lastExecutedResult := none }

/-- The fields `_persist_execute_outcome` writes before it saves; an empty preview id leaves the
executed preview as it was. -/
def State.withOutcome (s : State) (status : Status) (reasonCode : String) (result : Result)
    (previewId : Text) : State :=
  { s with
    lastStatus := status
    lastReasonCode := reasonCode
    lastResult := some result
    lastExecutedPreviewId := if previewId = [] then s.lastExecutedPreviewId else previewId
    lastExecutedResult := if previewId = [] then s.lastExecutedResult else some result }

/-- The outcome of a call that is turned away. -/
def State.block (s : State) (reasonCode : String) : State :=
  s.withOutcome .executeBlocked reasonCode (Result.blocked reasonCode) []

def State.clearRefreshFailure (s : State) : State := { s with failure := ⟨0, "", 0⟩ }

def State.clearRefreshMetadata (s : State) : State :=
  { s.clearRefreshFailure with refresh := ⟨0, .idle, "never_checked"⟩ }

end SovereignCapital.WithdrawAll
