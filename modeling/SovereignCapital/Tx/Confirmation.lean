import SovereignCapital.Lib.PyText

/-! # Status of a submitted transaction

`tx_confirmation.py`: one look at a node classifies a transaction that was handed to the
network. The node's answers are arguments; nothing waits.
-/

namespace SovereignCapital.Tx

open Bytes

/-! ## Receipts -/

/-- A log as a node reports it in a receipt. -/
structure Log where
  address : Text
  topics : List Text
  data : Text
deriving DecidableEq

/-- A quantity as it stands in the JSON of a node. -/
inductive RawQuantity where
  | absent
  | int (n : Int)
  | text (t : Text)
  | other
deriving DecidableEq

/-- The fields of a mined receipt that are read. -/
structure Receipt where
  status : RawQuantity
  blockNumber : RawQuantity
  logs : List Log
deriving DecidableEq

def decodeHexInt : RawQuantity → Option Int
  | .absent => none
  | .other => none
  | .int n => some n
  | .text t =>
    let t := pyStrip t
    if t = [] then none else if (strip0x t).isSome then pyInt 16 t else pyInt 10 t

/-! ## Classification -/

/-- The statuses of a submitted transaction. -/
inductive TxStatus where
  | minedSuccess
  | minedReverted
  | pending
  | sent
  | receiptUnavailable
  | dropped
  | unknown
deriving DecidableEq

inductive ProofReason where
  | receiptMined
  | receiptObserved
  | receiptLookupDegraded
  | privateNoPublicReceipt
  | txVisible
  | txNotVisible
deriving DecidableEq

structure SubmittedTxStatus where
  txHash : Text
  txStatus : TxStatus
  receiptStatus : Option Int
  blockNumber : Option Int
  receipt : Option Receipt
  proofReason : ProofReason
deriving DecidableEq

/-- The answer to `eth_getTransactionReceipt`: the call failed, nothing is there yet, a
receipt, or something that is no receipt. -/
inductive ReceiptAnswer where
  | failed
  | absent
  | receipt (r : Receipt)
  | garbled
deriving DecidableEq

/-- Whether a send mode keeps the transaction out of the public pool. -/
def isPrivateSend (sendMode : Text) : Bool :=
  let mode := if sendMode = [] then "public".toList else sendMode
  let mode := pyLower (pyStrip mode)
  mode == "private".toList || mode == "protected_rpc".toList

/-- `assess_submitted_tx`: `answer` is what the node says about the receipt, `visible`
whether it shows the transaction. -/
def assessSubmittedTx (answer : ReceiptAnswer) (visible : Bool) (txHash sendMode : Text) :
    SubmittedTxStatus :=
  let plain := fun status reason =>
    { txHash := txHash, txStatus := status, receiptStatus := none, blockNumber := none,
      receipt := none, proofReason := reason : SubmittedTxStatus }
  let degraded :=
    plain (if isPrivateSend sendMode then .sent else .receiptUnavailable) .receiptLookupDegraded
  match answer with
  | .receipt r =>
    let block := decodeHexInt r.blockNumber
    if decodeHexInt r.status = some 1 then
      ⟨txHash, .minedSuccess, some 1, block, some r, .receiptMined⟩
    else if decodeHexInt r.status = some 0 then
      ⟨txHash, .minedReverted, some 0, block, some r, .receiptMined⟩
    else ⟨txHash, .receiptUnavailable, none, block, some r, .receiptObserved⟩
  | .garbled => degraded
  | .failed => degraded
  | .absent =>
    if isPrivateSend sendMode then plain .sent .privateNoPublicReceipt
    else if visible then plain .pending .txVisible
    else plain .receiptUnavailable .txNotVisible

theorem assessSubmittedTx_txHash (answer : ReceiptAnswer) (visible : Bool)
    (txHash sendMode : Text) :
    (assessSubmittedTx answer visible txHash sendMode).txHash = txHash := by
  unfold assessSubmittedTx
  split <;> repeat' split
  all_goals rfl

/-- The statuses an assessment gives. -/
theorem assessSubmittedTx_txStatus (answer : ReceiptAnswer) (visible : Bool)
    (txHash sendMode : Text) :
    (assessSubmittedTx answer visible txHash sendMode).txStatus
      ∈ [TxStatus.minedSuccess, .minedReverted, .pending, .sent, .receiptUnavailable] := by
  unfold assessSubmittedTx
  split <;> repeat' split
  all_goals simp

/-- A success is only ever reported together with the receipt that proves it. -/
theorem assessSubmittedTx_minedSuccess {answer : ReceiptAnswer} {visible : Bool}
    {txHash sendMode : Text}
    (h : (assessSubmittedTx answer visible txHash sendMode).txStatus = .minedSuccess) :
    ∃ r, answer = .receipt r ∧ decodeHexInt r.status = some 1
      ∧ (assessSubmittedTx answer visible txHash sendMode).receipt = some r := by
  cases answer with
  | receipt r =>
    refine ⟨r, rfl, ?_⟩
    unfold assessSubmittedTx at h ⊢
    by_cases h1 : decodeHexInt r.status = some 1
    · simp [h1]
    · by_cases h0 : decodeHexInt r.status = some 0 <;> simp [h1, h0] at h
  | failed =>
    unfold assessSubmittedTx at h
    by_cases hp : isPrivateSend sendMode <;> simp [hp] at h
  | garbled =>
    unfold assessSubmittedTx at h
    by_cases hp : isPrivateSend sendMode <;> simp [hp] at h
  | absent =>
    unfold assessSubmittedTx at h
    by_cases hp : isPrivateSend sendMode
    · simp [hp] at h
    · by_cases hv : visible <;> simp [hp, hv] at h

end SovereignCapital.Tx
