import SovereignCapital.Lib.Sha256
import SovereignCapital.Tx.Confirmation

/-! # Reconcile requests

The part of `withdraw_external.py` that reads a request: the format checks, the digest that
binds an intent to its transaction, and the comparison with the configured chain and
executor and with the transaction the node shows. Fields are the texts `str` makes of the
JSON values; an absent field is the empty text.
-/

namespace SovereignCapital.Withdraw

open Bytes Tx

/-! ## Formats -/

def isEvmAddress (value : Text) : Bool :=
  let text := pyStrip value
  text.length == 42 && ((strip0x text).bind fromHex).isSome

def isTxHash (value : Text) : Bool :=
  let text := pyStrip value
  text.length == 66 && ((strip0x text).bind fromHex).isSome

/-- `_quantity` and `_chain_id`: the hexadecimal text of an integer, or the empty text. -/
def quantity (value : Text) : Text :=
  let text := pyStrip value
  if text = [] then []
  else
    let n := if "0x".toList.isPrefixOf text || "0X".toList.isPrefixOf text then pyInt 16 text
      else pyInt 10 text
    match n with
    | some n => pyHex n
    | none => []

/-! ## Requests -/

/-- The body of a reconcile request. `unexpected` are its field names outside the allowed
ones. -/
structure Request where
  unexpected : List Text
  intentId : Text
  txHash : Text
  chainId : Text
  fromAddress : Text
  dest : Text
  data : Text
  value : Text

def Request.stripped (r : Request) : Request :=
  { r with
    intentId := pyLower (pyStrip r.intentId)
    txHash := pyStrip r.txHash
    fromAddress := pyStrip r.fromAddress
    dest := pyStrip r.dest
    data := pyStrip r.data }

/-- `_intent_digest`: the hash of the canonical JSON of the transaction. -/
def intentDigest (r : Request) : Text :=
  let field := fun (name : String) (value : Text) => jsonString name.toList ++ ':' :: jsonString value
  let fields := [field "chainId" (quantity r.chainId), field "data" (pyLower r.data),
    field "from" (pyLower r.fromAddress), field "to" (pyLower r.dest),
    field "value" (quantity r.value)]
  toHex (Sha256.sha256 (encodeUtf8 ('\x7b' :: [','].intercalate fields ++ ['\x7d'])))

inductive RejectReason where
  | invalidUnknownRequestFields
  | invalidTxHash
  | invalidFromAddress
  | invalidDestination
  | invalidTxData
  | invalidChainId
  | invalidTxValue
  | invalidIntentId
  | intentMismatch
  | chainMismatch
  | invalidExecutorAddress
  | submittedExecutorMismatch
  | noRpcEndpoints
  | submittedSenderMismatch
  | submittedDestinationMismatch
  | submittedCalldataMismatch
  | submittedValueMismatch
  | submittedChainMismatch
deriving DecidableEq

/-- The configuration the handler reads. -/
structure Config where
  chainName : Text
  chainId : Int
  executorAddress : Text

/-- The chain name ledger rows carry. -/
def Config.chain (cfg : Config) : Text :=
  if cfg.chainName = [] then "default".toList else cfg.chainName

def Config.executor (cfg : Config) : Text := pyLower cfg.executorAddress

def firstReason : List (Bool × RejectReason) → Option RejectReason
  | [] => none
  | (failed, reason) :: rest => if failed then some reason else firstReason rest

/-- The checks on a stripped request before the node is asked; `none` when it passes. -/
def rejectRequest (cfg : Config) (readUrl : Bool) (r : Request) : Option RejectReason :=
  firstReason
    [(!r.unexpected.isEmpty, .invalidUnknownRequestFields),
     (!isTxHash r.txHash, .invalidTxHash),
     (!isEvmAddress r.fromAddress, .invalidFromAddress),
     (!isEvmAddress r.dest, .invalidDestination),
     ((strip0x r.data).isNone || decide (r.data.length < 4) || r.data.length % 2 != 0,
       .invalidTxData),
     (quantity r.chainId == [], .invalidChainId),
     (quantity r.value == [], .invalidTxValue),
     (r.intentId.length != 64, .invalidIntentId),
     (r.intentId != intentDigest r, .intentMismatch),
     (pyHex cfg.chainId != quantity r.chainId, .chainMismatch),
     (!isEvmAddress cfg.executor, .invalidExecutorAddress),
     (pyLower r.dest != cfg.executor, .submittedExecutorMismatch),
     (!readUrl, .noRpcEndpoints)]

structure NodeTx where
  sender : Text
  dest : Text
  input : Text
  value : Text
  chainId : Option Text

/-- The comparison of a request with the transaction it names; `none` when they agree. -/
def rejectTransaction (r : Request) (tx : NodeTx) : Option RejectReason :=
  firstReason
    [(pyLower tx.sender != pyLower r.fromAddress, .submittedSenderMismatch),
     (pyLower tx.dest != pyLower r.dest, .submittedDestinationMismatch),
     (pyLower tx.input != pyLower r.data, .submittedCalldataMismatch),
     (quantity tx.value != quantity r.value, .submittedValueMismatch),
     (quantity (tx.chainId.getD r.chainId) != quantity r.chainId, .submittedChainMismatch)]

/-! ## What an accepted request satisfies -/

theorem firstReason_eq_none {checks : List (Bool × RejectReason)} (h : firstReason checks = none) :
    ∀ check ∈ checks, check.1 = false := by
  induction checks with
  | nil => simp
  | cons check rest ih =>
    obtain ⟨failed, reason⟩ := check
    cases failed with
    | true => simp [firstReason] at h
    | false =>
      intro c hc
      rcases List.mem_cons.1 hc with rfl | hc
      · rfl
      · exact ih (by simpa [firstReason] using h) c hc

theorem firstReason_of_forall {checks : List (Bool × RejectReason)}
    (h : ∀ check ∈ checks, check.1 = false) : firstReason checks = none := by
  induction checks with
  | nil => rfl
  | cons check rest ih =>
    have hcheck : check.1 = false := h check (by simp)
    rw [firstReason, hcheck]
    exact ih fun c hc => h c (by simp [hc])

theorem txHash_ne_nil_of_rejectRequest {cfg : Config} {readUrl : Bool} {r : Request}
    (h : rejectRequest cfg readUrl r = none) : r.txHash ≠ [] := by
  have hcheck := firstReason_eq_none h _ (List.mem_of_getElem? (i := 1) rfl)
  intro hnil
  rw [hnil] at hcheck
  exact absurd hcheck (by decide)

theorem strip0x_of_rejectRequest {cfg : Config} {readUrl : Bool} {r : Request}
    (h : rejectRequest cfg readUrl r = none) : ∃ digits, strip0x r.data = some digits := by
  have hcheck := firstReason_eq_none h _ (List.mem_of_getElem? (i := 4) rfl)
  simp only [Bool.or_eq_false_iff] at hcheck
  exact Option.isSome_iff_exists.1 (by simpa using hcheck.1.1)

theorem input_of_rejectTransaction {r : Request} {tx : NodeTx}
    (h : rejectTransaction r tx = none) : pyLower tx.input = pyLower r.data := by
  have hcheck := firstReason_eq_none h _ (List.mem_of_getElem? (i := 2) rfl)
  simpa using hcheck

end SovereignCapital.Withdraw
