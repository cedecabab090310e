import SovereignCapital.Withdraw.Settlement
import SovereignCapital.Withdraw.Request

/-! # Reconciling external withdrawals

The handler of `withdraw_external.py`, the transaction it writes
(`canonical_external_withdrawal_transaction`) and the write itself
(`append_receipt_idempotent`). The node is a parameter: `Node` is what the chain fixes about
the transactions a hash text names, `Answers` what one request is told. The write is a
single conditional `INSERT`, so requests act on the ledger one after the other.
-/

namespace SovereignCapital.Withdraw

open Bytes Tx

/-! ## Ledger rows -/

structure Line where
  account : Text
  asset : Text
  amount : Int
  family : Text
  venue : Text
  note : Text
  amountRaw : Text
deriving DecidableEq

/-- A row of `treasury_ledger_transactions`. -/
structure LedgerRow where
  chain : Text
  transactionId : Text
  tsMs : Int
  txType : Text
  receiptId : Text
  lines : List Line
  metadata : List (Text × Option Text)
deriving DecidableEq

/-- `tx_type` of a withdrawal receipt. -/
def withdrawalTxType : Text := "external_withdrawal_settlement".toList

def isEquityAccount (account : Text) : Bool := "equity:".toList.isPrefixOf account

def LedgerRow.debit (row : LedgerRow) : Int :=
  -((row.lines.filter fun line => !isEquityAccount line.account).map Line.amount).sum

def intText (n : Int) : Text := (toString n).toList

def externalWithdrawalLines (token : Text) (amount : Nat) : List Line :=
  [⟨"asset:".toList ++ token, token, -(amount : Int), [], "WITHDRAW".toList,
      "external_withdrawal_settlement".toList, intText (-(amount : Int))⟩,
   ⟨"equity:external_withdrawal".toList, token, amount, [], "WITHDRAW".toList,
      "external_withdrawal_offset".toList, intText amount⟩]

def externalWithdrawalMetadata (r : Request) (destination : Text) (effect : WithdrawalEffect)
    (token : Text) : List (Text × Option Text) :=
  [("settlement_kind".toList, some "external_withdrawal".toList),
   ("settlement_status".toList, some "settled".toList),
   ("intent_id".toList, some r.intentId),
   ("tx_hash".toList, some r.txHash),
   ("from_address".toList, some (pyLower r.fromAddress)),
   ("destination".toList, some (pyLower destination)),
   ("calldata".toList, some (pyLower r.data)),
   ("token_in".toList, some (pyLower effect.tokenIn)),
   ("token_out".toList, some token),
   ("amount_in_base_units".toList, some (intText effect.amountIn)),
   ("amount_out_base_units".toList, some (intText effect.amountOut)),
   ("amount_unit".toList, some "token_base_units".toList),
   ("usd_value".toList, none),
   ("usd_value_status".toList, some "unvalued".toList)]

/-- `canonical_external_withdrawal_transaction`; nothing where it raises. The receipt id is
the hash as the request spells it. -/
def canonicalExternalWithdrawalTransaction (chain : Text) (r : Request) (destination : Text)
    (effect : WithdrawalEffect) (tsMs : Int) : Option LedgerRow :=
  let token := addressOf effect.tokenOut
  if token = [] ∨ effect.amountOut = 0 then none
  else some
    { chain := chain
      transactionId := "external-withdrawal-".toList ++ pyLower r.txHash
      tsMs := tsMs
      txType := withdrawalTxType
      receiptId := r.txHash
      lines := externalWithdrawalLines token effect.amountOut
      metadata := externalWithdrawalMetadata r destination effect token }

/-- `append_receipt_idempotent`: the ledger after the call and whether the row went in;
nothing where it raises `ValueError`. -/
def appendReceiptIdempotent (ledger : List LedgerRow) (row : LedgerRow) :
    Option (List LedgerRow × Bool) :=
  if row.receiptId = [] ∨ row.txType = [] then none
  else if ledger.any fun old =>
      old.chain == row.chain && old.receiptId == row.receiptId && old.txType == row.txType then
    some (ledger, false)
  else some (ledger ++ [row], true)

/-! ## The node -/

/-- What the chain fixes: the transaction a hash text names, its fields and its receipt. -/
structure Node (ι : Type) where
  resolve : Text → Option ι
  tx : ι → NodeTx
  receipt : ι → Receipt

/-- How the node answers a receipt lookup during one request. -/
inductive Lookup where
  | failed
  | absent
  | found
  | garbled

/-- How the database answers the write of one request. -/
inductive WriteFault where
  | none
  | caught
  | escapes

/-- What one request meets: endpoints, the node's answers, the database, the clock. -/
structure Answers where
  readUrl : Bool
  txVisible : Bool
  lookup : Lookup
  visibleAfterLookup : Bool
  ledgerAvailable : Bool
  write : WriteFault
  tsMs : Int

def Node.receiptAnswer {ι : Type} (node : Node ι) (txHash : Text) : Lookup → ReceiptAnswer
  | .failed => .failed
  | .absent => .absent
  | .garbled => .garbled
  | .found =>
    match node.resolve txHash with
    | some t => .receipt (node.receipt t)
    | none => .absent

/-! ## The handler -/

/-- The outcome of `_persist_settlement`. -/
inductive PersistOutcome where
  | settled (inserted : Bool) (transactionId : Text) (effect : WithdrawalEffect)
  | ledgerUnavailable
  | invalidRecipient
  | effectUnverified (e : EffectError)
  | persistFailed
  | raised

def persistSettlement (cfg : Config) (a : Answers) (ledger : List LedgerRow) (r : Request)
    (logs : List Log) : List LedgerRow × PersistOutcome :=
  if ¬ a.ledgerAvailable then (ledger, .ledgerUnavailable)
  else
    let destination := externalWithdrawalRecipient r.data
    if destination = [] then (ledger, .invalidRecipient)
    else
      match decodeExternalWithdrawalEffect logs cfg.executor r.data destination with
      | .error e => (ledger, .effectUnverified e)
      | .ok effect =>
        match canonicalExternalWithdrawalTransaction cfg.chain r destination effect a.tsMs with
        | none => (ledger, .raised)
        | some row =>
          match a.write with
          | .caught => (ledger, .persistFailed)
          | .escapes => (ledger, .raised)
          | .none =>
            match appendReceiptIdempotent ledger row with
            | none => (ledger, .persistFailed)
            | some (ledger, inserted) =>
              (ledger, .settled inserted row.transactionId effect)

inductive Response where
  | rejected (reason : RejectReason)
  | notVisible (status : SubmittedTxStatus)
  | reconciled (status : SubmittedTxStatus) (settlement : Option PersistOutcome)

def reconcileExternalWithdraw {ι : Type} (cfg : Config) (node : Node ι) (ledger : List LedgerRow)
    (request : Request) (a : Answers) : List LedgerRow × Response :=
  let r := request.stripped
  let status := assessSubmittedTx (node.receiptAnswer r.txHash a.lookup) a.visibleAfterLookup
    r.txHash "public".toList
  match rejectRequest cfg a.readUrl r with
  | some reason => (ledger, .rejected reason)
  | none =>
    match if a.txVisible then node.resolve r.txHash else none with
    | none => (ledger, .notVisible status)
    | some t =>
      match rejectTransaction r (node.tx t) with
      | some reason => (ledger, .rejected reason)
      | none =>
        if status.txStatus = .minedSuccess then
          let settled := persistSettlement cfg a ledger r
            ((status.receipt.map Receipt.logs).getD [])
          (settled.1, .reconciled status (some settled.2))
        else (ledger, .reconciled status none)

def reconcileAll {ι : Type} (cfg : Config) (node : Node ι) (ledger : List LedgerRow)
    (requests : List (Request × Answers)) : List LedgerRow :=
  requests.foldl (fun ledger ra => (reconcileExternalWithdraw cfg node ledger ra.1 ra.2).1) ledger

/-! ## What one request writes -/

/-- What the receipt of a transaction proves it withdrew; zero when it proves nothing. -/
def withdrawnAmount {ι : Type} (cfg : Config) (node : Node ι) (t : ι) : Nat :=
  let calldata := pyLower (node.tx t).input
  match decodeExternalWithdrawalEffect (node.receipt t).logs cfg.executor calldata
      (externalWithdrawalRecipient calldata) with
  | .ok effect => effect.amountOut
  | .error _ => 0

/-- The request names the mined transaction `t` and passes every check, the receipt proves a
withdrawal, and the ledger takes the write. -/
structure Settles {ι : Type} (cfg : Config) (node : Node ι) (request : Request) (a : Answers)
    (t : ι) : Prop where
  accepted : rejectRequest cfg a.readUrl request.stripped = none
  visible : a.txVisible = true
  resolves : node.resolve (pyStrip request.txHash) = some t
  agrees : rejectTransaction request.stripped (node.tx t) = none
  found : a.lookup = .found
  success : decodeHexInt (node.receipt t).status = some 1
  proved : withdrawnAmount cfg node t ≠ 0
  available : a.ledgerAvailable = true
  written : a.write = .none

/-- The row is the one a request writes for the transaction `t`. -/
structure RowOf {ι : Type} (cfg : Config) (node : Node ι) (request : Request) (t : ι)
    (row : LedgerRow) : Prop where
  chain : row.chain = cfg.chain
  txType : row.txType = withdrawalTxType
  receiptId : row.receiptId = pyStrip request.txHash
  debit : row.debit = withdrawnAmount cfg node t

/-- Calldata starting with `0x` decodes alike in either case. -/
theorem hexBytes_pyLower {calldata digits : Text} (h : strip0x (pyStrip calldata) = some digits) :
    hexBytes (pyLower calldata) = hexBytes calldata := by
  simp only [hexBytes, pyStrip_pyLower, length_pyLower, strip0x_pyLower h, h, Option.bind_some,
    fromHex_pyLower]

theorem externalWithdrawalRecipient_congr {c c' : Text} (h : hexBytes c = hexBytes c') :
    externalWithdrawalRecipient c = externalWithdrawalRecipient c' := by
  simp only [externalWithdrawalRecipient, calldataWords, h]

theorem decode_congr {c c' : Text} (h : hexBytes c = hexBytes c') (logs : List Log)
    (executor destination : Text) :
    decodeExternalWithdrawalEffect logs executor c destination
      = decodeExternalWithdrawalEffect logs executor c' destination := by
  simp only [decodeExternalWithdrawalEffect, withdrawalCalldataKind, decodeWithdrawalComponents,
    withdrawalInputs, calldataWords, h]

theorem debit_canonical {chain : Text} {r : Request} {destination : Text}
    {effect : WithdrawalEffect} {tsMs : Int} {row : LedgerRow}
    (h : canonicalExternalWithdrawalTransaction chain r destination effect tsMs = some row) :
    row.chain = chain ∧ row.txType = withdrawalTxType ∧ row.receiptId = r.txHash
      ∧ row.debit = effect.amountOut ∧ effect.amountOut ≠ 0 := by
  simp only [canonicalExternalWithdrawalTransaction] at h
  split at h
  · cases h
  · rename_i hvalid
    cases h
    refine ⟨rfl, rfl, rfl, ?_, fun hzero => hvalid (Or.inr hzero)⟩
    have hasset : isEquityAccount ("asset:".toList ++ addressOf effect.tokenOut) = false := rfl
    have hequity : isEquityAccount "equity:external_withdrawal".toList = true := rfl
    simp only [LedgerRow.debit, externalWithdrawalLines, List.filter_cons, hasset, hequity]
    simp

theorem appendReceiptIdempotent_cases {ledger ledger' : List LedgerRow} {row : LedgerRow}
    {inserted : Bool} (h : appendReceiptIdempotent ledger row = some (ledger', inserted)) :
    ledger' = ledger ∨ (ledger' = ledger ++ [row] ∧ ∀ old ∈ ledger, old.chain = row.chain →
      old.txType = row.txType → old.receiptId ≠ row.receiptId) := by
  unfold appendReceiptIdempotent at h
  split at h
  · cases h
  · split at h
    · cases h
      exact Or.inl rfl
    · rename_i hnew
      cases h
      refine Or.inr ⟨rfl, fun old hold hchain htype hid => hnew ?_⟩
      rw [List.any_eq_true]
      exact ⟨old, hold, by simp [hchain, htype, hid]⟩

theorem persistSettlement_cases (cfg : Config) (a : Answers) (ledger : List LedgerRow)
    (r : Request) (logs : List Log) :
    (persistSettlement cfg a ledger r logs).1 = ledger ∨
      ∃ effect row, a.ledgerAvailable = true ∧ a.write = .none
          ∧ decodeExternalWithdrawalEffect logs cfg.executor r.data
              (externalWithdrawalRecipient r.data) = .ok effect
          ∧ canonicalExternalWithdrawalTransaction cfg.chain r (externalWithdrawalRecipient r.data)
              effect a.tsMs = some row
          ∧ (persistSettlement cfg a ledger r logs).1 = ledger ++ [row]
          ∧ ∀ old ∈ ledger, old.chain = row.chain → old.txType = row.txType →
              old.receiptId ≠ row.receiptId := by
  simp only [persistSettlement]
  by_cases hledger : a.ledgerAvailable
  · simp only [hledger, not_true, if_false]
    by_cases hdest : externalWithdrawalRecipient r.data = []
    · simp [hdest]
    · simp only [hdest, if_false]
      cases hdecode : decodeExternalWithdrawalEffect logs cfg.executor r.data
          (externalWithdrawalRecipient r.data) with
      | error e => exact Or.inl rfl
      | ok effect =>
        simp only
        cases hrow : canonicalExternalWithdrawalTransaction cfg.chain r
            (externalWithdrawalRecipient r.data) effect a.tsMs with
        | none => exact Or.inl rfl
        | some row =>
          simp only
          cases hwrite : a.write with
          | caught => exact Or.inl rfl
          | escapes => exact Or.inl rfl
          | none =>
            simp only
            cases happend : appendReceiptIdempotent ledger row with
            | none => exact Or.inl rfl
            | some result =>
              obtain ⟨ledger', inserted⟩ := result
              rcases appendReceiptIdempotent_cases happend with hsame | ⟨hnew, hfresh⟩
              · exact Or.inl hsame
              · exact Or.inr ⟨effect, row, trivial, trivial, rfl, hrow, hnew, hfresh⟩
  · simp [hledger]

theorem withdrawnAmount_of_decode {ι : Type} {cfg : Config} {node : Node ι} {t : ι}
    {calldata : Text} {effect : WithdrawalEffect} (hinput : pyLower (node.tx t).input = calldata)
    (hdecode : decodeExternalWithdrawalEffect (node.receipt t).logs cfg.executor calldata
      (externalWithdrawalRecipient calldata) = .ok effect) :
    withdrawnAmount cfg node t = effect.amountOut := by
  simp only [withdrawnAmount, hinput, hdecode]

theorem decode_of_agrees {ι : Type} {cfg : Config} {node : Node ι} {request : Request} {t : ι}
    {digits : Text} (hdata : strip0x request.stripped.data = some digits)
    (hagrees : rejectTransaction request.stripped (node.tx t) = none) :
    withdrawnAmount cfg node t
      = match decodeExternalWithdrawalEffect (node.receipt t).logs cfg.executor
            request.stripped.data (externalWithdrawalRecipient request.stripped.data) with
        | .ok effect => effect.amountOut
        | .error _ => 0 := by
  have hcase : hexBytes (pyLower (node.tx t).input) = hexBytes request.stripped.data := by
    rw [input_of_rejectTransaction hagrees]
    exact hexBytes_pyLower (by simpa [Request.stripped] using hdata)
  simp only [withdrawnAmount, externalWithdrawalRecipient_congr hcase, decode_congr hcase]

/-- **What one request does to the ledger**: nothing, or one row for the mined transaction
its hash names, under the hash as it was spelled. -/
theorem reconcile_cases {ι : Type} (cfg : Config) (node : Node ι) (ledger : List LedgerRow)
    (request : Request) (a : Answers) :
    (reconcileExternalWithdraw cfg node ledger request a).1 = ledger ∨
      ∃ t row, Settles cfg node request a t ∧ RowOf cfg node request t row
        ∧ (reconcileExternalWithdraw cfg node ledger request a).1 = ledger ++ [row]
        ∧ ∀ old ∈ ledger, old.chain = row.chain → old.txType = row.txType →
            old.receiptId ≠ row.receiptId := by
  simp only [reconcileExternalWithdraw]
  cases hreject : rejectRequest cfg a.readUrl request.stripped with
  | some reason => exact Or.inl rfl
  | none =>
    cases hvisible : if a.txVisible then node.resolve request.stripped.txHash else none with
    | none => exact Or.inl rfl
    | some t =>
      obtain ⟨hv, hresolve⟩ :
          a.txVisible = true ∧ node.resolve request.stripped.txHash = some t := by
        by_cases hv : a.txVisible
        · exact ⟨hv, by simpa [hv] using hvisible⟩
        · simp [hv] at hvisible
      simp only
      cases htx : rejectTransaction request.stripped (node.tx t) with
      | some reason => exact Or.inl rfl
      | none =>
        simp only
        split
        · rename_i hstatus
          obtain ⟨receipt, hanswer, hone, hreceipt⟩ := assessSubmittedTx_minedSuccess hstatus
          -- The receipt of a success is the one the chain fixed for the transaction.
          obtain ⟨hfound, hmined⟩ : a.lookup = .found ∧ receipt = node.receipt t := by
            cases hlookup : a.lookup <;>
              simp_all [Node.receiptAnswer]
          rw [hmined] at hone
          rw [hreceipt, hmined, Option.map_some, Option.getD_some]
          rcases persistSettlement_cases cfg a ledger request.stripped
              (node.receipt t).logs with
            hsame | ⟨effect, row, hledger, hwrite, hdecode, hrow, hnew, hfresh⟩
          · exact Or.inl hsame
          · right
            obtain ⟨hchain, htype, hid, hdebit, hpos⟩ := debit_canonical hrow
            obtain ⟨digits, hdigits⟩ := strip0x_of_rejectRequest hreject
            have hamount : withdrawnAmount cfg node t = effect.amountOut := by
              rw [decode_of_agrees hdigits htx, hdecode]
            have hproved : withdrawnAmount cfg node t ≠ 0 := by rwa [hamount]
            exact ⟨t, row, ⟨hreject, hv, hresolve, htx, hfound, hone, hproved, hledger, hwrite⟩,
              ⟨hchain, htype, hid, by rw [hdebit, hamount]⟩, hnew, hfresh⟩
        · exact Or.inl rfl

theorem appendReceiptIdempotent_mem {ledger : List LedgerRow} {row : LedgerRow}
    (hid : row.receiptId ≠ []) (htype : row.txType ≠ []) :
    ∃ ledger' inserted, appendReceiptIdempotent ledger row = some (ledger', inserted)
      ∧ ∃ kept ∈ ledger', kept.chain = row.chain ∧ kept.txType = row.txType
          ∧ kept.receiptId = row.receiptId := by
  unfold appendReceiptIdempotent
  rw [if_neg (by simp [hid, htype])]
  split
  · rename_i hany
    obtain ⟨old, hold, hsame⟩ := List.any_eq_true.1 hany
    simp only [Bool.and_eq_true, beq_iff_eq] at hsame
    exact ⟨ledger, false, rfl, old, hold, hsame.1.1, hsame.2, hsame.1.2⟩
  · exact ⟨ledger ++ [row], true, rfl, row, by simp, rfl, rfl, rfl⟩

/-- After a request that settles, the ledger holds a receipt under the hash it spelled. -/
theorem reconcile_of_settles {ι : Type} {cfg : Config} {node : Node ι} {request : Request}
    {a : Answers} {t : ι} (ledger : List LedgerRow) (h : Settles cfg node request a t) :
    ∃ row ∈ (reconcileExternalWithdraw cfg node ledger request a).1,
      row.chain = cfg.chain ∧ row.txType = withdrawalTxType
        ∧ row.receiptId = pyStrip request.txHash := by
  obtain ⟨digits, hdigits⟩ := strip0x_of_rejectRequest h.accepted
  have hresolve : node.resolve request.stripped.txHash = some t := h.resolves
  have hid : request.stripped.txHash ≠ [] := txHash_ne_nil_of_rejectRequest h.accepted
  have hanswer : node.receiptAnswer request.stripped.txHash a.lookup
      = .receipt (node.receipt t) := by
    rw [h.found]
    simp only [Node.receiptAnswer, hresolve]
  have hproved := h.proved
  rw [decode_of_agrees hdigits h.agrees] at hproved
  cases hdecode : decodeExternalWithdrawalEffect (node.receipt t).logs cfg.executor
      request.stripped.data (externalWithdrawalRecipient request.stripped.data) with
  | error e => simp [hdecode] at hproved
  | ok effect =>
    rw [hdecode] at hproved
    obtain ⟨hrecipient, n, htoken⟩ := decode_ok hdecode
    have hcanonical : ∃ row, canonicalExternalWithdrawalTransaction cfg.chain request.stripped
        (externalWithdrawalRecipient request.stripped.data) effect a.tsMs = some row := by
      simp only [canonicalExternalWithdrawalTransaction, htoken, addressOf_wordAddress]
      rw [if_neg (by simp [wordAddress_ne_nil, hproved])]
      exact ⟨_, rfl⟩
    obtain ⟨row, hrow⟩ := hcanonical
    obtain ⟨hchain, htype, hreceipt, -, -⟩ := debit_canonical hrow
    obtain ⟨ledger', inserted, happend, kept, hkept, hc, ht, hr⟩ :=
      @appendReceiptIdempotent_mem ledger row (by rwa [hreceipt])
        (by rw [htype]; decide)
    refine ⟨kept, ?_, by rw [hc, hchain], by rw [ht, htype], by rw [hr, hreceipt]; rfl⟩
    simp only [reconcileExternalWithdraw, h.accepted, h.visible, if_true, hresolve, h.agrees,
      hanswer, assessSubmittedTx, h.success, Option.map_some, Option.getD_some,
      persistSettlement, h.available, not_true, if_false, hrecipient, hdecode, hrow, h.written,
      happend]
    exact hkept

end SovereignCapital.Withdraw
