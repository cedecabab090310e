import SovereignCapital.Withdraw.Executor

/-! # Decoding an external withdrawal

`external_withdrawal_settlement.py`: the effect of a withdrawal is read back from the mined
receipt and checked against the calldata of the transaction. The decoder accepts exactly
one log of the executor that names the destination; which topic names it is fixed per
event (`destinationTopicIndex`).
-/

namespace SovereignCapital.Withdraw

open Bytes Abi Tx

def withdrawalEventSig : Text := "Withdrawal(address,address,uint256)".toList

def convertedEventSig : Text :=
  "ConvertedAndWithdrawn(address,address,uint256,uint256,address)".toList

def withdrawalTopic0 : Text := topic0 withdrawalEventSig

def convertedTopic0 : Text := topic0 convertedEventSig

/-- The reason codes of the decoder. -/
inductive EffectError where
  | invalidSettlementIdentity
  | invalidSettlementCalldata
  | unsupportedWithdrawalCalldata
  | invalidWithdrawCalldata
  | invalidConvertWithdrawCalldata
  | calldataDestinationMismatch
  | invalidWithdrawAmount
  | invalidConvertAmountIn
  | withdrawalReceiptEventMissing
  | convertReceiptEventMissing
  | ambiguousWithdrawalReceiptEvent
  | ambiguousConvertReceiptEvent
  | withdrawalEventMismatch
  | convertEventMismatch
deriving DecidableEq

inductive EffectKind where
  | withdraw
  | convertAndWithdraw
deriving DecidableEq

/-- The effect a decoded receipt proves; amounts are in base units of the token. -/
structure WithdrawalEffect where
  kind : EffectKind
  token : Text
  amount : Nat
  tokenIn : Text
  tokenOut : Text
  amountIn : Nat
  amountOut : Nat
  minOut : Option Nat
deriving DecidableEq

/-! ## Reading texts -/

def hexBytes (value : Text) : Option (List Byte) :=
  let text := pyStrip value
  if text.length % 2 = 0 then (strip0x text).bind fromHex else none

/-- `_address`: the lower-case address, or the empty text. -/
def addressOf (value : Text) : Text :=
  let text := pyLower (pyStrip value)
  match strip0x text with
  | some digits => if text.length = 42 ∧ (fromHex digits).isSome then text else []
  | none => []

/-- `_topic_address`: the address in the last forty digits of a topic, or the empty text. -/
def topicAddress (value : Text) : Text :=
  let raw := pyLower (pyStrip value)
  let raw := (strip0x raw).getD raw
  if raw.length = 64 ∧ (fromHex raw).isSome then with0x (raw.drop 24) else []

def uintWord (data : List Byte) (index : Nat) : Option Nat :=
  if data.length < index * 32 + 32 then none else some (beNat ((data.drop (index * 32)).take 32))

/-- `_calldata_words`: the words after the selector. -/
def calldataWords (data : Text) (count : Nat) : Option (List Nat) :=
  match hexBytes data with
  | none => none
  | some raw =>
    if raw.length < 4 + 32 * count then none
    else some ((List.range count).map fun i => beNat ((raw.drop (4 + i * 32)).take 32))

/-- `_word_address`: the last forty of the sixty-four digits of a word. -/
def wordAddress (word : Nat) : Text := with0x ((toHex (beBytes 32 word)).drop 24)

def externalWithdrawalRecipient (calldata : Text) : Text :=
  match hexBytes calldata with
  | none => []
  | some raw =>
    if raw.take 4 = selector withdrawSig then
      match calldataWords calldata 3 with
      | some words => wordAddress (words.getD 1 0)
      | none => []
    else if raw.take 4 = selector convertWithdrawSig then
      match calldataWords calldata 7 with
      | some words => wordAddress (words.getD 4 0)
      | none => []
    else []

/-! ## Finding the log -/

def destinationTopicIndex (topic : Text) : Option Nat :=
  if topic = pyLower convertedTopic0 then some 3
  else if topic = pyLower withdrawalTopic0 then some 2
  else none

def logMatchesWithdrawalDestination (log : Log) (executor destination : Text) : Bool :=
  if addressOf log.address ≠ executor then false
  else
    match log.topics with
    | [] => false
    | topic :: _ =>
      match destinationTopicIndex (pyLower topic) with
      | none => false
      | some i =>
        match log.topics[i]? with
        | none => false
        | some t => topicAddress t == destination

def matchingLogs (logs : List Log) (executor destination : Text) : List Log :=
  logs.filter fun log =>
    logMatchesWithdrawalDestination log (addressOf executor) (addressOf destination)

/-- `_event_log`: the topics and the data of the one matching log of the event. -/
def eventLog (logs : List Log) (executor destination eventTopic : Text) (topicIndex : Nat)
    (missing ambiguous : EffectError) : Except EffectError (List Text × List Byte) :=
  match (matchingLogs logs executor destination).filter
      fun log => pyLower (log.topics.headD []) == pyLower eventTopic with
  | [] => .error missing
  | [log] =>
    if log.topics.length ≤ topicIndex then .error missing
    else .ok (log.topics, (hexBytes log.data).getD [])
  | _ => .error ambiguous

/-! ## Expected inputs and observed event -/

/-- What the calldata asks for. -/
structure WithdrawalInputs where
  tokenIn : Text
  tokenOut : Text
  amountIn : Nat
  minOut : Nat
  destination : Text

/-- What the log reports. -/
structure WithdrawalEvent where
  tokenIn : Text
  tokenOut : Text
  amountIn : Option Nat
  amountOut : Option Nat

def withdrawalInputs (calldata destination : Text) (converted : Bool) :
    Except EffectError WithdrawalInputs :=
  match calldataWords calldata (if converted then 7 else 3) with
  | none =>
    .error (if converted then .invalidConvertWithdrawCalldata else .invalidWithdrawCalldata)
  | some words =>
    let w := fun i => words.getD i 0
    let expected : WithdrawalInputs :=
      if converted then
        ⟨wordAddress (w 0), wordAddress (w 1), w 2, w 3, wordAddress (w 4)⟩
      else ⟨wordAddress (w 0), wordAddress (w 0), w 2, 0, wordAddress (w 1)⟩
    if expected.destination ≠ destination then .error .calldataDestinationMismatch
    else if expected.amountIn = 0 then
      .error (if converted then .invalidConvertAmountIn else .invalidWithdrawAmount)
    else .ok expected

def withdrawalEvent (logs : List Log) (executor destination : Text) (converted : Bool) :
    Except EffectError WithdrawalEvent :=
  if converted then
    match eventLog logs executor destination convertedTopic0 3 .convertReceiptEventMissing
        .ambiguousConvertReceiptEvent with
    | .error e => .error e
    | .ok (topics, data) =>
      .ok ⟨topicAddress (topics.getD 1 []), topicAddress (topics.getD 2 []), uintWord data 0,
        uintWord data 1⟩
  else
    match eventLog logs executor destination withdrawalTopic0 2 .withdrawalReceiptEventMissing
        .ambiguousWithdrawalReceiptEvent with
    | .error e => .error e
    | .ok (topics, data) =>
      .ok ⟨topicAddress (topics.getD 1 []), topicAddress (topics.getD 1 []), uintWord data 0,
        uintWord data 0⟩

def buildConvertEffect (expected : WithdrawalInputs) (event : WithdrawalEvent) :
    Except EffectError WithdrawalEffect :=
  match event.amountOut with
  | none => .error .convertEventMismatch
  | some amountOut =>
    if event.tokenIn = expected.tokenIn ∧ event.tokenOut = expected.tokenOut
        ∧ event.amountIn = some expected.amountIn ∧ expected.minOut ≤ amountOut
        ∧ 0 < amountOut then
      .ok ⟨.convertAndWithdraw, event.tokenOut, amountOut, event.tokenIn, event.tokenOut,
        expected.amountIn, amountOut, some expected.minOut⟩
    else .error .convertEventMismatch

def buildWithdrawEffect (expected : WithdrawalInputs) (event : WithdrawalEvent) :
    Except EffectError WithdrawalEffect :=
  if event.tokenIn ≠ expected.tokenIn ∨ event.amountIn ≠ some expected.amountIn then
    .error .withdrawalEventMismatch
  else
    .ok ⟨.withdraw, event.tokenIn, expected.amountIn, event.tokenIn, event.tokenIn,
      expected.amountIn, expected.amountIn, none⟩

def withdrawalCalldataKind (calldata : Text) : Except EffectError Bool :=
  match hexBytes calldata with
  | none => .error .invalidSettlementCalldata
  | some raw =>
    if raw.length < 4 then .error .invalidSettlementCalldata
    else if raw.take 4 = selector withdrawSig then .ok false
    else if raw.take 4 = selector convertWithdrawSig then .ok true
    else .error .unsupportedWithdrawalCalldata

def decodeWithdrawalComponents (logs : List Log) (executor calldata destination : Text)
    (converted : Bool) : Except EffectError WithdrawalEffect := do
  let expected ← withdrawalInputs calldata destination converted
  let event ← withdrawalEvent logs executor destination converted
  if converted then buildConvertEffect expected event else buildWithdrawEffect expected event

def decodeExternalWithdrawalEffect (logs : List Log) (executor calldata destination : Text) :
    Except EffectError WithdrawalEffect :=
  let executor := addressOf executor
  let destination := addressOf destination
  if executor = [] ∨ destination = [] then .error .invalidSettlementIdentity
  else do
    let converted ← withdrawalCalldataKind calldata
    decodeWithdrawalComponents logs executor calldata destination converted

/-! ## What an effect says -/

theorem wordAddress_ne_nil (n : Nat) : wordAddress n ≠ [] := by
  unfold wordAddress with0x
  exact List.cons_ne_nil _ _

theorem addressOf_wordAddress (n : Nat) : addressOf (wordAddress n) = wordAddress n := by
  have hdrop : (toHex (beBytes 32 n)).drop 24 = toHex ((beBytes 32 n).drop 12) :=
    toHex_drop (beBytes 32 n) 12
  have hlen : (with0x (toHex ((beBytes 32 n).drop 12))).length = 42 := by simp
  unfold wordAddress addressOf
  rw [hdrop]
  simp only [pyStrip_with0x_toHex, pyLower_with0x_toHex, strip0x_with0x, fromHex_toHex, hlen,
    Option.isSome_some, and_self, if_true]

theorem withdrawalInputs_tokens {calldata destination : Text} {converted : Bool}
    {expected : WithdrawalInputs} (h : withdrawalInputs calldata destination converted
      = .ok expected) :
    ∃ n m, expected.tokenIn = wordAddress n ∧ expected.tokenOut = wordAddress m
      ∧ (converted = false → n = m) := by
  unfold withdrawalInputs at h
  split at h
  · cases h
  · rename_i words _
    simp only at h
    cases converted <;> simp only [if_true, if_false, Bool.false_eq_true] at h <;>
      split at h
    · cases h
    · split at h
      · cases h
      · cases h
        exact ⟨words.getD 0 0, words.getD 0 0, rfl, rfl, fun _ => rfl⟩
    · cases h
    · split at h
      · cases h
      · cases h
        exact ⟨words.getD 0 0, words.getD 1 0, rfl, rfl, fun hc => by cases hc⟩

theorem decode_ok {logs : List Log} {executor calldata destination : Text}
    {effect : WithdrawalEffect}
    (h : decodeExternalWithdrawalEffect logs executor calldata destination = .ok effect) :
    destination ≠ [] ∧ ∃ n, effect.tokenOut = wordAddress n := by
  simp only [decodeExternalWithdrawalEffect] at h
  split at h
  · cases h
  · rename_i hidentity
    refine ⟨fun hnil => hidentity (Or.inr (by rw [hnil]; rfl)), ?_⟩
    cases hkind : withdrawalCalldataKind calldata with
    | error e => simp [hkind, bind, Except.bind] at h
    | ok converted =>
      simp only [hkind, bind, Except.bind, decodeWithdrawalComponents] at h
      split at h
      · cases h
      · rename_i expected hexpected
        obtain ⟨n, m, hin, hout, hsame⟩ := withdrawalInputs_tokens hexpected
        split at h
        · cases h
        · rename_i event _
          cases converted with
          | true =>
            simp only [if_true, buildConvertEffect] at h
            split at h
            · cases h
            · split at h
              · rename_i hvalid
                cases h
                exact ⟨m, hvalid.2.1.trans hout⟩
              · cases h
          | false =>
            simp only [Bool.false_eq_true, if_false, buildWithdrawEffect] at h
            split at h
            · cases h
            · rename_i hvalid
              cases h
              exact ⟨n, (not_not.1 (not_or.1 hvalid).1).trans hin⟩

end SovereignCapital.Withdraw
