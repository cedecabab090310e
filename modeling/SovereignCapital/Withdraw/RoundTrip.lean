import SovereignCapital.Withdraw.Settlement

/-! # Emitter against decoder

The log a successful owner call emits and the calldata built for it, read back by the
decoder. The emitter is laid out word by word (`calldataWords_flatten`, `uintWord_flatten`),
so each field the decoder reads is one word of the emitter. The two sides agree on
`Withdrawal`; on `ConvertedAndWithdrawn` they do not, since the event declares its
destination without `indexed` and the decoder looks for it among the topics.
-/

namespace SovereignCapital.Withdraw

open Bytes Abi Tx

/-! ## Fields -/

theorem addressOf_spelled (s : SpelledAddress) : addressOf s.text = s.address.text := by
  have hlower : pyLower (pyStrip s.text) = with0x (toHex s.address.bytes) := by
    rw [s.pyStrip_text, s.spells, Address.text]
  have hlen : (with0x (toHex s.address.bytes)).length = 42 := s.address.length_text
  unfold addressOf
  rw [hlower]
  simp only [strip0x_with0x, hlen, fromHex_toHex, Option.isSome_some, and_self, if_true]
  rfl

theorem addressOf_text (a : Address) : addressOf a.text = a.text := addressOf_spelled a.spelled

theorem topicAddress_word (a : Address) : topicAddress (with0x (toHex a.word)) = a.text := by
  unfold topicAddress
  simp only [pyStrip_with0x_toHex, pyLower_with0x_toHex, strip0x_with0x, Option.getD_some,
    length_toHex, Address.length_word, fromHex_toHex, Option.isSome_some, and_self, if_true,
    toHex_word_drop]
  rfl

theorem wordAddress_word (a : Address) : wordAddress (beNat a.word) = a.text := by
  have hword : beBytes 32 (beNat a.word) = a.word := by
    have h := beBytes_beNat a.word
    rwa [a.length_word] at h
  unfold wordAddress
  rw [hword, toHex_word_drop]
  rfl

theorem hexBytes_with0x_toHex (bs : List Byte) : hexBytes (with0x (toHex bs)) = some bs := by
  have heven : (with0x (toHex bs)).length % 2 = 0 := by
    rw [length_with0x, length_toHex]
    omega
  unfold hexBytes
  simp only [pyStrip_with0x_toHex, heven, if_true, strip0x_with0x, Option.bind_some, fromHex_toHex]

/-! ## Words -/

def AbiWords (ws : List (List Byte)) : Prop := ∀ w ∈ ws, w.length = 32

theorem take_drop_words {ws : List (List Byte)} (h : AbiWords ws) {i : Nat}
    (hi : i < ws.length) : (ws.flatten.drop (i * 32)).take 32 = ws[i] := by
  rw [Nat.mul_comm, take_drop_flatten h, List.getElem?_eq_getElem hi, Option.getD_some]

theorem uintWord_flatten (ws : List (List Byte)) (h : AbiWords ws) (i : Nat)
    (hi : i < ws.length) : uintWord ws.flatten i = some (beNat ws[i]) := by
  have hlen := length_flatten_of_length h
  unfold uintWord
  rw [if_neg (by omega), take_drop_words h hi]

theorem calldataWords_flatten {sel : List Byte} (hsel : sel.length = 4) {ws : List (List Byte)}
    (h : AbiWords ws) {count : Nat} (hcount : ws.length = count) :
    calldataWords (with0x (toHex (sel ++ ws.flatten))) count = some (ws.map beNat) := by
  subst hcount
  have hlen := length_flatten_of_length h
  unfold calldataWords
  simp only [hexBytes_with0x_toHex]
  rw [if_neg (by rw [List.length_append]; omega)]
  congr 1
  apply List.ext_getElem
  · simp
  · intro i h₁ h₂
    have hi : i < ws.length := by simpa using h₁
    -- Past the selector, word `i` of the calldata is word `i` of the list.
    have hdrop : (sel ++ ws.flatten).drop (4 + i * 32) = ws.flatten.drop (i * 32) := by
      rw [List.drop_append, hsel, List.drop_of_length_le (by omega)]
      simp
    rw [List.getElem_map, List.getElem_range, List.getElem_map, hdrop,
      take_drop_words h hi]

/-! ## Signatures -/

/-- The hashes of the signatures, as far as they tell them apart. -/
theorem signature_hashes :
    selector withdrawSig = [217, 202, 237, 18] ∧ selector convertWithdrawSig = [86, 221, 93, 248]
      ∧ withdrawalTopic0.take 3 = ['0', 'x', '2'] ∧ convertedTopic0.take 3 = ['0', 'x', 'e'] := by
  refine ⟨?_, ?_, ?_, ?_⟩ <;> decide +kernel

theorem selector_ne : selector convertWithdrawSig ≠ selector withdrawSig := by
  obtain ⟨hwithdraw, hconvert, -⟩ := signature_hashes
  rw [hwithdraw, hconvert]
  decide

theorem withdrawalTopic0_ne : withdrawalTopic0 ≠ convertedTopic0 := by
  obtain ⟨-, -, hwithdrawal, hconverted⟩ := signature_hashes
  intro h
  have htake := congrArg (List.take 3) h
  rw [hwithdrawal, hconverted] at htake
  exact absurd htake (by decide)

@[simp] theorem pyLower_withdrawalTopic0 : pyLower withdrawalTopic0 = withdrawalTopic0 :=
  pyLower_with0x_toHex _

@[simp] theorem pyLower_convertedTopic0 : pyLower convertedTopic0 = convertedTopic0 :=
  pyLower_with0x_toHex _

@[simp] theorem destinationTopicIndex_withdrawal :
    destinationTopicIndex withdrawalTopic0 = some 2 := by
  simp [destinationTopicIndex, withdrawalTopic0_ne]

@[simp] theorem destinationTopicIndex_converted :
    destinationTopicIndex convertedTopic0 = some 3 := by
  simp [destinationTopicIndex]

/-! ## Logs -/

/-- A log that is neither of the two withdrawal events of the executor. -/
def Unrelated (self : Address) (log : Log) : Prop :=
  addressOf log.address = self.text →
    ∀ topic ∈ log.topics.head?, pyLower topic ≠ withdrawalTopic0 ∧ pyLower topic ≠ convertedTopic0

theorem logMatches_unrelated {self : Address} {log : Log} (h : Unrelated self log)
    (destination : Text) : logMatchesWithdrawalDestination log self.text destination = false := by
  unfold logMatchesWithdrawalDestination
  split
  · rfl
  · rename_i haddr
    split
    · rfl
    · rename_i topic rest htopics
      obtain ⟨hw, hc⟩ := h (by simpa using haddr) topic (by simp [htopics])
      have hindex : destinationTopicIndex (pyLower topic) = none := by
        simp [destinationTopicIndex, hw, hc]
      simp [hindex]

theorem emitWithdrawal_topics (self token dest : Address) (amount : Word) :
    (emitWithdrawal self token dest amount).topics
      = [withdrawalTopic0, with0x (toHex token.word), with0x (toHex dest.word)] := rfl

theorem emitWithdrawal_data (self token dest : Address) (amount : Word) :
    (emitWithdrawal self token dest amount).data = with0x (toHex [wordBytes amount].flatten) := by
  simp [emitWithdrawal, emit, EventParam.data]

theorem emitConvertedAndWithdrawn_topics (self tokenIn tokenOut : Address)
    (amountIn amountOut : Word) (dest : Address) :
    (emitConvertedAndWithdrawn self tokenIn tokenOut amountIn amountOut dest).topics
      = [convertedTopic0, with0x (toHex tokenIn.word), with0x (toHex tokenOut.word)] := rfl

theorem logMatches_cons {log : Log} {topic : Text} {rest : List Text} {i : Nat}
    (htopics : log.topics = topic :: rest)
    (hindex : destinationTopicIndex (pyLower topic) = some i) (executor destination : Text) :
    logMatchesWithdrawalDestination log executor destination
      = (decide (addressOf log.address = executor)
        && (topic :: rest)[i]?.any fun t => topicAddress t == destination) := by
  unfold logMatchesWithdrawalDestination
  cases h : (topic :: rest)[i]? <;> simp [htopics, hindex, h]

theorem logMatches_emitWithdrawal (self token dest : Address) (amount : Word) :
    logMatchesWithdrawalDestination (emitWithdrawal self token dest amount) self.text dest.text
      = true := by
  have haddr : addressOf (emitWithdrawal self token dest amount).address = self.text :=
    addressOf_text self
  have hindex : destinationTopicIndex (pyLower withdrawalTopic0) = some 2 := by simp
  rw [logMatches_cons (emitWithdrawal_topics self token dest amount) hindex]
  simp [haddr, topicAddress_word]

/-- The converted event has three topics, so no fourth one names the destination. -/
theorem logMatches_emitConverted (self tokenIn tokenOut : Address) (amountIn amountOut : Word)
    (dest : Address) (destination : Text) :
    logMatchesWithdrawalDestination
      (emitConvertedAndWithdrawn self tokenIn tokenOut amountIn amountOut dest) self.text
      destination = false := by
  have hindex : destinationTopicIndex (pyLower convertedTopic0) = some 3 := by simp
  rw [logMatches_cons (emitConvertedAndWithdrawn_topics ..) hindex]
  simp

theorem matchingLogs_unrelated {self : Address} {pre post : List Log} (log : Log)
    (hpre : ∀ l ∈ pre, Unrelated self l) (hpost : ∀ l ∈ post, Unrelated self l) (dest : Address) :
    matchingLogs (pre ++ log :: post) self.text dest.text
      = if logMatchesWithdrawalDestination log self.text dest.text then [log] else [] := by
  have hnil : ∀ ls : List Log, (∀ l ∈ ls, Unrelated self l) →
      ls.filter (fun l => logMatchesWithdrawalDestination l self.text dest.text) = [] := by
    intro ls hls
    rw [List.filter_eq_nil_iff]
    intro l hl
    simp [logMatches_unrelated (hls l hl)]
  unfold matchingLogs
  rw [addressOf_text, addressOf_text, List.filter_append, List.filter_cons, hnil pre hpre,
    hnil post hpost]
  rfl

/-! ## The two decoders -/

theorem withdrawalInputs_withdraw (token dest : Address) (amount : Word) (hpos : 0 < amount) :
    withdrawalInputs (with0x (toHex (selector withdrawSig
        ++ [token.word, dest.word, wordBytes amount].flatten))) dest.text false
      = .ok ⟨token.text, token.text, amount.val, 0, dest.text⟩ := by
  have hwords : AbiWords [token.word, dest.word, wordBytes amount] := by simp [AbiWords]
  have hne := val_ne_zero_of_pos hpos
  have hlen : [token.word, dest.word, wordBytes amount].length = 3 := rfl
  have hcalldata := calldataWords_flatten (length_selector withdrawSig) hwords hlen
  unfold withdrawalInputs
  rw [if_neg Bool.false_ne_true, hcalldata]
  simp [wordAddress_word, beNat_wordBytes, hne]

theorem withdrawalInputs_convert (tokenIn tokenOut : Address) (amountIn minOut : Word)
    (dest : Address) (fee deadline : Word) (hpos : 0 < amountIn) :
    withdrawalInputs (with0x (toHex (selector convertWithdrawSig
        ++ [tokenIn.word, tokenOut.word, wordBytes amountIn, wordBytes minOut, dest.word,
          wordBytes fee, wordBytes deadline].flatten))) dest.text true
      = .ok ⟨tokenIn.text, tokenOut.text, amountIn.val, minOut.val, dest.text⟩ := by
  have hwords : AbiWords [tokenIn.word, tokenOut.word, wordBytes amountIn, wordBytes minOut,
      dest.word, wordBytes fee, wordBytes deadline] := by simp [AbiWords]
  have hne := val_ne_zero_of_pos hpos
  have hlen : [tokenIn.word, tokenOut.word, wordBytes amountIn, wordBytes minOut, dest.word,
      wordBytes fee, wordBytes deadline].length = 7 := rfl
  have hcalldata := calldataWords_flatten (length_selector convertWithdrawSig) hwords hlen
  unfold withdrawalInputs
  rw [if_pos rfl, hcalldata]
  simp [wordAddress_word, beNat_wordBytes, hne]

theorem withdrawalCalldataKind_withdraw (args : List Byte) :
    withdrawalCalldataKind (with0x (toHex (selector withdrawSig ++ args))) = .ok false := by
  have hlen := length_selector withdrawSig
  have htake : (selector withdrawSig ++ args).take 4 = selector withdrawSig := by
    rw [← hlen, List.take_left]
  unfold withdrawalCalldataKind
  simp only [hexBytes_with0x_toHex, htake, if_true]
  rw [if_neg (by rw [List.length_append]; omega)]

theorem withdrawalCalldataKind_convert (args : List Byte) :
    withdrawalCalldataKind (with0x (toHex (selector convertWithdrawSig ++ args))) = .ok true := by
  have hlen := length_selector convertWithdrawSig
  have htake : (selector convertWithdrawSig ++ args).take 4 = selector convertWithdrawSig := by
    rw [← hlen, List.take_left]
  unfold withdrawalCalldataKind
  simp only [hexBytes_with0x_toHex, htake, if_neg selector_ne, if_true]
  rw [if_neg (by rw [List.length_append]; omega)]

theorem externalWithdrawalRecipient_withdraw (token dest : Address) (amount : Word) :
    externalWithdrawalRecipient (with0x (toHex (selector withdrawSig
        ++ [token.word, dest.word, wordBytes amount].flatten))) = dest.text := by
  have hwords : AbiWords [token.word, dest.word, wordBytes amount] := by simp [AbiWords]
  have hlen : [token.word, dest.word, wordBytes amount].length = 3 := rfl
  have hcalldata := calldataWords_flatten (length_selector withdrawSig) hwords hlen
  have htake : (selector withdrawSig ++ [token.word, dest.word, wordBytes amount].flatten).take 4
      = selector withdrawSig := by
    rw [← length_selector withdrawSig, List.take_left]
  unfold externalWithdrawalRecipient
  simp only [hexBytes_with0x_toHex, htake, if_true, hcalldata]
  simp [wordAddress_word]

theorem withdrawalEvent_withdraw {self : Address} {pre post : List Log}
    (token dest : Address) (amount : Word) (hpre : ∀ l ∈ pre, Unrelated self l)
    (hpost : ∀ l ∈ post, Unrelated self l) :
    withdrawalEvent (pre ++ emitWithdrawal self token dest amount :: post) self.text dest.text false
      = .ok ⟨token.text, token.text, some amount.val, some amount.val⟩ := by
  have hdata : hexBytes (emitWithdrawal self token dest amount).data
      = some [wordBytes amount].flatten := by
    rw [emitWithdrawal_data, hexBytes_with0x_toHex]
  have hwords : AbiWords [wordBytes amount] := by simp [AbiWords]
  have hword : uintWord [wordBytes amount].flatten 0 = some amount.val := by
    rw [uintWord_flatten _ hwords 0 (by simp), List.getElem_cons_zero, beNat_wordBytes]
  unfold withdrawalEvent eventLog
  rw [if_neg Bool.false_ne_true, matchingLogs_unrelated _ hpre hpost, logMatches_emitWithdrawal,
    if_pos rfl]
  simp only [emitWithdrawal_topics, hdata, List.filter_cons, List.filter_nil, List.headD_cons,
    beq_self_eq_true, if_true, List.length_cons, List.length_nil, Option.getD_some]
  rw [if_neg (by decide)]
  simp only [hword]
  simp [topicAddress_word]

/-- No `ConvertedAndWithdrawn` log is ever found. -/
theorem withdrawalEvent_convert {self : Address} {pre post : List Log}
    (tokenIn tokenOut : Address) (amountIn amountOut : Word) (dest : Address)
    (hpre : ∀ l ∈ pre, Unrelated self l) (hpost : ∀ l ∈ post, Unrelated self l) :
    withdrawalEvent
        (pre ++ emitConvertedAndWithdrawn self tokenIn tokenOut amountIn amountOut dest :: post)
        self.text dest.text true
      = .error .convertReceiptEventMissing := by
  unfold withdrawalEvent eventLog
  rw [if_pos rfl, matchingLogs_unrelated _ hpre hpost, logMatches_emitConverted]
  rfl

theorem decode_withdraw {self : Address} {pre post : List Log} (executor destination :
    SpelledAddress) (token : Address) (amount : Word) (hexec : executor.address = self)
    (hpos : 0 < amount) (hpre : ∀ l ∈ pre, Unrelated self l)
    (hpost : ∀ l ∈ post, Unrelated self l) :
    decodeExternalWithdrawalEffect
        (pre ++ emitWithdrawal self token destination.address amount :: post) executor.text
        (with0x (toHex (selector withdrawSig ++ token.word ++ destination.address.word
          ++ wordBytes amount))) destination.text
      = .ok ⟨.withdraw, token.text, amount.val, token.text, token.text, amount.val, amount.val,
          none⟩ := by
  have hflat : selector withdrawSig ++ token.word ++ destination.address.word ++ wordBytes amount
      = selector withdrawSig
        ++ [token.word, destination.address.word, wordBytes amount].flatten := by simp
  unfold decodeExternalWithdrawalEffect
  simp only [addressOf_spelled, hexec, Address.text_ne_nil, or_self, if_false]
  rw [hflat, withdrawalCalldataKind_withdraw]
  unfold decodeWithdrawalComponents
  simp only [withdrawalInputs_withdraw _ _ _ hpos, withdrawalEvent_withdraw _ _ _ hpre hpost, bind,
    Except.bind, if_neg Bool.false_ne_true]
  simp [buildWithdrawEffect]

/-- The same for the canonical texts and a receipt without other logs. -/
theorem decode_withdraw_text (self token dest : Address) (amount : Word) (hpos : 0 < amount) :
    decodeExternalWithdrawalEffect [emitWithdrawal self token dest amount] self.text
        (with0x (toHex (selector withdrawSig ++ token.word ++ dest.word ++ wordBytes amount)))
        dest.text
      = .ok ⟨.withdraw, token.text, amount.val, token.text, token.text, amount.val, amount.val,
          none⟩ :=
  @decode_withdraw self [] [] self.spelled dest.spelled token amount rfl hpos (by simp) (by simp)

theorem decode_convert {self : Address} {pre post : List Log} (executor destination :
    SpelledAddress) (tokenIn tokenOut : Address) (amountIn minOut amountOut fee deadline : Word)
    (hexec : executor.address = self) (hpos : 0 < amountIn)
    (hpre : ∀ l ∈ pre, Unrelated self l) (hpost : ∀ l ∈ post, Unrelated self l) :
    decodeExternalWithdrawalEffect
        (pre ++ emitConvertedAndWithdrawn self tokenIn tokenOut amountIn amountOut
          destination.address :: post) executor.text
        (with0x (toHex (selector convertWithdrawSig ++ tokenIn.word ++ tokenOut.word
          ++ wordBytes amountIn ++ wordBytes minOut ++ destination.address.word ++ wordBytes fee
          ++ wordBytes deadline))) destination.text
      = .error .convertReceiptEventMissing := by
  have hflat : selector convertWithdrawSig ++ tokenIn.word ++ tokenOut.word ++ wordBytes amountIn
        ++ wordBytes minOut ++ destination.address.word ++ wordBytes fee ++ wordBytes deadline
      = selector convertWithdrawSig ++ [tokenIn.word, tokenOut.word, wordBytes amountIn,
          wordBytes minOut, destination.address.word, wordBytes fee, wordBytes deadline].flatten := by
    simp
  unfold decodeExternalWithdrawalEffect
  simp only [addressOf_spelled, hexec, Address.text_ne_nil, or_self, if_false]
  rw [hflat, withdrawalCalldataKind_convert]
  unfold decodeWithdrawalComponents
  simp only [withdrawalInputs_convert _ _ _ _ _ _ _ hpos, withdrawalEvent_convert _ _ _ _ _ hpre
    hpost, bind, Except.bind]

/-! ## Owner calls -/

/-- The decoder proves what the contract sent exactly when the owner called `withdraw`. -/
theorem decode_owner_call_iff {st : ExecutorState} {env : External} {sender : Address}
    {call : OwnerCall} {sent : Sent} {pre post : List Log} {calldata : Text}
    {executor destination : SpelledAddress} (hrun : call.run st env sender = some sent)
    (hpos : 0 < call.amount) (hpre : ∀ l ∈ pre, Unrelated st.self l)
    (hpost : ∀ l ∈ post, Unrelated st.self l) (hcalldata : call.calldata = some calldata)
    (hexec : executor.address = st.self) (hdest : destination.address = call.dest.address) :
    (∃ effect, decodeExternalWithdrawalEffect (pre ++ sent.log :: post) executor.text calldata
        destination.text = .ok effect ∧ effect.token = sent.token.text
          ∧ effect.amount = sent.amount.val)
      ↔ call.isWithdraw = true := by
  cases call with
  | withdraw token dest amount =>
    have hsent := withdraw_eq_some hrun
    subst hsent
    rw [OwnerCall.calldata, buildWithdrawCalldata_spelled] at hcalldata
    cases hcalldata
    rw [OwnerCall.dest] at hdest
    rw [← hdest]
    refine ⟨fun _ => rfl, fun _ => ⟨_, decode_withdraw executor destination token.address amount
      hexec hpos hpre hpost, rfl, rfl⟩⟩
  | convertAndWithdraw tokenIn tokenOut amountIn minOut dest fee deadline =>
    obtain ⟨amountOut, hsent⟩ := convertAndWithdraw_eq_some hrun
    subst hsent
    have hfee : ((⟨fee.val, by omega⟩ : Word).val : Int) = (fee.val : Int) := rfl
    rw [OwnerCall.calldata, ← hfee, buildConvertAndWithdrawCalldata_spelled] at hcalldata
    cases hcalldata
    rw [OwnerCall.dest] at hdest
    rw [← hdest]
    constructor
    · rintro ⟨effect, hdecode, -⟩
      rw [decode_convert executor destination tokenIn.address tokenOut.address amountIn minOut
        amountOut _ deadline hexec hpos hpre hpost] at hdecode
      cases hdecode
    · intro h
      cases h

/-! ### At a deployed executor -/

/-- The address whose last byte is `n`. -/
def addressOfByte (n : Byte) : Address := ⟨List.replicate 19 0 ++ [n], rfl⟩

/-- An executor that lets its owner, account 2, withdraw to account 6. -/
def deployedExecutor : ExecutorState where
  self := addressOfByte 1
  owner := addressOfByte 2
  univ3SwapRouter := addressOfByte 3
  usdc := addressOfByte 4
  usdt := addressOfByte 5
  spenderAllowed := fun spender => decide (spender = addressOfByte 3)
  withdrawalAllowed := fun dest => decide (dest = addressOfByte 6)
  reentrancyLock := 1

def payingTokens : External where
  safeTransfer := fun _ _ _ => true
  allowance := fun _ _ => some 0
  safeApprove := fun _ _ _ => true
  exactInputSingle := fun _ _ _ amountIn _ => some amountIn
  blockTimestamp := 100

/-- Account 2 withdraws five units of token 7 to account 6. -/
def plainCall : OwnerCall :=
  .withdraw (addressOfByte 7).spelled (addressOfByte 6).spelled 5

/-- Account 2 converts five units of token 7 to USDC and withdraws them to account 6. -/
def convertCall : OwnerCall :=
  .convertAndWithdraw (addressOfByte 7).spelled (addressOfByte 4).spelled 5 4
    (addressOfByte 6).spelled 3000 200

theorem decode_owner_call_iff_plainCall :
    (∃ effect, decodeExternalWithdrawalEffect
        ([] ++ emitWithdrawal (addressOfByte 1) (addressOfByte 7) (addressOfByte 6) 5 :: [])
        (addressOfByte 1).text
        (with0x (toHex (selector withdrawSig ++ (addressOfByte 7).word ++ (addressOfByte 6).word
          ++ wordBytes 5))) (addressOfByte 6).text = .ok effect
        ∧ effect.token = (addressOfByte 7).text ∧ effect.amount = 5)
      ↔ plainCall.isWithdraw = true :=
  @decode_owner_call_iff deployedExecutor payingTokens (addressOfByte 2) plainCall
    ⟨addressOfByte 7, addressOfByte 6, 5,
      emitWithdrawal (addressOfByte 1) (addressOfByte 7) (addressOfByte 6) 5⟩
    [] [] _ (addressOfByte 1).spelled (addressOfByte 6).spelled rfl (by decide) (by simp)
    (by simp) (buildWithdrawCalldata_spelled _ _ 5) rfl rfl

/-- The conversion sends five units, and the decoder finds no event for it. -/
theorem decode_convertCall :
    ∃ sent calldata, convertCall.run deployedExecutor payingTokens (addressOfByte 2) = some sent
      ∧ sent.amount = 5 ∧ sent.token = addressOfByte 4 ∧ 0 < convertCall.amount
      ∧ convertCall.calldata = some calldata
      ∧ decodeExternalWithdrawalEffect [sent.log] deployedExecutor.self.text calldata
          convertCall.dest.text = .error .convertReceiptEventMissing :=
  ⟨⟨addressOfByte 4, addressOfByte 6, 5, emitConvertedAndWithdrawn (addressOfByte 1)
      (addressOfByte 7) (addressOfByte 4) 5 5 (addressOfByte 6)⟩, _, rfl, rfl, rfl, by decide,
    buildConvertAndWithdrawCalldata_spelled _ _ 5 4 _ 3000 200,
    @decode_convert _ [] [] (addressOfByte 1).spelled (addressOfByte 6).spelled
      (addressOfByte 7) (addressOfByte 4) 5 4 5 3000 200 rfl (by decide) (by simp) (by simp)⟩

end SovereignCapital.Withdraw
