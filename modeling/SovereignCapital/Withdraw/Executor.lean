import SovereignCapital.Abi.Ethabi
import SovereignCapital.Tx.Confirmation

/-! # Calldata of the withdrawal calls

`withdraw_builder.py`: the calldata of the executor's `withdraw` and `convertAndWithdraw`,
built from texts and integers as the operator gives them. A builder that raises returns
nothing.
-/

namespace SovereignCapital.Withdraw

open Bytes Abi

def withdrawSig : Text := "withdraw(address,address,uint256)".toList

def convertWithdrawSig : Text :=
  "convertAndWithdraw(address,address,uint256,uint256,address,uint24,uint256)".toList

def buildWithdrawCalldata (token dest : Text) (amount : Int) : Option Text := do
  let token ← encAddress token
  let dest ← encAddress dest
  let amount ← encUint amount
  return with0x (toHex (selector withdrawSig ++ token ++ dest ++ amount))

def buildConvertAndWithdrawCalldata (tokenIn tokenOut : Text) (amountIn minOut : Int) (dest : Text)
    (fee deadline : Int) : Option Text := do
  let tokenIn ← encAddress tokenIn
  let tokenOut ← encAddress tokenOut
  let amountIn ← encUint amountIn
  let minOut ← encUint minOut
  let dest ← encAddress dest
  let fee ← encUint fee
  let deadline ← encUint deadline
  return with0x (toHex (selector convertWithdrawSig ++ tokenIn ++ tokenOut ++ amountIn ++ minOut
    ++ dest ++ fee ++ deadline))

theorem buildWithdrawCalldata_spelled (token dest : SpelledAddress) (amount : Word) :
    buildWithdrawCalldata token.text dest.text (amount.val : Int)
      = some (with0x (toHex (selector withdrawSig ++ token.address.word ++ dest.address.word
          ++ wordBytes amount))) := by
  simp [buildWithdrawCalldata, encAddress_spelled, encUint_word]

theorem buildConvertAndWithdrawCalldata_spelled (tokenIn tokenOut : SpelledAddress)
    (amountIn minOut : Word) (dest : SpelledAddress) (fee deadline : Word) :
    buildConvertAndWithdrawCalldata tokenIn.text tokenOut.text (amountIn.val : Int)
        (minOut.val : Int) dest.text (fee.val : Int) (deadline.val : Int)
      = some (with0x (toHex (selector convertWithdrawSig ++ tokenIn.address.word
          ++ tokenOut.address.word ++ wordBytes amountIn ++ wordBytes minOut ++ dest.address.word
          ++ wordBytes fee ++ wordBytes deadline))) := by
  simp [buildConvertAndWithdrawCalldata, encAddress_spelled, encUint_word]

end SovereignCapital.Withdraw

/-! # The withdrawal entry points of `VictorArbExecutor`

`withdraw` and `convertAndWithdraw` of the Solidity contract: their guards, the transfer
they make and the log they emit. A token, a router or an allowance call is outside the
contract; `External` is what those calls answer. A call that reverts returns nothing.
-/

namespace SovereignCapital.Withdraw

open Bytes Abi Tx

/-! ## Logs -/

/-- One parameter of an event, as an ABI word. -/
inductive EventParam where
  | indexed (w : List Byte)
  | plain (w : List Byte)

def EventParam.topic? : EventParam → Option Text
  | .indexed w => some (with0x (toHex w))
  | .plain _ => none

def EventParam.data : EventParam → List Byte
  | .indexed _ => []
  | .plain w => w

/-- `emit` of Solidity: the event signature and the indexed parameters are topics, the
other parameters are the data, in the order of declaration. -/
def emit (self : Address) (eventSig : Text) (params : List EventParam) : Log :=
  { address := self.text
    topics := topic0 eventSig :: params.filterMap EventParam.topic?
    data := with0x (toHex (params.flatMap EventParam.data)) }

/-- `event Withdrawal(address indexed token, address indexed to, uint256 amount)`. -/
def emitWithdrawal (self token dest : Address) (amount : Word) : Log :=
  emit self "Withdrawal(address,address,uint256)".toList
    [.indexed token.word, .indexed dest.word, .plain (wordBytes amount)]

/-- `event ConvertedAndWithdrawn(address indexed tokenIn, address indexed tokenOut,
uint256 amountIn, uint256 amountOut, address to)`. -/
def emitConvertedAndWithdrawn (self tokenIn tokenOut : Address) (amountIn amountOut : Word)
    (dest : Address) : Log :=
  emit self "ConvertedAndWithdrawn(address,address,uint256,uint256,address)".toList
    [.indexed tokenIn.word, .indexed tokenOut.word, .plain (wordBytes amountIn),
      .plain (wordBytes amountOut), .plain dest.word]

/-! ## State and environment -/

/-- The storage of the contract that the withdrawal entry points read. -/
structure ExecutorState where
  self : Address
  owner : Address
  univ3SwapRouter : Address
  usdc : Address
  usdt : Address
  spenderAllowed : Address → Bool
  withdrawalAllowed : Address → Bool
  reentrancyLock : Nat

/-- What the calls to other contracts answer, and the time of the block. `false` and
`none` are calls that revert. -/
structure External where
  safeTransfer : Address → Address → Word → Bool
  allowance : Address → Address → Option Word
  safeApprove : Address → Address → Word → Bool
  exactInputSingle : Address → Address → Nat → Word → Word → Option Word
  blockTimestamp : Nat

/-- The transfer a withdrawal made to its destination, and the log it emitted. -/
structure Sent where
  token : Address
  dest : Address
  amount : Word
  log : Log

/-- `type(uint256).max`. -/
def uint256Max : Word := ⟨2 ^ 256 - 1, by norm_num⟩

/-- `_approveIfNeeded`; `false` when it reverts. -/
def approveIfNeeded (st : ExecutorState) (env : External) (token spender : Address)
    (amount : Word) : Bool :=
  st.spenderAllowed spender &&
    match env.allowance token spender with
    | none => false
    | some allow =>
      if allow < amount then
        env.safeApprove token spender 0 && env.safeApprove token spender uint256Max
      else true

/-! ## Entry points -/

/-- `onlyOwner nonReentrant` and the destination allowlist. -/
def guarded (st : ExecutorState) (sender dest : Address) : Bool :=
  decide (sender = st.owner) && st.reentrancyLock == 1 && st.withdrawalAllowed dest

def withdraw (st : ExecutorState) (env : External) (sender token dest : Address) (amount : Word) :
    Option Sent :=
  if guarded st sender dest && env.safeTransfer token dest amount then
    some ⟨token, dest, amount, emitWithdrawal st.self token dest amount⟩
  else none

/-- The amount `convertAndWithdraw` obtains: `amountIn` itself when no swap is needed,
otherwise what the router returns. -/
def convertedAmount (st : ExecutorState) (env : External) (tokenIn tokenOut : Address)
    (amountIn minOut : Word) (fee : Nat) : Option Word :=
  if tokenIn = tokenOut then
    if minOut ≤ amountIn then some amountIn else none
  else if approveIfNeeded st env tokenIn st.univ3SwapRouter amountIn then
    match env.exactInputSingle tokenIn tokenOut fee amountIn minOut with
    | none => none
    | some amountOut => if amountOut < minOut then none else some amountOut
  else none

def convertAndWithdraw (st : ExecutorState) (env : External) (sender tokenIn tokenOut : Address)
    (amountIn minOut : Word) (dest : Address) (fee : Nat) (deadline : Word) : Option Sent :=
  if guarded st sender dest && (decide (tokenOut = st.usdc) || decide (tokenOut = st.usdt))
      && decide (env.blockTimestamp ≤ deadline.val) then
    match convertedAmount st env tokenIn tokenOut amountIn minOut fee with
    | none => none
    | some amountOut =>
      if env.safeTransfer tokenOut dest amountOut then
        some ⟨tokenOut, dest, amountOut,
          emitConvertedAndWithdrawn st.self tokenIn tokenOut amountIn amountOut dest⟩
      else none
  else none

/-! ## Owner calls -/

/-- A withdrawal call of the owner, with the texts the operator spelled its addresses in.
The fee is a `uint24`. -/
inductive OwnerCall where
  | withdraw (token dest : SpelledAddress) (amount : Word)
  | convertAndWithdraw (tokenIn tokenOut : SpelledAddress) (amountIn minOut : Word)
      (dest : SpelledAddress) (fee : Fin (2 ^ 24)) (deadline : Word)

namespace OwnerCall

def isWithdraw : OwnerCall → Bool
  | .withdraw .. => true
  | .convertAndWithdraw .. => false

/-- The amount the owner asks for: of the token itself, or of the token to convert. -/
def amount : OwnerCall → Word
  | .withdraw _ _ amount => amount
  | .convertAndWithdraw _ _ amountIn _ _ _ _ => amountIn

def dest : OwnerCall → SpelledAddress
  | .withdraw _ dest _ => dest
  | .convertAndWithdraw _ _ _ _ dest _ _ => dest

def run (st : ExecutorState) (env : External) (sender : Address) : OwnerCall → Option Sent
  | .withdraw token dest amount =>
    Withdraw.withdraw st env sender token.address dest.address amount
  | .convertAndWithdraw tokenIn tokenOut amountIn minOut dest fee deadline =>
    Withdraw.convertAndWithdraw st env sender tokenIn.address tokenOut.address amountIn minOut
      dest.address fee.val deadline

def calldata : OwnerCall → Option Text
  | .withdraw token dest amount => buildWithdrawCalldata token.text dest.text (amount.val : Int)
  | .convertAndWithdraw tokenIn tokenOut amountIn minOut dest fee deadline =>
    buildConvertAndWithdrawCalldata tokenIn.text tokenOut.text (amountIn.val : Int)
      (minOut.val : Int) dest.text (fee.val : Int) (deadline.val : Int)

end OwnerCall

/-! ## What a successful call did -/

theorem withdraw_eq_some {st : ExecutorState} {env : External} {sender token dest : Address}
    {amount : Word} {sent : Sent} (h : withdraw st env sender token dest amount = some sent) :
    sent = ⟨token, dest, amount, emitWithdrawal st.self token dest amount⟩ := by
  simp only [withdraw] at h
  split at h
  · exact (Option.some.inj h).symm
  · cases h

theorem convertAndWithdraw_eq_some {st : ExecutorState} {env : External}
    {sender tokenIn tokenOut dest : Address} {amountIn minOut deadline : Word} {fee : Nat}
    {sent : Sent}
    (h : convertAndWithdraw st env sender tokenIn tokenOut amountIn minOut dest fee deadline
      = some sent) :
    ∃ amountOut, sent = ⟨tokenOut, dest, amountOut,
      emitConvertedAndWithdrawn st.self tokenIn tokenOut amountIn amountOut dest⟩ := by
  simp only [convertAndWithdraw] at h
  split at h
  · split at h
    · cases h
    · rename_i amountOut _
      split at h
      · exact ⟨amountOut, (Option.some.inj h).symm⟩
      · cases h
  · cases h

end SovereignCapital.Withdraw
