import SovereignCapital.Abi.Ethabi
import SovereignCapital.Lib.Keccak
import SovereignCapital.Lib.Ledger

/-! # The executor contract

`VictorArbExecutor.sol`: `execute` commits to a route and asks a provider for a flash loan; the
provider calls back (`executeOperation`, `receiveFlashLoan`), the callback runs the legs, checks
the profit, repays and pays out. A function returns nothing where the contract reverts. Tokens
are standard; routers and providers are outside and can do anything between two steps of the
contract.
-/

namespace SovereignCapital.Executor

open Bytes Abi

/-! ## Data -/

structure Leg where
  dex : Byte
  venue : Address
  tokenIn : Address
  tokenOut : Address
  minOut : Word
  aux : Word
deriving DecidableEq

/-- The arguments of `execute`, which are the user data of the loan. -/
structure Params where
  provider : Byte
  borrowToken : Address
  amountBorrow : Word
  minProfit : Word
  profitTo : Address
  deadline : Word
  routeId : Word
  legs : List Leg
  legs_lt : legs.length < 2 ^ 256

/-- The addresses a deployment is made with; the executor is neither of its providers. -/
structure Deployment where
  self : Address
  aavePool : Address
  balancerVault : Address
  univ3SwapRouter : Address
  aavePool_ne : aavePool ≠ self
  balancerVault_ne : balancerVault ≠ self

inductive Provider where
  | aave
  | balancer
deriving DecidableEq

def Provider.id : Provider → Byte
  | .aave => 1
  | .balancer => 2

def Provider.address (d : Deployment) : Provider → Address
  | .aave => d.aavePool
  | .balancer => d.balancerVault

structure World (Ω : Type) where
  timestamp : Nat
  ledger : Ledger.Balances Address Address
  /-- what the executor allows to spenders, by token -/
  allowance : Address → Address → Nat
  owner : Address
  spenderAllowed : Address → Bool
  withdrawalAllowed : Address → Bool
  inFlight : Bool
  inFlightProvider : Byte
  inFlightHash : List Byte
  outside : Ω

variable {Ω : Type}

/-! ## User data -/

def Leg.words (leg : Leg) : List (List Byte) :=
  [beBytes 32 leg.dex.val, leg.venue.word, leg.tokenIn.word, leg.tokenOut.word,
    wordBytes leg.minOut, wordBytes leg.aux]

def Params.words (p : Params) : List (List Byte) :=
  [beBytes 32 p.provider.val, p.borrowToken.word, wordBytes p.amountBorrow, wordBytes p.minProfit,
    p.profitTo.word, wordBytes p.deadline, wordBytes p.routeId, beBytes 32 (8 * 32),
    beBytes 32 p.legs.length] ++ p.legs.flatMap Leg.words

/-- `abi.encode` of the arguments. -/
def Params.encode (p : Params) : List Byte := p.words.flatten

def wordAt (data : List Byte) (pos : Nat) : Option (List Byte) :=
  if pos + 32 ≤ data.length then some ((data.drop pos).take 32) else none

def decodeWord (data : List Byte) (pos : Nat) : Option Word :=
  (wordAt data pos).map fun w => Fin.ofNat (2 ^ 256) (beNat w)

def decodeUint8 (data : List Byte) (pos : Nat) : Option Byte :=
  (wordAt data pos).bind fun w =>
    if beNat w < 256 then some (Fin.ofNat 256 (beNat w)) else none

/-- The address of a word whose first twelve bytes are zero. -/
def decodeAddress (data : List Byte) (pos : Nat) : Option Address :=
  (wordAt data pos).bind fun w =>
    if h : (w.drop 12).length = 20 ∧ w.take 12 = List.replicate 12 0 then some ⟨w.drop 12, h.1⟩
    else none

def decodeLeg (data : List Byte) (pos : Nat) : Option Leg := do
  let dex ← decodeUint8 data pos
  let venue ← decodeAddress data (pos + 32)
  let tokenIn ← decodeAddress data (pos + 64)
  let tokenOut ← decodeAddress data (pos + 96)
  let minOut ← decodeWord data (pos + 128)
  let aux ← decodeWord data (pos + 160)
  return { dex, venue, tokenIn, tokenOut, minOut, aux }

/-- `abi.decode` of user data. -/
def decode (data : List Byte) : Option Params := do
  let provider ← decodeUint8 data 0
  let borrowToken ← decodeAddress data 32
  let amountBorrow ← decodeWord data 64
  let minProfit ← decodeWord data 96
  let profitTo ← decodeAddress data 128
  let deadline ← decodeWord data 160
  let routeId ← decodeWord data 192
  let offset ← decodeWord data 224
  let length ← decodeWord data offset.val
  guard (offset.val + 32 + 192 * length.val ≤ data.length)
  let legs ← (List.range length.val).mapM fun i => decodeLeg data (offset.val + 32 + 192 * i)
  if h : legs.length < 2 ^ 256 then
    return { provider, borrowToken, amountBorrow, minProfit, profitTo, deadline, routeId, legs,
             legs_lt := h }
  else none

def computeRouteId (legs : List Leg) : Word :=
  Fin.ofNat (2 ^ 256) (beNat (Keccak.keccak256 (1 :: Fin.ofNat 256 legs.length
    :: legs.flatMap fun leg => leg.dex :: (leg.venue.bytes ++ leg.tokenIn.bytes
      ++ leg.tokenOut.bytes ++ wordBytes leg.aux))))

/-! ## The entry point -/

/-- The guard is set. -/
def World.commit (w : World Ω) (p : Params) : World Ω :=
  { w with
    inFlight := true
    inFlightProvider := p.provider
    inFlightHash := Keccak.keccak256 p.encode }

def World.clear (w : World Ω) : World Ω :=
  { w with
    inFlight := false
    inFlightProvider := 0
    inFlightHash := List.replicate 32 0 }

def Connected : Address → List Leg → Prop
  | _, [] => True
  | token, leg :: legs => leg.tokenIn = token ∧ Connected leg.tokenOut legs

instance : ∀ token legs, Decidable (Connected token legs)
  | _, [] => .isTrue trivial
  | token, leg :: legs =>
    have := instDecidableConnected leg.tokenOut legs
    inferInstanceAs (Decidable (leg.tokenIn = token ∧ Connected leg.tokenOut legs))

/-- `execute` up to the call of the provider. -/
def execute (w : World Ω) (sender : Address) (p : Params) : Option (World Ω) := do
  guard (sender = w.owner)
  guard (w.timestamp ≤ p.deadline.val)
  guard (w.withdrawalAllowed p.profitTo = true)
  guard (p.provider = 1 ∨ p.provider = 2)
  guard (p.legs ≠ [])
  guard (Connected p.borrowToken p.legs)
  guard (computeRouteId p.legs = p.routeId)
  return w.commit p

/-! ## The callbacks -/

/-- The two callbacks with their arguments but for the user data. -/
inductive Callback where
  | executeOperation (asset : Address) (amount premium : Word) (initiator : Address)
  | receiveFlashLoan (tokens : List Address) (amounts feeAmounts : List Word)

structure Loan where
  provider : Provider
  params : Params
  fee : Nat
  /-- the balance before the loan, as the callback finds it -/
  preExisting : Nat

def Loan.token (loan : Loan) : Address := loan.params.borrowToken

def Loan.repay (loan : Loan) : Nat := loan.params.amountBorrow.val + loan.fee

/-- The guards of a callback and the balance it starts from. -/
def openLoan (d : Deployment) (w : World Ω) (provider : Provider) (token : Address)
    (amount fee : Word) (userData : List Byte) : Option Loan := do
  guard (w.inFlight = true ∧ w.inFlightProvider = provider.id
    ∧ Keccak.keccak256 userData = w.inFlightHash)
  let p ← decode userData
  guard (p.provider = provider.id)
  guard (p.borrowToken = token ∧ p.amountBorrow = amount)
  guard (w.timestamp ≤ p.deadline.val)
  let balStart := w.ledger p.borrowToken d.self
  -- `repay` is a checked addition
  guard (amount.val + fee.val < 2 ^ 256)
  return {
    provider := provider
    params := p
    fee := fee.val
    preExisting := if amount.val < balStart then balStart - amount.val else 0 }

/-- A callback up to its legs. -/
def enter (d : Deployment) (w : World Ω) (sender : Address) (callback : Callback)
    (userData : List Byte) : Option Loan :=
  match callback with
  | .executeOperation asset amount premium initiator =>
    if sender = d.aavePool ∧ initiator = d.self then
      openLoan d w .aave asset amount premium userData
    else none
  | .receiveFlashLoan [token] [amount] [fee] =>
    if sender = d.balancerVault then openLoan d w .balancer token amount fee userData else none
  | .receiveFlashLoan _ _ _ => none

/-! ## The legs -/

/-- `_approveIfNeeded`: an allowance that is too low is reset and set to the maximum. -/
def approveIfNeeded (w : World Ω) (token spender : Address) (amount : Nat) : Option (World Ω) := do
  guard (w.spenderAllowed spender = true)
  if w.allowance token spender < amount then
    return { w with
      allowance := fun t s =>
        if t = token ∧ s = spender then 2 ^ 256 - 1 else w.allowance t s }
  else return w

/-- The router, pool or vault a leg calls, which is also its spender. -/
def Leg.callee (d : Deployment) (leg : Leg) : Option Address :=
  match leg.dex.val with
  | 1 => some d.univ3SwapRouter
  | 2 => some leg.venue
  | 3 => some d.balancerVault
  | 4 => some leg.venue
  | 5 => some leg.venue
  | 6 => some leg.venue
  | 7 => some leg.venue
  | 8 => some leg.venue
  | _ => none

/-- How a leg learns what it has got: from the amount that is returned, from the last of the
amounts that are returned, or from its balance. -/
inductive Report where
  | single
  | last
  | measured

def Leg.report (leg : Leg) : Report :=
  match leg.dex.val with
  | 4 => .last
  | 8 => .last
  | 7 => .measured
  | _ => .single

/-- The amount a router reports; a measured leg has no report. -/
def reported (report : Report) (returned : List Nat) : Option Nat :=
  match report with
  | .single => returned.head?
  | .last => returned.getLast?
  | .measured => some 0

/-- The amount a leg takes for what it has got. -/
def received (report : Report) (beforeOut afterOut : Nat) (returned : List Nat) : Option Nat :=
  match report with
  | .measured => if afterOut < beforeOut then none else some (afterOut - beforeOut)
  | .single => returned.head?
  | .last => returned.getLast?

/-- A leg up to the call of its router: the approval and the balance of what it buys. -/
def prepareLeg (d : Deployment) (w : World Ω) (leg : Leg) (amountIn : Nat) :
    Option (World Ω × Nat) := do
  let callee ← leg.callee d
  let w ← approveIfNeeded w leg.tokenIn callee amountIn
  return (w, w.ledger leg.tokenOut d.self)

/-- What a leg has got when its router returns: at least its minimum output. -/
def legOut (d : Deployment) (leg : Leg) (beforeOut : Nat) (w : World Ω) (returned : List Nat) :
    Option Nat := do
  let out ← received leg.report beforeOut (w.ledger leg.tokenOut d.self) returned
  guard (leg.minOut.val ≤ out)
  return out

/-! ## The settlement -/

/-- The repayment: it is allowed to the pool, which pulls it, and paid to the vault. -/
def repayLoan (d : Deployment) (w : World Ω) (loan : Loan) : Option (World Ω) :=
  match loan.provider with
  | .aave => approveIfNeeded w loan.token d.aavePool loan.repay
  | .balancer =>
    (Ledger.transfer w.ledger loan.token d.self d.balancerVault loan.repay).map fun ledger =>
      { w with ledger := ledger }

/-- The end of a callback: the profit is checked, the loan repaid and the profit paid. -/
def settle (d : Deployment) (w : World Ω) (loan : Loan) : Option (World Ω) := do
  let token := loan.token
  let bal := w.ledger token d.self
  guard (loan.preExisting + loan.repay < 2 ^ 256)
  guard (loan.preExisting + loan.repay ≤ bal)
  let profit := bal - loan.preExisting - loan.repay
  guard (loan.params.minProfit.val ≤ profit)
  let w ← repayLoan d w loan
  let ledger ← Ledger.transfer w.ledger token d.self loan.params.profitTo profit
  return { w with ledger := ledger }.clear

/-! ## A sample -/

def sampleAddress (b : Byte) : Address := ⟨List.replicate 20 b, rfl⟩

def sampleDeployment : Deployment where
  self := sampleAddress 1
  aavePool := sampleAddress 2
  balancerVault := sampleAddress 3
  univ3SwapRouter := sampleAddress 4
  aavePool_ne := by decide
  balancerVault_ne := by decide

def sampleLeg : Leg where
  dex := 1
  venue := sampleAddress 4
  tokenIn := sampleAddress 10
  tokenOut := sampleAddress 10
  minOut := 0
  aux := 500

/-- A loan of one hundred of the vault. -/
def sampleParams : Params where
  provider := 2
  borrowToken := sampleAddress 10
  amountBorrow := 100
  minProfit := 0
  profitTo := sampleAddress 6
  deadline := 1000
  routeId := computeRouteId [sampleLeg]
  legs := [sampleLeg]
  legs_lt := by decide

def sampleStart (balance : Nat) : World Unit where
  timestamp := 0
  ledger := fun _ a => if a = sampleDeployment.self then balance else 0
  allowance := fun _ _ => 0
  owner := sampleAddress 5
  spenderAllowed := fun _ => true
  withdrawalAllowed := fun _ => true
  inFlight := false
  inFlightProvider := 0
  inFlightHash := List.replicate 32 0
  outside := ()

/-- And the owner has called `execute`. -/
def sampleWorld (balance : Nat) : World Unit := (sampleStart balance).commit sampleParams

end SovereignCapital.Executor
