import SovereignCapital.Capital.Write

/-! # Settlement accounting of a receipt

`ReceiptService.synchronize_settlement_accounting`: a receipt that was settled before is a
duplicate; else its ledger transaction is written, the loan of its pending record is settled,
the treasury is told, and the capital write service commits. Without that service the ledger
and the prime are written directly.

Every step may fail, and a failed call may be made again for the same receipt.
-/

namespace SovereignCapital.Receipt

open Decimal Prime Capital

variable {S M : Type}

/-! ## Arguments -/

/-- A value `_usd_from_micro` reads: text with the digits of an integer, any other number, or
nothing it can read. -/
inductive MicroUsd where
  | missing
  | digits (n : Int)
  | number (x : ℚ)
  | unreadable

/-- `_usd_from_micro`. Only an integer counts micro dollars. -/
def usdFromMicro : MicroUsd → Option Usd
  | .missing => none
  | .digits n => some (n / 1000000)
  | .number x => some x
  | .unreadable => none

/-- What the settlement reads of a decoded receipt. -/
structure Decoded where
  realizedProfitAfterGasUsdMicro : MicroUsd
  realizedGasCostUsdMicro : MicroUsd
  realizedGasCostWei : Int

def Decoded.realizedAfterUsd (decoded : Decoded) (status : Int) : Option Usd :=
  if status ≠ 1 then some 0
  else (usdFromMicro decoded.realizedProfitAfterGasUsdMicro).map (max 0)

def Decoded.gasCostUsd (decoded : Decoded) : Usd :=
  max 0 ((usdFromMicro decoded.realizedGasCostUsdMicro).getD 0)

/-- What the settlement reads of a pending record: the candidates for each value, in the order
they are tried. A text that is missing is empty, a number that cannot be read is absent. -/
structure Pending where
  loanIds : List String
  borrowCostsUsd : List (Option Usd)
  flashloanFeesWei : List (Option Int)
  providers : List String
  routeFamily : String
  strategyFamily : String
  capitalSource : String
  profitabilityChain : ProfitabilityChain

def firstText (candidates : List String) : String :=
  (candidates.find? fun text => text != "").getD ""

def Pending.loanId (pending : Pending) : String := firstText pending.loanIds

def Pending.borrowCostUsd (pending : Pending) : Usd :=
  ((pending.borrowCostsUsd.findSome? id).map (max 0)).getD 0

def Pending.flashloanFeeWei (pending : Pending) : Int :=
  ((pending.flashloanFeesWei.findSome? id).map (max 0)).getD 0

/-- `"flash" in text`. -/
def mentionsFlash (text : String) : Bool := decide ("flash".toList <:+: text.toList)

/-- The source of `_borrowing_surface`. -/
def Pending.borrowingSource (pending : Pending) : String :=
  if pending.loanId ≠ "" then "internal_prime"
  else if firstText pending.providers ≠ "" || mentionsFlash pending.routeFamily
      || mentionsFlash pending.strategyFamily then "flashloan"
  else pending.capitalSource

/-- The arguments of a call, with the id, the times and the ids it draws. -/
structure SyncCall where
  txHash : String
  pending : Pending
  decoded : Decoded
  status : Int
  amountIn : Int
  realizedAfter : Int
  submitToReceiptMs : Int
  routeId : String
  routeFamily : String
  strategyFamily : String
  captureLanePending : String
  outcomeTruthVerified : Bool
  outcomeTruthReasonCode : String
  stamp : Stamp
  clock : Clock

def SyncCall.success (c : SyncCall) : Bool := c.status == 1

def SyncCall.netRealizedUsd (c : SyncCall) (realizedAfterUsd : Usd) : Usd :=
  realizedAfterUsd - c.pending.borrowCostUsd - if c.success then 0 else c.decoded.gasCostUsd

def SyncCall.receiptTx (c : SyncCall) (realizedAfterUsd : Usd) : ReceiptTx :=
  let net := c.netRealizedUsd realizedAfterUsd
  let family := if c.strategyFamily = "" then "flashloan_atomic" else c.strategyFamily
  let note := "receipt_settlement:" ++ if c.routeId = "" then c.txHash else c.routeId
  { transactionId := c.stamp.txId
    tsMs := c.stamp.tsMs
    receiptId := c.txHash
    lines :=
      [⟨"asset:USD", "USD", pyRound 8 net, family, note ++ ":net"⟩,
        ⟨"equity:offset", "USD", pyRound 8 (-net), family, note ++ ":offset"⟩]
    status := c.status
    gasCostWei := c.decoded.realizedGasCostWei
    realizedAfterGasWei := if c.success then c.realizedAfter else 0 }

/-- The arguments the capital write service is called with. -/
def SyncCall.settlement (c : SyncCall) (realizedAfterUsd : Usd)
    (transition : Option SettlementTransition) : ReceiptSettlement where
  tx := c.receiptTx realizedAfterUsd
  receiptId := c.txHash
  status := c.status
  amountIn := c.amountIn
  submitToReceiptMs := c.submitToReceiptMs
  routeId := c.routeId
  routeFamily := c.routeFamily
  strategyFamily := c.strategyFamily
  captureLanePending := c.captureLanePending
  realizedAfterUsd := realizedAfterUsd
  borrowCostUsd := c.pending.borrowCostUsd
  netRealizedUsd := c.netRealizedUsd realizedAfterUsd
  gasCostWei := c.decoded.realizedGasCostWei
  profitabilityChain := c.pending.profitabilityChain
  borrowingSource := c.pending.borrowingSource
  flashloanProvider := firstText c.pending.providers
  flashloanFeeWei := c.pending.flashloanFeeWei
  outcomeTruthVerified := c.outcomeTruthVerified
  primeTransition := transition

/-! ## The runtime -/

/-- Which of the services the runtime has. -/
structure Wiring where
  hasLedger : Bool
  hasRepo : Bool
  hasWriter : Bool

/-- The runtime of the service. `settledLoans` is history: the loans the prime has settled. -/
structure ReceiptRuntime (S M : Type) extends Runtime S M where
  settledReceipts : List String
  settledLoans : List String

/-- Where `next_amount_in` fails; `handled` tells whether an exception that leaves it is one
of those the service handles. -/
structure SizingFaults where
  compute : Fault
  history : Fault
  event : Fault
  handled : Bool

/-- Where a call fails. An exception of a fault that is caught is handled where it is raised;
the handler of the treasury section catches what leaves its steps when `treasuryHandled`. -/
structure SyncFaults where
  repoCheck : Fault
  fileCheck : Fault
  append : Fault
  persistInsert : Fault
  persistEvent : Fault
  prepare : Fault
  settle : Prime.Faults
  settleHandled : Bool
  readMeta : Bool
  sizing : SizingFaults
  select : SelectFaults
  treasuryState : Fault
  treasuryEvent : Fault
  treasuryHandled : Bool
  commit : CommitFaults
  commitHandled : Bool
  publish : Fault

/-- The result of a call; `committed` is the key `settlementCommitted`. -/
inductive SyncResult where
  | duplicate
  | settled (transactionId : String)
  | failed (reason : String) (committed : Bool)
  | raised
deriving DecidableEq

def SyncResult.ok : SyncResult → Bool
  | .duplicate => true
  | .settled _ => true
  | .failed _ _ => false
  | .raised => false

/-- The numbers that are parameters: those of `pre_select_strategy` and of `next_amount_in`. -/
structure Numbers (S M : Type) extends Strategy S M where
  sizing : Bankroll → Int

/-! ## Duplicates -/

/-- `_repo_has_receipt_transaction`; nothing where it raises. -/
def repoHasReceipt (w : Wiring) (fault : Fault) (rt : ReceiptRuntime S M) (receiptId : String) :
    Option Bool :=
  if ¬ w.hasRepo then some false
  else
    match fault with
    | .ok => some (receiptId != "" && rt.rows.receipts.any fun tx => tx.receiptId == receiptId)
    | .caught => some false
    | .escapes => none

/-- `_ledger_has_receipt_transaction`. -/
def ledgerHasReceipt (w : Wiring) (fault : Fault) (rt : ReceiptRuntime S M) (receiptId : String) :
    Option Bool :=
  if ¬ w.hasLedger then some false
  else
    match fault with
    | .ok => some (rt.ledgerFile.any fun tx => tx.receiptId == receiptId)
    | .caught => some false
    | .escapes => none

def duplicateReceipt (w : Wiring) (f : SyncFaults) (rt : ReceiptRuntime S M) (receiptId : String) :
    Option Bool :=
  if receiptId ∈ rt.settledReceipts then some true
  else
    match repoHasReceipt w f.repoCheck rt receiptId with
    | some false => ledgerHasReceipt w f.fileCheck rt receiptId
    | found => found

/-- `settled.add`. -/
def ReceiptRuntime.markSettled (rt : ReceiptRuntime S M) (receiptId : String) :
    ReceiptRuntime S M :=
  { rt with settledReceipts := rt.settledReceipts.insert receiptId }

/-! ## The ledger without a capital write service -/

/-- The ledger file is appended to, then the repository. -/
def appendDirect (w : Wiring) (f : SyncFaults) (rt : ReceiptRuntime S M) (tx : ReceiptTx) :
    ReceiptRuntime S M × Fault :=
  match f.append with
  | .ok =>
    let rt := { rt with ledgerFile := rt.ledgerFile ++ [tx] }
    if ¬ w.hasRepo then (rt, .ok)
    else
      match f.persistInsert with
      | .ok =>
        let inserted := { rt with rows := addReceipt tx rt.rows }
        match f.persistEvent with
        | .ok => ({ inserted with rows := addEvent (.ledger tx) inserted.rows }, .ok)
        | .caught => (inserted, .ok)
        | .escapes => (inserted, .escapes)
      | fault => (rt, fault)
  | fault => (rt, fault)

/-- The receipt transaction is built, and written when there is no capital write service. -/
def recordReceipt (w : Wiring) (f : SyncFaults) (rt : ReceiptRuntime S M) (tx : ReceiptTx) :
    ReceiptRuntime S M × Fault :=
  if ¬ validLines tx.lines then (rt, .caught)
  else if w.hasWriter then (rt, .ok)
  else appendDirect w f rt tx

/-! ## The loan -/

/-- What became of the loan: there is none, its settlement was prepared or could not be, or
it was settled. -/
inductive LoanResult where
  | none
  | prepared (transition : SettlementTransition)
  | unprepared
  | settled

def LoanResult.transition : LoanResult → Option SettlementTransition
  | .prepared transition => some transition
  | _ => Option.none

/-- The allocator with its stores. -/
def primeWorld (rt : ReceiptRuntime S M) (s : PrimeState) : World :=
  ⟨s, ⟨rt.rows.primeJournal, rt.primeLedgerFile, rt.rows.primeStates⟩⟩

/-- The runtime after the allocator and its stores changed. -/
def ReceiptRuntime.withPrime (rt : ReceiptRuntime S M) (world : World) : ReceiptRuntime S M :=
  { rt with
    prime := some world.prime
    rows :=
      { rt.rows with
        primeJournal := world.store.journal
        primeStates := world.store.snapshots }
    primeLedgerFile := world.store.ledgerFile }

/-- The loan is settled: prepared for the commit, or at once when nothing commits it. Nothing
is returned when the call ends here, with its result. -/
def settleLoan (w : Wiring) (f : SyncFaults) (rt : ReceiptRuntime S M) (c : SyncCall)
    (realizedAfterUsd : Usd) : ReceiptRuntime S M × Except SyncResult LoanResult :=
  let pnl := pyRound 6 (c.netRealizedUsd realizedAfterUsd)
  match rt.prime with
  | none => (rt, .ok .none)
  | some s =>
    if c.pending.loanId = "" then (rt, .ok .none)
    else if w.hasWriter then
      match f.prepare with
      | .ok =>
        (rt, .ok (.prepared
          (prepareSettlementTransition s c.pending.loanId pnl c.txHash c.clock)))
      | .caught => (rt, .ok .unprepared)
      | .escapes => (rt, .error .raised)
    else
      match settle f.settle c.clock (primeWorld rt s) c.pending.loanId pnl with
      | (world, .settled _ _ _) =>
        let rt := rt.withPrime world
        ({ rt with settledLoans := rt.settledLoans ++ [c.pending.loanId] }, .ok .settled)
      | (world, .disputed _ _) =>
        (rt.withPrime world,
          .error (.failed PrimeReason.inventoryUntrackedOnSettlement.code false))
      | (world, .rejected reason _) => (rt.withPrime world, .error (.failed reason.code false))
      | (world, .failed reason) => (rt.withPrime world, .error (.failed reason.code false))
      | (world, .raised) =>
        (rt.withPrime world,
          .error (if f.settleHandled then .failed "prime_settle_failed" false else .raised))

/-! ## The treasury -/

def recommend (b : Bankroll) (now amount : Int) : Bankroll :=
  { b with
    state :=
      { b.state with
        lastAmountInWei := amount
        updatedTsMs := now
        sizingUpdatedTsMs := now } }

/-- `next_amount_in`, with the base amount in the place of an exception the service handles;
nothing where the exception leaves the service. -/
def nextAmountIn (numbers : Numbers S M) (f : SizingFaults) (now : Int) (rt : ReceiptRuntime S M)
    (b : Bankroll) : ReceiptRuntime S M × Option Int :=
  let base := b.cfg.baseBorrowAmountWei
  let left := if f.handled then some base else none
  if base ≤ 0 then (rt, some 0)
  else if f.compute = .escapes then (rt, none)
  else if f.compute = .caught then (rt, some base)
  else
    let amount := numbers.sizing b
    let b := recommend b now amount
    let rt := { rt with bankroll := some b }
    if f.history = .escapes then (rt, left)
    else
      let rt := { rt with
        rows := if f.history = .ok then addBankroll b.state rt.rows else rt.rows }
      if f.event = .escapes then (rt, left)
      else
        ({ rt with rows := if f.event = .ok then addEvent (.bankroll b.state) rt.rows else rt.rows },
          some amount)

/-- The amount the bankroll recommends. Without a bankroll none is asked for. -/
def nextAmount (numbers : Numbers S M) (f : SizingFaults) (now : Int) (rt : ReceiptRuntime S M) :
    ReceiptRuntime S M × Option Int :=
  match rt.bankroll with
  | none => (rt, some 0)
  | some b => nextAmountIn numbers f now rt b

/-- The metadata the service assigns; `next` is the recommended amount. -/
def serviceMeta (settings : TreasuryMeta) (bankroll : Option Bankroll) (next : Int)
    (a : ReceiptSettlement) : TreasuryMeta :=
  match bankroll with
  | none =>
    { settings with
      rollingGasCostWei := some (settings.rollingGasCostWei.getD 0 + a.gasCostWei)
      rollingFailures := some (settings.rollingFailures.getD 0 + if a.success then 0 else 1)
      turnoverCount := some (settings.turnoverCount.getD 0 + 1)
      lastSettlement := some (lastSettlement a) }
  | some b =>
    settledMeta settings (some b) ⟨b.state.realizedProfitWei, next, b.state.updatedTsMs⟩ a

def persistSnapshot (f : SyncFaults) (rt : ReceiptRuntime S M) (t : Treasury S)
    (snapshot : TreasurySnapshot S) : ReceiptRuntime S M × Bool :=
  let rt := { rt with treasury := some { t with last := some snapshot } }
  if f.treasuryState = .escapes then (rt, f.treasuryHandled)
  else
    let rt := { rt with
      rows := if f.treasuryState = .ok then addTreasury snapshot rt.rows else rt.rows }
    if f.treasuryEvent = .escapes then (rt, f.treasuryHandled)
    else
      ({ rt with
          rows := if f.treasuryEvent = .ok then addEvent (.treasury snapshot) rt.rows else rt.rows },
        true)

/-- The treasury section; the flag is false where an exception leaves the service. -/
def recordTreasury (numbers : Numbers S M) (f : SyncFaults) (now : Int) (rt : ReceiptRuntime S M)
    (a : ReceiptSettlement) : ReceiptRuntime S M × Bool :=
  match rt.treasury with
  | none => (rt, true)
  | some t =>
    if f.readMeta then (rt, f.treasuryHandled)
    else
      match nextAmount numbers f.sizing now rt with
      | (rt', none) => (rt', false)
      | (rt', some next) =>
        -- The first of the two places that count the receipt. The profit is the one of
        -- before the recommendation.
        let t := { t with settings := serviceMeta t.settings rt.bankroll next a }
        let rt' := { rt' with treasury := some t }
        let post := postBankroll rt'.bankroll none a
        match preSelectStrategy numbers.toStrategy f.select t post rt'.rows with
        | (rows, none) => ({ rt' with rows := rows }, f.treasuryHandled)
        | (rows, some s) => persistSnapshot f { rt' with rows := rows } t ⟨s, none⟩

/-! ## The end of a call -/

/-- The faults of the commit; without a repository it has not what it depends on. -/
def SyncFaults.commitFaults (f : SyncFaults) (w : Wiring) : CommitFaults :=
  { f.commit with dependencies := f.commit.dependencies || !w.hasRepo }

/-- The commit of the capital write service. A settlement that is committed without its loan
is reported as failed. -/
def commitSettlement (numbers : Numbers S M) (f : SyncFaults) (w : Wiring) (rt : ReceiptRuntime S M)
    (c : SyncCall) (realizedAfterUsd : Usd) (loan : LoanResult) :
    ReceiptRuntime S M × SyncResult :=
  let a := c.settlement realizedAfterUsd loan.transition
  match commitReceiptSettlement numbers.toStrategy (f.commitFaults w) c.clock.now rt.toRuntime a with
  | (rt', none) =>
    ({ rt with toRuntime := rt' },
      if f.commitHandled then .failed "capital_write_failed" false else .raised)
  | (rt', some result) =>
    let rt := { rt with toRuntime := rt' }
    match loan with
    | .prepared transition =>
      if transition.ok then
        (({ rt with settledLoans := rt.settledLoans ++ [c.pending.loanId] }).markSettled c.txHash,
          .settled result.transactionId)
      else
        (rt, .failed ((transition.reason.map PrimeReason.code).getD "prime_settle_failed") true)
    | .unprepared => (rt, .failed "prime_settle_prepare_failed" true)
    | _ => (rt.markSettled c.txHash, .settled result.transactionId)

/-- Without a capital write service an event is published. -/
def publishReceipt (f : SyncFaults) (rt : ReceiptRuntime S M) (c : SyncCall)
    (a : ReceiptSettlement) : ReceiptRuntime S M × SyncResult :=
  match f.publish with
  | .ok =>
    (({ rt with rows := addEvent (.receipt (receiptEvent a)) rt.rows }).markSettled c.txHash,
      .settled a.tx.transactionId)
  | .caught => (rt.markSettled c.txHash, .settled a.tx.transactionId)
  | .escapes => (rt, .raised)

def settleReceipt (numbers : Numbers S M) (w : Wiring) (f : SyncFaults) (rt : ReceiptRuntime S M)
    (c : SyncCall) (realizedAfterUsd : Usd) : ReceiptRuntime S M × SyncResult :=
  match recordReceipt w f rt (c.receiptTx realizedAfterUsd) with
  | (rt, .caught) => (rt, .failed "ledger_sync_failed" false)
  | (rt, .escapes) => (rt, .raised)
  | (rt, .ok) =>
    match settleLoan w f rt c realizedAfterUsd with
    | (rt, .error result) => (rt, result)
    | (rt, .ok loan) =>
      let a := c.settlement realizedAfterUsd loan.transition
      match recordTreasury numbers f c.clock.now rt a with
      | (rt, false) => (rt, .raised)
      | (rt, true) =>
        if w.hasWriter then commitSettlement numbers f w rt c realizedAfterUsd loan
        else publishReceipt f rt c a

/-- `synchronize_settlement_accounting`. -/
def synchronize (numbers : Numbers S M) (w : Wiring) (f : SyncFaults) (rt : ReceiptRuntime S M)
    (c : SyncCall) : ReceiptRuntime S M × SyncResult :=
  match duplicateReceipt w f rt c.txHash with
  | none => (rt, .raised)
  | some true => (rt.markSettled c.txHash, .duplicate)
  | some false =>
    if ¬ w.hasLedger then (rt, .failed "ledger_unavailable" false)
    else if ¬ c.outcomeTruthVerified then
      (rt, .failed
        (if c.outcomeTruthReasonCode = "" then "settled_profit_truth_unavailable"
          else c.outcomeTruthReasonCode) false)
    else
      match c.decoded.realizedAfterUsd c.status with
      | none => (rt, .raised)
      | some realizedAfterUsd => settleReceipt numbers w f rt c realizedAfterUsd

end SovereignCapital.Receipt
