import SovereignCapital.Capital.Bankroll
import SovereignCapital.Lib.Transaction
import SovereignCapital.Prime.Allocator

/-! # Settling a receipt

`CapitalWriteService.commit_receipt_settlement`: the bankroll is projected, the metadata of the
treasury is assigned, a treasury snapshot is computed, one database transaction writes all
rows, and the live objects adopt what was written.

The numbers `pre_select_strategy` computes are a parameter (`Strategy`); what it writes and
how it fails is modelled.
-/

namespace SovereignCapital.Capital

open Decimal Prime Transaction

/-! ## Arguments -/

/-- The payload of a receipt transaction, with the keys of its metadata that are read again. -/
structure ReceiptTx where
  transactionId : String
  tsMs : Int
  receiptId : String
  lines : List LedgerLine
  status : Int
  gasCostWei : Int
  realizedAfterGasWei : Int
deriving DecidableEq

structure ProfitabilityChain where
  authorityStage : String
  authorityReason : String
  authoritative : Bool
  liveGasDerived : Bool
  profitAfterCostsWei : Int
deriving DecidableEq

/-- The arguments of `commit_receipt_settlement`. -/
structure ReceiptSettlement where
  tx : ReceiptTx
  receiptId : String
  status : Int
  amountIn : Int
  submitToReceiptMs : Int
  routeId : String
  routeFamily : String
  strategyFamily : String
  captureLanePending : String
  realizedAfterUsd : Usd
  borrowCostUsd : Usd
  netRealizedUsd : Usd
  gasCostWei : Int
  profitabilityChain : ProfitabilityChain
  borrowingSource : String
  flashloanProvider : String
  flashloanFeeWei : Int
  outcomeTruthVerified : Bool
  /-- nothing when there is no loan, or preparing its settlement failed -/
  primeTransition : Option SettlementTransition

def ReceiptSettlement.success (a : ReceiptSettlement) : Bool := a.status == 1

def ReceiptSettlement.primeJournalTx (a : ReceiptSettlement) : Option JournalTx :=
  a.primeTransition.map SettlementTransition.journalTx

def ReceiptSettlement.stateSnapshot (a : ReceiptSettlement) : Option StatePayload :=
  a.primeTransition.bind SettlementTransition.stateSnapshot

/-! ## The runtime -/

/-- The `last_settlement_*` keys. -/
structure LastSettlement where
  receiptId : String
  settled : Bool
  routeId : String
  routeFamily : String
  strategyFamily : String
  submitToReceiptMs : Int
  realizedAfterGasUsd : Usd
  borrowCostUsd : Usd
  netUsd : Usd
  borrowingSource : String
  flashloanProvider : String
  flashloanFeeWei : Int
  profitabilityChain : ProfitabilityChain
deriving DecidableEq

/-- The keys of `treasury.cfg.meta` a settlement reads or assigns; `none` is an absent key. -/
structure TreasuryMeta where
  rollingGasCostWei : Option Int
  rollingFailures : Option Int
  turnoverCount : Option Int
  lastSettlement : Option LastSettlement
  autoReinvestEnabled : Option Bool
  estimatedCapitalWei : Option Int
  utilizationRate : Option ℚ
  lastRealizedProfitWei : Option Int
deriving DecidableEq

/-- A treasury snapshot: what `pre_select_strategy` returned, and the chain a settlement adds. -/
structure TreasurySnapshot (S : Type) where
  strategy : S
  profitabilityChain : Option ProfitabilityChain

/-- `TreasuryRuntime`. -/
structure Treasury (S : Type) where
  enabled : Bool
  settings : TreasuryMeta
  last : Option (TreasurySnapshot S)

structure ReceiptEvent where
  settled : Bool
  receiptId : String
  routeId : String
  routeFamily : String
  strategyFamily : String
  captureLane : String
  realizedAfterGasUsd : Usd
  borrowCostUsd : Usd
  netRealizedUsd : Usd

inductive CapitalEvent (S : Type) where
  | ledger (tx : ReceiptTx)
  | primeLedger (tx : JournalTx)
  | bankroll (state : BankrollState)
  | treasury (snapshot : TreasurySnapshot S)
  | prime (payload : StatePayload)
  | primeJournal (tx : JournalTx)
  | receipt (event : ReceiptEvent)

/-- The tables of the database. The transactions of receipts and those of the prime are in one
table, which is only read by transaction type. -/
structure Rows (S M : Type) where
  receipts : List ReceiptTx
  primeJournal : List JournalTx
  bankrollEvents : List BankrollState
  treasuryStates : List (TreasurySnapshot S)
  treasuryMetrics : List M
  primeStates : List StatePayload
  events : List (CapitalEvent S)

/-- The runtime: the live objects, the database and the ledger file with its two kinds of
transactions. -/
structure Runtime (S M : Type) where
  treasury : Option (Treasury S)
  bankroll : Option Bankroll
  prime : Option PrimeState
  rows : Rows S M
  ledgerFile : List ReceiptTx
  primeLedgerFile : List JournalTx

variable {S M : Type}

/-! ## Steps that can raise -/

/-- Where `pre_select_strategy` raises: before its metrics row, in it, or after it. -/
structure SelectFaults where
  before : Bool
  metrics : Fault
  after : Bool

/-- Where the call raises, and which of the swallowed writes fail. A field that is true is a
step that raises; the exceptions of a `Fault` that are caught are swallowed. -/
structure CommitFaults where
  dependencies : Bool
  project : Bool
  readMeta : Bool
  select : SelectFaults
  ledgerInsert : Bool
  ledgerEvent : Fault
  bankrollHistory : Bool
  bankrollEvent : Bool
  treasuryState : Bool
  treasuryEvent : Bool
  primeLedgerInsert : Bool
  primeLedgerEvent : Fault
  primeState : Bool
  primeEvent : Bool
  receiptEvent : Bool
  commit : Bool
  /-- the ledger file and the mirror files could be written -/
  ledgerFileSaved : Bool
  primeFileSaved : Bool
  mirrorSaved : Bool

/-! ## The bankroll and the metadata -/

def projectedBankroll (now : Int) (bankroll : Option Bankroll) (a : ReceiptSettlement) :
    Option BankrollState :=
  match bankroll with
  | none => none
  | some b =>
    if a.outcomeTruthVerified then
      some (projectTradeState b now a.success a.tx.realizedAfterGasWei a.amountIn)
    else none

/-- The keys of `post_bankroll` the treasury reads. -/
structure PostBankroll where
  realizedProfitWei : Int
  lastAmountInWei : Int
  updatedTsMs : Int

/-- `post_bankroll`: the projected state, or the numbers of the current one. -/
def postBankroll (bankroll : Option Bankroll) (projected : Option BankrollState)
    (a : ReceiptSettlement) : PostBankroll :=
  match projected, bankroll with
  | some s, _ => ⟨s.realizedProfitWei, s.lastAmountInWei, s.updatedTsMs⟩
  | none, some b => ⟨b.state.realizedProfitWei, a.amountIn, b.state.updatedTsMs⟩
  | none, none => ⟨0, a.amountIn, 0⟩

def lastSettlement (a : ReceiptSettlement) : LastSettlement where
  receiptId := a.receiptId
  settled := a.success
  routeId := a.routeId
  routeFamily := a.routeFamily
  strategyFamily := a.strategyFamily
  submitToReceiptMs := a.submitToReceiptMs
  realizedAfterGasUsd := pyRound 6 a.realizedAfterUsd
  borrowCostUsd := pyRound 6 a.borrowCostUsd
  netUsd := pyRound 6 a.netRealizedUsd
  borrowingSource := a.borrowingSource
  flashloanProvider := a.flashloanProvider
  flashloanFeeWei := a.flashloanFeeWei
  profitabilityChain := a.profitabilityChain

/-- The metadata `treasury.cfg.meta` is assigned. -/
def settledMeta (settings : TreasuryMeta) (bankroll : Option Bankroll) (post : PostBankroll)
    (a : ReceiptSettlement) : TreasuryMeta :=
  let baseBorrow := (bankroll.map fun b => b.cfg.baseBorrowAmountWei).getD 0
  let estimated := max (settings.estimatedCapitalWei.getD 0)
    (post.realizedProfitWei + max baseBorrow post.lastAmountInWei)
  { rollingGasCostWei := some (settings.rollingGasCostWei.getD 0 + a.gasCostWei)
    rollingFailures := some (settings.rollingFailures.getD 0 + if a.success then 0 else 1)
    turnoverCount := some (settings.turnoverCount.getD 0 + 1)
    lastSettlement := some (lastSettlement a)
    autoReinvestEnabled :=
      match bankroll with
      | none => settings.autoReinvestEnabled
      | some b => some b.cfg.autoReinvestEnabled
    estimatedCapitalWei := if 0 < estimated then some estimated else settings.estimatedCapitalWei
    utilizationRate :=
      if 0 < estimated ∧ 0 < a.amountIn then
        some (pyRound 6 (max 0 (min 1 ((a.amountIn : ℚ) / estimated))))
      else settings.utilizationRate
    lastRealizedProfitWei := some post.realizedProfitWei }

/-- `post_bankroll` of the call. -/
def settledPost (now : Int) (bankroll : Option Bankroll) (a : ReceiptSettlement) : PostBankroll :=
  postBankroll bankroll (projectedBankroll now bankroll a) a

def assignMeta (now : Int) (bankroll : Option Bankroll) (a : ReceiptSettlement) (t : Treasury S) :
    Treasury S :=
  { t with settings := settledMeta t.settings bankroll (settledPost now bankroll a) a }

/-! ## The strategy snapshot -/

/-- The numbers of `pre_select_strategy`: the snapshot and the capital efficiency metrics. -/
structure Strategy (S M : Type) where
  snapshot : Treasury S → PostBankroll → S
  metrics : Treasury S → PostBankroll → M

/-- `pre_select_strategy`, as far as both ways of calling it go. The metrics row has a connection of its own;
a database error escapes both handlers around it. -/
def preSelectStrategy (strategy : Strategy S M) (f : SelectFaults) (t : Treasury S)
    (post : PostBankroll) (rows : Rows S M) : Rows S M × Option S :=
  if ¬ t.enabled then (rows, some (strategy.snapshot t post))
  else if f.before then (rows, none)
  else
    match f.metrics with
    | .escapes => (rows, none)
    | .caught => (rows, if f.after then none else some (strategy.snapshot t post))
    | .ok =>
      ({ rows with treasuryMetrics := rows.treasuryMetrics ++ [strategy.metrics t post] },
        if f.after then none else some (strategy.snapshot t post))

/-! ## The transaction -/

def addReceipt (tx : ReceiptTx) (rows : Rows S M) : Rows S M :=
  { rows with receipts := rows.receipts ++ [tx] }

def addPrimeJournal (tx : JournalTx) (rows : Rows S M) : Rows S M :=
  { rows with primeJournal := rows.primeJournal ++ [tx] }

def addBankroll (state : BankrollState) (rows : Rows S M) : Rows S M :=
  { rows with bankrollEvents := rows.bankrollEvents ++ [state] }

def addTreasury (snapshot : TreasurySnapshot S) (rows : Rows S M) : Rows S M :=
  { rows with treasuryStates := rows.treasuryStates ++ [snapshot] }

def addPrime (payload : StatePayload) (rows : Rows S M) : Rows S M :=
  { rows with primeStates := rows.primeStates ++ [payload] }

def addEvent (event : CapitalEvent S) (rows : Rows S M) : Rows S M :=
  { rows with events := rows.events ++ [event] }

/-- `append_transaction` of the ledger repository: the row, and an event whose handled
exceptions are swallowed. -/
def appendTransaction (insertRaises : Bool) (fault : Fault) (insert : Rows S M → Rows S M)
    (event : CapitalEvent S) : List (Write (Rows S M)) :=
  [⟨insertRaises, insert⟩,
    ⟨fault == .escapes, fun rows => if fault = .ok then addEvent event rows else rows⟩]

/-- The payload of the prime that is written and adopted. The commit id is annotated on the
missing snapshot too, so that there always is one. -/
def ReceiptSettlement.primePayload (a : ReceiptSettlement) (now : Int) : StatePayload :=
  a.stateSnapshot.getD (StatePayload.bare now)

def receiptEvent (a : ReceiptSettlement) : ReceiptEvent where
  settled := a.success
  receiptId := a.receiptId
  routeId := if a.routeId = "" then a.receiptId else a.routeId
  routeFamily := a.routeFamily
  strategyFamily := a.strategyFamily
  captureLane := a.captureLanePending
  realizedAfterGasUsd := pyRound 6 a.realizedAfterUsd
  borrowCostUsd := pyRound 6 a.borrowCostUsd
  netRealizedUsd := pyRound 6 a.netRealizedUsd

def bankrollWrites (f : CommitFaults) (projected : Option BankrollState) :
    List (Write (Rows S M)) :=
  match projected with
  | none => []
  | some s => [⟨f.bankrollHistory, addBankroll s⟩, ⟨f.bankrollEvent, addEvent (.bankroll s)⟩]

def treasuryWrites (f : CommitFaults) (snapshot : Option (TreasurySnapshot S)) :
    List (Write (Rows S M)) :=
  match snapshot with
  | none => []
  | some s => [⟨f.treasuryState, addTreasury s⟩, ⟨f.treasuryEvent, addEvent (.treasury s)⟩]

/-- The rows of the prime: its transaction, then a snapshot or an event of the transaction. -/
def primeWrites (f : CommitFaults) (now : Int) (hasPrime : Bool) (a : ReceiptSettlement) :
    List (Write (Rows S M)) :=
  (match a.primeJournalTx with
    | none => []
    | some tx =>
      appendTransaction f.primeLedgerInsert f.primeLedgerEvent (addPrimeJournal tx)
        (.primeLedger tx))
  ++ if hasPrime then
      [⟨f.primeState, addPrime (a.primePayload now)⟩,
        ⟨f.primeEvent, addEvent (.prime (a.primePayload now))⟩]
    else
      match a.primeJournalTx with
      | none => []
      | some tx => [⟨f.primeEvent, addEvent (.primeJournal tx)⟩]

/-- The body of the database transaction. -/
def settlementWrites (f : CommitFaults) (now : Int) (hasPrime : Bool)
    (projected : Option BankrollState) (snapshot : Option (TreasurySnapshot S))
    (a : ReceiptSettlement) : List (Write (Rows S M)) :=
  appendTransaction f.ledgerInsert f.ledgerEvent (addReceipt a.tx) (.ledger a.tx)
    ++ bankrollWrites f projected ++ treasuryWrites f snapshot
    ++ primeWrites f now hasPrime a
    ++ [⟨f.receiptEvent, addEvent (.receipt (receiptEvent a))⟩]

/-! ## The call -/

/-- The parts of the returned payload. -/
structure CommitResult (S : Type) where
  transactionId : String
  treasurySnapshot : Option (TreasurySnapshot S)
  bankrollState : Option BankrollState
  primeResult : Option SettlementTransition

/-- The live objects adopt what was written. -/
def adoptSettlement (f : CommitFaults) (now : Int) (rt : Runtime S M)
    (projected : Option BankrollState) (snapshot : Option (TreasurySnapshot S))
    (a : ReceiptSettlement) : Runtime S M :=
  { rt with
    bankroll :=
      match projected with
      | none => rt.bankroll
      | some s => rt.bankroll.map fun b => applyStatePayload b now s
    treasury :=
      match snapshot with
      | none => rt.treasury
      | some s => rt.treasury.map fun t => { t with last := some s }
    prime := rt.prime.map fun _ => adoptMirrored (a.primePayload now) f.mirrorSaved }

/-- After the transaction: the ledger files, whose validation is not a handled exception, and
the live objects. -/
def publishSettlement (f : CommitFaults) (now : Int) (rt : Runtime S M)
    (projected : Option BankrollState) (snapshot : Option (TreasurySnapshot S))
    (a : ReceiptSettlement) : Runtime S M × Option (CommitResult S) :=
  if ¬ validLines a.tx.lines then (rt, none)
  else
    let rt :=
      { rt with
        ledgerFile := rt.ledgerFile ++ if f.ledgerFileSaved then [a.tx] else [] }
    let done := fun rt : Runtime S M =>
      (adoptSettlement f now rt projected snapshot a,
        some (⟨a.tx.transactionId, snapshot, projected, a.primeTransition⟩ : CommitResult S))
    match a.primeJournalTx with
    | none => done rt
    | some tx =>
      if rt.prime.isNone then done rt
      else if ¬ validLines tx.lines then (rt, none)
      else
        done
          { rt with
            primeLedgerFile :=
              rt.primeLedgerFile ++ if f.primeFileSaved then [tx] else [] }

/-- The transaction and what follows it. -/
def writeSettlement (f : CommitFaults) (now : Int) (rt : Runtime S M)
    (projected : Option BankrollState) (snapshot : Option (TreasurySnapshot S))
    (a : ReceiptSettlement) : Runtime S M × Option (CommitResult S) :=
  match transaction (settlementWrites f now rt.prime.isSome projected snapshot a) f.commit
      rt.rows with
  | (rows, false) => ({ rt with rows := rows }, none)
  | (rows, true) => publishSettlement f now { rt with rows := rows } projected snapshot a

def commitReceiptSettlement (strategy : Strategy S M) (f : CommitFaults) (now : Int)
    (rt : Runtime S M) (a : ReceiptSettlement) : Runtime S M × Option (CommitResult S) :=
  if f.dependencies then (rt, none)
  else if a.outcomeTruthVerified && rt.bankroll.isSome && f.project then (rt, none)
  else
    let projected := projectedBankroll now rt.bankroll a
    match rt.treasury with
    | none => writeSettlement f now rt projected none a
    | some t =>
      if f.readMeta then (rt, none)
      else
        -- The metadata is assigned before the transaction and never taken back.
        let t := assignMeta now rt.bankroll a t
        match preSelectStrategy strategy f.select t (settledPost now rt.bankroll a) rt.rows with
        | (rows, none) => ({ rt with treasury := some t, rows := rows }, none)
        | (rows, some s) =>
          writeSettlement f now { rt with treasury := some t, rows := rows } projected
            (some ⟨s, some a.profitabilityChain⟩) a

end SovereignCapital.Capital
