import SovereignCapital.Capital.Write

/-! # Atomicity of a settlement

A settlement that raises should leave the treasury, the bankroll, the prime and the database
as they were, and one that returns should leave all of them settled. The transaction itself is
atomic; what surrounds it is not. `commit_atomic_iff` says exactly when a call is.
-/

namespace SovereignCapital.Capital

open Prime Transaction

variable {S M : Type}

/-! ## What the transaction writes -/

section Tables

variable (f : CommitFaults) (now : Int) (hasPrime : Bool) (projected : Option BankrollState)
  (snapshot : Option (TreasurySnapshot S)) (a : ReceiptSettlement) (rows : Rows S M)

/-- The tables but the events are those of the second argument, with the rows added. -/
structure Adds (rows rows' : Rows S M) (receipts : List ReceiptTx) (journal : List JournalTx)
    (bankroll : List BankrollState) (treasury : List (TreasurySnapshot S))
    (prime : List StatePayload) : Prop where
  receipts : rows'.receipts = rows.receipts ++ receipts
  primeJournal : rows'.primeJournal = rows.primeJournal ++ journal
  bankrollEvents : rows'.bankrollEvents = rows.bankrollEvents ++ bankroll
  treasuryStates : rows'.treasuryStates = rows.treasuryStates ++ treasury
  treasuryMetrics : rows'.treasuryMetrics = rows.treasuryMetrics
  primeStates : rows'.primeStates = rows.primeStates ++ prime

theorem Adds.refl (rows : Rows S M) : Adds rows rows [] [] [] [] [] :=
  ⟨(List.append_nil _).symm, (List.append_nil _).symm, (List.append_nil _).symm,
    (List.append_nil _).symm, rfl, (List.append_nil _).symm⟩

theorem Adds.trans {rows rows₁ rows₂ : Rows S M} {receipts receipts' : List ReceiptTx}
    {journal journal' : List JournalTx} {bankroll bankroll' : List BankrollState}
    {treasury treasury' : List (TreasurySnapshot S)} {prime prime' : List StatePayload}
    (h : Adds rows rows₁ receipts journal bankroll treasury prime)
    (h' : Adds rows₁ rows₂ receipts' journal' bankroll' treasury' prime') :
    Adds rows rows₂ (receipts ++ receipts') (journal ++ journal') (bankroll ++ bankroll')
      (treasury ++ treasury') (prime ++ prime') := by
  constructor
  · rw [h'.receipts, h.receipts, List.append_assoc]
  · rw [h'.primeJournal, h.primeJournal, List.append_assoc]
  · rw [h'.bankrollEvents, h.bankrollEvents, List.append_assoc]
  · rw [h'.treasuryStates, h.treasuryStates, List.append_assoc]
  · rw [h'.treasuryMetrics, h.treasuryMetrics]
  · rw [h'.primeStates, h.primeStates, List.append_assoc]

theorem Adds.event {rows rows' : Rows S M} {receipts : List ReceiptTx} {journal : List JournalTx}
    {bankroll : List BankrollState} {treasury : List (TreasurySnapshot S)}
    {prime : List StatePayload} (h : Adds rows rows' receipts journal bankroll treasury prime)
    (event : CapitalEvent S) :
    Adds rows (addEvent event rows') receipts journal bankroll treasury prime :=
  ⟨h.receipts, h.primeJournal, h.bankrollEvents, h.treasuryStates, h.treasuryMetrics,
    h.primeStates⟩

/-- The event of a ledger transaction is in none of these tables. -/
theorem Adds.appendTransaction {insertRaises : Bool} {fault : Fault}
    {insert : Rows S M → Rows S M} {event : CapitalEvent S} {receipts : List ReceiptTx}
    {journal : List JournalTx} {bankroll : List BankrollState}
    {treasury : List (TreasurySnapshot S)} {prime : List StatePayload}
    (h : Adds rows (insert rows) receipts journal bankroll treasury prime) :
    Adds rows (applyAll (appendTransaction insertRaises fault insert event) rows) receipts journal
      bankroll treasury prime := by
  simp only [Capital.appendTransaction, applyAll_cons, applyAll_nil]
  split
  · exact h.event event
  · exact h

theorem adds_receipt (tx : ReceiptTx) : Adds rows (addReceipt tx rows) [tx] [] [] [] [] :=
  ⟨rfl, (List.append_nil _).symm, (List.append_nil _).symm, (List.append_nil _).symm, rfl,
    (List.append_nil _).symm⟩

theorem adds_primeJournal (tx : JournalTx) :
    Adds rows (addPrimeJournal tx rows) [] [tx] [] [] [] :=
  ⟨(List.append_nil _).symm, rfl, (List.append_nil _).symm, (List.append_nil _).symm, rfl,
    (List.append_nil _).symm⟩

theorem applyAll_bankrollWrites :
    Adds rows (applyAll (bankrollWrites f projected) rows) [] [] projected.toList [] [] := by
  unfold bankrollWrites
  cases projected with
  | none => exact .refl rows
  | some s =>
    exact ⟨(List.append_nil _).symm, (List.append_nil _).symm, rfl, (List.append_nil _).symm, rfl,
      (List.append_nil _).symm⟩

theorem applyAll_treasuryWrites :
    Adds rows (applyAll (treasuryWrites f snapshot) rows) [] [] [] snapshot.toList [] := by
  unfold treasuryWrites
  cases snapshot with
  | none => exact .refl rows
  | some s =>
    exact ⟨(List.append_nil _).symm, (List.append_nil _).symm, (List.append_nil _).symm, rfl, rfl,
      (List.append_nil _).symm⟩

def primeRows : List StatePayload := if hasPrime then [a.primePayload now] else []

theorem applyAll_primeWrites :
    Adds rows (applyAll (primeWrites f now hasPrime a) rows) [] a.primeJournalTx.toList [] []
      (primeRows now hasPrime a) := by
  have hstates : ∀ (rows : Rows S M) (payload : StatePayload),
      Adds rows (addEvent (.prime payload) (addPrime payload rows)) [] [] [] [] [payload] :=
    fun _ _ => ⟨(List.append_nil _).symm, (List.append_nil _).symm, (List.append_nil _).symm,
      (List.append_nil _).symm, rfl, rfl⟩
  unfold primeWrites primeRows
  rw [applyAll_append]
  cases a.primeJournalTx with
  | none =>
    cases hasPrime with
    | false => exact .refl rows
    | true => exact hstates rows _
  | some tx =>
    have hledger := @Adds.appendTransaction _ _ _ f.primeLedgerInsert f.primeLedgerEvent _
      (.primeLedger tx) _ _ _ _ _ (adds_primeJournal rows tx)
    cases hasPrime with
    | false => exact hledger.event (.primeJournal tx)
    | true => exact hledger.trans (hstates _ _)

/-- **The tables after the transaction.** -/
theorem applyAll_settlementWrites :
    let rows' := applyAll (settlementWrites f now hasPrime projected snapshot a) rows
    Adds rows rows' [a.tx] a.primeJournalTx.toList projected.toList snapshot.toList
        (primeRows now hasPrime a)
      ∧ CapitalEvent.receipt (receiptEvent a) ∈ rows'.events := by
  intro rows'
  simp only [rows', settlementWrites, applyAll_append, applyAll_cons, applyAll_nil]
  have hledger := @Adds.appendTransaction _ _ _ f.ledgerInsert f.ledgerEvent _ (.ledger a.tx)
    _ _ _ _ _ (adds_receipt rows a.tx)
  have hbankroll := hledger.trans (applyAll_bankrollWrites f projected _)
  have htreasury := hbankroll.trans (applyAll_treasuryWrites f snapshot _)
  have hprime := htreasury.trans (applyAll_primeWrites f now hasPrime a _)
  constructor
  · simpa using hprime.event (.receipt (receiptEvent a))
  · exact List.mem_append_right _ (List.mem_singleton_self _)

end Tables

/-! ## Where a call raises -/

variable (f : CommitFaults) (rt : Runtime S M) (a : ReceiptSettlement)

/-- The call raises before anything is assigned. -/
def raisesEarly : Bool :=
  f.dependencies || (a.outcomeTruthVerified && rt.bankroll.isSome && f.project)
    || (rt.treasury.isSome && f.readMeta)

/-- Computing a strategy snapshot raises, when it is computed. -/
def SelectFaults.fails (f : SelectFaults) : Bool := f.before || f.metrics == .escapes || f.after

/-- The strategy snapshot of the treasury raises. -/
def selectFails : Bool :=
  match rt.treasury with
  | none => false
  | some t => t.enabled && f.select.fails

/-- A write of the transaction that is made, or the commit, raises. -/
def transactionFails : Bool :=
  f.ledgerInsert || f.ledgerEvent == .escapes
    || (a.outcomeTruthVerified && rt.bankroll.isSome && (f.bankrollHistory || f.bankrollEvent))
    || (rt.treasury.isSome && (f.treasuryState || f.treasuryEvent))
    || (a.primeTransition.isSome && (f.primeLedgerInsert || f.primeLedgerEvent == .escapes))
    || (rt.prime.isSome && f.primeState)
    || ((rt.prime.isSome || a.primeTransition.isSome) && f.primeEvent)
    || f.receiptEvent || f.commit

/-- A transaction written to the ledger file after the commit does not balance. -/
def unbalanced : Bool :=
  !validLines a.tx.lines
    || (rt.prime.isSome && a.primeJournalTx.any fun tx => !validLines tx.lines)

theorem fails_settlementWrites (now : Int) {projected : Option BankrollState}
    {snapshot : Option (TreasurySnapshot S)}
    (hprojected : projected.isSome = (a.outcomeTruthVerified && rt.bankroll.isSome))
    (hsnapshot : snapshot.isSome = rt.treasury.isSome) :
    fails (settlementWrites (M := M) f now rt.prime.isSome projected snapshot a) f.commit
      = transactionFails f rt a := by
  have htx : a.primeTransition.isSome = a.primeJournalTx.isSome := by
    simp [ReceiptSettlement.primeJournalTx]
  rw [transactionFails, ← hprojected, ← hsnapshot, htx]
  simp only [fails, settlementWrites, appendTransaction, bankrollWrites, treasuryWrites, primeWrites]
  cases projected <;> cases snapshot <;> cases a.primeJournalTx <;> cases rt.prime.isSome <;>
    simp [Bool.or_assoc]

/-! ## What a settlement should leave -/

/-- The live objects and the database are as they were. -/
structure Unchanged (rt rt' : Runtime S M) : Prop where
  treasury : rt'.treasury = rt.treasury
  bankroll : rt'.bankroll = rt.bankroll
  prime : rt'.prime = rt.prime
  rows : rt'.rows = rt.rows

def settledTreasury (strategy : Strategy S M) (now : Int) (bankroll : Option Bankroll)
    (a : ReceiptSettlement) (t : Treasury S) : Treasury S :=
  let t := assignMeta now bankroll a t
  { t with
    last := some ⟨strategy.snapshot t (settledPost now bankroll a), some a.profitabilityChain⟩ }

/-- The bankroll after the settlement: a verified outcome is recorded. -/
def settledBankroll (now : Int) (a : ReceiptSettlement) (b : Bankroll) : Bankroll :=
  if a.outcomeTruthVerified then
    { b with state := projectTradeState b now a.success a.tx.realizedAfterGasWei a.amountIn }
  else b

/-- The book of the prime after the settlement: that of the prepared snapshot, or the same
when no loan was settled. -/
def settledBook (a : ReceiptSettlement) (s : PrimeState) : Book :=
  match a.stateSnapshot with
  | none => s.toBook
  | some payload => (adoptStatePayload payload).toBook

/-- The live objects and the tables have the settlement. -/
structure Reflects (strategy : Strategy S M) (now : Int) (rt : Runtime S M)
    (a : ReceiptSettlement) (rt' : Runtime S M) : Prop where
  treasury : rt'.treasury = rt.treasury.map (settledTreasury strategy now rt.bankroll a)
  bankroll : rt'.bankroll = rt.bankroll.map (settledBankroll now a)
  prime : rt'.prime.map PrimeState.toBook = rt.prime.map (settledBook a)
  receipts : rt'.rows.receipts = rt.rows.receipts ++ [a.tx]
  primeJournal : rt'.rows.primeJournal = rt.rows.primeJournal ++ a.primeJournalTx.toList
  bankrollEvents : rt'.rows.bankrollEvents
    = rt.rows.bankrollEvents ++ (projectedBankroll now rt.bankroll a).toList
  treasuryStates : rt'.rows.treasuryStates = rt.rows.treasuryStates
    ++ (rt.treasury.bind fun t => (settledTreasury strategy now rt.bankroll a t).last).toList
  primeStates : rt'.rows.primeStates
    = rt.rows.primeStates ++ if rt.prime.isSome then a.stateSnapshot.toList else []
  event : CapitalEvent.receipt (receiptEvent a) ∈ rt'.rows.events

/-- The settlement is atomic: raising, it changes nothing; returning, it settles everything. -/
def Atomic (strategy : Strategy S M) (f : CommitFaults) (now : Int) (rt : Runtime S M)
    (a : ReceiptSettlement) : Prop :=
  match (commitReceiptSettlement strategy f now rt a).2 with
  | none => Unchanged rt (commitReceiptSettlement strategy f now rt a).1
  | some _ => Reflects strategy now rt a (commitReceiptSettlement strategy f now rt a).1

/-- The call raises early; or it raises up to the commit and there is no treasury; or nothing
raises, the ledger transactions balance and the prime, if there is one, gets a snapshot. -/
def CommitSafe (f : CommitFaults) (rt : Runtime S M) (a : ReceiptSettlement) : Prop :=
  raisesEarly f rt a = true
    ∨ if selectFails f rt || transactionFails f rt a then rt.treasury.isNone = true
      else unbalanced rt a = false ∧ (rt.prime.isSome = true → a.stateSnapshot.isSome = true)

/-! ## The ways through a call -/

/-- The runtime at the transaction: the metadata is assigned, the metrics row is written. -/
def assigned (strategy : Strategy S M) (f : CommitFaults) (now : Int) (rt : Runtime S M)
    (a : ReceiptSettlement) : Runtime S M :=
  match rt.treasury with
  | none => rt
  | some t =>
    let t := assignMeta now rt.bankroll a t
    { rt with
      treasury := some t
      rows := (preSelectStrategy strategy f.select t (settledPost now rt.bankroll a) rt.rows).1 }

def settledSnapshot (strategy : Strategy S M) (now : Int) (rt : Runtime S M)
    (a : ReceiptSettlement) : Option (TreasurySnapshot S) :=
  rt.treasury.bind fun t => (settledTreasury strategy now rt.bankroll a t).last

theorem preSelectStrategy_result (strategy : Strategy S M) (f : SelectFaults) (t : Treasury S)
    (post : PostBankroll) (rows : Rows S M) :
    (preSelectStrategy strategy f t post rows).2
      = if t.enabled && f.fails then none
        else some (strategy.snapshot t post) := by
  unfold preSelectStrategy
  cases t.enabled with
  | false => rfl
  | true =>
    unfold SelectFaults.fails
    cases f.before with
    | true => rfl
    | false => cases f.metrics <;> rfl

theorem commitReceiptSettlement_eq (strategy : Strategy S M) (f : CommitFaults) (now : Int)
    (rt : Runtime S M) (a : ReceiptSettlement) :
    commitReceiptSettlement strategy f now rt a
      = if raisesEarly f rt a then (rt, none)
        else if selectFails f rt then (assigned strategy f now rt a, none)
        else writeSettlement f now (assigned strategy f now rt a)
          (projectedBankroll now rt.bankroll a) (settledSnapshot strategy now rt a) a := by
  unfold commitReceiptSettlement raisesEarly
  cases f.dependencies with
  | true => rfl
  | false =>
    cases a.outcomeTruthVerified && rt.bankroll.isSome && f.project with
    | true => rfl
    | false =>
      cases htreasury : rt.treasury with
      | none => simp [selectFails, assigned, settledSnapshot, htreasury]
      | some t =>
        cases f.readMeta with
        | true => rfl
        | false =>
          have hselect := preSelectStrategy_result strategy f.select
            (assignMeta now rt.bankroll a t) (settledPost now rt.bankroll a) rt.rows
          rw [show (assignMeta now rt.bankroll a t).enabled = t.enabled from rfl] at hselect
          simp only [selectFails, assigned, settledSnapshot, settledTreasury, htreasury,
            Option.bind_some]
          rcases hresult : preSelectStrategy strategy f.select (assignMeta now rt.bankroll a t)
            (settledPost now rt.bankroll a) rt.rows with ⟨rows, result⟩
          rw [hresult] at hselect
          cases hfails : t.enabled && f.select.fails with
          | true =>
            rw [hfails, if_pos rfl] at hselect
            cases hselect
            rfl
          | false =>
            rw [hfails, if_neg Bool.false_ne_true] at hselect
            cases hselect
            rfl

/-! ## Assigned and published -/

/-- With a treasury the assignment shows: the turnover count is one up. -/
theorem assignMeta_ne (now : Int) (bankroll : Option Bankroll) (a : ReceiptSettlement)
    (t : Treasury S) : assignMeta now bankroll a t ≠ t := by
  intro h
  have hcount := congrArg (fun t : Treasury S => t.settings.turnoverCount) h
  simp only [assignMeta, settledMeta] at hcount
  cases hturnover : t.settings.turnoverCount with
  | none =>
    rw [hturnover] at hcount
    cases hcount
  | some n =>
    rw [hturnover] at hcount
    simp only [Option.getD_some, Option.some.injEq] at hcount
    omega

theorem assigned_bankroll (strategy : Strategy S M) (f : CommitFaults) (now : Int)
    (rt : Runtime S M) (a : ReceiptSettlement) :
    (assigned strategy f now rt a).bankroll = rt.bankroll
      ∧ (assigned strategy f now rt a).prime = rt.prime
      ∧ (assigned strategy f now rt a).treasury
        = rt.treasury.map (assignMeta now rt.bankroll a) := by
  unfold assigned
  cases htreasury : rt.treasury with
  | none => exact ⟨rfl, rfl, htreasury⟩
  | some t => exact ⟨rfl, rfl, rfl⟩

theorem assigned_rows (strategy : Strategy S M) (f : CommitFaults) (now : Int)
    (rt : Runtime S M) (a : ReceiptSettlement) :
    let rows := (assigned strategy f now rt a).rows
    rows.receipts = rt.rows.receipts ∧ rows.primeJournal = rt.rows.primeJournal
      ∧ rows.bankrollEvents = rt.rows.bankrollEvents
      ∧ rows.treasuryStates = rt.rows.treasuryStates
      ∧ rows.primeStates = rt.rows.primeStates := by
  intro rows
  simp only [rows, assigned]
  cases rt.treasury with
  | none => exact ⟨rfl, rfl, rfl, rfl, rfl⟩
  | some t =>
    simp only [preSelectStrategy]
    split
    · exact ⟨rfl, rfl, rfl, rfl, rfl⟩
    · split
      · exact ⟨rfl, rfl, rfl, rfl, rfl⟩
      · cases f.select.metrics <;> exact ⟨rfl, rfl, rfl, rfl, rfl⟩

theorem publishSettlement_cases (f : CommitFaults) (now : Int) (rt : Runtime S M)
    (projected : Option BankrollState) (snapshot : Option (TreasurySnapshot S))
    (a : ReceiptSettlement) :
    if unbalanced rt a then
      (publishSettlement f now rt projected snapshot a).2 = none
        ∧ (publishSettlement f now rt projected snapshot a).1.rows = rt.rows
    else
      (publishSettlement f now rt projected snapshot a).2.isSome = true
        ∧ ∃ primeFile, (publishSettlement f now rt projected snapshot a).1
          = adoptSettlement f now
            { rt with
              ledgerFile := rt.ledgerFile ++ if f.ledgerFileSaved then [a.tx] else []
              primeLedgerFile := primeFile }
            projected snapshot a := by
  unfold publishSettlement unbalanced
  cases validLines a.tx.lines with
  | false => exact ⟨rfl, rfl⟩
  | true =>
    cases htx : a.primeJournalTx with
    | none =>
      cases hprime : rt.prime with
      | none => exact ⟨rfl, _, rfl⟩
      | some s => exact ⟨rfl, _, rfl⟩
    | some tx =>
      cases hprime : rt.prime with
      | none => exact ⟨rfl, _, rfl⟩
      | some s =>
        cases hvalid : validLines tx.lines with
        | false => simp [hvalid]
        | true =>
          simp only [hvalid, Option.isSome_some, Option.any_some, Bool.not_true,
            Bool.and_false, Bool.or_false]
          exact ⟨rfl, _, rfl⟩

/-- What the transaction of the call does: nothing, or the rows are written and published. -/
theorem writeSettlement_cases (f : CommitFaults) (now : Int) (rt : Runtime S M)
    {projected : Option BankrollState} {snapshot : Option (TreasurySnapshot S)}
    (a : ReceiptSettlement)
    (hprojected : projected.isSome = (a.outcomeTruthVerified && rt.bankroll.isSome))
    (hsnapshot : snapshot.isSome = rt.treasury.isSome) :
    writeSettlement f now rt projected snapshot a
      = if transactionFails f rt a then (rt, none)
        else publishSettlement f now
          { rt with
            rows := applyAll (settlementWrites f now rt.prime.isSome projected snapshot a) rt.rows }
          projected snapshot a := by
  unfold writeSettlement
  rw [transaction_eq, fails_settlementWrites f rt a now hprojected hsnapshot]
  cases transactionFails f rt a <;> rfl

/-! ## Atomicity -/

theorem adopt_projectedBankroll (now : Int) (bankroll : Option Bankroll) (a : ReceiptSettlement) :
    (match projectedBankroll now bankroll a with
      | none => bankroll
      | some s => bankroll.map fun b => applyStatePayload b now s)
      = bankroll.map (settledBankroll now a) := by
  unfold projectedBankroll settledBankroll
  cases bankroll with
  | none => rfl
  | some b =>
    cases a.outcomeTruthVerified with
    | false => rfl
    | true =>
      have hstate := applyStatePayload_projected b now a.success a.tx.realizedAfterGasWei
        a.amountIn
      simp only [if_true, Option.map_some, Option.some.injEq]
      exact congrArg (fun s => ({ b with state := s } : Bankroll)) hstate

theorem projectedBankroll_isSome (now : Int) (bankroll : Option Bankroll) (a : ReceiptSettlement) :
    (projectedBankroll now bankroll a).isSome = (a.outcomeTruthVerified && bankroll.isSome) := by
  unfold projectedBankroll
  cases bankroll with
  | none => simp
  | some b => cases a.outcomeTruthVerified <;> rfl

theorem settledSnapshot_isSome (strategy : Strategy S M) (now : Int) (rt : Runtime S M)
    (a : ReceiptSettlement) :
    (settledSnapshot strategy now rt a).isSome = rt.treasury.isSome := by
  unfold settledSnapshot
  cases rt.treasury <;> rfl

def settledRuntime (strategy : Strategy S M) (f : CommitFaults) (now : Int) (rt : Runtime S M)
    (a : ReceiptSettlement) (file : List ReceiptTx) (primeFile : List JournalTx) : Runtime S M :=
  let projected := projectedBankroll now rt.bankroll a
  let snapshot := settledSnapshot strategy now rt a
  let rt' := assigned strategy f now rt a
  adoptSettlement f now
    { rt' with
      ledgerFile := file
      primeLedgerFile := primeFile
      rows := applyAll (settlementWrites f now rt.prime.isSome projected snapshot a) rt'.rows }
    projected snapshot a

/-- **A call that returns settles everything, exactly when the prime gets a snapshot.** -/
theorem settledRuntime_reflects_iff (strategy : Strategy S M) (f : CommitFaults) (now : Int)
    (rt : Runtime S M) (a : ReceiptSettlement) (file : List ReceiptTx)
    (primeFile : List JournalTx) :
    Reflects strategy now rt a (settledRuntime strategy f now rt a file primeFile)
      ↔ (rt.prime.isSome = true → a.stateSnapshot.isSome = true) := by
  obtain ⟨hbankroll, hprime, htreasury⟩ := assigned_bankroll strategy f now rt a
  obtain ⟨hreceipts, hjournal, hevents, htreasuries, hprimes⟩ := assigned_rows strategy f now rt a
  obtain ⟨hadds, hreceipt⟩ :=
    applyAll_settlementWrites f now rt.prime.isSome (projectedBankroll now rt.bankroll a)
      (settledSnapshot strategy now rt a) a (assigned strategy f now rt a).rows
  have hrows : (settledRuntime strategy f now rt a file primeFile).rows.primeStates
      = rt.rows.primeStates ++ primeRows now rt.prime.isSome a := hadds.primeStates.trans (by rw [hprimes])
  constructor
  · intro h hsome
    have hstates := h.primeStates
    rw [hrows, primeRows, if_pos hsome, if_pos hsome] at hstates
    have hrow := List.append_cancel_left hstates
    cases hsnapshot : a.stateSnapshot with
    | none =>
      rw [hsnapshot] at hrow
      cases hrow
    | some payload => rfl
  · intro hsnapshot
    have hstates : primeRows now rt.prime.isSome a
        = if rt.prime.isSome then a.stateSnapshot.toList else [] := by
      unfold primeRows
      cases hsome : rt.prime.isSome with
      | false => rfl
      | true =>
        obtain ⟨payload, hpayload⟩ := Option.isSome_iff_exists.1 (hsnapshot hsome)
        rw [ReceiptSettlement.primePayload, hpayload]
        rfl
    refine ⟨?_, ?_, ?_, ?_, ?_, ?_, ?_, ?_, hreceipt⟩
    · simp only [settledRuntime, adoptSettlement]
      rw [htreasury]
      unfold settledSnapshot
      cases rt.treasury <;> rfl
    · simp only [settledRuntime, adoptSettlement]
      rw [hbankroll]
      exact adopt_projectedBankroll now rt.bankroll a
    · show ((assigned strategy f now rt a).prime.map
        fun _ => adoptMirrored (a.primePayload now) f.mirrorSaved).map PrimeState.toBook = _
      rw [hprime]
      cases hs : rt.prime with
      | none => rfl
      | some s =>
        obtain ⟨payload, hpayload⟩ := Option.isSome_iff_exists.1 (hsnapshot (by rw [hs]; rfl))
        simp only [Option.map_some, settledBook, ReceiptSettlement.primePayload, hpayload,
          Option.getD_some]
        cases f.mirrorSaved <;> rfl
    · exact hadds.receipts.trans (by rw [hreceipts])
    · exact hadds.primeJournal.trans (by rw [hjournal])
    · exact hadds.bankrollEvents.trans (by rw [hevents])
    · exact hadds.treasuryStates.trans (by rw [htreasuries]; rfl)
    · rw [hrows, hstates]

theorem transactionFails_assigned (strategy : Strategy S M) (f : CommitFaults) (now : Int)
    (rt : Runtime S M) (a : ReceiptSettlement) :
    transactionFails f (assigned strategy f now rt a) a = transactionFails f rt a := by
  obtain ⟨hbankroll, hprime, htreasury⟩ := assigned_bankroll strategy f now rt a
  simp only [transactionFails, hbankroll, hprime, htreasury, Option.isSome_map]

/-- What is assigned before the transaction shows, unless there is no treasury. -/
theorem unchanged_assigned_iff (strategy : Strategy S M) (f : CommitFaults) (now : Int)
    (rt : Runtime S M) (a : ReceiptSettlement) :
    Unchanged rt (assigned strategy f now rt a) ↔ rt.treasury = none := by
  constructor
  · intro h
    have htreasury := h.treasury
    rw [(assigned_bankroll strategy f now rt a).2.2] at htreasury
    cases hsome : rt.treasury with
    | none => rfl
    | some t =>
      rw [hsome, Option.map_some, Option.some.injEq] at htreasury
      exact absurd htreasury (assignMeta_ne now rt.bankroll a t)
  · intro hnone
    have hsame : assigned strategy f now rt a = rt := by
      rw [assigned, hnone]
    rw [hsame]
    exact ⟨rfl, rfl, rfl, rfl⟩

/-- After the commit: an unbalanced transaction raises although the rows are written. -/
theorem published_iff (strategy : Strategy S M) (f : CommitFaults) (now : Int)
    (rt : Runtime S M) (a : ReceiptSettlement) :
    let projected := projectedBankroll now rt.bankroll a
    let snapshot := settledSnapshot strategy now rt a
    let rt' := assigned strategy f now rt a
    let published := publishSettlement f now
      { rt' with
        rows := applyAll (settlementWrites f now rt'.prime.isSome projected snapshot a) rt'.rows }
      projected snapshot a
    (match published.2 with
      | none => Unchanged rt published.1
      | some _ => Reflects strategy now rt a published.1)
      ↔ unbalanced rt a = false ∧ (rt.prime.isSome = true → a.stateSnapshot.isSome = true) := by
  intro projected snapshot rt' published
  have hprime : rt'.prime = rt.prime := (assigned_bankroll strategy f now rt a).2.1
  have hcases := publishSettlement_cases f now
    { rt' with
      rows := applyAll (settlementWrites f now rt'.prime.isSome projected snapshot a) rt'.rows }
    projected snapshot a
  have hunbalanced : unbalanced
      { rt' with
        rows := applyAll (settlementWrites f now rt'.prime.isSome projected snapshot a) rt'.rows } a
      = unbalanced rt a := by
    simp only [unbalanced, hprime]
  rw [hunbalanced] at hcases
  rcases hresult : published with ⟨rt₂, result⟩
  rw [show publishSettlement f now _ projected snapshot a = (rt₂, result) from hresult] at hcases
  cases hbalance : unbalanced rt a with
  | true =>
    rw [hbalance, if_pos rfl] at hcases
    obtain ⟨hnone, hrows⟩ := hcases
    have hraised : result = none := hnone
    subst hraised
    constructor
    · intro h
      -- The receipt is a row more than before.
      have hreceipts := congrArg Rows.receipts (hrows.symm.trans h.rows)
      rw [(applyAll_settlementWrites f now rt'.prime.isSome projected snapshot a
          rt'.rows).1.receipts,
        (assigned_rows strategy f now rt a).1] at hreceipts
      have hlength := congrArg List.length hreceipts
      simp at hlength
    · rintro ⟨h, -⟩
      cases h
  | false =>
    rw [hbalance, if_neg Bool.false_ne_true] at hcases
    obtain ⟨hsome, primeFile, hruntime⟩ := hcases
    obtain ⟨value, hvalue⟩ := Option.isSome_iff_exists.1 hsome
    have hreturned : result = some value := hvalue
    subst hreturned
    obtain ⟨file, hsettled⟩ : ∃ file,
        rt₂ = settledRuntime strategy f now rt a file primeFile :=
      ⟨_, by rw [show rt₂ = _ from hruntime, settledRuntime, ← hprime]⟩
    have hreflects := settledRuntime_reflects_iff strategy f now rt a file primeFile
    rw [← hsettled] at hreflects
    simpa using hreflects

theorem adoptSettlement_settings (f : CommitFaults) (now : Int) (rt : Runtime S M)
    (projected : Option BankrollState) (snapshot : Option (TreasurySnapshot S))
    (a : ReceiptSettlement) :
    (adoptSettlement f now rt projected snapshot a).treasury.map Treasury.settings
      = rt.treasury.map Treasury.settings := by
  unfold adoptSettlement
  cases snapshot with
  | none => rfl
  | some s => cases rt.treasury <;> rfl

/-- **A call whose ledger transactions balance**: it raises early and changes nothing; else the
metadata is assigned, and the receipt is written if and only if the call returns. -/
theorem commitReceiptSettlement_cases (strategy : Strategy S M) (f : CommitFaults) (now : Int)
    (rt : Runtime S M) (a : ReceiptSettlement) (hbalanced : unbalanced rt a = false) :
    let out := commitReceiptSettlement strategy f now rt a
    if raisesEarly f rt a then out = (rt, none)
    else
      out.1.treasury.map Treasury.settings
          = rt.treasury.map (fun t => (assignMeta now rt.bankroll a t).settings)
        ∧ out.1.prime.isSome = rt.prime.isSome
        ∧ if selectFails f rt || transactionFails f rt a then
            out.2 = none ∧ out.1.rows.receipts = rt.rows.receipts
              ∧ out.1.ledgerFile = rt.ledgerFile
          else
            out.2.isSome = true ∧ out.1.rows.receipts = rt.rows.receipts ++ [a.tx]
              ∧ out.1.ledgerFile = rt.ledgerFile ++ if f.ledgerFileSaved then [a.tx] else [] := by
  intro out
  simp only [out]
  rw [commitReceiptSettlement_eq]
  cases hearly : raisesEarly f rt a with
  | true => simp
  | false =>
    obtain ⟨hbankroll, hprime, htreasury⟩ := assigned_bankroll strategy f now rt a
    have hreceipts := (assigned_rows strategy f now rt a).1
    have hfile : (assigned strategy f now rt a).ledgerFile = rt.ledgerFile := by
      unfold assigned
      cases rt.treasury <;> rfl
    have hsettings : (assigned strategy f now rt a).treasury.map Treasury.settings
        = rt.treasury.map (fun t => (assignMeta now rt.bankroll a t).settings) := by
      rw [htreasury, Option.map_map]
      rfl
    have hwrite := @writeSettlement_cases _ _ f now (assigned strategy f now rt a)
      (projectedBankroll now rt.bankroll a) (settledSnapshot strategy now rt a) a
      (by rw [hbankroll]; exact projectedBankroll_isSome now rt.bankroll a)
      (by rw [htreasury, settledSnapshot_isSome]; simp)
    rw [transactionFails_assigned] at hwrite
    simp only [Bool.false_eq_true, if_false]
    cases hselect : selectFails f rt with
    | true => exact ⟨hsettings, by rw [if_pos rfl, hprime], rfl, hreceipts, hfile⟩
    | false =>
      simp only [Bool.false_eq_true, if_false, Bool.false_or]
      rw [hwrite]
      cases htransaction : transactionFails f rt a with
      | true => exact ⟨hsettings, by rw [if_pos rfl, hprime], rfl, hreceipts, hfile⟩
      | false =>
        simp only [Bool.false_eq_true, if_false]
        have hpublished := publishSettlement_cases f now
          { assigned strategy f now rt a with
            rows := applyAll (settlementWrites f now (assigned strategy f now rt a).prime.isSome
              (projectedBankroll now rt.bankroll a) (settledSnapshot strategy now rt a) a)
              (assigned strategy f now rt a).rows }
          (projectedBankroll now rt.bankroll a) (settledSnapshot strategy now rt a) a
        rw [show unbalanced _ a = false by simpa only [unbalanced, hprime] using hbalanced,
          if_neg Bool.false_ne_true] at hpublished
        obtain ⟨hsome, primeFile, hruntime⟩ := hpublished
        rw [hruntime]
        refine ⟨?_, ?_, hsome, ?_, ?_⟩
        · rw [adoptSettlement_settings]
          exact hsettings
        · simp only [adoptSettlement, Option.isSome_map, hprime]
        · exact (applyAll_settlementWrites f now _ _ _ a _).1.receipts.trans
            (by rw [hreceipts])
        · simp only [adoptSettlement, hfile]

/-- **A settlement is atomic exactly when it raises early, or raises up to the commit without a
treasury, or returns with a snapshot for the prime.** -/
theorem commit_atomic_iff (strategy : Strategy S M) (f : CommitFaults) (now : Int)
    (rt : Runtime S M) (a : ReceiptSettlement) :
    Atomic strategy f now rt a ↔ CommitSafe f rt a := by
  unfold Atomic CommitSafe
  rw [commitReceiptSettlement_eq]
  cases hearly : raisesEarly f rt a with
  | true => simpa using (⟨rfl, rfl, rfl, rfl⟩ : Unchanged rt rt)
  | false =>
    obtain ⟨hbankroll, hprime, htreasury⟩ := assigned_bankroll strategy f now rt a
    have hwrite := @writeSettlement_cases _ _ f now (assigned strategy f now rt a)
      (projectedBankroll now rt.bankroll a) (settledSnapshot strategy now rt a) a
      (by rw [hbankroll]; exact projectedBankroll_isSome now rt.bankroll a)
      (by rw [htreasury, settledSnapshot_isSome]; simp)
    have hfails := transactionFails_assigned strategy f now rt a
    rw [hfails] at hwrite
    have hmidway := unchanged_assigned_iff strategy f now rt a
    simp only [Bool.false_eq_true, if_false, false_or]
    cases hselect : selectFails f rt with
    | true => simpa using hmidway
    | false =>
      simp only [Bool.false_eq_true, if_false, Bool.false_or]
      rw [hwrite]
      cases htransaction : transactionFails f rt a with
      | true => simpa using hmidway
      | false =>
        simp only [Bool.false_eq_true, if_false]
        exact published_iff strategy f now rt a

/-! ## Two settlements that are not atomic -/

/-- Nothing raises. -/
def CommitFaults.none : CommitFaults where
  dependencies := false
  project := false
  readMeta := false
  select := ⟨false, .ok, false⟩
  ledgerInsert := false
  ledgerEvent := .ok
  bankrollHistory := false
  bankrollEvent := false
  treasuryState := false
  treasuryEvent := false
  primeLedgerInsert := false
  primeLedgerEvent := .ok
  primeState := false
  primeEvent := false
  receiptEvent := false
  commit := false
  ledgerFileSaved := true
  primeFileSaved := true
  mirrorSaved := true

/-- A treasury that was never assigned anything, and a prime over a pool of 100 USDC. -/
def smallRuntime : Runtime Unit Unit where
  treasury := some ⟨true, ⟨none, none, none, none, none, none, none, none⟩, none⟩
  bankroll := none
  prime := some (PrimeState.fresh (Dict.empty.set "USDC" 100) 0)
  rows := ⟨[], [], [], [], [], [], []⟩
  ledgerFile := []
  primeLedgerFile := []

/-- A receipt of a trade without a loan. -/
def smallReceipt : ReceiptSettlement where
  tx := ⟨"tx_1", 1, "0x1", auditLines "settlement" "flash_arb" "", 1, 5, 0⟩
  receiptId := "0x1"
  status := 1
  amountIn := 1000
  submitToReceiptMs := 10
  routeId := "route-1"
  routeFamily := "flash_arb"
  strategyFamily := "flash_arb"
  captureLanePending := "private"
  realizedAfterUsd := 0
  borrowCostUsd := 0
  netRealizedUsd := 0
  gasCostWei := 5
  profitabilityChain := ⟨"", "", false, false, 0⟩
  borrowingSource := ""
  flashloanProvider := ""
  flashloanFeeWei := 0
  outcomeTruthVerified := false
  primeTransition := none

def unitStrategy : Strategy Unit Unit := ⟨fun _ _ => (), fun _ _ => ()⟩

/-- The insertion of the receipt fails and the turnover stays counted; and a settlement without
a loan, in which nothing fails, empties the pool of the prime. -/
theorem commit_not_atomic :
    ¬ Atomic unitStrategy { CommitFaults.none with ledgerInsert := true } 1 smallRuntime smallReceipt
      ∧ ¬ Atomic unitStrategy CommitFaults.none 1 smallRuntime smallReceipt := by
  constructor
  · intro h
    have hunchanged : Unchanged smallRuntime (commitReceiptSettlement unitStrategy
        { CommitFaults.none with ledgerInsert := true } 1 smallRuntime smallReceipt).1 := h
    have hcount := congrArg (Option.map fun t => t.settings.turnoverCount) hunchanged.treasury
    exact absurd hcount (by decide +kernel)
  · intro h
    have hreturns : (commitReceiptSettlement unitStrategy CommitFaults.none 1 smallRuntime
        smallReceipt).2.isSome = true := by
      decide +kernel
    have hreflects : Reflects unitStrategy 1 smallRuntime smallReceipt (commitReceiptSettlement
        unitStrategy CommitFaults.none 1 smallRuntime smallReceipt).1 := by
      unfold Atomic at h
      split at h
      · rename_i hnone
        rw [hnone] at hreturns
        cases hreturns
      · exact h
    have hpool := congrArg (Option.map fun b : Book => b.inventory.getD "USDC" 0) hreflects.prime
    exact absurd hpool (by decide +kernel)

end SovereignCapital.Capital
