import SovereignCapital.Prime.Rollback

/-! # Double entry

`ledger.py` derives the balance of every account from the journal, rounding after each line.
The lines of a loan balance and its settlement takes its opening back, so the balance of
`internal_prime:borrowed_usd` follows the active loans, as long as a commit that fails leaves
neither a row without the loan nor the loan without its row, and no two active loans share an
id.
-/

namespace SovereignCapital.Prime

open Decimal Runs

/-! ## Balances -/

def accountBalanceAsset (balances : Dict String (Dict String Usd)) (account asset : String) : Usd :=
  (balances.getD account Dict.empty).getD asset 0

def addNestedAmount (target : Dict String (Dict String Usd)) (line : LedgerLine) :
    Dict String (Dict String Usd) :=
  let bucket := target.getD line.account Dict.empty
  target.set line.account
    (bucket.set line.asset (pyRound 8 (bucket.getD line.asset 0 + line.amount)))

/-- The loop of `_aggregate_account_balances`, from the balances of earlier rows. -/
def aggregateRows (balances : Dict String (Dict String Usd)) (rows : List JournalTx) :
    Dict String (Dict String Usd) :=
  rows.foldl
    (fun out row =>
      row.lines.foldl (fun out line => if line.account = "" then out else addNestedAmount out line)
        out)
    balances

def aggregateAccountBalances (rows : List JournalTx) : Dict String (Dict String Usd) :=
  (aggregateRows Dict.empty rows).mapVal fun assets => assets.mapVal (pyRound 8)

/-- The account the capital truth compares with the borrowed total of the allocator. -/
def borrowedAccount : String := "internal_prime:borrowed_usd"

def ledgerBorrowedUsd (rows : List JournalTx) : Usd :=
  pyRound 8 (accountBalanceAsset (aggregateAccountBalances rows) borrowedAccount "USD")

def accrueLine (account asset : String) (balance : Usd) (line : LedgerLine) : Usd :=
  if line.account = account ∧ line.asset = asset then pyRound 8 (balance + line.amount) else balance

def accrue (account asset : String) (balance : Usd) (rows : List JournalTx) : Usd :=
  rows.foldl (fun balance row => row.lines.foldl (accrueLine account asset) balance) balance

theorem accountBalanceAsset_addNestedAmount (target : Dict String (Dict String Usd))
    (line : LedgerLine) (account asset : String) :
    accountBalanceAsset (addNestedAmount target line) account asset
      = accrueLine account asset (accountBalanceAsset target account asset) line := by
  unfold accountBalanceAsset addNestedAmount accrueLine
  simp only [Dict.getD_set]
  by_cases haccount : account = line.account
  · subst haccount
    rw [if_pos rfl, Dict.getD_set]
    by_cases hasset : asset = line.asset
    · subst hasset
      rw [if_pos rfl, if_pos ⟨rfl, rfl⟩]
    · rw [if_neg hasset, if_neg fun h => hasset h.2.symm]
  · rw [if_neg haccount, if_neg fun h => haccount h.1.symm]

variable {account loanId : String} {rows : List JournalTx} {loan : Loan} {tx : JournalTx}
  {f : Faults} {w : World} {clock : Clock}

theorem accountBalanceAsset_lines (haccount : account ≠ "") (asset : String)
    (lines : List LedgerLine) (balances : Dict String (Dict String Usd)) :
    accountBalanceAsset (lines.foldl
        (fun out line => if line.account = "" then out else addNestedAmount out line) balances)
        account asset
      = lines.foldl (accrueLine account asset) (accountBalanceAsset balances account asset) := by
  induction lines generalizing balances with
  | nil => rfl
  | cons line lines ih =>
    rw [List.foldl_cons, List.foldl_cons, ih]
    congr 1
    by_cases hempty : line.account = ""
    · -- A line without an account is skipped, and is not on this one either.
      rw [if_pos hempty, accrueLine, if_neg]
      intro h
      rw [← h.1] at haccount
      exact haccount hempty
    · rw [if_neg hempty]
      exact accountBalanceAsset_addNestedAmount balances line account asset

theorem accountBalanceAsset_aggregateRows (haccount : account ≠ "") (asset : String)
    (rows : List JournalTx) (balances : Dict String (Dict String Usd)) :
    accountBalanceAsset (aggregateRows balances rows) account asset
      = accrue account asset (accountBalanceAsset balances account asset) rows := by
  induction rows generalizing balances with
  | nil => rfl
  | cons row rows ih =>
    show accountBalanceAsset (aggregateRows _ rows) account asset = _
    rw [ih, accountBalanceAsset_lines haccount]
    rfl

theorem dec_accrueLines (account asset : String) (lines : List LedgerLine) {balance : Usd}
    (h : Dec 8 balance) : Dec 8 (lines.foldl (accrueLine account asset) balance) := by
  induction lines generalizing balance with
  | nil => exact h
  | cons line lines ih =>
    rw [List.foldl_cons]
    apply ih
    unfold accrueLine
    split
    · exact dec_pyRound 8 _
    · exact h

theorem dec_accrue (account asset : String) (rows : List JournalTx) {balance : Usd}
    (h : Dec 8 balance) : Dec 8 (accrue account asset balance rows) := by
  induction rows generalizing balance with
  | nil => exact h
  | cons row rows ih => exact ih (dec_accrueLines account asset row.lines h)

/-- **The derived balance is the lines added up**, rounded after each. -/
theorem accountBalanceAsset_aggregate (haccount : account ≠ "") (asset : String)
    (rows : List JournalTx) :
    accountBalanceAsset (aggregateAccountBalances rows) account asset
      = accrue account asset 0 rows := by
  have hrows := accountBalanceAsset_aggregateRows haccount asset rows Dict.empty
  have hround : accountBalanceAsset (aggregateAccountBalances rows) account asset
      = pyRound 8 (accountBalanceAsset (aggregateRows Dict.empty rows) account asset) := by
    unfold accountBalanceAsset aggregateAccountBalances
    have hmap := Dict.getD_mapVal (fun assets : Dict String Usd => assets.mapVal (pyRound 8))
      (aggregateRows Dict.empty rows) account Dict.empty
    rw [show (Dict.empty : Dict String Usd).mapVal (pyRound 8) = Dict.empty from rfl] at hmap
    rw [hmap, getD_round]
  rw [hround, hrows]
  exact (dec_accrue account asset rows (dec_zero 8)).pyRound_eq

theorem ledgerBorrowedUsd_eq (rows : List JournalTx) :
    ledgerBorrowedUsd rows = accrue borrowedAccount "USD" 0 rows := by
  unfold ledgerBorrowedUsd
  rw [accountBalanceAsset_aggregate (by decide)]
  exact (dec_accrue _ _ rows (dec_zero 8)).pyRound_eq

theorem dec_ledgerBorrowedUsd (rows : List JournalTx) : Dec 8 (ledgerBorrowedUsd rows) :=
  dec_pyRound 8 _

theorem ledgerBorrowedUsd_append (rows : List JournalTx) (tx : JournalTx) :
    ledgerBorrowedUsd (rows ++ [tx])
      = tx.lines.foldl (accrueLine borrowedAccount "USD") (ledgerBorrowedUsd rows) := by
  rw [ledgerBorrowedUsd_eq, ledgerBorrowedUsd_eq, accrue, List.foldl_append]
  rfl

/-! ## Lines of the builders -/

theorem inventory_reserved_ne (asset : String) :
    "internal_prime:inventory_reserved:" ++ asset ≠ borrowedAccount := by
  intro h
  -- They part at the letter after the colon.
  have hletter : ("internal_prime:inventory_reserved:" ++ asset).toList[15]?
      = borrowedAccount.toList[15]? := by rw [h]
  have hreserved : ("internal_prime:inventory_reserved:" ++ asset).toList[15]? = some 'i' := by
    simp [String.toList_append]
  have hborrowed : borrowedAccount.toList[15]? = some 'b' := by decide
  rw [hreserved, hborrowed] at hletter
  exact absurd hletter (by decide)

theorem accrue_primeJournalLines (loan : Loan) (opened : Bool) (balance : Usd) :
    (primeJournalLines loan opened).foldl (accrueLine borrowedAccount "USD") balance
      = pyRound 8 (balance + if opened then loan.notionalUsd else -loan.notionalUsd) := by
  have hempty : ("" : String) ≠ "USD" := by decide
  have hborrowed : ∀ amount note, accrueLine borrowedAccount "USD" balance
      ⟨"internal_prime:borrowed_usd", "USD", amount, loan.family, note⟩
        = pyRound 8 (balance + amount) := fun _ _ => if_pos ⟨rfl, rfl⟩
  have hreserved : ∀ b asset amount note, accrueLine borrowedAccount "USD" b
      ⟨"internal_prime:inventory_reserved:" ++ asset, asset, amount, loan.family, note⟩ = b :=
    fun _ asset _ _ => if_neg fun h => inventory_reserved_ne asset h.1
  have hbuffer : ∀ b amount note, accrueLine borrowedAccount "USD" b
      ⟨"internal_prime:collateral_buffer", "", amount, loan.family, note⟩ = b :=
    fun _ _ _ => if_neg fun h => hempty h.2
  unfold primeJournalLines
  rw [List.foldl_append]
  simp only [List.foldl_cons, List.foldl_nil, hborrowed, hreserved]
  by_cases hdelta : 1 / 10 ^ 9 < |pyRound 8 (loan.reserved - loan.notionalUsd)|
  · rw [if_pos hdelta, List.foldl_cons, List.foldl_nil, hbuffer]
  · rw [if_neg hdelta]
    rfl

theorem accrue_auditLines (account family note : String) (balance : Usd) :
    (auditLines account family note).foldl (accrueLine borrowedAccount "USD") balance = balance := by
  have hempty : ("" : String) ≠ "USD" := by decide
  have hline : ∀ b a amount, accrueLine borrowedAccount "USD" b ⟨a, "", amount, family, note⟩ = b :=
    fun _ _ _ => if_neg fun h => hempty h.2
  unfold auditLines
  rw [List.foldl_cons, List.foldl_cons, List.foldl_nil, hline, hline]

/-- The transaction leaves the borrowed account alone. -/
def Untouched (tx : JournalTx) : Prop :=
  ∀ balance, tx.lines.foldl (accrueLine borrowedAccount "USD") balance = balance

theorem untouched_rejection (stamp : Stamp) (loanId : String) (loan : Option Loan)
    (reason : PrimeReason) (realizedPnlUsd : Usd) (receiptId : String) :
    Untouched (settlementRejectionTransaction stamp loanId loan reason realizedPnlUsd receiptId) :=
  accrue_auditLines _ _ _

theorem untouched_dispute (stamp : Stamp) (loan : Loan) (reason : PrimeReason)
    (receiptId : String) : Untouched (disputeTransaction stamp loan reason receiptId) :=
  accrue_auditLines _ _ _

theorem untouched_decision (stamp : Stamp) (req : PrimeBorrowRequest) (ctx : DecisionContext)
    (notional : Usd) (reason : PrimeReason) :
    Untouched (decisionTransaction stamp req ctx notional reason) :=
  accrue_auditLines _ _ _

theorem ledgerBorrowedUsd_open (hdec : Dec 8 loan.notionalUsd) (stamp : Stamp) :
    ledgerBorrowedUsd (rows ++ [openTransaction stamp loan])
      = ledgerBorrowedUsd rows + loan.notionalUsd := by
  rw [ledgerBorrowedUsd_append]
  show (primeJournalLines loan true).foldl _ _ = _
  rw [accrue_primeJournalLines, if_pos rfl]
  exact ((dec_ledgerBorrowedUsd rows).add hdec).pyRound_eq

theorem ledgerBorrowedUsd_settlement (hdec : Dec 8 loan.notionalUsd) (stamp : Stamp)
    (realizedPnlUsd : Usd) (receiptId : String) :
    ledgerBorrowedUsd (rows ++ [settlementTransaction stamp loan realizedPnlUsd receiptId])
      = ledgerBorrowedUsd rows - loan.notionalUsd := by
  rw [ledgerBorrowedUsd_append]
  show (primeJournalLines loan false).foldl _ _ = _
  rw [accrue_primeJournalLines, if_neg Bool.false_ne_true, ← sub_eq_add_neg]
  exact ((dec_ledgerBorrowedUsd rows).sub hdec).pyRound_eq

theorem ledgerBorrowedUsd_untouched (h : Untouched tx) :
    ledgerBorrowedUsd (rows ++ [tx]) = ledgerBorrowedUsd rows := by
  rw [ledgerBorrowedUsd_append]
  exact h _

/-! ## Balanced lines -/

inductive PrimeTransaction : JournalTx → Prop
  | opened (stamp : Stamp) (loan : Loan) : PrimeTransaction (openTransaction stamp loan)
  | settled (stamp : Stamp) (loan : Loan) (realizedPnlUsd : Usd) (receiptId : String) :
      PrimeTransaction (settlementTransaction stamp loan realizedPnlUsd receiptId)
  | settlementRejected (stamp : Stamp) (loanId : String) (loan : Option Loan)
      (reason : PrimeReason) (realizedPnlUsd : Usd) (receiptId : String) :
      PrimeTransaction
        (settlementRejectionTransaction stamp loanId loan reason realizedPnlUsd receiptId)
  | disputed (stamp : Stamp) (loan : Loan) (reason : PrimeReason) (receiptId : String) :
      PrimeTransaction (disputeTransaction stamp loan reason receiptId)
  | denied (stamp : Stamp) (req : PrimeBorrowRequest) (ctx : DecisionContext) (notional : Usd)
      (reason : PrimeReason) : PrimeTransaction (decisionTransaction stamp req ctx notional reason)

/-- The lines sum to zero up to the rounding of the collateral buffer, and pass validation. -/
structure Balanced (lines : List LedgerLine) : Prop where
  sum : |(lines.map LedgerLine.amount).sum| ≤ 1 / 10 ^ 8
  valid : validLines lines = true

theorem balanced_primeJournalLines (loan : Loan) (opened : Bool) :
    Balanced (primeJournalLines loan opened) :=
  ⟨abs_sum_primeJournalLines loan opened, validLines_primeJournalLines loan opened⟩

theorem balanced_auditLines (account family note : String) :
    Balanced (auditLines account family note) := by
  refine ⟨?_, validLines_auditLines account family note⟩
  simp [auditLines]

/-- **Validation never rejects what the allocator builds.** -/
theorem PrimeTransaction.balanced (h : PrimeTransaction tx) : Balanced tx.lines := by
  cases h with
  | opened _ loan => exact balanced_primeJournalLines loan true
  | settled _ loan _ _ => exact balanced_primeJournalLines loan false
  | settlementRejected => exact balanced_auditLines _ _ _
  | disputed => exact balanced_auditLines _ _ _
  | denied => exact balanced_auditLines _ _ _

/-! ## Cancellation -/

def posted (account asset : String) (lines : List LedgerLine) : Usd :=
  ((lines.filter fun line => line.account = account ∧ line.asset = asset).map
    LedgerLine.amount).sum

theorem posted_append (account asset : String) (lines lines' : List LedgerLine) :
    posted account asset (lines ++ lines')
      = posted account asset lines + posted account asset lines' := by
  unfold posted
  rw [List.filter_append, List.map_append, List.sum_append]

theorem posted_cons (account asset : String) (line : LedgerLine) (lines : List LedgerLine) :
    posted account asset (line :: lines)
      = (if line.account = account ∧ line.asset = asset then line.amount else 0)
        + posted account asset lines := by
  unfold posted
  rw [List.filter_cons]
  by_cases h : line.account = account ∧ line.asset = asset
  · rw [if_pos (by simpa using h), if_pos h]
    rfl
  · rw [if_neg (by simpa using h), if_neg h, zero_add]

theorem posted_settlement (account asset : String) (loan : Loan) :
    posted account asset (primeJournalLines loan false)
      = -posted account asset (primeJournalLines loan true) := by
  have hturned : ∀ (p : Prop) [Decidable p] (x : Usd),
      (if p then -x else 0) = -(if p then x else 0) := by
    intro p _ x
    split
    · rfl
    · rw [neg_zero]
  have hnil : posted account asset [] = 0 := rfl
  unfold primeJournalLines
  rw [posted_append, posted_append, neg_add]
  congr 1
  · simp only [posted_cons, hnil, if_true, Bool.false_eq_true, if_false, hturned]
    rw [← neg_neg loan.reserved, hturned, neg_neg]
    ring
  · split
    · simp only [posted_cons, hnil, if_true, Bool.false_eq_true, if_false, hturned]
      ring
    · rw [hnil, neg_zero]

/-- Whatever happened to the loan's status in between, its lines are the same. -/
theorem primeJournalLines_congr {loan' : Loan} (hnotional : loan'.notionalUsd = loan.notionalUsd)
    (hreserved : loan'.reserved = loan.reserved) (hasset : loan'.asset = loan.asset)
    (hfamily : loan'.family = loan.family) (opened : Bool) :
    primeJournalLines loan' opened = primeJournalLines loan opened := by
  unfold primeJournalLines
  rw [hnotional, hreserved, hasset, hfamily]

/-- **The settlement of a loan cancels its opening** on every account, in every asset. -/
theorem posted_life (account asset : String) (loan : Loan) (now : Int) :
    posted account asset (primeJournalLines loan true ++ primeJournalLines (loan.settle now) false)
      = 0 := by
  have hlines : primeJournalLines (loan.settle now) false = primeJournalLines loan false :=
    primeJournalLines_congr rfl rfl rfl rfl false
  rw [hlines, posted_append, posted_settlement, add_neg_cancel]

/-! ## Rows and memory -/

/-- How the ledger write of a transaction with a fresh id ends. -/
def LedgerFaults.outcome (f : LedgerFaults) : Fault :=
  match f.insert with
  | .caught => .caught
  | .escapes => .escapes
  | .ok =>
    if f.publish = .escapes then .escapes
    else if f.append then .ok
    else if f.delete = .escapes then .escapes
    else .caught

def LedgerFaults.leavesRow (f : LedgerFaults) : Bool :=
  decide (f.insert = .ok) && (decide (f.publish = .escapes) || f.append || decide (f.delete ≠ .ok))

/-- The writes of a direct commit leave the row of its transaction. -/
def Faults.leavesRow (f : Faults) : Bool := f.stateSave && f.ledger.leavesRow

/-- The database writes of a direct commit end without an exception that is handled. -/
def Faults.uncaught (f : Faults) : Bool :=
  match f.ledger.outcome, f.snapshot with
  | .caught, _ => false
  | .escapes, _ => true
  | .ok, .ok => decide (f.event ≠ .caught)
  | .ok, .caught => false
  | .ok, .escapes => true

def Faults.keepsMemory (f : Faults) : Bool := f.stateSave && f.uncaught

theorem writeLedgerTransaction_outcome (f : LedgerFaults) {store : Store}
    (hfresh : ∀ row ∈ store.journal, row.transactionId ≠ tx.transactionId) :
    (writeLedgerTransaction f store tx).2 = f.outcome
      ∧ (writeLedgerTransaction f store tx).1.journal
        = if f.leavesRow then store.journal ++ [tx] else store.journal := by
  have hdeleted : ((store.insertJournal tx).deleteJournal tx.transactionId).journal
      = store.journal := filter_append_fresh hfresh
  unfold writeLedgerTransaction LedgerFaults.outcome LedgerFaults.leavesRow
  cases f.insert with
  | caught => exact ⟨rfl, rfl⟩
  | escapes => exact ⟨rfl, rfl⟩
  | ok =>
    simp only
    by_cases hpublish : f.publish = .escapes
    · simp only [hpublish, if_true]
      exact ⟨trivial, rfl⟩
    · simp only [if_neg hpublish]
      by_cases happend : f.append = true
      · simp only [happend, if_true]
        exact ⟨trivial, by simp [Store.insertJournal]⟩
      · simp only [happend, Bool.false_eq_true, if_false]
        cases f.delete with
        | ok => exact ⟨rfl, by simp [hpublish, hdeleted]⟩
        | caught => exact ⟨rfl, by simp [Store.insertJournal]⟩
        | escapes => exact ⟨rfl, by simp [Store.insertJournal]⟩

/-- What the writes of a direct commit leave in the journal, and how they end. -/
theorem persistCommit_journal (f : Faults) {w : World} {tx : JournalTx}
    (hfresh : ∀ row ∈ w.store.journal, row.transactionId ≠ tx.transactionId) (holds : Bool)
    (persistFailed journalFailed : PrimeReason) :
    let r := persistCommit f w tx holds persistFailed journalFailed
    r.1.store.journal = (if f.leavesRow then w.store.journal ++ [tx] else w.store.journal)
      ∧ ((f.keepsMemory = true ∧ (r.2 = .done tx ∨ r.2 = .escaped))
        ∨ (f.keepsMemory = false ∧ ∃ reason, r.2 = .failed holds reason)) := by
  intro r
  simp only [r, persistCommit, Faults.leavesRow, Faults.keepsMemory]
  by_cases hsave : f.stateSave = true
  · simp only [hsave, not_true_eq_false, if_false, Bool.true_and, Faults.uncaught]
    obtain ⟨houtcome, hjournal⟩ := writeLedgerTransaction_outcome f.ledger hfresh
    rcases hledger : writeLedgerTransaction f.ledger w.store tx with ⟨store, fault⟩
    rw [hledger] at houtcome hjournal
    rw [← show fault = f.ledger.outcome from houtcome]
    cases fault with
    | caught => exact ⟨hjournal, by simp⟩
    | escapes => exact ⟨hjournal, by simp⟩
    | ok =>
      simp only [recordStateSnapshot]
      cases f.snapshot with
      | caught => exact ⟨hjournal, by simp⟩
      | escapes => exact ⟨hjournal, by simp⟩
      | ok => cases f.event <;> exact ⟨hjournal, by simp⟩
  · have hsave : f.stateSave = false := by simpa using hsave
    simp only [hsave, Bool.false_eq_true, not_false_eq_true, if_true, Bool.false_and, if_false]
    exact ⟨trivial, by simp⟩

/-- When the row stays exactly if the memory does, the writes of a direct commit end with
both or with neither. -/
theorem persistCommit_same {f : Faults} {w : World} {tx : JournalTx}
    (hfresh : ∀ row ∈ w.store.journal, row.transactionId ≠ tx.transactionId)
    (hsame : f.leavesRow = f.keepsMemory) (holds : Bool)
    (persistFailed journalFailed : PrimeReason) :
    let r := persistCommit f w tx holds persistFailed journalFailed
    r.1.prime.loans = w.prime.loans
      ∧ ((f.keepsMemory = true ∧ r.1.store.journal = w.store.journal ++ [tx]
          ∧ (r.2 = .done tx ∨ r.2 = .escaped))
        ∨ (r.1.store.journal = w.store.journal ∧ ∃ reason, r.2 = .failed holds reason)) := by
  intro r
  have hbook := (persistCommit_cases f w tx holds persistFailed journalFailed).1
  obtain ⟨hrow, hended⟩ := persistCommit_journal f hfresh holds persistFailed journalFailed
  refine ⟨congrArg Book.loans hbook, ?_⟩
  rw [hsame] at hrow
  rcases hended with ⟨hkeeps, hattempt⟩ | ⟨hkeeps, hfailed⟩
  · rw [if_pos hkeeps] at hrow
    exact Or.inl ⟨hkeeps, hrow, hattempt⟩
  · rw [if_neg (by rw [hkeeps]; exact Bool.false_ne_true)] at hrow
    exact Or.inr ⟨hrow, hfailed⟩

/-! ## Direct commits -/

/-- The call changed the loans and wrote the transaction, or did neither. -/
inductive Together (w w' : World) (keeps : Prop) (loans : Dict String Loan) (tx : JournalTx) : Prop
  | both (kept : keeps) (loans_eq : w'.prime.loans = loans)
      (journal : w'.store.journal = w.store.journal ++ [tx])
  | neither (loans_eq : w'.prime.loans = w.prime.loans)
      (journal : w'.store.journal = w.store.journal)

def World.opened (w : World) (loan : Loan) (capacity : Usd) (inventory : Inventory) : World :=
  ⟨{ w.prime with
      toBook := w.prime.toBook.opened loan capacity inventory
      updatedTsMs := loan.openedTsMs }, w.store⟩

/-- The collateral can be taken and its file was written: the other writes of a direct
`allocate` begin. -/
def BeginsOpen (f : Faults) (w : World) (loan : Loan) : Prop :=
  f.inventorySave = true
    ∧ (w.prime.inventory.reserve loan.asset loan.reserved).isSome = true

theorem commitOpen_begins (hbegins : BeginsOpen f w loan)
    (htracked : w.prime.inventory.contains loan.asset = true) (clock : Clock) (capacity : Usd) :
    ∃ inventory, commitOpen f clock w loan capacity
      = persistCommit f (w.opened loan capacity inventory) (openTransaction clock.tx loan) true
          .primeStatePersistFailed .primeJournalWriteFailed := by
  obtain ⟨hsave, hreserve⟩ := hbegins
  obtain ⟨inventory, hinventory⟩ := Option.isSome_iff_exists.1 hreserve
  refine ⟨inventory, ?_⟩
  simp only [commitOpen, htracked, if_true, hinventory, hsave]
  rfl

/-- Otherwise nothing is written, and the loans are as they were. -/
theorem commitOpen_stops (hstops : ¬ BeginsOpen f w loan)
    (htracked : w.prime.inventory.contains loan.asset = true) (clock : Clock) (capacity : Usd) :
    (commitOpen f clock w loan capacity).1.store = w.store
      ∧ ∃ reason, (commitOpen f clock w loan capacity).2 = .failed false reason := by
  simp only [commitOpen, htracked, if_true]
  cases hreserve : w.prime.inventory.reserve loan.asset loan.reserved with
  | none => exact ⟨rfl, _, rfl⟩
  | some inventory =>
    have hsave : ¬ f.inventorySave = true := fun h => hstops ⟨h, by rw [hreserve]; rfl⟩
    simp only [if_neg hsave]
    exact ⟨trivial, _, rfl⟩

theorem rollbackOpen_kept (f : Faults) (before : PrimeState) (w : World) (loan : Loan)
    (holds : Bool) (reason : PrimeReason) :
    (rollbackOpen f before w loan holds reason).1.prime.loans = before.loans
      ∧ (rollbackOpen f before w loan holds reason).1.store = w.store := by
  obtain ⟨-, hstore, hbook⟩ := rollbackOpen_cases f before w loan holds reason
  exact ⟨by rw [hbook], hstore⟩

/-- **A direct `allocate` keeps the loan and its row, or neither.** -/
theorem allocateDirect_together (hfresh : FreshStamps clock w.store) (policy : StagePolicy)
    (htracked : w.prime.inventory.contains loan.asset = true)
    (hsame : BeginsOpen f w loan → f.leavesRow = f.keepsMemory) :
    Together w (allocateDirect f clock w policy loan).1
      (BeginsOpen f w loan ∧ f.keepsMemory = true) (w.prime.loans.set loan.loanId loan)
      (openTransaction clock.tx loan) := by
  have hrolled : ∀ (w' : World) holds reason, w'.store.journal = w.store.journal →
      Together w (rollbackOpen f w.prime w' loan holds reason).1
        (BeginsOpen f w loan ∧ f.keepsMemory = true) (w.prime.loans.set loan.loanId loan)
        (openTransaction clock.tx loan) := by
    intro w' holds reason hjournal
    obtain ⟨hloans, hstore⟩ := rollbackOpen_kept f w.prime w' loan holds reason
    exact .neither hloans (by rw [hstore]; exact hjournal)
  simp only [allocateDirect]
  rcases hcommit : commitOpen f clock w loan (w.prime.capacityLimit (some policy)) with ⟨w', attempt⟩
  by_cases hbegins : BeginsOpen f w loan
  · obtain ⟨inventory, hwrites⟩ :=
      commitOpen_begins hbegins htracked clock (w.prime.capacityLimit (some policy))
    rw [hcommit] at hwrites
    obtain ⟨hloans, hended⟩ := @persistCommit_same f
      (w.opened loan (w.prime.capacityLimit (some policy)) inventory) (openTransaction clock.tx loan)
      hfresh.tx (hsame hbegins) true .primeStatePersistFailed .primeJournalWriteFailed
    rw [← hwrites] at hloans hended
    rcases hended with ⟨hkeeps, hjournal, hdone | hescaped⟩ | ⟨hjournal, reason, hfailed⟩
    · rw [show attempt = .done _ from hdone]
      exact .both ⟨hbegins, hkeeps⟩ hloans hjournal
    · rw [show attempt = .escaped from hescaped]
      exact .both ⟨hbegins, hkeeps⟩ hloans hjournal
    · rw [show attempt = .failed true reason from hfailed]
      exact hrolled w' true reason hjournal
  · obtain ⟨hstore, reason, hfailed⟩ :=
      commitOpen_stops hbegins htracked clock (w.prime.capacityLimit (some policy))
    rw [hcommit] at hstore hfailed
    rw [show attempt = .failed false reason from hfailed]
    exact hrolled w' false reason (congrArg Store.journal hstore)

def World.settled (w : World) (loanId : String) (loan : Loan) (now : Int) (inventory : Inventory) :
    World :=
  ⟨{ w.prime with
      toBook := w.prime.toBook.settled loanId loan now inventory
      updatedTsMs := now }, w.store⟩

/-- There is no collateral to give back or its file was written: the other writes of a direct
`settle` begin. -/
def BeginsSettle (f : Faults) (loan : Loan) : Prop := loan.asset = "" ∨ f.inventorySave = true

theorem commitSettle_begins (hbegins : BeginsSettle f loan) (clock : Clock) (w : World)
    (loanId : String) (realizedPnlUsd : Usd) :
    ∃ inventory holds, commitSettle f clock w loanId loan realizedPnlUsd
      = persistCommit f (w.settled loanId loan clock.now inventory)
          (settlementTransaction clock.tx (loan.settle clock.now) realizedPnlUsd "") holds
          .primeSettlementPersistFailed .primeSettlementJournalWriteFailed := by
  simp only [commitSettle]
  by_cases hasset : loan.asset = ""
  · rw [if_neg (not_not.2 hasset)]
    exact ⟨_, false, rfl⟩
  · rw [if_pos hasset, if_pos (hbegins.resolve_left hasset)]
    exact ⟨_, true, rfl⟩

theorem commitSettle_stops (hstops : ¬ BeginsSettle f loan) (clock : Clock) (w : World)
    (loanId : String) (realizedPnlUsd : Usd) :
    (commitSettle f clock w loanId loan realizedPnlUsd).1.store = w.store
      ∧ ∃ reason, (commitSettle f clock w loanId loan realizedPnlUsd).2 = .failed false reason := by
  have hasset : loan.asset ≠ "" := fun h => hstops (Or.inl h)
  have hsave : ¬ f.inventorySave = true := fun h => hstops (Or.inr h)
  simp only [commitSettle]
  rw [if_pos hasset, if_neg hsave]
  exact ⟨rfl, _, rfl⟩

theorem rollbackSettle_kept (f : Faults) (before : PrimeState) (w : World) (loan : Loan)
    (holds : Bool) (reason : PrimeReason) :
    (rollbackSettle f before w loan holds reason).1.prime.loans = before.loans
      ∧ (rollbackSettle f before w loan holds reason).1.store = w.store := by
  obtain ⟨hstore, ⟨-, hbook⟩ | ⟨-, -, hbook⟩ | ⟨_, -, -, hbook⟩⟩ :=
    rollbackSettle_cases f before w loan holds reason
  · exact ⟨by rw [hbook], hstore⟩
  · exact ⟨by rw [hbook], hstore⟩
  · exact ⟨by rw [hbook], hstore⟩

/-- **A direct `settle` settles the loan and writes its row, or neither.** -/
theorem settleDirect_together (hfresh : FreshStamps clock w.store) (loanId : String) (loan : Loan)
    (realizedPnlUsd : Usd) (hsame : BeginsSettle f loan → f.leavesRow = f.keepsMemory) :
    Together w (settleDirect f clock w loanId loan realizedPnlUsd).1
      (BeginsSettle f loan ∧ f.keepsMemory = true)
      (w.prime.loans.set loanId (loan.settle clock.now))
      (settlementTransaction clock.tx (loan.settle clock.now) realizedPnlUsd "") := by
  have hrolled : ∀ (w' : World) holds reason, w'.store.journal = w.store.journal →
      Together w (rollbackSettle f w.prime w' loan holds reason).1
        (BeginsSettle f loan ∧ f.keepsMemory = true)
        (w.prime.loans.set loanId (loan.settle clock.now))
        (settlementTransaction clock.tx (loan.settle clock.now) realizedPnlUsd "") := by
    intro w' holds reason hjournal
    obtain ⟨hloans, hstore⟩ := rollbackSettle_kept f w.prime w' loan holds reason
    exact .neither hloans (by rw [hstore]; exact hjournal)
  simp only [settleDirect]
  rcases hcommit : commitSettle f clock w loanId loan realizedPnlUsd with ⟨w', attempt⟩
  by_cases hbegins : BeginsSettle f loan
  · obtain ⟨inventory, holds, hwrites⟩ :=
      commitSettle_begins hbegins clock w loanId realizedPnlUsd
    rw [hcommit] at hwrites
    obtain ⟨hloans, hended⟩ := @persistCommit_same f (w.settled loanId loan clock.now inventory)
      (settlementTransaction clock.tx (loan.settle clock.now) realizedPnlUsd "") hfresh.tx
      (hsame hbegins) holds .primeSettlementPersistFailed .primeSettlementJournalWriteFailed
    rw [← hwrites] at hloans hended
    rcases hended with ⟨hkeeps, hjournal, hdone | hescaped⟩ | ⟨hjournal, reason, hfailed⟩
    · rw [show attempt = .done _ from hdone]
      exact .both ⟨hbegins, hkeeps⟩ hloans hjournal
    · rw [show attempt = .escaped from hescaped]
      exact .both ⟨hbegins, hkeeps⟩ hloans hjournal
    · rw [show attempt = .failed holds reason from hfailed]
      exact hrolled w' holds reason hjournal
  · obtain ⟨hstore, reason, hfailed⟩ := commitSettle_stops hbegins clock w loanId realizedPnlUsd
    rw [hcommit] at hstore hfailed
    rw [show attempt = .failed false reason from hfailed]
    exact hrolled w' false reason (congrArg Store.journal hstore)

/-! ## Traces -/

theorem accrue_filter {p : JournalTx → Bool} (h : ∀ row ∈ rows, p row = false → Untouched row)
    (balance : Usd) :
    accrue borrowedAccount "USD" balance (rows.filter p)
      = accrue borrowedAccount "USD" balance rows := by
  induction rows generalizing balance with
  | nil => rfl
  | cons row rows ih =>
    have hrows := ih fun row' hrow' => h row' (List.mem_cons_of_mem row hrow')
    rw [List.filter_cons]
    cases hp : p row with
    | true =>
      rw [if_pos rfl]
      exact hrows _
    | false =>
      rw [if_neg Bool.false_ne_true, hrows]
      show _ = accrue borrowedAccount "USD" (row.lines.foldl _ balance) rows
      rw [h row List.mem_cons_self hp balance]

/-- Writing a trace leaves the balance, however the write ends. -/
theorem ledgerBorrowedUsd_trace (f : LedgerFaults) {store : Store} {tx : JournalTx}
    (htx : Untouched tx)
    (hrows : ∀ row ∈ store.journal, row.transactionId = tx.transactionId → Untouched row) :
    ledgerBorrowedUsd (writeLedgerTransaction f store tx).1.journal
      = ledgerBorrowedUsd store.journal := by
  obtain ⟨-, hkept | hgains | ⟨-, hdeleted⟩⟩ := writeLedgerTransaction_cases f store tx
  · rw [hkept]
  · rw [hgains]
    exact ledgerBorrowedUsd_untouched htx
  · rw [hdeleted, ledgerBorrowedUsd_eq, accrue_filter, ← ledgerBorrowedUsd_eq]
    · exact ledgerBorrowedUsd_untouched htx
    · intro row hrow hsame
      rcases List.mem_append.1 hrow with hold | hnew
      · exact hrows row hold (by simpa using hsame)
      · rw [List.mem_singleton.1 hnew]
        exact htx

theorem rejectedPayload_borrowed (f : Faults) {clock : Clock} {w : World}
    (hrows : ∀ row ∈ w.store.journal, row.transactionId = clock.audit.txId → Untouched row)
    (loanId : String) (loan : Option Loan) (reason : PrimeReason) (realizedPnlUsd : Usd) :
    (rejectedPayload f clock w loanId loan reason realizedPnlUsd).1.prime = w.prime
      ∧ ledgerBorrowedUsd
          (rejectedPayload f clock w loanId loan reason realizedPnlUsd).1.store.journal
        = ledgerBorrowedUsd w.store.journal := by
  refine ⟨(rejectedPayload_kept f clock w loanId loan reason realizedPnlUsd).1, ?_⟩
  have htrace := @ledgerBorrowedUsd_trace f.audit w.store
    (settlementRejectionTransaction clock.audit loanId loan reason realizedPnlUsd "")
    (untouched_rejection _ _ _ _ _ _) hrows
  simp only [rejectedPayload]
  rcases hledger : writeLedgerTransaction f.audit w.store _ with ⟨store, fault⟩
  rw [hledger] at htrace
  cases fault with
  | ok => exact htrace
  | caught => exact htrace
  | escapes => exact htrace

theorem deniedPayload_borrowed (f : Faults) (hfresh : FreshStamps clock w.store)
    (req : PrimeBorrowRequest) (policy : StagePolicy) (reason : PrimeReason) :
    (deniedPayload f clock w req policy reason).1.prime = w.prime
      ∧ ledgerBorrowedUsd (deniedPayload f clock w req policy reason).1.store.journal
        = ledgerBorrowedUsd w.store.journal := by
  refine ⟨(deniedPayload_kept f clock w req policy reason).2.1, ?_⟩
  rcases deniedPayload_trace f hfresh.audit req policy reason with hkept | ⟨ctx, notional, hgains⟩
  · rw [hkept.journal]
  · rw [hgains.journal]
    exact ledgerBorrowedUsd_untouched (untouched_decision _ _ _ _ _)

theorem disputeLoan_borrowed (f : Faults) (hfresh : FreshStamps clock w.store)
    (hfound : w.prime.loans.get? loanId = some loan) (hactive : loan.active = true)
    (realizedPnlUsd : Usd) :
    activeTotal (disputeLoan f clock w loanId loan realizedPnlUsd).1.prime.loans
        = activeTotal w.prime.loans
      ∧ ledgerBorrowedUsd (disputeLoan f clock w loanId loan realizedPnlUsd).1.store.journal
        = ledgerBorrowedUsd w.store.journal := by
  have hdispute : Untouched
      (disputeTransaction clock.tx (loan.dispute clock.now) .inventoryUntrackedOnSettlement "") :=
    untouched_dispute _ _ _ _
  have htotal : activeTotal (w.prime.loans.set loanId (loan.dispute clock.now))
      = activeTotal w.prime.loans := activeSum_dispute hfound hactive clock.now rfl rfl
  have hbook := (persistCommit_cases f
    ⟨{ w.prime with
        loans := w.prime.loans.set loanId (loan.dispute clock.now), updatedTsMs := clock.now },
      w.store⟩
    (disputeTransaction clock.tx (loan.dispute clock.now) .inventoryUntrackedOnSettlement "")
    false .inventoryUntrackedOnSettlement .inventoryUntrackedOnSettlement).1
  have hjournal := (@persistCommit_journal f
    ⟨{ w.prime with
        loans := w.prime.loans.set loanId (loan.dispute clock.now), updatedTsMs := clock.now },
      w.store⟩
    (disputeTransaction clock.tx (loan.dispute clock.now) .inventoryUntrackedOnSettlement "")
    hfresh.tx false .inventoryUntrackedOnSettlement .inventoryUntrackedOnSettlement).1
  simp only [disputeLoan]
  rcases hcommit : persistCommit f _ _ false .inventoryUntrackedOnSettlement
    .inventoryUntrackedOnSettlement with ⟨w', attempt⟩
  rw [hcommit] at hbook hjournal
  have hloans : w'.prime.loans = w.prime.loans.set loanId (loan.dispute clock.now) :=
    congrArg Book.loans hbook
  have hborrowed : ledgerBorrowedUsd w'.store.journal = ledgerBorrowedUsd w.store.journal := by
    rw [show w'.store.journal = _ from hjournal]
    split
    · exact ledgerBorrowedUsd_untouched hdispute
    · rfl
  cases attempt with
  | done tx => exact ⟨by rw [hloans, htotal], hborrowed⟩
  | escaped => exact ⟨by rw [hloans, htotal], hborrowed⟩
  | failed holds reason =>
    obtain ⟨hprime, hrejected⟩ := @rejectedPayload_borrowed f clock
      { w' with prime := finishRollback f { w'.prime with loans := w.prime.loans } none }
      (by
        -- The audit may share its id with the row of the dispute only.
        intro row hrow hsame
        rw [show w'.store.journal = _ from hjournal] at hrow
        split at hrow
        · rcases List.mem_append.1 hrow with hold | hnew
          · exact absurd hsame (hfresh.audit row hold)
          · rw [List.mem_singleton.1 hnew]
            exact hdispute
        · exact absurd hsame (hfresh.audit row hrow))
      loanId (some loan) .inventoryUntrackedOnSettlement realizedPnlUsd
    refine ⟨?_, hrejected.trans hborrowed⟩
    rw [hprime, finishRollback_toBook]

/-! ## Runs -/

/-- The derived borrowed balance is the total of the active loans. -/
def LedgerAgrees (w : World) : Prop :=
  ledgerBorrowedUsd w.store.journal = activeTotal w.prime.loans

/-- The loan can be lent: no active loan has its id, and its notional has at most eight
decimals. -/
structure Lendable (w : World) (loan : Loan) : Prop where
  free : ∀ old, w.prime.loans.get? loan.loanId = some old → old.active = false
  dec : Dec 8 loan.notionalUsd

/-- A settlement of the coordinator has a payload to commit. -/
def Prepares (s : PrimeState) (loanId : String) : Prop :=
  (∃ loan, s.settlingLoan loanId = some loan)
    ∨ (s.stateReady = true ∧ 0 < s.capacityLimit none ∧ ∃ loan, FindsUntracked s loanId loan)

/-- The call does not meet a trap: the ids it draws are fresh, a loan it grants can be lent, a
direct commit that begins to write ends with the row and the memory or with neither, a loan it
settles has at most eight decimals, the coordinator commits a bare payload over no active loan
only, and an adopted snapshot has the same active total. -/
def LedgerOk (w : World) : BookCall → Prop
  | .allocate coordinated f clock req policy =>
    FreshStamps clock w.store
      ∧ ∀ loan, w.prime.stateReady = true →
        grantedLoan w.prime.toBook req policy clock = some loan →
          if coordinated then f.commit = .ok → Lendable w loan
          else BeginsOpen f w loan → f.leavesRow = f.keepsMemory
            ∧ (f.keepsMemory = true → Lendable w loan)
  | .settle f clock loanId _ =>
    FreshStamps clock w.store
      ∧ ∀ loan, w.prime.settlingLoan loanId = some loan →
        BeginsSettle f loan → f.leavesRow = f.keepsMemory
          ∧ (f.keepsMemory = true → Dec 8 loan.notionalUsd)
  | .settleCoordinated f _ loanId _ _ =>
    f.commit = .ok →
      (∀ loan, w.prime.settlingLoan loanId = some loan → Dec 8 loan.notionalUsd)
        ∧ (¬ Prepares w.prime loanId → activeTotal w.prime.loans = 0)
  | .adopt snapshot _ =>
    ∀ payload, w.store.snapshots[snapshot]? = some payload →
      activeTotal payload.loans = activeTotal w.prime.loans
  | .seed _ => True

theorem LedgerAgrees.afterOpen (h : LedgerAgrees w) (hlend : Lendable w loan)
    (hactive : loan.active = true) (stamp : Stamp) :
    ledgerBorrowedUsd (w.store.journal ++ [openTransaction stamp loan])
      = activeTotal (w.prime.loans.set loan.loanId loan) := by
  have htotal : activeTotal (w.prime.loans.set loan.loanId loan)
      = activeTotal w.prime.loans + loan.notionalUsd := activeSum_open hlend.free hactive
  rw [ledgerBorrowedUsd_open hlend.dec, h, htotal]

theorem LedgerAgrees.afterSettlement (h : LedgerAgrees w)
    (hsettling : w.prime.settlingLoan loanId = some loan) (hdec : Dec 8 loan.notionalUsd)
    (stamp : Stamp) (now : Int) (realizedPnlUsd : Usd) (receiptId : String) :
    ledgerBorrowedUsd (w.store.journal
        ++ [settlementTransaction stamp (loan.settle now) realizedPnlUsd receiptId])
      = activeTotal (w.prime.loans.set loanId (loan.settle now)) := by
  obtain ⟨hfound, -, hactive, -, -⟩ := settlingLoan_eq_some_iff.1 hsettling
  have hsettled : Dec 8 (loan.settle now).notionalUsd := hdec
  have htotal : activeTotal (w.prime.loans.set loanId (loan.settle now))
      = activeTotal w.prime.loans - (loan.settle now).notionalUsd :=
    activeSum_settle hfound hactive now
  rw [ledgerBorrowedUsd_settlement hsettled, h, htotal]

theorem LedgerAgrees.allocate (h : LedgerAgrees w) {coordinated : Bool} {req : PrimeBorrowRequest}
    {policy : StagePolicy} (hok : LedgerOk w (.allocate coordinated f clock req policy)) :
    LedgerAgrees (allocate coordinated f clock w req policy).1 := by
  obtain ⟨hfresh, hgranted⟩ := hok
  have hpath := allocate_path coordinated f clock w req policy
  generalize Prime.allocate coordinated f clock w req policy = result at hpath
  cases hpath with
  | denied reason _ =>
    obtain ⟨hprime, hborrowed⟩ := deniedPayload_borrowed f hfresh req policy reason
    unfold LedgerAgrees
    rw [hprime, hborrowed]
    exact h
  | unreadable _ => exact h
  | unprepared _ _ _ _ _ => exact h
  | uncommitted _ _ _ _ _ _ _ _ _ => exact h
  | committed loan transition isCoordinated ready grant prepared committed =>
    have hlend := hgranted loan ready grant
    rw [if_pos isCoordinated] at hlend
    obtain ⟨-, -, hsnapshot, htx⟩ := prepareOpenTransition_ok prepared
    unfold LedgerAgrees
    simp only [commitInternalPrimeOpen, committed]
    rw [adoptMirrored_toBook, hsnapshot, htx]
    exact h.afterOpen (hlend committed) (grantedLoan_active grant) clock.tx
  | direct loan transition isDirect ready grant _ =>
    have hwrites := hgranted loan ready grant
    rw [if_neg (by rw [isDirect]; exact Bool.false_ne_true)] at hwrites
    have htogether := allocateDirect_together hfresh policy (grantedLoan_tracked grant)
      fun hbegins => (hwrites hbegins).1
    unfold LedgerAgrees
    cases htogether with
    | both kept loans_eq journal =>
      rw [loans_eq, journal]
      exact h.afterOpen ((hwrites kept.1).2 kept.2) (grantedLoan_active grant) clock.tx
    | neither loans_eq journal =>
      rw [loans_eq, journal]
      exact h

theorem LedgerAgrees.settle (h : LedgerAgrees w) {realizedPnlUsd : Usd}
    (hok : LedgerOk w (.settle f clock loanId realizedPnlUsd)) :
    LedgerAgrees (settle f clock w loanId realizedPnlUsd).1 := by
  obtain ⟨hfresh, hwrites⟩ := hok
  have hpath := settle_path f clock w loanId realizedPnlUsd
  generalize Prime.settle f clock w loanId realizedPnlUsd = result at hpath
  unfold LedgerAgrees
  cases hpath with
  | rejected loan reason _ _ _ =>
    obtain ⟨hprime, hborrowed⟩ := @rejectedPayload_borrowed f clock w
      (fun row hrow hsame => absurd hsame (hfresh.audit row hrow)) loanId loan reason
      realizedPnlUsd
    rw [hprime, hborrowed]
    exact h
  | disputed loan ready finds =>
    obtain ⟨htotal, hborrowed⟩ :=
      disputeLoan_borrowed f hfresh finds.found finds.active realizedPnlUsd
    rw [htotal, hborrowed]
    exact h
  | direct loan settling =>
    have htogether := settleDirect_together hfresh loanId loan realizedPnlUsd
      fun hbegins => (hwrites loan settling hbegins).1
    cases htogether with
    | both kept loans_eq journal =>
      rw [loans_eq, journal]
      exact h.afterSettlement settling ((hwrites loan settling kept.1).2 kept.2) _ _ _ _
    | neither loans_eq journal =>
      rw [loans_eq, journal]
      exact h

/-- The transaction of a prepared settlement: the loan's, or a trace. -/
theorem prepareSettlementTransition_journal (s : PrimeState) (loanId : String)
    (realizedPnlUsd : Usd) (receiptId : String) (clock : Clock) :
    let t := prepareSettlementTransition s loanId realizedPnlUsd receiptId clock
    (t.ok = false ∧ Untouched t.journalTx)
      ∨ (t.ok = true ∧ ∃ loan, s.loans.get? loanId = some loan
        ∧ t.journalTx
          = settlementTransaction clock.tx (loan.settle clock.now) realizedPnlUsd receiptId) := by
  intro t
  simp only [t, prepareSettlementTransition]
  split
  · exact Or.inl ⟨rfl, untouched_rejection _ _ _ _ _ _⟩
  cases hfound : s.loans.get? loanId with
  | none => exact Or.inl ⟨rfl, untouched_rejection _ _ _ _ _ _⟩
  | some loan =>
    simp only
    split
    · exact Or.inl ⟨rfl, untouched_rejection _ _ _ _ _ _⟩
    split
    · exact Or.inl ⟨rfl, untouched_rejection _ _ _ _ _ _⟩
    split
    · exact Or.inl ⟨rfl, untouched_dispute _ _ _ _⟩
    · exact Or.inr ⟨rfl, loan, rfl, rfl⟩

theorem LedgerAgrees.settleCoordinated (h : LedgerAgrees w) {realizedPnlUsd : Usd}
    {receiptId : String}
    (hok : LedgerOk w (.settleCoordinated f clock loanId realizedPnlUsd receiptId)) :
    LedgerAgrees (bookStep w (.settleCoordinated f clock loanId realizedPnlUsd receiptId)) := by
  simp only [bookStep, commitPrimeSettlement]
  cases hcommit : f.commit with
  | caught => exact h
  | escapes => exact h
  | ok =>
    obtain ⟨hdec, hbare⟩ := hok hcommit
    have hjournal :=
      prepareSettlementTransition_journal w.prime loanId realizedPnlUsd receiptId clock
    have hcases :=
      prepareSettlementTransition_cases w.prime loanId realizedPnlUsd receiptId clock
    unfold LedgerAgrees
    simp only
    rw [adoptMirrored_toBook]
    show ledgerBorrowedUsd _ = activeTotal (StatePayload.loans _)
    cases hcases with
    | rejected result snapshot settling cause =>
      rcases hjournal with ⟨-, huntouched⟩ | ⟨hsettled, -⟩
      · rw [ledgerBorrowedUsd_untouched huntouched, snapshot, h]
        -- Nothing is prepared, so the bare payload forgets every loan.
        refine hbare ?_
        rintro (⟨loan, hloan⟩ | ⟨hready, hcapacity, loan, hfinds⟩)
        · rw [settling] at hloan
          cases hloan
        · rcases cause with hnot | hnone | hnever
          · rw [hready] at hnot
            cases hnot
          · exact absurd hcapacity (not_lt.2 hnone)
          · exact hnever loan hfinds
      · rw [result] at hsettled
        cases hsettled
    | disputed loan ready capacity finds result snapshot =>
      rcases hjournal with ⟨-, huntouched⟩ | ⟨hsettled, -⟩
      · rw [ledgerBorrowedUsd_untouched huntouched, snapshot, h]
        exact (activeSum_dispute finds.found finds.active clock.now rfl rfl).symm
      · rw [result] at hsettled
        cases hsettled
    | settled loan settling result snapshot =>
      rcases hjournal with ⟨hrejected, -⟩ | ⟨-, loan', hfound', htx⟩
      · rw [result] at hrejected
        cases hrejected
      · obtain ⟨hfound, -, -, -, -⟩ := settlingLoan_eq_some_iff.1 settling
        rw [hfound] at hfound'
        cases hfound'
        rw [htx, snapshot]
        exact h.afterSettlement settling (hdec loan settling) _ _ _ _

/-- **One call keeps the ledger in step.** -/
theorem bookStep_ledgerAgrees (w : World) (call : BookCall) (h : LedgerAgrees w)
    (hok : LedgerOk w call) : LedgerAgrees (bookStep w call) := by
  cases call with
  | allocate coordinated f clock req policy => exact h.allocate hok
  | settle f clock loanId pnl => exact h.settle hok
  | settleCoordinated f clock loanId pnl receiptId => exact h.settleCoordinated hok
  | adopt snapshot saved =>
    simp only [bookStep]
    cases hget : w.store.snapshots[snapshot]? with
    | none => exact h
    | some payload =>
      show ledgerBorrowedUsd w.store.journal
        = activeTotal (adoptMirrored payload saved).toBook.loans
      rw [adoptMirrored_toBook]
      exact h.trans (hok payload hget).symm
  | seed inventory => exact h

/-- **Double entry.** What the allocator builds passes validation, the settlement of a loan
cancels its opening on every account, and in a run whose calls meet no trap the borrowed
balance of the ledger is, in every state reached, the total of the active loans. -/
theorem doubleEntry (inventory : Inventory) (now : Int) (store : Store)
    (calls reached : List BookCall) (hstore : store.journal = [])
    (hok : AllSteps bookStep LedgerOk ⟨PrimeState.fresh inventory now, store⟩ calls)
    (hreached : reached <+: calls) :
    (∀ tx, PrimeTransaction tx → Balanced tx.lines)
      ∧ (∀ loan stamp stamp' now realizedPnlUsd receiptId account asset,
        posted account asset ((openTransaction stamp loan).lines
          ++ (settlementTransaction stamp' (loan.settle now) realizedPnlUsd receiptId).lines) = 0)
      ∧ LedgerAgrees (run bookStep ⟨PrimeState.fresh inventory now, store⟩ reached) := by
  refine ⟨fun tx h => h.balanced, ?_, ?_⟩
  · intro loan stamp stamp' now pnl receiptId account asset
    exact posted_life account asset loan now
  · have hstart : LedgerAgrees ⟨PrimeState.fresh inventory now, store⟩ := by
      unfold LedgerAgrees
      rw [hstore, ledgerBorrowedUsd_eq]
      rfl
    exact reached_invariant bookStep_ledgerAgrees hstart hok hreached

/-- A loan is opened and settled. -/
theorem doubleEntry_lendTen :
    LedgerAgrees (run bookStep smallWorld [lendTen 1 "t1", settleTen]) := by
  have hkept : Faults.none.leavesRow = Faults.none.keepsMemory := by decide
  have hfresh : ∀ now txId, (∀ row ∈ (run bookStep smallWorld [lendTen 1 "t1"]).store.journal,
      row.transactionId ≠ txId ∧ row.transactionId ≠ txId ++ "_audit") →
      FreshStamps (smallClock now txId) (run bookStep smallWorld [lendTen 1 "t1"]).store :=
    fun _ _ h => ⟨fun row hrow => (h row hrow).1, fun row hrow => (h row hrow).2⟩
  have hten : ∀ loan, grantedLoan smallWorld.prime.toBook (smallRequest "l1" 10) smallPolicy
      (smallClock 1 "t1") = some loan → loan.notionalUsd = 10 := by
    intro loan hloan
    obtain ⟨notional, ctx, cost, -, happroved, rfl⟩ := grantedLoan_eq_some hloan
    have hnotional := happroved.notional_eq
    cases hnotional
    rfl
  have hsettled : ∀ loan ∈ (run bookStep smallWorld [lendTen 1 "t1"]).prime.settlingLoan "l1",
      loan.notionalUsd = 10 := by
    decide +kernel
  have hdec : Dec 8 (10 : ℚ) := by exact_mod_cast dec_intCast 8 10
  refine (doubleEntry smallPool 0 ⟨[], [], []⟩ [lendTen 1 "t1", settleTen] _ rfl
    ⟨?_, ?_, trivial⟩ (List.prefix_refl _)).2.2
  · refine ⟨⟨fun row hrow => absurd hrow (by simp), fun row hrow => absurd hrow (by simp)⟩, ?_⟩
    intro loan _ hloan
    rw [if_neg Bool.false_ne_true]
    intro _
    refine ⟨hkept, fun _ => ⟨?_, ?_⟩⟩
    · intro old hold
      cases hold
    · rw [hten loan hloan]
      exact hdec
  · refine ⟨hfresh 2 "t2" (by decide +kernel), ?_⟩
    intro loan hloan _
    refine ⟨hkept, fun _ => ?_⟩
    rw [hsettled loan hloan]
    exact hdec

/-- One request granted twice under one id: the ledger has both openings, the book one loan. -/
theorem not_ledgerAgrees_repeatedId :
    ¬ LedgerAgrees (run bookStep smallWorld [lendTen 1 "t1", lendTen 2 "t2"]) := by
  unfold LedgerAgrees
  decide +kernel

end SovereignCapital.Prime
