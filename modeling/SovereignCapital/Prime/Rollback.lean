import SovereignCapital.Prime.Conservation

/-! # What a failed call leaves

A call that fails before its commit leaves the memory alone and at most its audit in the
journal. A commit that fails with a handled exception up to the journal write is taken back
entirely; the only failure that changes the book is a settlement that finds the asset
untracked and marks the loan disputed.
-/

namespace SovereignCapital.Prime

open Decimal

/-! ## The journal -/

structure JournalKept (before after : Store) : Prop where
  journal : after.journal = before.journal
  ledgerFile : after.ledgerFile = before.ledgerFile

/-- The journal has one more transaction; the file may have it too. -/
structure JournalGains (before after : Store) (tx : JournalTx) : Prop where
  journal : after.journal = before.journal ++ [tx]
  ledgerFile : after.ledgerFile = before.ledgerFile ∨ after.ledgerFile = before.ledgerFile ++ [tx]

theorem JournalKept.refl (store : Store) : JournalKept store store := ⟨rfl, rfl⟩

/-- However a ledger write ends, its transaction is in the journal or the journal is as
before, when its id is fresh. -/
theorem writeLedgerTransaction_journal (f : LedgerFaults) {store : Store} {tx : JournalTx}
    (hfresh : ∀ row ∈ store.journal, row.transactionId ≠ tx.transactionId) :
    JournalKept store (writeLedgerTransaction f store tx).1
      ∨ JournalGains store (writeLedgerTransaction f store tx).1 tx := by
  unfold writeLedgerTransaction
  cases f.insert with
  | caught => exact Or.inl (.refl store)
  | escapes => exact Or.inl (.refl store)
  | ok =>
    simp only
    split
    · exact Or.inr ⟨rfl, Or.inl rfl⟩
    · split
      · exact Or.inr ⟨rfl, Or.inr rfl⟩
      · cases f.delete with
        | ok => exact Or.inl ⟨filter_append_fresh hfresh, rfl⟩
        | caught => exact Or.inr ⟨rfl, Or.inl rfl⟩
        | escapes => exact Or.inr ⟨rfl, Or.inl rfl⟩

/-- The failures a direct commit handles completely: the pool file was written, the state
file and the journal raise handled exceptions only, a journal row that has to go is deleted,
and the state history is written. -/
structure HandledFaults (f : Faults) : Prop where
  inventorySave : f.inventorySave = true
  insert : f.ledger.insert ≠ .escapes
  publish : f.ledger.publish ≠ .escapes
  delete : f.ledger.delete = .ok
  snapshot : f.snapshot = .ok
  event : f.event = .ok

variable {f : Faults} {clock : Clock} {w : World}

theorem writeLedgerTransaction_handled (hf : HandledFaults f) {store : Store} {tx : JournalTx}
    (hfresh : ∀ row ∈ store.journal, row.transactionId ≠ tx.transactionId) :
    (writeLedgerTransaction f.ledger store tx).2 = .ok
      ∨ ((writeLedgerTransaction f.ledger store tx).2 = .caught
        ∧ JournalKept store (writeLedgerTransaction f.ledger store tx).1) := by
  unfold writeLedgerTransaction
  cases hinsert : f.ledger.insert with
  | caught => exact Or.inr ⟨rfl, .refl store⟩
  | escapes => exact absurd hinsert hf.insert
  | ok =>
    simp only [if_neg hf.publish, hf.delete]
    split
    · exact Or.inl rfl
    · exact Or.inr ⟨rfl, filter_append_fresh hfresh, rfl⟩

/-- A direct commit went through, or failed and left the journal as it was. -/
def CommitHandled (before : Store) (holds : Bool) (r : World × Attempt) : Prop :=
  (∃ tx, r.2 = .done tx) ∨ ((∃ reason, r.2 = .failed holds reason) ∧ JournalKept before r.1.store)

theorem persistCommit_handled {f : Faults} (hf : HandledFaults f) {w : World} {tx : JournalTx}
    (hfresh : ∀ row ∈ w.store.journal, row.transactionId ≠ tx.transactionId) (holds : Bool)
    (persistFailed journalFailed : PrimeReason) :
    CommitHandled w.store holds (persistCommit f w tx holds persistFailed journalFailed) := by
  simp only [CommitHandled, persistCommit]
  split
  · exact Or.inr ⟨⟨persistFailed, rfl⟩, .refl w.store⟩
  · have hwrite := writeLedgerTransaction_handled hf hfresh
    rcases hledger : writeLedgerTransaction f.ledger w.store tx with ⟨store, fault⟩
    rw [hledger] at hwrite
    rcases hwrite with hok | ⟨hcaught, hkept⟩
    · rw [show fault = .ok from hok]
      simp only [recordStateSnapshot, hf.snapshot, hf.event]
      exact Or.inl ⟨tx, rfl⟩
    · rw [show fault = .caught from hcaught]
      exact Or.inr ⟨⟨journalFailed, rfl⟩, hkept⟩

/-! ## Taking collateral back -/

theorem contains_iff {inventory : Inventory} {asset : String}
    (h : inventory.contains asset = true) :
    inventory.get? asset = some (inventory.getD asset 0) := by
  unfold Dict.contains at h
  unfold Dict.getD
  obtain ⟨v, hv⟩ := Option.isSome_iff_exists.1 h
  rw [hv]
  rfl

/-- Giving back what was reserved restores the pool. -/
theorem release_reserve {inventory inventory' : Inventory} {asset : String} {amount : Usd}
    (htracked : inventory.contains asset = true)
    (hreserve : inventory.reserve asset amount = some inventory') :
    inventory'.release asset amount = inventory := by
  obtain ⟨-, rfl⟩ := reserve_eq_some hreserve
  unfold Inventory.release
  rw [Dict.getD_set, if_pos rfl, sub_add_cancel, Dict.set_set]
  exact Dict.set_get? _ (contains_iff htracked)

/-- Reserving what was given back restores the pool. -/
theorem reserve_release_eq {inventory : Inventory} {asset : String} {amount : Usd}
    (htracked : inventory.contains asset = true) (hpool : 0 ≤ inventory.getD asset 0) :
    (inventory.release asset amount).reserve asset amount = some inventory := by
  obtain ⟨inventory', hreserve⟩ := @reserve_release inventory asset amount hpool
  obtain ⟨-, rfl⟩ := reserve_eq_some hreserve
  rw [hreserve]
  congr 1
  rw [getD_release, if_pos rfl, add_sub_cancel_right]
  unfold Inventory.release
  rw [Dict.set_set]
  exact Dict.set_get? _ (contains_iff htracked)

/-! ## A direct allocate -/

/-- The ids a call draws are not in the journal. -/
structure FreshStamps (clock : Clock) (store : Store) : Prop where
  tx : ∀ row ∈ store.journal, row.transactionId ≠ clock.tx.txId
  audit : ∀ row ∈ store.journal, row.transactionId ≠ clock.audit.txId

theorem commitOpen_handled (hf : HandledFaults f) (hfresh : FreshStamps clock w.store) (loan : Loan)
    (capacity : Usd) :
    ∃ holds, CommitHandled w.store holds (commitOpen f clock w loan capacity) := by
  simp only [commitOpen]
  split
  · split
    · exact ⟨false, Or.inr ⟨⟨_, rfl⟩, .refl w.store⟩⟩
    · rw [if_pos hf.inventorySave]
      exact ⟨true, persistCommit_handled hf hfresh.tx true _ _⟩
  · exact ⟨false, persistCommit_handled hf hfresh.tx false _ _⟩

/-- A direct commit of a granted loan that meets handled failures only grants it or leaves
everything as it was. -/
theorem allocateDirect_handled (hf : HandledFaults f) (hfresh : FreshStamps clock w.store)
    (policy : StagePolicy) {loan : Loan} (htracked : w.prime.inventory.contains loan.asset = true) :
    let r := allocateDirect f clock w policy loan
    r.2.isGranted = true ∨ (r.1.prime.toBook = w.prime.toBook ∧ JournalKept w.store r.1.store) := by
  intro r
  have hcases := commitOpen_cases f clock w loan (w.prime.capacityLimit (some policy)) htracked
  have hhandled := commitOpen_handled hf hfresh loan (w.prime.capacityLimit (some policy))
  simp only [r, allocateDirect]
  rcases hcommit : commitOpen f clock w loan (w.prime.capacityLimit (some policy)) with ⟨w', attempt⟩
  rw [hcommit] at hcases hhandled
  rcases hhandled with ⟨holds, ⟨tx, hdone⟩ | ⟨⟨reason, hfailed⟩, hkept⟩⟩
  · rw [show attempt = .done tx from hdone]
    exact Or.inl rfl
  · rw [show attempt = .failed holds reason from hfailed] at hcases ⊢
    obtain ⟨-, hstore, hbook⟩ := rollbackOpen_cases f w.prime w' loan holds reason
    refine Or.inr ⟨?_, by rw [hstore]; exact hkept⟩
    rw [hbook]
    -- What is left to see is that the pool is back.
    suffices hpool : (if holds = true then w'.prime.inventory.release loan.asset loan.reserved
        else w'.prime.inventory) = w.prime.inventory by
      rw [hpool]
    rcases hcases with ⟨hw, hattempt⟩ | ⟨inventory, hreserve, ⟨hunsaved, -⟩ |
      ⟨-, hopened, -, hattempt⟩⟩
    · cases hattempt
      rw [show w' = w from hw]
      rfl
    · rw [hf.inventorySave] at hunsaved
      cases hunsaved
    · have hholds : holds = true := by
        rcases hattempt with h | h | h | h
        · cases h
        · cases h
        · cases h
          rfl
        · cases h
          rfl
      rw [if_pos hholds, show w'.prime.toBook = _ from hopened]
      exact release_reserve htracked hreserve

/-! ## A direct settle -/

theorem commitSettle_handled (hf : HandledFaults f) (hfresh : FreshStamps clock w.store)
    (loanId : String) (loan : Loan) (realizedPnlUsd : Usd) :
    CommitHandled w.store (decide (loan.asset ≠ ""))
      (commitSettle f clock w loanId loan realizedPnlUsd) := by
  simp only [commitSettle]
  by_cases hasset : loan.asset = ""
  · rw [if_neg (not_not.2 hasset), decide_eq_false (not_not.2 hasset)]
    exact persistCommit_handled hf hfresh.tx false _ _
  · rw [if_pos hasset, if_pos hf.inventorySave, decide_eq_true hasset]
    exact persistCommit_handled hf hfresh.tx true _ _

/-- The collateral of the loan, once given back, can be taken again. -/
def PoolCovers (w : World) (loan : Loan) : Prop :=
  loan.asset ≠ "" → w.prime.inventory.contains loan.asset = true
    ∧ 0 ≤ w.prime.inventory.getD loan.asset 0

theorem settleDirect_handled (hf : HandledFaults f) (hfresh : FreshStamps clock w.store)
    {loanId : String} {loan : Loan}
    (hpool : PoolCovers w loan) (realizedPnlUsd : Usd) :
    let r := settleDirect f clock w loanId loan realizedPnlUsd
    r.2.isSettled = true ∨ (r.1.prime.toBook = w.prime.toBook ∧ JournalKept w.store r.1.store) := by
  intro r
  obtain ⟨hbook, -, -⟩ := commitSettle_cases f clock w loanId loan realizedPnlUsd
  have hhandled := commitSettle_handled hf hfresh loanId loan realizedPnlUsd
  simp only [r, settleDirect]
  rcases hcommit : commitSettle f clock w loanId loan realizedPnlUsd with ⟨w', attempt⟩
  rw [hcommit] at hbook hhandled
  rcases hhandled with ⟨tx, hdone⟩ | ⟨⟨reason, hfailed⟩, hkept⟩
  · rw [show attempt = .done tx from hdone]
    exact Or.inl rfl
  · rw [show attempt = .failed _ reason from hfailed]
    obtain ⟨hstore, hrolled⟩ :=
      rollbackSettle_cases f w.prime w' loan (decide (loan.asset ≠ "")) reason
    refine Or.inr ⟨?_, by rw [hstore]; exact hkept⟩
    have hinventory : w'.prime.inventory = w.prime.toBook.releaseFor loan := by
      rw [show w'.prime.toBook = _ from hbook]
      rfl
    rw [hinventory] at hrolled
    by_cases hasset : loan.asset = ""
    · -- Without an asset the pool was never touched.
      rcases hrolled with ⟨-, hrestored⟩ | ⟨hholds, -⟩ | ⟨_, hholds, -⟩
      · rw [hrestored, Book.releaseFor, if_neg (not_not.2 hasset)]
      · simp [hasset] at hholds
      · simp [hasset] at hholds
    · obtain ⟨htracked, hnonneg⟩ := hpool hasset
      have hagain := @reserve_release_eq w.prime.inventory loan.asset loan.reserved htracked
        hnonneg
      rw [Book.releaseFor, if_pos hasset] at hrolled
      rcases hrolled with ⟨hholds, -⟩ | ⟨-, hnone, -⟩ | ⟨inventory, -, hsome, hrestored⟩
      · simp [hasset] at hholds
      · rw [hagain] at hnone
        cases hnone
      · rw [hagain] at hsome
        cases hsome
        rw [hrestored]

/-! ## A dispute -/

theorem writeLedgerTransaction_ok {f : LedgerFaults} {store : Store} {tx : JournalTx}
    (h : (writeLedgerTransaction f store tx).2 = .ok) :
    JournalGains store (writeLedgerTransaction f store tx).1 tx := by
  unfold writeLedgerTransaction at h ⊢
  cases hinsert : f.insert with
  | caught =>
    rw [hinsert] at h
    cases h
  | escapes =>
    rw [hinsert] at h
    cases h
  | ok =>
    rw [hinsert] at h
    simp only at h ⊢
    split
    · rw [if_pos ‹_›] at h
      cases h
    · rw [if_neg ‹_›] at h
      split
      · exact ⟨rfl, Or.inr rfl⟩
      · rw [if_neg ‹_›] at h
        cases hdelete : f.delete with
        | ok =>
          rw [hdelete] at h
          cases h
        | caught =>
          rw [hdelete] at h
          cases h
        | escapes =>
          rw [hdelete] at h
          cases h

theorem persistCommit_done {f : Faults} {w : World} {tx tx' : JournalTx} {holds : Bool}
    {persistFailed journalFailed : PrimeReason}
    (h : (persistCommit f w tx holds persistFailed journalFailed).2 = .done tx') :
    JournalGains w.store (persistCommit f w tx holds persistFailed journalFailed).1.store tx := by
  unfold persistCommit at h ⊢
  split
  · rw [if_pos ‹_›] at h
    cases h
  · rw [if_neg ‹_›] at h
    simp only at h ⊢
    have hgains := @writeLedgerTransaction_ok f.ledger w.store tx
    rcases hledger : writeLedgerTransaction f.ledger w.store tx with ⟨store, fault⟩
    rw [hledger] at h hgains
    cases fault with
    | caught => cases h
    | escapes => cases h
    | ok =>
      obtain ⟨hjournal, hfile⟩ := hgains rfl
      -- The state history is another store.
      simp only [recordStateSnapshot] at h ⊢
      cases f.snapshot with
      | ok => cases f.event <;> exact ⟨hjournal, hfile⟩
      | caught => exact ⟨hjournal, hfile⟩
      | escapes => exact ⟨hjournal, hfile⟩

theorem rejectedPayload_trace (f : Faults) {clock : Clock} {w : World}
    (hfresh : ∀ row ∈ w.store.journal, row.transactionId ≠ clock.audit.txId) (loanId : String)
    (loan : Option Loan) (reason : PrimeReason) (realizedPnlUsd : Usd) :
    let r := rejectedPayload f clock w loanId loan reason realizedPnlUsd
    JournalKept w.store r.1.store
      ∨ JournalGains w.store r.1.store
          (settlementRejectionTransaction clock.audit loanId loan reason realizedPnlUsd "") := by
  intro r
  have hjournal := @writeLedgerTransaction_journal f.audit w.store
    (settlementRejectionTransaction clock.audit loanId loan reason realizedPnlUsd "") hfresh
  simp only [r, rejectedPayload]
  rcases hledger : writeLedgerTransaction f.audit w.store _ with ⟨store, fault⟩
  rw [hledger] at hjournal
  cases fault with
  | ok => exact hjournal
  | caught => exact hjournal
  | escapes => exact hjournal

theorem deniedPayload_trace (f : Faults)
    (hfresh : ∀ row ∈ w.store.journal, row.transactionId ≠ clock.audit.txId)
    (req : PrimeBorrowRequest) (policy : StagePolicy) (reason : PrimeReason) :
    let r := deniedPayload f clock w req policy reason
    JournalKept w.store r.1.store
      ∨ ∃ ctx notional, JournalGains w.store r.1.store
          (decisionTransaction clock.audit req ctx notional reason) := by
  intro r
  simp only [r, deniedPayload]
  split
  · rename_i ctx notional _ _
    have hjournal := @writeLedgerTransaction_journal f.audit w.store
      (decisionTransaction clock.audit req ctx notional reason) hfresh
    rcases hledger : writeLedgerTransaction f.audit w.store _ with ⟨store, fault⟩
    rw [hledger] at hjournal
    have htrace : JournalKept w.store store ∨ ∃ ctx notional, JournalGains w.store store
        (decisionTransaction clock.audit req ctx notional reason) := by
      rcases hjournal with hkept | hgains
      · exact Or.inl hkept
      · exact Or.inr ⟨ctx, notional, hgains⟩
    cases fault with
    | ok => exact htrace
    | caught => exact htrace
    | escapes => exact htrace
  · exact Or.inl (.refl w.store)

/-- What a settlement that did not go through leaves: the book as it was and at most the
audit of a rejection. -/
def RejectionTrace (clock : Clock) (loanId : String) (realizedPnlUsd : Usd) (w w' : World) : Prop :=
  w'.prime.toBook = w.prime.toBook
    ∧ (JournalKept w.store w'.store
      ∨ ∃ loan reason, JournalGains w.store w'.store
          (settlementRejectionTransaction clock.audit loanId loan reason realizedPnlUsd ""))

/-- What a dispute leaves: the loan marked disputed, and its transaction. -/
def DisputeTrace (clock : Clock) (loanId : String) (loan : Loan) (w w' : World) : Prop :=
  w'.prime.toBook
      = { w.prime.toBook with loans := w.prime.loans.set loanId (loan.dispute clock.now) }
    ∧ JournalGains w.store w'.store
        (disputeTransaction clock.tx (loan.dispute clock.now) .inventoryUntrackedOnSettlement "")

theorem disputeLoan_handled (hf : HandledFaults f) (hfresh : FreshStamps clock w.store)
    (loanId : String) (loan : Loan) (realizedPnlUsd : Usd) :
    RejectionTrace clock loanId realizedPnlUsd w
        (disputeLoan f clock w loanId loan realizedPnlUsd).1
      ∨ DisputeTrace clock loanId loan w (disputeLoan f clock w loanId loan realizedPnlUsd).1 := by
  obtain ⟨hbook, -, -⟩ := persistCommit_cases f
    ⟨{ w.prime with
        loans := w.prime.loans.set loanId (loan.dispute clock.now), updatedTsMs := clock.now },
      w.store⟩
    (disputeTransaction clock.tx (loan.dispute clock.now) .inventoryUntrackedOnSettlement "")
    false .inventoryUntrackedOnSettlement .inventoryUntrackedOnSettlement
  have hhandled := @persistCommit_handled f hf
    ⟨{ w.prime with
        loans := w.prime.loans.set loanId (loan.dispute clock.now), updatedTsMs := clock.now },
      w.store⟩
    (disputeTransaction clock.tx (loan.dispute clock.now) .inventoryUntrackedOnSettlement "")
    hfresh.tx false .inventoryUntrackedOnSettlement .inventoryUntrackedOnSettlement
  have hdone := @persistCommit_done f
    ⟨{ w.prime with
        loans := w.prime.loans.set loanId (loan.dispute clock.now), updatedTsMs := clock.now },
      w.store⟩
    (disputeTransaction clock.tx (loan.dispute clock.now) .inventoryUntrackedOnSettlement "")
  simp only [disputeLoan]
  rcases hcommit : persistCommit f _ _ false .inventoryUntrackedOnSettlement
    .inventoryUntrackedOnSettlement with ⟨w', attempt⟩
  rw [hcommit] at hbook hhandled
  rcases hhandled with ⟨tx, hattempt⟩ | ⟨⟨reason, hattempt⟩, hkept⟩
  · right
    have hgains := @hdone tx false .inventoryUntrackedOnSettlement .inventoryUntrackedOnSettlement
      (by rw [hcommit]; exact hattempt)
    rw [hcommit] at hgains
    rw [show attempt = .done tx from hattempt]
    exact ⟨hbook, hgains⟩
  · left
    rw [show attempt = .failed false reason from hattempt]
    have hjournal : w'.store.journal = w.store.journal := hkept.journal
    have htrace := @rejectedPayload_trace f clock
      { w' with prime := finishRollback f { w'.prime with loans := w.prime.loans } none }
      (by rw [hjournal]; exact hfresh.audit) loanId (some loan) .inventoryUntrackedOnSettlement
      realizedPnlUsd
    obtain ⟨hprime, -⟩ := rejectedPayload_kept f clock
      { w' with prime := finishRollback f { w'.prime with loans := w.prime.loans } none } loanId
      (some loan) .inventoryUntrackedOnSettlement realizedPnlUsd
    constructor
    · rw [hprime, finishRollback_toBook]
      show ({ w'.prime.toBook with loans := w.prime.loans } : Book) = w.prime.toBook
      rw [show w'.prime.toBook = _ from hbook]
    · rcases htrace with hkept' | hgains
      · exact Or.inl ⟨hkept'.journal.trans hjournal, hkept'.ledgerFile.trans hkept.ledgerFile⟩
      · refine Or.inr ⟨some loan, .inventoryUntrackedOnSettlement, ?_, ?_⟩
        · rw [hgains.journal]
          exact congrArg (· ++ _) hjournal
        · rw [← show w'.store.ledgerFile = w.store.ledgerFile from hkept.ledgerFile]
          exact hgains.ledgerFile

/-! ## Failed calls -/

/-- What a denied request leaves: the book as it was and at most the audit of the denial. -/
def DenialTrace (clock : Clock) (req : PrimeBorrowRequest) (w w' : World) : Prop :=
  w'.prime.toBook = w.prime.toBook
    ∧ (JournalKept w.store w'.store
      ∨ ∃ ctx notional reason, JournalGains w.store w'.store
          (decisionTransaction clock.audit req ctx notional reason))

theorem allocate_failure (hfresh : FreshStamps clock w.store) {coordinated : Bool}
    {req : PrimeBorrowRequest} {policy : StagePolicy}
    (hhandled : ∀ loan, coordinated = false → w.prime.stateReady = true →
      grantedLoan w.prime.toBook req policy clock = some loan → HandledFaults f)
    (hfail : (allocate coordinated f clock w req policy).2.isGranted = false) :
    DenialTrace clock req w (allocate coordinated f clock w req policy).1 := by
  have hpath := allocate_path coordinated f clock w req policy
  generalize allocate coordinated f clock w req policy = result at hpath hfail
  cases hpath with
  | denied reason _ =>
    obtain ⟨-, hprime, -⟩ := deniedPayload_kept f clock w req policy reason
    refine ⟨by rw [hprime], ?_⟩
    rcases deniedPayload_trace f hfresh.audit req policy reason with
      hkept | ⟨ctx, notional, hgains⟩
    · exact Or.inl hkept
    · exact Or.inr ⟨ctx, notional, reason, hgains⟩
  | unreadable _ => exact ⟨rfl, Or.inl (.refl w.store)⟩
  | unprepared _ _ _ _ _ => exact ⟨rfl, Or.inl (.refl w.store)⟩
  | uncommitted _ _ _ _ _ _ _ _ _ => exact ⟨rfl, Or.inl (.refl w.store)⟩
  | committed _ _ _ _ _ _ _ => cases hfail
  | direct loan transition isDirect ready grant _ =>
    rcases allocateDirect_handled (hhandled loan isDirect ready grant) hfresh policy
      (grantedLoan_tracked grant) with hgranted | ⟨hbook, hkept⟩
    · rw [hgranted] at hfail
      cases hfail
    · exact ⟨hbook, Or.inl hkept⟩

theorem settle_failure (hfresh : FreshStamps clock w.store) {loanId : String} {realizedPnlUsd : Usd}
    (hsettling : ∀ loan, w.prime.settlingLoan loanId = some loan →
      HandledFaults f ∧ 0 ≤ w.prime.inventory.getD loan.asset 0)
    (huntracked : ∀ loan, FindsUntracked w.prime loanId loan → HandledFaults f)
    (hfail : (settle f clock w loanId realizedPnlUsd).2.isSettled = false) :
    RejectionTrace clock loanId realizedPnlUsd w (settle f clock w loanId realizedPnlUsd).1
      ∨ ∃ loan, FindsUntracked w.prime loanId loan
        ∧ DisputeTrace clock loanId loan w (settle f clock w loanId realizedPnlUsd).1 := by
  have hpath := settle_path f clock w loanId realizedPnlUsd
  generalize settle f clock w loanId realizedPnlUsd = result at hpath hfail
  cases hpath with
  | rejected loan reason _ _ _ =>
    obtain ⟨hprime, -⟩ := rejectedPayload_kept f clock w loanId loan reason realizedPnlUsd
    refine Or.inl ⟨by rw [hprime], ?_⟩
    rcases rejectedPayload_trace f hfresh.audit loanId loan reason realizedPnlUsd with
      hkept | hgains
    · exact Or.inl hkept
    · exact Or.inr ⟨loan, reason, hgains⟩
  | disputed loan _ finds =>
    rcases disputeLoan_handled (huntracked loan finds) hfresh loanId loan realizedPnlUsd
      with hrejected | hdisputed
    · exact Or.inl hrejected
    · exact Or.inr ⟨loan, finds, hdisputed⟩
  | direct loan settling =>
    obtain ⟨-, -, -, tracked, -⟩ := settlingLoan_eq_some_iff.1 settling
    obtain ⟨hf, hnonneg⟩ := hsettling loan settling
    have hpool : PoolCovers w loan := by
      intro hasset
      exact ⟨tracked.resolve_left hasset, hnonneg⟩
    rcases settleDirect_handled hf hfresh hpool realizedPnlUsd with hsettled | ⟨hbook, hkept⟩
    · rw [hsettled] at hfail
      cases hfail
    · exact Or.inl ⟨hbook, Or.inl hkept⟩

/-- **What a failed call leaves.** An allocate that grants nothing leaves the book as it was
and at most its audit in the journal; so does a settle, unless it disputes the loan. -/
theorem failure_restores (f : Faults) (clock : Clock) (w : World)
    (hfresh : FreshStamps clock w.store) :
    (∀ coordinated req policy,
        (∀ loan, coordinated = false → w.prime.stateReady = true →
          grantedLoan w.prime.toBook req policy clock = some loan → HandledFaults f) →
        (allocate coordinated f clock w req policy).2.isGranted = false →
        DenialTrace clock req w (allocate coordinated f clock w req policy).1)
      ∧ ∀ loanId realizedPnlUsd,
        (∀ loan, w.prime.settlingLoan loanId = some loan →
          HandledFaults f ∧ 0 ≤ w.prime.inventory.getD loan.asset 0) →
        (∀ loan, FindsUntracked w.prime loanId loan → HandledFaults f) →
        (settle f clock w loanId realizedPnlUsd).2.isSettled = false →
        RejectionTrace clock loanId realizedPnlUsd w (settle f clock w loanId realizedPnlUsd).1
          ∨ ∃ loan, FindsUntracked w.prime loanId loan
            ∧ DisputeTrace clock loanId loan w (settle f clock w loanId realizedPnlUsd).1 :=
  ⟨fun _ _ _ hhandled hfail => allocate_failure hfresh hhandled hfail,
    fun _ _ hsettling huntracked hfail => settle_failure hfresh hsettling huntracked hfail⟩

def journalDown : Faults := { Faults.none with ledger := ⟨.caught, .ok, true, .ok⟩ }

/-- A loan of ten dollars whose journal write fails. -/
theorem failure_restores_journalDown :
    DenialTrace (smallClock 1 "t1") (smallRequest "l1" 10) smallWorld
        (allocate false journalDown (smallClock 1 "t1") smallWorld (smallRequest "l1" 10)
          smallPolicy).1
      ∧ (RejectionTrace (smallClock 1 "t1") "l1" 0 smallWorld
          (settle journalDown (smallClock 1 "t1") smallWorld "l1" 0).1
        ∨ ∃ loan, FindsUntracked smallWorld.prime "l1" loan
          ∧ DisputeTrace (smallClock 1 "t1") "l1" loan smallWorld
              (settle journalDown (smallClock 1 "t1") smallWorld "l1" 0).1) := by
  have hhandled : HandledFaults journalDown := by
    constructor <;> decide
  have hfresh : FreshStamps (smallClock 1 "t1") smallWorld.store := by
    constructor
    · intro row hrow
      cases hrow
    · intro row hrow
      cases hrow
  obtain ⟨hallocate, hsettle⟩ := failure_restores journalDown (smallClock 1 "t1") smallWorld hfresh
  constructor
  · exact hallocate false (smallRequest "l1" 10) smallPolicy (fun _ _ _ _ => hhandled)
      (by decide +kernel)
  · refine hsettle "l1" 0 ?_ (fun _ _ => hhandled) (by decide +kernel)
    intro loan hloan
    cases hloan

/-- A request beyond the capacity is denied, and the denial is in the journal. -/
theorem denial_is_journaled :
    (allocate false .none (smallClock 1 "t1") smallWorld (smallRequest "l1" 5000)
        smallPolicy).2.isGranted = false
      ∧ (allocate false .none (smallClock 1 "t1") smallWorld (smallRequest "l1" 5000)
        smallPolicy).1.store.journal ≠ smallWorld.store.journal := by
  decide +kernel

end SovereignCapital.Prime
