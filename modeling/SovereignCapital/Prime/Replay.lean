import SovereignCapital.Lib.KeyedReplay
import SovereignCapital.Prime.Conservation
import SovereignCapital.Prime.Faultless
import SovereignCapital.Prime.Reconciliation

/-! # The journal replays the book

The journal a run writes, replayed in any order it is handed over in, gives the active loans
of the book back, and the reconciliation with the saved snapshot is ok: as long as the loans
are of positive whole cents, no id is reused while active or empty, and the transactions of
one loan are ordered by time stamp and id as they were written.
-/

namespace SovereignCapital.Prime

open Decimal Runs KeyedReplay

/-! ## The replay, loan by loan -/

def loanKey (tx : JournalTx) : Option String :=
  if tx.txType = .loanRejected then none else some (normalizedMetadata tx.metadata).loanId

def loanStep (current : Option ReconLoan) (tx : JournalTx) : Option ReconLoan :=
  let normalized := normalizedMetadata tx.metadata
  if normalized.loanId = "" then current
  else
    match tx.txType, current with
    | .loanOpen, none => some { normalized with status := .opened }
    | .loanDisputed, some found =>
      some { normalized with loanId := found.loanId, status := .disputed }
    | .loanSettlement, some _ => none
    | .loanSettlementRejected, some found => some { normalized with loanId := found.loanId }
    | _, current => current

/-- The transaction meets the entry it is made for, so that nothing is counted. -/
def Fits (current : Option ReconLoan) (tx : JournalTx) : Prop :=
  (normalizedMetadata tx.metadata).loanId ≠ ""
    ∧ match tx.txType with
      | .loanOpen => current = none
      | .loanDisputed => current ≠ none
      | .loanSettlement => current ≠ none
      | _ => True

theorem replayTx_local (r : Replay) (tx : JournalTx) (loanId : String) :
    (replayTx r tx).active.get? loanId
      = if loanKey tx = some loanId then loanStep (r.active.get? loanId) tx
        else r.active.get? loanId := by
  unfold replayTx loanKey
  by_cases hrejected : tx.txType = .loanRejected
  · simp [hrejected]
  · simp only [if_neg hrejected, Option.some.injEq]
    by_cases hempty : (normalizedMetadata tx.metadata).loanId = ""
    · rw [if_pos hempty]
      split <;> simp [loanStep, hempty]
    · rw [if_neg hempty]
      by_cases hid : (normalizedMetadata tx.metadata).loanId = loanId
      · rw [if_pos hid]
        cases htype : tx.txType with
        | loanRejected => exact absurd htype hrejected
        | loanOpen =>
          cases hget : r.active.get? loanId <;> simp [loanStep, hid ▸ hempty, hid, hget, htype]
        | loanSettlement =>
          cases hget : r.active.get? loanId <;>
            simp [loanStep, hid ▸ hempty, hid, hget, htype, Dict.get?_erase]
        | loanSettlementRejected =>
          cases hget : r.active.get? loanId <;> simp [loanStep, hid ▸ hempty, hid, hget, htype]
        | loanDisputed =>
          cases hget : r.active.get? loanId <;> simp [loanStep, hid ▸ hempty, hid, hget, htype]
      · -- The entry of another loan.
        rw [if_neg hid]
        have hne := Ne.symm hid
        cases htype : tx.txType with
        | loanRejected => exact absurd htype hrejected
        | loanOpen =>
          cases r.active.get? (normalizedMetadata tx.metadata).loanId <;>
            simp [Dict.get?_set_of_ne _ _ hne]
        | loanSettlement =>
          cases r.active.get? (normalizedMetadata tx.metadata).loanId <;>
            simp [Dict.get?_erase, hne]
        | loanSettlementRejected =>
          cases r.active.get? (normalizedMetadata tx.metadata).loanId <;>
            simp [Dict.get?_set_of_ne _ _ hne]
        | loanDisputed =>
          cases r.active.get? (normalizedMetadata tx.metadata).loanId <;>
            simp [Dict.get?_set_of_ne _ _ hne]

theorem replayTx_idle (r : Replay) (tx : JournalTx) (h : loanKey tx = none) :
    (replayTx r tx).counts = r.counts := by
  unfold loanKey at h
  unfold replayTx
  split at h
  · rename_i hrejected
    rw [if_pos hrejected]
  · cases h

theorem replayTx_fits (r : Replay) (tx : JournalTx) (loanId : String)
    (hkey : loanKey tx = some loanId) (hfits : Fits (r.active.get? loanId) tx) :
    (replayTx r tx).counts = r.counts := by
  obtain ⟨hnonempty, hentry⟩ := hfits
  unfold loanKey at hkey
  split at hkey
  · cases hkey
  · rename_i hrejected
    cases hkey
    unfold replayTx
    simp only [if_neg hrejected, if_neg hnonempty]
    cases htype : tx.txType with
    | loanRejected => exact absurd htype hrejected
    | loanOpen =>
      rw [htype] at hentry
      rw [show r.active.get? (normalizedMetadata tx.metadata).loanId = none from hentry]
    | loanDisputed =>
      rw [htype] at hentry
      obtain ⟨found, hfound⟩ := Option.ne_none_iff_exists'.1 hentry
      rw [hfound]
    | loanSettlement =>
      rw [htype] at hentry
      obtain ⟨found, hfound⟩ := Option.ne_none_iff_exists'.1 hentry
      rw [hfound]
    | loanSettlementRejected =>
      cases r.active.get? (normalizedMetadata tx.metadata).loanId <;> rfl

/-! ## The order of the replay -/

/-- The order of the replay on transactions, without positions. -/
def txLe (a b : JournalTx) : Prop :=
  a.tsMs < b.tsMs ∨ (a.tsMs = b.tsMs ∧ pyLe a.transactionId b.transactionId = true)

theorem txLe_of_journalLe {a b : JournalTx × Nat} (h : journalLe a b = true) : txLe a.1 b.1 := by
  simp only [journalLe, Bool.or_eq_true, Bool.and_eq_true, decide_eq_true_eq] at h
  rcases h with hlt | ⟨heq, hid⟩
  · exact Or.inl hlt
  · refine Or.inr ⟨heq, ?_⟩
    split at hid
    · rename_i hsame
      rw [hsame]
      exact Bytes.textLe_refl _
    · exact hid

theorem journalLe_total (a b : JournalTx × Nat) : (journalLe a b || journalLe b a) = true := by
  simp only [journalLe, Bool.or_eq_true, Bool.and_eq_true, decide_eq_true_eq]
  rcases lt_trichotomy a.1.tsMs b.1.tsMs with hlt | heq | hgt
  · exact Or.inl (Or.inl hlt)
  · by_cases hid : a.1.transactionId = b.1.transactionId
    · rcases Nat.le_total a.2 b.2 with hle | hle
      · exact Or.inl (Or.inr ⟨heq, by simp [hid, hle]⟩)
      · exact Or.inr (Or.inr ⟨heq.symm, by simp [hid, hle]⟩)
    · rcases Bytes.textLe_total a.1.transactionId.toList b.1.transactionId.toList with hle | hle
      · exact Or.inl (Or.inr ⟨heq, by rw [if_neg hid]; exact hle⟩)
      · exact Or.inr (Or.inr ⟨heq.symm, by rw [if_neg (Ne.symm hid)]; exact hle⟩)
  · exact Or.inr (Or.inl hgt)

theorem pyLe_antisymm {a b : String} (hab : pyLe a b = true) (hba : pyLe b a = true) : a = b :=
  String.toList_injective (Bytes.textLe_antisymm hab hba)

theorem journalLe_trans (a b c : JournalTx × Nat) (hab : journalLe a b = true)
    (hbc : journalLe b c = true) : journalLe a c = true := by
  simp only [journalLe, Bool.or_eq_true, Bool.and_eq_true, decide_eq_true_eq] at hab hbc ⊢
  rcases hab with hab | ⟨habTs, hab⟩
  · rcases hbc with hbc | ⟨hbcTs, -⟩
    · exact Or.inl (by omega)
    · exact Or.inl (by omega)
  · rcases hbc with hbc | ⟨hbcTs, hbc⟩
    · exact Or.inl (by omega)
    · refine Or.inr ⟨by omega, ?_⟩
      by_cases hab' : a.1.transactionId = b.1.transactionId
      · rw [if_pos hab', decide_eq_true_eq] at hab
        rw [hab']
        by_cases hbc' : b.1.transactionId = c.1.transactionId
        · rw [if_pos hbc', decide_eq_true_eq] at hbc
          rw [if_pos hbc', decide_eq_true_eq]
          omega
        · rw [if_neg hbc'] at hbc ⊢
          exact hbc
      · rw [if_neg hab'] at hab
        by_cases hbc' : b.1.transactionId = c.1.transactionId
        · rw [← hbc', if_neg hab']
          exact hab
        · rw [if_neg hbc'] at hbc
          have hac : pyLe a.1.transactionId c.1.transactionId = true := Bytes.textLe_trans hab hbc
          have hne : a.1.transactionId ≠ c.1.transactionId := by
            intro hsame
            rw [hsame] at hab
            exact hbc' (pyLe_antisymm hbc hab)
          rw [if_neg hne]
          exact hac

theorem journalSorted_perm (txs : List JournalTx) : (journalSorted txs).Perm txs := by
  have hperm := (List.mergeSort_perm txs.zipIdx journalLe).map Prod.fst
  rwa [List.zipIdx_map_fst] at hperm

theorem journalSorted_pairwise (txs : List JournalTx) : (journalSorted txs).Pairwise txLe := by
  have hsorted := List.pairwise_mergeSort journalLe_trans journalLe_total txs.zipIdx
  unfold journalSorted
  rw [List.pairwise_map]
  exact hsorted.imp fun h => txLe_of_journalLe h

/-! ## A journal that replays the loans -/

/-- The entry of a loan after the transactions were replayed as they were written. -/
def entryOf (journal : List JournalTx) (loanId : String) : Option ReconLoan :=
  (eventsOf loanKey loanId journal).foldl loanStep none

/-- The entry a loan should have: its row when it is active. -/
def activeEntry (loans : Dict String Loan) (loanId : String) : Option ReconLoan :=
  ((loans.get? loanId).filter Loan.active).map fun loan => normalizedLoan loan loan.status

/-- The replay puts the first transaction before the second one. -/
def TxBefore (a b : JournalTx) : Prop := txLe a b ∧ ¬ txLe b a

/-- Replayed as it was written, the journal gives the active loans and counts nothing; and
the transactions of one loan stand in the order of the replay. -/
structure JournalReplays (journal : List JournalTx) (loans : Dict String Loan) : Prop where
  entries : ∀ loanId, entryOf journal loanId = activeEntry loans loanId
  clean : ∀ loanId, Clean loanStep Fits none (eventsOf loanKey loanId journal)
  ordered : ∀ loanId, (eventsOf loanKey loanId journal).Pairwise TxBefore

theorem JournalReplays.empty : JournalReplays [] Dict.empty :=
  ⟨fun _ => rfl, fun _ => trivial, fun _ => List.Pairwise.nil⟩

variable {journal : List JournalTx} {loans : Dict String Loan} {tx : JournalTx} {loanId : String}
  {loan : Loan} {b : Book} {req : PrimeBorrowRequest} {policy : StagePolicy} {stamp : Stamp}

/-- A transaction about no loan changes nothing. -/
theorem JournalReplays.idle (h : JournalReplays journal loans) (hkey : loanKey tx = none) :
    JournalReplays (journal ++ [tx]) loans := by
  have hevents : ∀ loanId, eventsOf loanKey loanId (journal ++ [tx])
      = eventsOf loanKey loanId journal := by
    intro loanId
    rw [eventsOf_append, eventsOf_cons_of_ne (by simp [hkey])]
    exact List.append_nil _
  refine ⟨fun loanId => ?_, fun loanId => ?_, fun loanId => ?_⟩
  · rw [entryOf, hevents]
    exact h.entries loanId
  · rw [hevents]
    exact h.clean loanId
  · rw [hevents]
    exact h.ordered loanId

theorem JournalReplays.add {loans' : Dict String Loan} (h : JournalReplays journal loans)
    (hkey : loanKey tx = some loanId) (hfits : Fits (activeEntry loans loanId) tx)
    (hafter : ∀ row ∈ journal, loanKey row = some loanId → TxBefore row tx)
    (hrest : ∀ other, other ≠ loanId → loans'.get? other = loans.get? other)
    (hentry : loanStep (activeEntry loans loanId) tx = activeEntry loans' loanId) :
    JournalReplays (journal ++ [tx]) loans' := by
  have hself : eventsOf loanKey loanId (journal ++ [tx])
      = eventsOf loanKey loanId journal ++ [tx] := by
    rw [eventsOf_append, eventsOf_cons_self hkey]
    rfl
  have hother : ∀ other, other ≠ loanId → eventsOf loanKey other (journal ++ [tx])
      = eventsOf loanKey other journal := by
    intro other hne
    rw [eventsOf_append, eventsOf_cons_of_ne (by simpa [hkey] using hne.symm)]
    exact List.append_nil _
  refine ⟨fun other => ?_, fun other => ?_, fun other => ?_⟩
  · by_cases hne : other = loanId
    · have hbefore := h.entries loanId
      rw [entryOf] at hbefore
      rw [hne, entryOf, hself, List.foldl_append, hbefore]
      exact hentry
    · rw [entryOf, hother other hne, activeEntry, hrest other hne]
      exact h.entries other
  · by_cases hne : other = loanId
    · have hbefore := h.entries loanId
      rw [entryOf] at hbefore
      rw [hne, hself, clean_append, hbefore]
      exact ⟨h.clean loanId, hfits, trivial⟩
    · rw [hother other hne]
      exact h.clean other
  · by_cases hne : other = loanId
    · rw [hne, hself, List.pairwise_append]
      refine ⟨h.ordered loanId, List.pairwise_singleton _ _, ?_⟩
      intro row hrow last hlast
      rw [List.mem_singleton.1 hlast]
      obtain ⟨hmem, hrowKey⟩ := mem_eventsOf.1 hrow
      exact hafter row hmem hrowKey
    · rw [hother other hne]
      exact h.ordered other

/-- **Handed over in any order, the journal replays to the active loans and counts
nothing.** -/
theorem JournalReplays.handed_over {txs : List JournalTx} (h : JournalReplays journal loans)
    (hperm : txs.Perm journal) :
    (∀ loanId, (journalActivePrimeLoans txs).active.get? loanId = activeEntry loans loanId)
      ∧ (journalActivePrimeLoans txs).counts = ⟨0, 0, 0, 0⟩ := by
  have hevents : ∀ loanId, eventsOf loanKey loanId (journalSorted txs)
      = eventsOf loanKey loanId journal := by
    intro loanId
    exact eventsOf_eq_of_sorted ((journalSorted_perm txs).trans hperm) (journalSorted_pairwise txs)
      (h.ordered loanId)
  have hempty : ∀ loanId, Replay.empty.active.get? loanId = none := fun _ => rfl
  constructor
  · intro loanId
    have hentry := @replay_entry Replay JournalTx String ReconLoan _
      (fun r k => r.active.get? k) replayTx loanKey loanStep replayTx_local .empty
      (journalSorted txs) loanId
    rw [journalActivePrimeLoans, hentry, hevents, hempty]
    exact h.entries loanId
  · have hcounts := @replay_preserves Replay JournalTx String ReconLoan _
      (fun r k => r.active.get? k) replayTx loanKey loanStep Fits JournalCounts Replay.counts
      replayTx_local replayTx_idle replayTx_fits .empty (journalSorted txs)
      (fun loanId => by rw [hevents, hempty]; exact h.clean loanId)
    rw [journalActivePrimeLoans, hcounts]
    rfl

/-! ## Loans the journal can hold -/

/-- A loan of positive whole cents under its own id, whose numbers the journal takes as they
are. -/
structure ReconSound (loanId : String) (loan : Loan) : Prop where
  id_eq : loan.loanId = loanId
  id_ne : loanId ≠ ""
  positive : 0 < loan.notionalUsd
  cents : Dec 2 loan.notionalUsd
  reserved_eq : loan.reserved = loan.collateralReservedUsd
  collateral : Dec 8 loan.collateralReservedUsd
  ratio_ne : loan.collateralRatio ≠ 0
  efficiency_ne : loan.collateralEfficiency ≠ 0

theorem ReconSound.settle (h : ReconSound loanId loan) (now : Int) :
    ReconSound loanId (loan.settle now) :=
  ⟨h.id_eq, h.id_ne, h.positive, h.cents, h.reserved_eq, h.collateral, h.ratio_ne, h.efficiency_ne⟩

theorem ReconSound.dispute (h : ReconSound loanId loan) (now : Int) :
    ReconSound loanId (loan.dispute now) :=
  ⟨h.id_eq, h.id_ne, h.positive, h.cents, h.reserved_eq, h.collateral, h.ratio_ne, h.efficiency_ne⟩

theorem normalizedMetadata_loan (h : ReconSound loanId loan) (realizedPnlUsd : Usd)
    (reason : Option PrimeReason) :
    normalizedMetadata (.loan (loanMetadata loan realizedPnlUsd reason))
      = normalizedLoan loan loan.status := by
  simp only [normalizedMetadata, loanMetadata, normalizedLoan, h.reserved_eq,
    pyOr_of_ne 1 h.ratio_ne, pyOr_of_ne 1 h.efficiency_ne, Option.getD_some]

theorem pyOr_one_ne_zero (x : ℚ) : pyOr x 1 ≠ 0 := by
  intro h
  exact one_ne_zero (pyOr_eq_zero_iff.1 h).2

/-- The required collateral of positive whole cents is positive. -/
theorem requiredCollateralUsd_pos {notional : ℚ} (hpos : 0 < notional) (hcents : Dec 2 notional)
    (policy : StagePolicy) : 0 < (collateralPolicy notional policy).requiredCollateralUsd := by
  have hratio := one_le_collateralRatio policy
  have hcent := hcents.one_le_of_pos hpos
  have hproduct : (1 : ℚ) / 10 ^ 2 ≤ max 0 notional * collateralRatio policy := by
    rw [max_eq_right hpos.le]
    nlinarith
  have hround := (Dec.of_le (by norm_num : 2 ≤ 8) (⟨1, by norm_num⟩ : Dec 2 (1 / 10 ^ 2))).le_pyRound
    hproduct
  exact lt_of_lt_of_le (by norm_num) hround

theorem grantedLoan_reconSound {clock : Clock} (h : grantedLoan b req policy clock = some loan)
    (hpos : 0 < loan.notionalUsd) (hcents : Dec 2 loan.notionalUsd) :
    ReconSound loan.loanId loan := by
  have hsound := grantedLoan_sound h
  obtain ⟨notional, ctx, cost, -, happroved, rfl⟩ := grantedLoan_eq_some h
  have hcollateral : ctx.collateral = collateralPolicy notional policy := happroved.context_eq.1
  have hrequired : 0 < (collateralPolicy notional policy).requiredCollateralUsd :=
    requiredCollateralUsd_pos hpos hcents policy
  refine ⟨rfl, ?_, hpos, hcents, hsound.reserved_eq, ?_, pyOr_one_ne_zero _, pyOr_one_ne_zero _⟩
  · show (if req.requestId = "" then "loan_" ++ clock.freshId else req.requestId) ≠ ""
    split
    · intro hempty
      have hlength := congrArg String.length hempty
      simp at hlength
    · assumption
  · show Dec 8 (pyOr ctx.collateral.requiredCollateralUsd notional)
    rw [hcollateral, pyOr_of_ne _ hrequired.ne']
    exact dec_requiredCollateralUsd notional policy

theorem grantedLoan_opened {clock : Clock} (h : grantedLoan b req policy clock = some loan) :
    loan.status = .opened := by
  obtain ⟨notional, ctx, cost, -, -, rfl⟩ := grantedLoan_eq_some h
  rfl

/-! ## Sums of positive loans -/

theorem activeSum_nonneg {p : Loan → Bool} {loans : Dict String Loan}
    (h : ∀ loanId loan, loans.get? loanId = some loan → 0 ≤ loan.notionalUsd) :
    0 ≤ Dict.sumBy (activeAmount p Loan.notionalUsd) loans := by
  apply List.sum_nonneg
  intro x hx
  obtain ⟨⟨loanId, loan⟩, hmem, rfl⟩ := List.mem_map.1 hx
  have hloan := h loanId loan ((Dict.mem_entries_iff loans).1 hmem)
  simp only [activeAmount]
  split
  · exact hloan
  · exact le_refl 0

theorem covered_of_positive (hbooks : BooksAgree b)
    (hloans : ∀ loanId loan, b.loans.get? loanId = some loan → 0 ≤ loan.notionalUsd)
    (hfound : b.loans.get? loanId = some loan) (hactive : loan.active = true) : Covered b loan := by
  have hrest : ∀ id found, (b.loans.set loanId (loan.settle 0)).get? id = some found →
      0 ≤ found.notionalUsd := by
    intro id found hget
    rw [Dict.get?_set] at hget
    split at hget
    · cases hget
      exact hloans loanId loan hfound
    · exact hloans id found hget
  have hsum : ∀ p, Dict.sumBy (activeAmount p Loan.notionalUsd) b.loans
      = Dict.sumBy (activeAmount p Loan.notionalUsd) (b.loans.set loanId (loan.settle 0))
        + if p loan then loan.notionalUsd else 0 := by
    intro p
    rw [activeSum_settle hfound hactive, sub_add_cancel]
  constructor
  · have htotal := hsum fun _ => true
    have hnonneg := @activeSum_nonneg (fun _ => true) _ hrest
    rw [hbooks.total, activeTotal, htotal, if_pos rfl]
    linarith
  · have hfamily := hsum fun found => found.family == loan.family
    have hnonneg := @activeSum_nonneg (fun found => found.family == loan.family) _ hrest
    rw [hbooks.families, activeFamilyTotal, hfamily, if_pos (by simp)]
    linarith

/-! ## Calls -/

/-- A call in which no persistence fails; the pool may be reloaded between calls. -/
inductive ReconCall where
  | allocate (coordinated : Bool) (clock : Clock) (req : PrimeBorrowRequest) (policy : StagePolicy)
  | settle (clock : Clock) (loanId : String) (realizedPnlUsd : Usd)
  | reload (inventory : Inventory)

def ReconCall.toBookCall : ReconCall → BookCall
  | .allocate coordinated clock req policy => .allocate coordinated .none clock req policy
  | .settle clock loanId pnl => .settle .none clock loanId pnl
  | .reload inventory => .seed inventory

def reconStep (w : World) (call : ReconCall) : World := bookStep w call.toBookCall

/-- The journal has no transaction of the loan that the replay would put after the stamp. -/
def StampAfter (journal : List JournalTx) (loanId : String) (stamp : Stamp) : Prop :=
  ∀ row ∈ journal, loanKey row = some loanId →
    row.tsMs < stamp.tsMs
      ∨ (row.tsMs = stamp.tsMs ∧ pyLe row.transactionId stamp.txId = true
        ∧ row.transactionId ≠ stamp.txId)

/-- The call does not meet a trap of the replay. -/
def ReconOk (w : World) : ReconCall → Prop
  | .allocate _ clock req policy =>
    ∀ loan, grantedLoan w.prime.toBook req policy clock = some loan →
      (0 < loan.notionalUsd ∧ Dec 2 loan.notionalUsd)
        ∧ (∀ old, w.prime.loans.get? loan.loanId = some old → old.active = false)
        ∧ StampAfter w.store.journal loan.loanId clock.tx
  | .settle clock loanId _ =>
    loanId ≠ "" ∧ StampAfter w.store.journal loanId clock.tx
      ∧ StampAfter w.store.journal loanId clock.audit
  | .reload _ => True

theorem txBefore_of_stampAfter (h : StampAfter journal loanId stamp)
    (hid : tx.transactionId = stamp.txId) (hts : tx.tsMs = stamp.tsMs) :
    ∀ row ∈ journal, loanKey row = some loanId → TxBefore row tx := by
  intro row hrow hkey
  unfold TxBefore txLe
  rw [hid, hts]
  rcases h row hrow hkey with hlt | ⟨heq, hle, hne⟩
  · refine ⟨Or.inl hlt, ?_⟩
    rintro (h' | ⟨h', -⟩)
    · omega
    · omega
  · refine ⟨Or.inr ⟨heq, hle⟩, ?_⟩
    rintro (h' | ⟨-, h'⟩)
    · omega
    · exact hne (pyLe_antisymm hle h')

/-- The last snapshot has the loans of the memory; before the first one there are none. -/
def SavedLast (w : World) : Prop :=
  (w.store.snapshots = [] ∧ w.prime.loans = Dict.empty)
    ∨ ∃ raw, w.store.snapshots.getLast? = some (stateSnapshotPayloadFromRaw raw)
        ∧ raw.loans = w.prime.loans

structure Replayed (w : World) : Prop where
  ready : w.prime.stateReady = true
  loans : ∀ loanId loan, w.prime.loans.get? loanId = some loan → ReconSound loanId loan
  journal : JournalReplays w.store.journal w.prime.loans
  saved : SavedLast w

/-- What every call of a run keeps. -/
structure ReplayInv (w : World) : Prop extends Replayed w where
  books : BooksInv w

theorem Replayed.loans_set {w : World} (h : Replayed w) (hloan : ReconSound loanId loan) :
    ∀ id found, (w.prime.loans.set loanId loan).get? id = some found → ReconSound id found := by
  intro id found hget
  rw [Dict.get?_set] at hget
  split at hget
  · rename_i hid
    cases hget
    exact hid ▸ hloan
  · exact h.loans id found hget

theorem cents_of_sound (h : ∀ loanId loan, loans.get? loanId = some loan → ReconSound loanId loan) :
    Cents loans := by
  apply cents_of_notionals
  intro loan hloan
  obtain ⟨loanId, hget⟩ := (Dict.mem_values_iff loans).1 hloan
  exact (h loanId loan hget).cents

theorem ReplayInv.booksOk {w : World} (h : ReplayInv w) {call : ReconCall} (hok : ReconOk w call) :
    BooksOk w call.toBookCall := by
  cases call with
  | allocate coordinated clock req policy =>
    intro loan hgrant
    obtain ⟨⟨hpos, hcents⟩, hfree, -⟩ := hok loan hgrant
    exact ⟨hfree, fun _ _ => cents_of_sound
      (h.loans_set (grantedLoan_reconSound hgrant hpos hcents))⟩
  | settle clock loanId pnl =>
    intro loan hsettling
    obtain ⟨hfound, -, hactive, -, -⟩ := settlingLoan_eq_some_iff.1 hsettling
    exact covered_of_positive h.books.book
      (fun id found hget => (h.loans id found hget).positive.le) hfound hactive
  | reload inventory => trivial

/-! ### Entries of changed loans -/

theorem activeEntry_of_inactive (h : ∀ old, loans.get? loanId = some old → old.active = false) :
    activeEntry loans loanId = none := by
  unfold activeEntry
  cases hget : loans.get? loanId with
  | none => rfl
  | some old => simp [Option.filter, h old hget]

theorem activeEntry_of_active (hfound : loans.get? loanId = some loan)
    (hactive : loan.active = true) :
    activeEntry loans loanId = some (normalizedLoan loan loan.status) := by
  simp [activeEntry, hfound, Option.filter, hactive]

theorem JournalReplays.opened (h : JournalReplays journal loans)
    (hsound : ReconSound loan.loanId loan) (hopened : loan.status = .opened)
    (hfree : ∀ old, loans.get? loan.loanId = some old → old.active = false)
    (hafter : StampAfter journal loan.loanId stamp) :
    JournalReplays (journal ++ [openTransaction stamp loan]) (loans.set loan.loanId loan) := by
  have hentry := activeEntry_of_inactive hfree
  have hmetadata := normalizedMetadata_loan hsound 0 none
  have hactive : loan.active = true := by
    rw [Loan.active, hopened]
    rfl
  have hkey : loanKey (openTransaction stamp loan) = some loan.loanId := rfl
  refine h.add hkey ⟨hsound.id_ne, hentry⟩ (txBefore_of_stampAfter hafter rfl rfl)
    (fun other hne => Dict.get?_set_of_ne loans loan hne) ?_
  rw [hentry, activeEntry_of_active (Dict.get?_set_self loans loan.loanId loan) hactive]
  simp only [loanStep, openTransaction, hmetadata]
  rw [if_neg (show (normalizedLoan loan loan.status).loanId ≠ "" from hsound.id_ne), hopened]
  rfl

theorem JournalReplays.settled (h : JournalReplays journal loans) (hsound : ReconSound loanId loan)
    (hfound : loans.get? loanId = some loan) (hactive : loan.active = true)
    (hafter : StampAfter journal loanId stamp) (now : Int) (realizedPnlUsd : Usd)
    (receiptId : String) :
    JournalReplays
      (journal ++ [settlementTransaction stamp (loan.settle now) realizedPnlUsd receiptId])
      (loans.set loanId (loan.settle now)) := by
  have hentry := activeEntry_of_active hfound hactive
  have hkey : loanKey (settlementTransaction stamp (loan.settle now) realizedPnlUsd receiptId)
      = some loanId := by
    show some (loan.settle now).loanId = some loanId
    rw [(hsound.settle now).id_eq]
  have hne : (normalizedMetadata (settlementTransaction stamp (loan.settle now) realizedPnlUsd
      receiptId).metadata).loanId ≠ "" := by
    show (loan.settle now).loanId ≠ ""
    rw [(hsound.settle now).id_eq]
    exact hsound.id_ne
  refine h.add hkey ⟨hne, ?_⟩ (txBefore_of_stampAfter hafter rfl rfl)
    (fun other hother => Dict.get?_set_of_ne loans _ hother) ?_
  · rw [hentry]
    exact Option.some_ne_none _
  · have hgone : activeEntry (loans.set loanId (loan.settle now)) loanId = none := by
      apply activeEntry_of_inactive
      intro old hold
      rw [Dict.get?_set_self] at hold
      cases hold
      rfl
    rw [hentry, hgone]
    unfold loanStep
    simp only [if_neg hne]
    rfl

theorem JournalReplays.disputed (h : JournalReplays journal loans) (hsound : ReconSound loanId loan)
    (hfound : loans.get? loanId = some loan) (hactive : loan.active = true)
    (hafter : StampAfter journal loanId stamp) (now : Int) (reason : PrimeReason)
    (receiptId : String) :
    JournalReplays (journal ++ [disputeTransaction stamp (loan.dispute now) reason receiptId])
      (loans.set loanId (loan.dispute now)) := by
  have hentry := activeEntry_of_active hfound hactive
  have hid : (loan.dispute now).loanId = loanId := (hsound.dispute now).id_eq
  have hmetadata : normalizedMetadata (disputeTransaction stamp (loan.dispute now) reason
      receiptId).metadata = normalizedLoan (loan.dispute now) (loan.dispute now).status :=
    normalizedMetadata_loan (hsound.dispute now) 0 (some reason)
  have hkey : loanKey (disputeTransaction stamp (loan.dispute now) reason receiptId)
      = some loanId := by
    show some (loan.dispute now).loanId = some loanId
    rw [hid]
  have hne : (normalizedMetadata (disputeTransaction stamp (loan.dispute now) reason
      receiptId).metadata).loanId ≠ "" := by
    show (loan.dispute now).loanId ≠ ""
    rw [hid]
    exact hsound.id_ne
  refine h.add hkey ⟨hne, ?_⟩ (txBefore_of_stampAfter hafter rfl rfl)
    (fun other hother => Dict.get?_set_of_ne loans _ hother) ?_
  · rw [hentry]
    exact Option.some_ne_none _
  · rw [hentry, activeEntry_of_active (Dict.get?_set_self loans loanId (loan.dispute now)) rfl]
    unfold loanStep
    simp only [if_neg hne]
    rw [hmetadata]
    rfl

theorem JournalReplays.rejected (h : JournalReplays journal loans)
    (hsound : ∀ loanId loan, loans.get? loanId = some loan → ReconSound loanId loan)
    (hid : loanId ≠ "") (hafter : StampAfter journal loanId stamp) (reason : PrimeReason)
    (realizedPnlUsd : Usd) (receiptId : String) :
    JournalReplays (journal ++ [settlementRejectionTransaction stamp loanId (loans.get? loanId)
      reason realizedPnlUsd receiptId]) loans := by
  have hmetadataId : (normalizedMetadata (settlementRejectionTransaction stamp loanId
      (loans.get? loanId) reason realizedPnlUsd receiptId).metadata).loanId = loanId := by
    cases hget : loans.get? loanId with
    | none => rfl
    | some loan => simp only [settlementRejectionTransaction, normalizedMetadata, if_neg hid]
  have hkey : loanKey (settlementRejectionTransaction stamp loanId (loans.get? loanId) reason
      realizedPnlUsd receiptId) = some loanId := congrArg some hmetadataId
  have hne : (normalizedMetadata (settlementRejectionTransaction stamp loanId
      (loans.get? loanId) reason realizedPnlUsd receiptId).metadata).loanId ≠ "" := by
    rw [hmetadataId]
    exact hid
  refine h.add hkey ⟨hne, trivial⟩ (txBefore_of_stampAfter hafter rfl rfl) (fun _ _ => rfl) ?_
  unfold loanStep
  simp only [if_neg hne]
  cases hget : loans.get? loanId with
  | none =>
    rw [activeEntry_of_inactive (fun old hold => by rw [hget] at hold; cases hold)]
    rfl
  | some loan =>
    cases hactive : loan.active with
    | false =>
      rw [activeEntry_of_inactive (fun old hold => by
        rw [hget] at hold
        cases hold
        exact hactive)]
      rfl
    | true =>
      have hloan := hsound loanId loan hget
      have hnormal := normalizedMetadata_loan hloan realizedPnlUsd (some reason)
      rw [activeEntry_of_active hget hactive, ← hnormal]
      rfl

/-! ### One call -/

theorem savedLast_append {w : World} {before : List StatePayload} {raw : RawPayload}
    (hsaved : w.store.snapshots = before ++ [stateSnapshotPayloadFromRaw raw])
    (hloans : raw.loans = w.prime.loans) : SavedLast w := by
  refine Or.inr ⟨raw, ?_, hloans⟩
  rw [hsaved]
  exact List.getLast?_concat

section Calls

variable {w : World} {clock : Clock}

theorem Replayed.denied (h : Replayed w) (req : PrimeBorrowRequest) (policy : StagePolicy)
    (reason : PrimeReason) : Replayed (deniedPayload .none clock w req policy reason).1 := by
  unfold deniedPayload
  split
  · exact ⟨h.ready, h.loans, h.journal.idle rfl, h.saved⟩
  · exact h

theorem Replayed.allocate (h : Replayed w) {coordinated : Bool}
    (hok : ReconOk w (.allocate coordinated clock req policy)) :
    Replayed (allocate coordinated .none clock w req policy).1 := by
  have hpath := allocate_path coordinated .none clock w req policy
  generalize Prime.allocate coordinated .none clock w req policy = result at hpath
  cases hpath with
  | denied reason _ => exact h.denied req policy reason
  | unreadable _ => exact h
  | unprepared _ _ _ _ _ => exact h
  | uncommitted _ _ _ _ _ _ _ fault _ => exact absurd rfl fault
  | committed loan transition _ _ grant prepared _ =>
    obtain ⟨⟨hpos, hcents⟩, hfree, hafter⟩ := hok loan grant
    have hsound := grantedLoan_reconSound grant hpos hcents
    have hopened : loan.status = .opened := grantedLoan_opened grant
    obtain ⟨-, -, hsnapshot, htx⟩ := prepareOpenTransition_ok prepared
    have hloans : (adoptMirrored transition.stateSnapshot true).loans
        = w.prime.loans.set loan.loanId loan := by
      rw [hsnapshot]
      rfl
    refine ⟨rfl, ?_, ?_, ?_⟩
    · show ∀ loanId found, (adoptMirrored transition.stateSnapshot true).loans.get? loanId
        = some found → _
      rw [hloans]
      exact h.loans_set hsound
    · show JournalReplays (w.store.journal ++ [transition.journalTx])
        (adoptMirrored transition.stateSnapshot true).loans
      rw [hloans, htx]
      exact h.journal.opened hsound hopened hfree hafter
    · refine savedLast_append (congrArg (fun p => w.store.snapshots ++ [p]) hsnapshot) ?_
      exact hloans.symm
  | direct loan transition _ _ grant _ =>
    obtain ⟨⟨hpos, hcents⟩, hfree, hafter⟩ := hok loan grant
    have hsound := grantedLoan_reconSound grant hpos hcents
    have hopened : loan.status = .opened := grantedLoan_opened grant
    have htracked := grantedLoan_tracked grant
    cases hreserve : w.prime.inventory.reserve loan.asset loan.reserved with
    | none =>
      -- The loan is larger than the pool: nothing was written and the memory is restored.
      obtain ⟨hbook, hready, hstore, -⟩ :=
        @allocateDirect_none_none clock w policy loan htracked hreserve
      have hloans := congrArg Book.loans hbook
      refine ⟨hready, ?_, ?_, ?_⟩
      · rw [hloans]
        exact h.loans
      · rw [hloans, hstore]
        exact h.journal
      · unfold SavedLast
        rw [hloans, hstore]
        exact h.saved
    | some inventory =>
      rw [allocateDirect_none_some htracked hreserve]
      exact ⟨rfl, h.loans_set hsound, h.journal.opened hsound hopened hfree hafter,
        savedLast_append rfl rfl⟩

theorem Replayed.settle (h : Replayed w) {realizedPnlUsd : Usd}
    (hok : ReconOk w (.settle clock loanId realizedPnlUsd)) :
    Replayed (settle .none clock w loanId realizedPnlUsd).1 := by
  obtain ⟨hid, hafter, hafterAudit⟩ := hok
  have hpath := settle_path .none clock w loanId realizedPnlUsd
  generalize Prime.settle .none clock w loanId realizedPnlUsd = result at hpath
  cases hpath with
  | rejected loan reason about _ _ =>
    rw [rejectedPayload_none, ← about h.ready]
    exact ⟨h.ready, h.loans, h.journal.rejected h.loans hid hafterAudit reason realizedPnlUsd "",
      h.saved⟩
  | disputed loan _ finds =>
    have hsound := h.loans loanId loan finds.found
    rw [disputeLoan_none]
    exact ⟨rfl, h.loans_set (hsound.dispute clock.now),
      h.journal.disputed hsound finds.found finds.active hafter clock.now _ _,
      savedLast_append rfl rfl⟩
  | direct loan settling =>
    obtain ⟨hfound, -, hactive, -, -⟩ := settlingLoan_eq_some_iff.1 settling
    have hsound := h.loans loanId loan hfound
    rw [settleDirect_none]
    exact ⟨rfl, h.loans_set (hsound.settle clock.now),
      h.journal.settled hsound hfound hactive hafter clock.now _ _, savedLast_append rfl rfl⟩

end Calls

/-- **One call keeps the journal in step with the book.** -/
theorem reconStep_inv (w : World) (call : ReconCall) (h : ReplayInv w) (hok : ReconOk w call) :
    ReplayInv (reconStep w call) := by
  have hbooks : BooksInv (reconStep w call) := bookStep_inv w _ h.books (h.booksOk hok)
  cases call with
  | allocate coordinated clock req policy => exact ⟨h.toReplayed.allocate hok, hbooks⟩
  | settle clock loanId pnl => exact ⟨h.toReplayed.settle hok, hbooks⟩
  | reload inventory => exact ⟨⟨h.ready, h.loans, h.journal, h.saved⟩, hbooks⟩

theorem replayInv_fresh (inventory : Inventory) (now : Int) :
    ReplayInv ⟨PrimeState.fresh inventory now, ⟨[], [], []⟩⟩ where
  ready := rfl
  loans := fun _ _ h => by cases h
  journal := .empty
  saved := Or.inl ⟨rfl, rfl⟩
  books := ⟨fresh_agrees inventory now, fun _ h => by cases h⟩

end SovereignCapital.Prime
