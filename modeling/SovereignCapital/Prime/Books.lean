import SovereignCapital.Lib.Runs
import SovereignCapital.Prime.Effects

/-! # The running totals of the book

`borrowedUsd` and `familyExposure` are kept up to date by every operation on its own. They
agree with the loans as long as no operation meets one of three traps: a granted loan takes
the id of an active one, a settlement is clamped at zero, or a payload is adopted whose
totals are not whole cents.
-/

namespace SovereignCapital.Prime

open Decimal Runs

/-! ## Sums over the active loans -/

section ActiveSums

variable {loans : Dict String Loan} {loanId : String} {loan : Loan} {p : Loan → Bool}
  {amount : Loan → Usd}

theorem activeSum_open (hfree : ∀ old, loans.get? loanId = some old → old.active = false)
    (hactive : loan.active = true) :
    Dict.sumBy (activeAmount p amount) (loans.set loanId loan)
      = Dict.sumBy (activeAmount p amount) loans + if p loan then amount loan else 0 := by
  have hold : Dict.weightAt (activeAmount p amount) loans loanId = 0 := by
    cases hget : loans.get? loanId with
    | none => simp [Dict.weightAt, hget]
    | some old => simp [Dict.weightAt, hget, activeAmount, hfree old hget]
  have hset := Dict.sumBy_set (activeAmount p amount) loans loanId loan
  rw [hold, add_zero] at hset
  rw [hset]
  simp [activeAmount, hactive]

theorem activeSum_settle (hfound : loans.get? loanId = some loan) (hactive : loan.active = true)
    (now : Int) :
    Dict.sumBy (activeAmount p amount) (loans.set loanId (loan.settle now))
      = Dict.sumBy (activeAmount p amount) loans - if p loan then amount loan else 0 := by
  have hset := Dict.sumBy_set (activeAmount p amount) loans loanId (loan.settle now)
  rw [Dict.weightAt_of_get? hfound] at hset
  have hsettled : activeAmount p amount loanId (loan.settle now) = 0 := rfl
  rw [hsettled, add_zero] at hset
  rw [← hset]
  simp [activeAmount, hactive]

theorem activeSum_dispute (hfound : loans.get? loanId = some loan) (hactive : loan.active = true)
    (now : Int) (hp : p (loan.dispute now) = p loan)
    (hamount : amount (loan.dispute now) = amount loan) :
    Dict.sumBy (activeAmount p amount) (loans.set loanId (loan.dispute now))
      = Dict.sumBy (activeAmount p amount) loans := by
  have hset := Dict.sumBy_set (activeAmount p amount) loans loanId (loan.dispute now)
  rw [Dict.weightAt_of_get? hfound] at hset
  have hdisputed :
      activeAmount p amount loanId (loan.dispute now) = activeAmount p amount loanId loan := by
    simp only [activeAmount, hp, hamount, hactive]
    rfl
  rw [hdisputed] at hset
  exact add_right_cancel hset

end ActiveSums

/-! ## Agreement -/

structure BooksAgree (b : Book) : Prop where
  total : b.borrowedUsd = activeTotal b.loans
  families : ∀ family, b.familyExposure.getD family 0 = activeFamilyTotal family b.loans

/-- The totals of a persisted payload are those of its active loans, rounded. -/
structure PayloadAgrees (p : StatePayload) : Prop where
  total : p.borrowedUsd = pyRound 2 (pyRound 8 (activeTotal p.loans))
  families : ∀ family,
    p.familyExposure.getD family 0 = pyRound 2 (pyRound 8 (activeFamilyTotal family p.loans))

structure Cents (loans : Dict String Loan) : Prop where
  total : Dec 2 (activeTotal loans)
  families : ∀ family, Dec 2 (activeFamilyTotal family loans)

structure Covered (b : Book) (loan : Loan) : Prop where
  total : loan.notionalUsd ≤ b.borrowedUsd
  family : loan.notionalUsd ≤ b.familyExposure.getD loan.family 0

variable {b : Book} {s : PrimeState} {policy : StagePolicy} {clock : Clock} {w : World} {f : Faults}

theorem booksAgree_of_inventory (h : BooksAgree b) (inventory : Inventory) :
    BooksAgree { b with inventory := inventory } := ⟨h.total, h.families⟩

theorem BooksAgree.opened (h : BooksAgree b) {loan : Loan}
    (hfree : ∀ old, b.loans.get? loan.loanId = some old → old.active = false)
    (hactive : loan.active = true) (capacity : Usd) (inventory : Inventory) :
    BooksAgree (b.opened loan capacity inventory) := by
  constructor
  · show b.borrowedUsd + loan.notionalUsd = activeTotal (b.loans.set loan.loanId loan)
    rw [activeTotal, activeSum_open hfree hactive, h.total]
    rfl
  · intro family
    show (b.familyExposure.set loan.family _).getD family 0
      = activeFamilyTotal family (b.loans.set loan.loanId loan)
    rw [Dict.getD_set, activeFamilyTotal, activeSum_open hfree hactive]
    by_cases hfamily : family = loan.family
    · subst hfamily
      simp only [if_true, beq_self_eq_true, h.families, activeFamilyTotal]
    · rw [if_neg hfamily, h.families family, if_neg (by simpa using Ne.symm hfamily), add_zero]
      rfl

theorem BooksAgree.disputed (h : BooksAgree b) {loanId : String} {loan : Loan}
    (hfound : b.loans.get? loanId = some loan) (hactive : loan.active = true) (now : Int) :
    BooksAgree { b with loans := b.loans.set loanId (loan.dispute now) } := by
  constructor
  · show b.borrowedUsd = activeTotal (b.loans.set loanId (loan.dispute now))
    rw [activeTotal, activeSum_dispute hfound hactive now rfl rfl]
    exact h.total
  · intro family
    show b.familyExposure.getD family 0
      = activeFamilyTotal family (b.loans.set loanId (loan.dispute now))
    rw [activeFamilyTotal, activeSum_dispute hfound hactive now rfl rfl]
    exact h.families family

theorem BooksAgree.settled (h : BooksAgree b) {loanId : String} {loan : Loan}
    (hfound : b.loans.get? loanId = some loan) (hactive : loan.active = true)
    (hcovered : Covered b loan) (now : Int) (inventory : Inventory) :
    BooksAgree (b.settled loanId loan now inventory) := by
  constructor
  · show max 0 (b.borrowedUsd - loan.notionalUsd)
      = activeTotal (b.loans.set loanId (loan.settle now))
    rw [max_eq_right (sub_nonneg.2 hcovered.total), activeTotal,
      activeSum_settle hfound hactive now, h.total]
    rfl
  · intro family
    show (b.familyExposure.set loan.family _).getD family 0
      = activeFamilyTotal family (b.loans.set loanId (loan.settle now))
    rw [Dict.getD_set, activeFamilyTotal, activeSum_settle hfound hactive now]
    by_cases hfamily : family = loan.family
    · subst hfamily
      rw [max_eq_right (sub_nonneg.2 hcovered.family)]
      simp only [if_true, beq_self_eq_true, h.families, activeFamilyTotal]
    · rw [if_neg hfamily, h.families family, if_neg (by simpa using Ne.symm hfamily), sub_zero]
      rfl

/-! ## Payloads -/

theorem payloadAgrees_of_raw {raw : RawPayload}
    (htotal : pyRound 2 raw.borrowedUsd = pyRound 2 (pyRound 8 (activeTotal raw.loans)))
    (hfamilies : ∀ family, pyRound 2 (raw.familyExposure.getD family 0)
      = pyRound 2 (pyRound 8 (activeFamilyTotal family raw.loans))) :
    PayloadAgrees (stateSnapshotPayloadFromRaw raw) := by
  refine ⟨htotal, fun family => ?_⟩
  have hmap := Dict.getD_mapVal (pyRound 2) raw.familyExposure family 0
  rw [pyRound_zero] at hmap
  exact hmap.trans (hfamilies family)

theorem getD_round (d : Dict String Usd) (n : ℕ) (family : String) :
    (d.mapVal (pyRound n)).getD family 0 = pyRound n (d.getD family 0) := by
  have hmap := Dict.getD_mapVal (pyRound n) d family 0
  rwa [pyRound_zero] at hmap

theorem BooksAgree.payload (h : BooksAgree s.toBook) :
    PayloadAgrees (stateSnapshotPayloadFromRaw s.rawStatePayload) := by
  apply payloadAgrees_of_raw
  · show pyRound 2 (pyRound 8 s.borrowedUsd) = _
    rw [h.total]
    rfl
  · intro family
    show pyRound 2 ((s.familyExposure.mapVal (pyRound 8)).getD family 0) = _
    rw [getD_round, h.families family]
    rfl

/-- **Adopting a payload of whole cents gives agreeing books.** -/
theorem PayloadAgrees.adopt {p : StatePayload} (h : PayloadAgrees p) (hcents : Cents p.loans) :
    BooksAgree (adoptStatePayload p).toBook := by
  constructor
  · show p.borrowedUsd = activeTotal p.loans
    rw [h.total, (hcents.total.of_le (by norm_num)).pyRound_eq, hcents.total.pyRound_eq]
  · intro family
    have hfamily := hcents.families family
    show p.familyExposure.getD family 0 = activeFamilyTotal family p.loans
    rw [h.families, (hfamily.of_le (by norm_num)).pyRound_eq, hfamily.pyRound_eq]

theorem bare_agrees (now : Int) : PayloadAgrees (StatePayload.bare now) := by
  constructor
  · show (0 : ℚ) = pyRound 2 (pyRound 8 0)
    simp
  · intro family
    show (0 : ℚ) = pyRound 2 (pyRound 8 0)
    simp

theorem BooksAgree.prepareOpen (h : BooksAgree s.toBook) {loan : Loan} {transition : OpenTransition}
    (hprepared : prepareOpenTransition s policy loan clock = .ok transition)
    (hfree : ∀ old, s.loans.get? loan.loanId = some old → old.active = false)
    (hactive : loan.active = true) :
    PayloadAgrees transition.stateSnapshot
      ∧ transition.stateSnapshot.loans = s.loans.set loan.loanId loan := by
  obtain ⟨-, -, hsnapshot, -⟩ := prepareOpenTransition_ok hprepared
  have hopened := h.opened hfree hactive 0 s.inventory
  rw [hsnapshot]
  refine ⟨payloadAgrees_of_raw ?_ ?_, rfl⟩
  · exact congrArg (fun x => pyRound 2 (pyRound 8 x)) hopened.total
  · intro family
    rw [PrimeState.openRaw, getD_round]
    exact congrArg (fun x => pyRound 2 (pyRound 8 x)) (hopened.families family)

/-- Dropping a family that is down to nothing does not show in a rounded payload. -/
theorem pyRound_exposureAfter (b : Book) (loan : Loan) (family : String) :
    pyRound 8 ((b.exposureAfter loan).getD family 0)
      = pyRound 8 ((b.familyExposure.set loan.family
          (max 0 (b.familyExposure.getD loan.family 0 - loan.notionalUsd))).getD family 0) := by
  simp only [Book.exposureAfter]
  split
  · rename_i hsmall
    rw [Dict.getD_erase, Dict.getD_set]
    by_cases hfamily : family = loan.family
    · simp only [hfamily, if_true]
      have hzero : pyRound 8 (max 0 (b.familyExposure.getD loan.family 0 - loan.notionalUsd)) = 0 := by
        apply le_antisymm
        · have hmono := pyRound_mono 8 hsmall
          have hunit : pyRound 8 (1 / 10 ^ 9) = 0 := by decide +kernel
          rwa [hunit] at hmono
        · exact pyRound_nonneg 8 (le_max_left _ _)
      rw [hzero, pyRound_zero]
    · simp only [if_neg hfamily]
  · rfl

theorem BooksAgree.prepareSettlement (h : BooksAgree s.toBook) {loanId : String}
    (hcovered : ∀ loan, s.settlingLoan loanId = some loan → Covered s.toBook loan)
    (realizedPnlUsd : Usd) (receiptId : String) (clock : Clock) :
    PayloadAgrees ((prepareSettlementTransition s loanId realizedPnlUsd receiptId
      clock).stateSnapshot.getD (StatePayload.bare clock.now)) := by
  cases prepareSettlementTransition_cases s loanId realizedPnlUsd receiptId clock with
  | rejected _ snapshot _ _ =>
    rw [snapshot]
    exact bare_agrees clock.now
  | disputed loan _ _ finds _ snapshot =>
    have hdisputed := h.disputed finds.found finds.active clock.now
    rw [snapshot]
    apply payloadAgrees_of_raw
    · exact congrArg (fun x => pyRound 2 (pyRound 8 x)) hdisputed.total
    · intro family
      rw [PrimeState.disputedRaw, getD_round]
      exact congrArg (fun x => pyRound 2 (pyRound 8 x)) (hdisputed.families family)
  | settled loan settling _ snapshot =>
    obtain ⟨hfound, -, hactive, -, -⟩ := settlingLoan_eq_some_iff.1 settling
    have hsettled := h.settled hfound hactive (hcovered loan settling) clock.now s.inventory
    rw [snapshot]
    apply payloadAgrees_of_raw
    · exact congrArg (fun x => pyRound 2 (pyRound 8 x)) hsettled.total
    · intro family
      rw [PrimeState.settledRaw, getD_round, pyRound_exposureAfter]
      exact congrArg (fun x => pyRound 2 (pyRound 8 x)) (hsettled.families family)

theorem cents_of_notionals {loans : Dict String Loan}
    (h : ∀ loan ∈ loans.values, Dec 2 loan.notionalUsd) : Cents loans := by
  have hsum : ∀ p, Dec 2 (Dict.sumBy (activeAmount p Loan.notionalUsd) loans) := by
    intro p
    apply dec_list_sum
    intro x hx
    obtain ⟨e, he, rfl⟩ := List.mem_map.1 hx
    have hloan := h e.2 (List.mem_map.2 ⟨e, he, rfl⟩)
    unfold activeAmount
    split
    · exact hloan
    · exact dec_zero 2
  exact ⟨hsum _, fun family => hsum _⟩

/-! ## Runs -/

inductive BookCall where
  | allocate (coordinated : Bool) (f : Faults) (clock : Clock) (req : PrimeBorrowRequest)
      (policy : StagePolicy)
  | settle (f : Faults) (clock : Clock) (loanId : String) (realizedPnlUsd : Usd)
  /-- a settlement committed with a receipt -/
  | settleCoordinated (f : Faults) (clock : Clock) (loanId : String) (realizedPnlUsd : Usd)
      (receiptId : String)
  /-- `adopt_state_payload` of a persisted snapshot -/
  | adopt (snapshot : Nat) (saved : Bool)
  /-- the pool is seeded or reloaded -/
  | seed (inventory : Inventory)

def bookStep (w : World) : BookCall → World
  | .allocate coordinated f clock req policy => (allocate coordinated f clock w req policy).1
  | .settle f clock loanId pnl => (settle f clock w loanId pnl).1
  | .settleCoordinated f clock loanId pnl receiptId =>
    (commitPrimeSettlement f w (prepareSettlementTransition w.prime loanId pnl receiptId clock)
      clock.now).1
  | .adopt snapshot saved =>
    match w.store.snapshots[snapshot]? with
    | none => w
    | some payload => { w with prime := adoptMirrored payload saved }
  | .seed inventory => { w with prime := { w.prime with inventory := inventory } }

/-- The call does not meet a trap: a loan it grants does not take the id of an active loan,
a loan it settles is part of the totals, and the active loans of a payload it adopts total
whole cents. -/
def BooksOk (w : World) : BookCall → Prop
  | .allocate coordinated f clock req policy =>
    ∀ loan, grantedLoan w.prime.toBook req policy clock = some loan →
      (∀ old, w.prime.loans.get? loan.loanId = some old → old.active = false)
        ∧ (coordinated = true → f.commit = .ok → Cents (w.prime.loans.set loan.loanId loan))
  | .settle _ _ loanId _ =>
    ∀ loan, w.prime.settlingLoan loanId = some loan → Covered w.prime.toBook loan
  | .settleCoordinated f clock loanId pnl receiptId =>
    f.commit = .ok →
      (∀ loan, w.prime.settlingLoan loanId = some loan → Covered w.prime.toBook loan)
        ∧ ∀ payload, (prepareSettlementTransition w.prime loanId pnl receiptId
            clock).stateSnapshot = some payload → Cents payload.loans
  | .adopt snapshot _ => ∀ payload, w.store.snapshots[snapshot]? = some payload → Cents payload.loans
  | .seed _ => True

structure BooksInv (w : World) : Prop where
  book : BooksAgree w.prime.toBook
  history : ∀ payload ∈ w.store.snapshots, PayloadAgrees payload

theorem HistoryStep.agrees {before after : List StatePayload} (hstep : HistoryStep before after b)
    (hbook : BooksAgree b) (hbefore : ∀ payload ∈ before, PayloadAgrees payload) :
    ∀ payload ∈ after, PayloadAgrees payload := by
  rcases hstep with rfl | ⟨s, rfl, rfl⟩
  · exact hbefore
  · intro payload hmem
    rcases List.mem_append.1 hmem with hold | hnew
    · exact hbefore payload hold
    · rw [List.mem_singleton.1 hnew]
      exact hbook.payload

theorem grantedLoan_active {req : PrimeBorrowRequest} {loan : Loan}
    (h : grantedLoan b req policy clock = some loan) : loan.active = true := by
  obtain ⟨notional, ctx, cost, -, -, rfl⟩ := grantedLoan_eq_some h
  rfl

theorem BooksInv.allocate (h : BooksInv w) {coordinated : Bool} {req : PrimeBorrowRequest}
    (hok : BooksOk w (.allocate coordinated f clock req policy)) {w' : World} {r : AllocateResult}
    (heffect : AllocateEffect coordinated f clock w req policy w' r) : BooksInv w' := by
  cases heffect with
  | kept _ book history => exact ⟨book ▸ h.book, history ▸ h.history⟩
  | leaked loan inventory _ _ _ grant reserve book history =>
    exact ⟨book ▸ booksAgree_of_inventory h.book inventory, history ▸ h.history⟩
  | restored loan inventory _ _ grant reserve book history =>
    have hopened := h.book.opened (hok loan grant).1 (grantedLoan_active grant)
      (w.prime.capacityLimit (some policy)) inventory
    exact ⟨book ▸ booksAgree_of_inventory h.book _, history.agrees hopened h.history⟩
  | opened loan inventory _ grant reserve book history =>
    have hopened := h.book.opened (hok loan grant).1 (grantedLoan_active grant)
      (w.prime.capacityLimit (some policy)) inventory
    rw [← book] at hopened
    exact ⟨hopened, history.agrees hopened h.history⟩
  | adopted loan transition isCoordinated committed grant prepared book history =>
    have hok' := hok loan grant
    obtain ⟨hagrees, hloans⟩ := h.book.prepareOpen prepared hok'.1 (grantedLoan_active grant)
    have hcents : Cents transition.stateSnapshot.loans := by
      rw [hloans]
      exact hok'.2 isCoordinated committed
    refine ⟨book ▸ hagrees.adopt hcents, ?_⟩
    intro payload hmem
    rw [history] at hmem
    rcases List.mem_append.1 hmem with hold | hnew
    · exact h.history payload hold
    · rw [List.mem_singleton.1 hnew]
      exact hagrees

theorem BooksInv.settle (h : BooksInv w) {loanId : String} {realizedPnlUsd : Usd}
    (hok : BooksOk w (.settle f clock loanId realizedPnlUsd)) {w' : World}
    (heffect : SettleEffect f clock w loanId w') : BooksInv w' := by
  have hsettled : ∀ loan, w.prime.settlingLoan loanId = some loan →
      BooksAgree (w.prime.toBook.settled loanId loan clock.now (w.prime.toBook.releaseFor loan)) := by
    intro loan hsettling
    obtain ⟨hfound, -, hactive, -, -⟩ := settlingLoan_eq_some_iff.1 hsettling
    exact h.book.settled hfound hactive (hok loan hsettling) clock.now _
  cases heffect with
  | kept book history => exact ⟨book ▸ h.book, history ▸ h.history⟩
  | undisputed loan found active book history =>
    exact ⟨book ▸ h.book, history.agrees (h.book.disputed found active clock.now) h.history⟩
  | disputed loan found active book history =>
    have hdisputed := h.book.disputed found active clock.now
    rw [← book] at hdisputed
    exact ⟨hdisputed, history.agrees hdisputed h.history⟩
  | leaked loan settling cause book history =>
    exact ⟨book ▸ booksAgree_of_inventory h.book _,
      history.agrees (hsettled loan settling) h.history⟩
  | restored loan inventory settling reserve book history =>
    exact ⟨book ▸ booksAgree_of_inventory h.book _,
      history.agrees (hsettled loan settling) h.history⟩
  | reverted loan settling book history =>
    exact ⟨book ▸ h.book, history.agrees (hsettled loan settling) h.history⟩
  | settled loan settling book history =>
    have hbook := hsettled loan settling
    rw [← book] at hbook
    exact ⟨hbook, history.agrees hbook h.history⟩

theorem BooksInv.settleCoordinated (h : BooksInv w) {loanId : String} {realizedPnlUsd : Usd}
    {receiptId : String}
    (hok : BooksOk w (.settleCoordinated f clock loanId realizedPnlUsd receiptId)) :
    BooksInv (bookStep w (.settleCoordinated f clock loanId realizedPnlUsd receiptId)) := by
  simp only [bookStep, commitPrimeSettlement]
  cases hcommit : f.commit with
  | caught => exact h
  | escapes => exact h
  | ok =>
    obtain ⟨hcovered, hcents⟩ := hok hcommit
    have hagrees := h.book.prepareSettlement hcovered realizedPnlUsd receiptId clock
    have hadopted : Cents ((prepareSettlementTransition w.prime loanId realizedPnlUsd receiptId
        clock).stateSnapshot.getD (StatePayload.bare clock.now)).loans := by
      cases hsnapshot : (prepareSettlementTransition w.prime loanId realizedPnlUsd receiptId
          clock).stateSnapshot with
      | none => exact ⟨dec_zero 2, fun _ => dec_zero 2⟩
      | some payload => exact hcents payload hsnapshot
    constructor
    · show BooksAgree (adoptMirrored _ f.stateSave).toBook
      rw [adoptMirrored_toBook]
      exact hagrees.adopt hadopted
    · intro payload hmem
      rcases List.mem_append.1 hmem with hold | hnew
      · exact h.history payload hold
      · rw [List.mem_singleton.1 hnew]
        exact hagrees

/-- **One call keeps the books.** -/
theorem bookStep_inv (w : World) (call : BookCall) (h : BooksInv w) (hok : BooksOk w call) :
    BooksInv (bookStep w call) := by
  cases call with
  | allocate coordinated f clock req policy =>
    exact h.allocate hok (allocate_effect coordinated f clock w req policy)
  | settle f clock loanId pnl => exact h.settle hok (settle_effect f clock w loanId pnl)
  | settleCoordinated f clock loanId pnl receiptId => exact h.settleCoordinated hok
  | adopt snapshot saved =>
    simp only [bookStep]
    cases hget : w.store.snapshots[snapshot]? with
    | none => exact h
    | some payload =>
      refine ⟨?_, h.history⟩
      show BooksAgree (adoptMirrored payload saved).toBook
      rw [adoptMirrored_toBook]
      exact (h.history payload (List.mem_of_getElem? hget)).adopt (hok payload hget)
  | seed inventory => exact ⟨⟨h.book.total, h.book.families⟩, h.history⟩

theorem fresh_agrees (inventory : Inventory) (now : Int) :
    BooksAgree (PrimeState.fresh inventory now).toBook :=
  ⟨rfl, fun _ => rfl⟩

/-- **The totals are those of the active loans, in every state a run reaches.** -/
theorem books_agree {inventory : Inventory} {now : Int} {store : Store}
    (hstore : store.snapshots = []) {calls reached : List BookCall}
    (hok : AllSteps bookStep BooksOk ⟨PrimeState.fresh inventory now, store⟩ calls)
    (hreached : reached <+: calls) :
    BooksAgree (run bookStep ⟨PrimeState.fresh inventory now, store⟩ reached).prime.toBook := by
  have hstart : BooksInv ⟨PrimeState.fresh inventory now, store⟩ := by
    refine ⟨fresh_agrees inventory now, ?_⟩
    intro payload hmem
    rw [show store.snapshots = [] from hstore] at hmem
    cases hmem
  exact (reached_invariant bookStep_inv hstart hok hreached).book

/-- A loan of ten dollars, opened the direct way. -/
def lendTen (now : Int) (txId : String) : BookCall :=
  .allocate false .none (smallClock now txId) (smallRequest "l1" 10) smallPolicy

def settleTen : BookCall := .settle .none (smallClock 2 "t2") "l1" 0

/-- A loan is opened, settled, and adopted back from the snapshot of its opening. -/
theorem books_agree_lendTen :
    BooksAgree
      (run bookStep smallWorld [lendTen 1 "t1", settleTen, .adopt 0 true]).prime.toBook := by
  have hcovered : ∀ loan ∈ (bookStep smallWorld (lendTen 1 "t1")).prime.settlingLoan "l1",
      loan.notionalUsd ≤ (bookStep smallWorld (lendTen 1 "t1")).prime.borrowedUsd
        ∧ loan.notionalUsd ≤ (bookStep smallWorld
          (lendTen 1 "t1")).prime.familyExposure.getD loan.family 0 := by
    decide +kernel
  have hten : ∀ payload ∈ (run bookStep smallWorld [lendTen 1 "t1", settleTen]).store.snapshots[0]?,
      ∀ loan ∈ payload.loans.values, loan.notionalUsd = 10 := by
    decide +kernel
  have hok : AllSteps bookStep BooksOk smallWorld [lendTen 1 "t1", settleTen, .adopt 0 true] := by
    refine ⟨?_, ?_, ?_, trivial⟩
    · intro loan _
      constructor
      · intro old hold
        cases hold
      · intro hcoordinated
        cases hcoordinated
    · intro loan hsettling
      exact ⟨(hcovered loan hsettling).1, (hcovered loan hsettling).2⟩
    · intro payload hpayload
      apply cents_of_notionals
      intro loan hloan
      rw [hten payload hpayload loan hloan]
      exact_mod_cast dec_intCast 2 10
  exact books_agree rfl hok (List.prefix_refl _)

/-- One request granted twice under one id: the second loan replaces the first one, and the
total counts both. -/
theorem books_repeated_id :
    ¬ BooksAgree (run bookStep smallWorld [lendTen 1 "t1", lendTen 2 "t2"]).prime.toBook := by
  intro hagree
  have htotal : (run bookStep smallWorld [lendTen 1 "t1", lendTen 2 "t2"]).prime.borrowedUsd
      ≠ activeTotal (run bookStep smallWorld [lendTen 1 "t1", lendTen 2 "t2"]).prime.loans := by
    decide +kernel
  exact htotal hagree.total

end SovereignCapital.Prime
