import SovereignCapital.Lib.Decimal
import SovereignCapital.Lib.Dict

/-! # Contracts of the internal prime

Requests, loans, stage policies and reason codes of `internal_prime`, and the two pure
computations on them that need no state: the collateral a request needs and what it costs.
Amounts are exact rationals; `round` is `Decimal.pyRound`.
-/

namespace SovereignCapital.Prime

open Decimal

/-- An amount in US dollars, or of an inventory asset. -/
abbrev Usd := ℚ

/-- `x or y` on numbers. -/
def pyOr (x y : ℚ) : ℚ := if x = 0 then y else x

/-! ## Requests and loans -/

/-- `notional_usd` as a caller passes it. -/
inductive Notional where
  /-- a number, or text `float` reads -/
  | num (q : ℚ)
  /-- `None` or another false value that `float` rejects -/
  | null
  /-- a true value that `float` rejects -/
  | unreadable
deriving DecidableEq

/-- `float(x)`; nothing where it raises. -/
def Notional.float : Notional → Option ℚ
  | .num q => some q
  | .null => none
  | .unreadable => none

/-- `float(x or 0.0)`; nothing where it raises. -/
def Notional.floatOrZero : Notional → Option ℚ
  | .num q => some q
  | .null => some 0
  | .unreadable => none

structure PrimeBorrowRequest where
  family : String
  capitalSource : String
  notionalUsd : Notional
  asset : String
  horizonMinutes : ℚ
  confidence : ℚ
  requestId : String
  strategyId : String

inductive LoanStatus where
  | opened
  | disputed
  | settled
deriving DecidableEq

inductive PrimeReason where
  | confidenceTooLow
  | primeCapacityUnavailable
  | familyCapExceeded
  | primeCapacityExceeded
  | inventoryUntracked
  | inventoryInsufficient
  | collateralInsufficiency
  | unknownLoan
  | loanAlreadySettled
  | inventoryUntrackedOnSettlement
  | primeOpenCommitFailed
  | primeStatePersistFailed
  | primeJournalWriteFailed
  | primeSettlementPersistFailed
  | primeSettlementJournalWriteFailed
  | primeStateUnavailable
  | primeStateCorrupt
  | primeInventoryRollbackFailed
  | primeSettlementInventoryRollbackFailed
deriving DecidableEq

def PrimeReason.code : PrimeReason → String
  | .confidenceTooLow => "confidence_too_low"
  | .primeCapacityUnavailable => "prime_capacity_unavailable"
  | .familyCapExceeded => "family_cap_exceeded"
  | .primeCapacityExceeded => "prime_capacity_exceeded"
  | .inventoryUntracked => "inventory_untracked"
  | .inventoryInsufficient => "inventory_insufficient"
  | .collateralInsufficiency => "collateral_insufficiency"
  | .unknownLoan => "unknown_loan"
  | .loanAlreadySettled => "loan_already_settled"
  | .inventoryUntrackedOnSettlement => "inventory_untracked_on_settlement"
  | .primeOpenCommitFailed => "prime_open_commit_failed"
  | .primeStatePersistFailed => "prime_state_persist_failed"
  | .primeJournalWriteFailed => "prime_journal_write_failed"
  | .primeSettlementPersistFailed => "prime_settlement_persist_failed"
  | .primeSettlementJournalWriteFailed => "prime_settlement_journal_write_failed"
  | .primeStateUnavailable => "prime_state_unavailable"
  | .primeStateCorrupt => "prime_state_corrupt"
  | .primeInventoryRollbackFailed => "prime_inventory_rollback_failed"
  | .primeSettlementInventoryRollbackFailed => "prime_settlement_inventory_rollback_failed"

/-- A row of `_loans`. -/
structure Loan where
  loanId : String
  family : String
  asset : String
  notionalUsd : Usd
  borrowCostUsd : Usd
  openedTsMs : Int
  collateralReservedUsd : Usd
  collateralRatio : ℚ
  collateralHaircutPct : ℚ
  collateralEfficiency : ℚ
  status : LoanStatus
  settledTsMs : Int
  disputedTsMs : Int
  disputeReasonCode : Option PrimeReason
  strategyId : String
deriving DecidableEq

/-- The loan still counts: it is open or disputed. -/
def Loan.active (loan : Loan) : Bool := loan.status != .settled

/-- `collateral_reserved_usd or notional_usd`. -/
def Loan.reserved (loan : Loan) : Usd := pyOr loan.collateralReservedUsd loan.notionalUsd

/-! ## Policies -/

/-- The keys of a stage policy the allocator reads. `none` is an absent key, zero stands for
a value Python takes for false. `prime_capacity_usd` may be present without a usable
number. -/
structure StagePolicy where
  minConfidence : Option ℚ
  primeCapacityUsd : Option (Option ℚ)
  maxDeployablePct : Option ℚ
  familyCapPct : Option ℚ
  maxFamilyPct : Option ℚ
  collateralEfficiency : Option ℚ
  collateralHaircutPct : Option ℚ
  minCollateralRatio : Option ℚ

/-- `policy.get(key, default) or default`. -/
def policyValue (value : Option ℚ) (default : ℚ) : ℚ := pyOr (value.getD default) default

/-- `_parse_capacity_usd`: a positive number, or nothing. -/
def parseCapacityUsd (value : Option ℚ) : Option ℚ :=
  match value with
  | none => none
  | some c => if c ≤ 0 then none else some c

structure CollateralPolicy where
  collateralEfficiency : ℚ
  collateralHaircutPct : ℚ
  collateralRatio : ℚ
  requiredCollateralUsd : Usd

/-- The ratio of `_collateral_policy`, rounded. -/
def collateralRatio (policy : StagePolicy) : ℚ :=
  let efficiency := max (5 / 100) (min 1 (policyValue policy.collateralEfficiency 1))
  let haircutPct := max 0 (policyValue policy.collateralHaircutPct 0)
  let minRatio := max 1 (policyValue policy.minCollateralRatio 1)
  pyRound 8 (max minRatio (1 / efficiency) * (1 + haircutPct / 100))

def collateralPolicy (notional : ℚ) (policy : StagePolicy) : CollateralPolicy :=
  let efficiency := max (5 / 100) (min 1 (policyValue policy.collateralEfficiency 1))
  let haircutPct := max 0 (policyValue policy.collateralHaircutPct 0)
  { collateralEfficiency := pyRound 8 efficiency
    collateralHaircutPct := pyRound 8 haircutPct
    collateralRatio := pyRound 8 (collateralRatio policy)
    requiredCollateralUsd := pyRound 8 (max 0 notional * collateralRatio policy) }

/-- `borrowCostUsd` of `internal_borrow_cost`. -/
def internalBorrowCost (notional horizonMinutes utilization : ℚ) : Usd :=
  let bpsPerDay := 8 + max 0 utilization * 12
  pyRound 8 (notional * (bpsPerDay / 10000) * max 0 horizonMinutes / 1440)

/-! ## Facts about the collateral -/

@[simp] theorem pyOr_zero_left (y : ℚ) : pyOr 0 y = y := rfl

theorem pyOr_of_ne {x : ℚ} (y : ℚ) (h : x ≠ 0) : pyOr x y = x := if_neg h

theorem pyOr_eq_zero_iff {x y : ℚ} : pyOr x y = 0 ↔ x = 0 ∧ y = 0 := by
  unfold pyOr
  split
  · rename_i h
    simp [h]
  · rename_i h
    simp [h]

theorem one_le_collateralRatio (policy : StagePolicy) : 1 ≤ collateralRatio policy := by
  have hmin : (1 : ℚ) ≤ max (max 1 (policyValue policy.minCollateralRatio 1))
      (1 / max (5 / 100) (min 1 (policyValue policy.collateralEfficiency 1))) :=
    le_trans (le_max_left _ _) (le_max_left _ _)
  have hhair : (0 : ℚ) ≤ max 0 (policyValue policy.collateralHaircutPct 0) / 100 :=
    div_nonneg (le_max_left _ _) (by norm_num)
  have hone : Dec 8 1 := by exact_mod_cast dec_intCast 8 1
  simp only [collateralRatio]
  apply hone.le_pyRound
  nlinarith

theorem requiredCollateralUsd_nonneg (notional : ℚ) (policy : StagePolicy) :
    0 ≤ (collateralPolicy notional policy).requiredCollateralUsd := by
  have hratio := one_le_collateralRatio policy
  apply pyRound_nonneg
  exact mul_nonneg (le_max_left _ _) (by linarith)

theorem dec_requiredCollateralUsd (notional : ℚ) (policy : StagePolicy) :
    Dec 8 (collateralPolicy notional policy).requiredCollateralUsd := dec_pyRound 8 _

end SovereignCapital.Prime

/-! # State of the internal prime

The memory of `InternalPrimeAllocator` and the payloads it is persisted as. `Book` are the
fields a decision depends on; two states with one book decide alike. The payload of a
snapshot rounds the totals to two decimals and the inventory to eight, and adopting one
takes its numbers as they are.
-/

namespace SovereignCapital.Prime

open Decimal

/-! ## Inventory -/

/-- `InventoryPool._assets`. -/
abbrev Inventory := Dict String Usd

def Inventory.snapshot (inv : Inventory) : Inventory := inv.mapVal (pyRound 8)

/-- `InventoryPool.reserve` with `strict`; nothing where it raises. -/
def Inventory.reserve (inv : Inventory) (asset : String) (amount : Usd) : Option Inventory :=
  if inv.getD asset 0 < amount then none else some (inv.set asset (inv.getD asset 0 - amount))

def Inventory.release (inv : Inventory) (asset : String) (amount : Usd) : Inventory :=
  inv.set asset (inv.getD asset 0 + amount)

/-! ## Memory -/

structure Book where
  utilization : ℚ
  borrowedUsd : Usd
  capacityUsd : Option Usd
  familyExposure : Dict String Usd
  loans : Dict String Loan
  inventory : Inventory

/-- The memory of the allocator. The status text and the reason text follow `stateReady` and
the reason code. -/
structure PrimeState extends Book where
  updatedTsMs : Int
  stateReady : Bool
  stateReasonCode : Option PrimeReason

def Book.capacityLimit (b : Book) (policy : Option StagePolicy) : Usd :=
  let value :=
    match policy.bind StagePolicy.primeCapacityUsd with
    | none => b.capacityUsd
    | some value => value
  (parseCapacityUsd value).getD 0

/-- The value `_recompute_utilization` assigns for a capacity. -/
def utilizationAt (borrowed capacity : Usd) : ℚ :=
  if capacity ≤ 0 then 0 else min 1 (max 0 (borrowed / capacity))

def PrimeState.markUnavailable (s : PrimeState) (reason : PrimeReason) : PrimeState :=
  { s with stateReady := false, stateReasonCode := some reason }

def PrimeState.clearUnavailable (s : PrimeState) : PrimeState :=
  { s with stateReady := true, stateReasonCode := none }

def PrimeState.unavailableReason (s : PrimeState) : PrimeReason :=
  s.stateReasonCode.getD .primeStateUnavailable

def PrimeState.fresh (inventory : Inventory) (now : Int) : PrimeState where
  utilization := 0
  borrowedUsd := 0
  capacityUsd := none
  familyExposure := Dict.empty
  loans := Dict.empty
  inventory := inventory
  updatedTsMs := now
  stateReady := true
  stateReasonCode := none

/-! ## Payloads -/

/-- What `_raw_state_payload` and the two `prepare` functions hand to
`_state_snapshot_payload_from_raw`. -/
structure RawPayload where
  utilization : ℚ
  borrowedUsd : Usd
  capacityUsd : Option Usd
  familyExposure : Dict String Usd
  loans : Dict String Loan
  inventory : Inventory
  updatedTsMs : Int
  stateReady : Bool
  stateReasonCode : Option PrimeReason

def PrimeState.rawStatePayload (s : PrimeState) : RawPayload where
  utilization := pyRound 8 s.utilization
  borrowedUsd := pyRound 8 s.borrowedUsd
  capacityUsd := s.capacityUsd.map (pyRound 8)
  familyExposure := s.familyExposure.mapVal (pyRound 8)
  loans := s.loans
  inventory := s.inventory.snapshot
  updatedTsMs := s.updatedTsMs
  stateReady := s.stateReady
  stateReasonCode := s.stateReasonCode

structure StatePayload where
  borrowedUsd : Usd
  capacityUsd : Option Usd
  utilization : ℚ
  updatedTsMs : Int
  inventory : Inventory
  familyExposure : Dict String Usd
  loans : Dict String Loan
  openLoans : List Loan
  disputedLoans : List Loan
  loanCount : Nat
  disputedLoanCount : Nat
  reservedCollateralUsd : Usd
  collateralizationRatio : ℚ
  stateReady : Bool
  stateReasonCode : Option PrimeReason

def openLoans (loans : Dict String Loan) : List Loan :=
  loans.values.filter fun loan => loan.status == .opened

def disputedLoans (loans : Dict String Loan) : List Loan :=
  loans.values.filter fun loan => loan.status == .disputed

def stateSnapshotPayloadFromRaw (raw : RawPayload) : StatePayload :=
  let active := openLoans raw.loans ++ disputedLoans raw.loans
  let reserved := pyRound 8 (active.map Loan.reserved).sum
  { borrowedUsd := pyRound 2 raw.borrowedUsd
    capacityUsd := (parseCapacityUsd raw.capacityUsd).map (pyRound 2)
    utilization := pyRound 6 raw.utilization
    updatedTsMs := raw.updatedTsMs
    inventory := raw.inventory.mapVal (pyRound 8)
    familyExposure := raw.familyExposure.mapVal (pyRound 2)
    loans := raw.loans
    openLoans := openLoans raw.loans
    disputedLoans := disputedLoans raw.loans
    loanCount := active.length
    disputedLoanCount := (disputedLoans raw.loans).length
    reservedCollateralUsd := reserved
    collateralizationRatio :=
      pyRound 8 (if 0 < raw.borrowedUsd then reserved / max 1 raw.borrowedUsd else 0)
    stateReady := raw.stateReady
    stateReasonCode := raw.stateReasonCode }

/-- The payload `_annotate_capital_commit` makes of a missing snapshot: nothing but the
commit id, so every field takes its default when it is adopted. -/
def StatePayload.bare (now : Int) : StatePayload where
  borrowedUsd := 0
  capacityUsd := none
  utilization := 0
  updatedTsMs := now
  inventory := Dict.empty
  familyExposure := Dict.empty
  loans := Dict.empty
  openLoans := []
  disputedLoans := []
  loanCount := 0
  disputedLoanCount := 0
  reservedCollateralUsd := 0
  collateralizationRatio := 0
  stateReady := true
  stateReasonCode := none

/-- The memory `adopt_state_payload` leaves, before the mirror files are written. -/
def adoptStatePayload (p : StatePayload) : PrimeState where
  borrowedUsd := p.borrowedUsd
  capacityUsd := parseCapacityUsd p.capacityUsd
  familyExposure := p.familyExposure
  loans := p.loans
  inventory := p.inventory
  utilization := utilizationAt p.borrowedUsd ((parseCapacityUsd p.capacityUsd).getD 0)
  updatedTsMs := p.updatedTsMs
  stateReady := p.stateReady
  stateReasonCode := p.stateReasonCode

/-! ## Sums over the active loans -/

/-- An amount of a loan that is active and satisfies `p`. -/
def activeAmount (p : Loan → Bool) (amount : Loan → Usd) (_ : String) (loan : Loan) : Usd :=
  if loan.active && p loan then amount loan else 0

def activeTotal (loans : Dict String Loan) : Usd :=
  Dict.sumBy (activeAmount (fun _ => true) Loan.notionalUsd) loans

def activeFamilyTotal (family : String) (loans : Dict String Loan) : Usd :=
  Dict.sumBy (activeAmount (fun loan => loan.family == family) Loan.notionalUsd) loans

def reservedTotal (asset : String) (loans : Dict String Loan) : Usd :=
  Dict.sumBy (activeAmount (fun loan => loan.asset == asset) Loan.collateralReservedUsd) loans

/-! ## Fields of the operations -/

@[simp] theorem markUnavailable_toBook (s : PrimeState) (reason : PrimeReason) :
    (s.markUnavailable reason).toBook = s.toBook := rfl

@[simp] theorem clearUnavailable_toBook (s : PrimeState) : s.clearUnavailable.toBook = s.toBook :=
  rfl

theorem parseCapacityUsd_pos {value : Option ℚ} {c : ℚ} (h : parseCapacityUsd value = some c) :
    0 < c := by
  unfold parseCapacityUsd at h
  split at h
  · cases h
  · split at h
    · cases h
    · rename_i hpos
      cases h
      exact not_le.1 hpos

theorem parseCapacityUsd_of_pos {c : ℚ} (h : 0 < c) : parseCapacityUsd (some c) = some c := by
  unfold parseCapacityUsd
  simp only [if_neg (not_le.2 h)]

end SovereignCapital.Prime
