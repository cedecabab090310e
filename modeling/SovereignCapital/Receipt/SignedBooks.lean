import SovereignCapital.Receipt.Sync

/-! # Three books of one settlement

A settled receipt is accounted for three times: by the cash line of its transaction, by the
component entries `TreasuryLedger` projects from the transaction, and by the signed economics of
`MoneyLoopAccounting`. The three read different keys of the transaction. They agree with each
other always, and with what the trade really made or lost exactly when no clamp hides a loss.
-/

namespace SovereignCapital.Receipt

open Decimal Prime Capital

/-! ## The transaction -/

/-- The metadata of a settlement transaction. A number that is not there is absent, a text that
is not there is empty. -/
structure SettlementMetadata where
  entryType : String
  txHash : String
  status : Option Int
  routeId : String
  routeFamily : String
  strategyFamily : String
  family : String
  note : String
  asset : String
  amountInWei : Int
  realizedAfterGasWei : Int
  realizedProfitAfterGasWei : Int
  realizedAfterGasUsd : Option Usd
  gasCostUsd : Option Usd
  borrowCostUsd : Option Usd
  netRealizedUsd : Option Usd

/-- `LedgerTransaction.to_dict`. -/
structure TxPayload where
  transactionId : String
  tsMs : Int
  txType : String
  chain : String
  receiptId : String
  lines : List LedgerLine
  metadata : SettlementMetadata

/-- `tx_metadata` of `synchronize_settlement_accounting`. -/
def SyncCall.metadata (c : SyncCall) (realizedAfterUsd : Usd) : SettlementMetadata where
  entryType := ""
  txHash := c.txHash
  status := some c.status
  routeId := c.routeId
  routeFamily := c.routeFamily
  strategyFamily := c.strategyFamily
  family := ""
  note := ""
  asset := ""
  amountInWei := c.amountIn
  realizedAfterGasWei := if c.success then c.realizedAfter else 0
  realizedProfitAfterGasWei := if c.success then c.realizedAfter else 0
  realizedAfterGasUsd := some (pyRound 6 realizedAfterUsd)
  gasCostUsd := some (pyRound 6 c.decoded.gasCostUsd)
  borrowCostUsd := some (pyRound 6 c.pending.borrowCostUsd)
  netRealizedUsd := some (pyRound 6 (c.netRealizedUsd realizedAfterUsd))

/-- The transaction of a call; nothing where the profit in dollars is not known. -/
def SyncCall.transaction (c : SyncCall) (chain : String) : Option TxPayload :=
  (c.decoded.realizedAfterUsd c.status).map fun realizedAfterUsd =>
    { transactionId := c.stamp.txId
      tsMs := c.stamp.tsMs
      txType := "receipt_settlement"
      chain := chain
      receiptId := c.txHash
      lines := (c.receiptTx realizedAfterUsd).lines
      metadata := c.metadata realizedAfterUsd }

def TxPayload.cash (row : TxPayload) : Usd :=
  ((row.lines.filter fun line => line.account == "asset:USD").map LedgerLine.amount).sum

/-! ## The entries of the treasury ledger -/

/-- `LedgerEntry`. The role is the one its metadata adds. -/
structure LedgerEntry where
  tsMs : Int
  entryType : String
  asset : String
  amount : Usd
  chain : String
  family : String
  note : String
  transactionId : String
  receiptId : String
  settlementRole : String

def projectedEntryTypes : List String := ["realized_pnl", "borrow_cost", "settlement_loss"]

def simpleEntryFromTransaction (row : TxPayload) : Option LedgerEntry :=
  let entryType := firstText [row.metadata.entryType, row.txType]
  if entryType ∉ projectedEntryTypes then none
  else
    (row.lines.find? fun line =>
        !("equity:".toList.isPrefixOf line.account.toList) && line.asset != "").map fun line =>
      { tsMs := row.tsMs
        entryType := entryType
        asset := firstText [row.metadata.asset, line.asset]
        amount := line.amount
        chain := row.chain
        family := firstText [row.metadata.family, line.family]
        note := firstText [row.metadata.note, line.note, entryType]
        transactionId := row.transactionId
        receiptId := row.receiptId
        settlementRole := "" }

/-- `_append`: an amount next to nothing is no entry. -/
def componentEntry (row : TxPayload) (entryType : String) (amount : Usd)
    (noteSuffix role : String) : List LedgerEntry :=
  if |amount| ≤ 1 / 10 ^ 12 then []
  else
    let routeKey := firstText
      [row.metadata.routeId, row.metadata.txHash, row.receiptId, row.transactionId]
    let notePrefix :=
      if routeKey = "" then "receipt_settlement" else "receipt_settlement:" ++ routeKey
    [{ tsMs := row.tsMs
       entryType := entryType
       asset := "USD"
       amount := amount
       chain := row.chain
       family := firstText [row.metadata.strategyFamily, row.metadata.family]
       note := notePrefix ++ ":" ++ noteSuffix
       transactionId := row.transactionId
       receiptId := row.receiptId
       settlementRole := role }]

def receiptComponentEntries (row : TxPayload) : List LedgerEntry :=
  if row.txType ≠ "receipt_settlement" then []
  else
    let status := row.metadata.status.getD 0
    let realizedAfterGasUsd := row.metadata.realizedAfterGasUsd.getD 0
    let borrowCostUsd := row.metadata.borrowCostUsd.getD 0
    let gasCostUsd := row.metadata.gasCostUsd.getD 0
    (if status = 1 ∧ 0 < realizedAfterGasUsd then
        componentEntry row "realized_pnl" realizedAfterGasUsd "realized_after_gas_usd"
          "realized_pnl"
      else [])
    ++ (if status ≠ 1 ∧ 0 < gasCostUsd then
        componentEntry row "settlement_loss" (-|gasCostUsd|) "gas_loss_usd" "settlement_loss"
      else [])
    ++ (if 0 < borrowCostUsd then
        componentEntry row "borrow_cost" (-|borrowCostUsd|) "borrow_cost_usd" "borrow_cost"
      else [])

def projectedEntryRows (rows : List TxPayload) : List LedgerEntry :=
  rows.flatMap fun row =>
    match simpleEntryFromTransaction row with
    | some entry => [entry]
    | none => receiptComponentEntries row

/-! ## The signed economics -/

structure SettledReceiptEconomics where
  receiptId : String
  transactionId : String
  status : Int
  amountInWei : Int
  realizedAfterGasWei : Int
  realizedAfterGasUsd : Usd
  gasCostUsd : Usd
  borrowCostUsd : Usd
  signedPnlUsd : Usd
  success : Bool

def fromSettlementPayload (row : TxPayload) (receiptId : String) : SettledReceiptEconomics :=
  let status := row.metadata.status.getD 0
  let realizedAfterGasUsd := row.metadata.realizedAfterGasUsd.getD 0
  let gasCostUsd := row.metadata.gasCostUsd.getD 0
  let borrowCostUsd := row.metadata.borrowCostUsd.getD 0
  let signedPnlUsd :=
    match row.metadata.netRealizedUsd with
    | none => realizedAfterGasUsd - borrowCostUsd - if status ≠ 1 then gasCostUsd else 0
    | some net => net
  { receiptId := firstText [row.receiptId, receiptId]
    transactionId := row.transactionId
    status := status
    amountInWei := row.metadata.amountInWei
    realizedAfterGasWei :=
      intOr row.metadata.realizedAfterGasWei row.metadata.realizedProfitAfterGasWei
    realizedAfterGasUsd := pyRound 8 realizedAfterGasUsd
    gasCostUsd := pyRound 8 gasCostUsd
    borrowCostUsd := pyRound 8 borrowCostUsd
    signedPnlUsd := pyRound 8 signedPnlUsd
    success := status == 1 }

/-! ## What the books say -/

/-- Equal up to the rounding to `n` decimals. -/
def Near (n : Nat) (x y : ℚ) : Prop := |x - y| ≤ 1 / 2 / 10 ^ n

theorem near_pyRound (n : Nat) (x : ℚ) : Near n (pyRound n x) x := abs_pyRound_sub n x

structure BookedAt (row : TxPayload) (netUsd : Usd) : Prop where
  cash : Near 8 row.cash netUsd
  entries : Near 6 ((projectedEntryRows [row]).map LedgerEntry.amount).sum netUsd
  economics : Near 6 (fromSettlementPayload row row.receiptId).signedPnlUsd netUsd

/-- A number of six decimals is an entry of its own amount, or none when it is zero. -/
theorem sum_componentEntry {x : ℚ} (hdec : Dec 6 x) (row : TxPayload) (sign : ℚ)
    (hsign : sign = 1 ∨ sign = -1) (entryType noteSuffix role : String) :
    ((if 0 < x then componentEntry row entryType (sign * x) noteSuffix role else []).map
        LedgerEntry.amount).sum = sign * max 0 x := by
  by_cases hpos : 0 < x
  · have hunit : (1 : ℚ) / 10 ^ 6 ≤ x := hdec.one_le_of_pos hpos
    have habs : |sign * x| = x := by
      rcases hsign with rfl | rfl
      · rw [one_mul, abs_of_pos hpos]
      · rw [neg_one_mul, abs_neg, abs_of_pos hpos]
    have hlarge : ¬ |sign * x| ≤ 1 / 10 ^ 12 := by
      rw [habs]
      have hlt : (1 : ℚ) / 10 ^ 12 < 1 / 10 ^ 6 := by norm_num
      exact not_le.2 (lt_of_lt_of_le hlt hunit)
    rw [if_pos hpos, componentEntry, if_neg hlarge, max_eq_right hpos.le]
    simp
  · rw [if_neg hpos, max_eq_left (not_lt.1 hpos)]
    simp

theorem projectedEntryRows_settlement {row : TxPayload} (htype : row.txType = "receipt_settlement")
    (hentry : row.metadata.entryType = "") :
    projectedEntryRows [row] = receiptComponentEntries row := by
  have hsimple : simpleEntryFromTransaction row = none := by
    unfold simpleEntryFromTransaction
    rw [hentry, htype]
    exact if_pos (by decide)
  simp [projectedEntryRows, hsimple]

/-- The sum of the components: what the metadata says was made, less what it says was paid. -/
theorem sum_receiptComponentEntries {row : TxPayload} (htype : row.txType = "receipt_settlement")
    {status : Int} {realized gas borrow : Usd} (hstatus : row.metadata.status = some status)
    (hrealized : row.metadata.realizedAfterGasUsd = some realized) (hrealizedDec : Dec 6 realized)
    (hgas : row.metadata.gasCostUsd = some gas) (hgasDec : Dec 6 gas)
    (hborrow : row.metadata.borrowCostUsd = some borrow) (hborrowDec : Dec 6 borrow) :
    ((receiptComponentEntries row).map LedgerEntry.amount).sum
      = (if status = 1 then max 0 realized else -max 0 gas) - max 0 borrow := by
  have hnegAbs : ∀ x : ℚ, 0 < x → -|x| = -1 * x := fun x hx => by rw [abs_of_pos hx, neg_one_mul]
  have hborrowSum := sum_componentEntry hborrowDec row (-1) (.inr rfl) "borrow_cost"
    "borrow_cost_usd" "borrow_cost"
  have hgasSum := sum_componentEntry hgasDec row (-1) (.inr rfl) "settlement_loss"
    "gas_loss_usd" "settlement_loss"
  have hrealizedSum := sum_componentEntry hrealizedDec row 1 (.inl rfl) "realized_pnl"
    "realized_after_gas_usd" "realized_pnl"
  have hborrowIf : (if 0 < borrow then
        componentEntry row "borrow_cost" (-|borrow|) "borrow_cost_usd" "borrow_cost" else [])
      = if 0 < borrow then
        componentEntry row "borrow_cost" (-1 * borrow) "borrow_cost_usd" "borrow_cost" else [] := by
    split
    · rename_i hpos
      rw [hnegAbs borrow hpos]
    · rfl
  have hgasIf : (if 0 < gas then
        componentEntry row "settlement_loss" (-|gas|) "gas_loss_usd" "settlement_loss" else [])
      = if 0 < gas then
        componentEntry row "settlement_loss" (-1 * gas) "gas_loss_usd" "settlement_loss"
        else [] := by
    split
    · rename_i hpos
      rw [hnegAbs gas hpos]
    · rfl
  simp only [receiptComponentEntries, htype, hstatus, hrealized, hgas, hborrow, Option.getD_some,
    ne_eq, not_true, if_false, List.map_append, List.sum_append, hborrowIf, hborrowSum]
  by_cases hone : status = 1
  · simp only [hone, true_and, not_true, false_and, if_true, if_false, List.map_nil, List.sum_nil]
    rw [one_mul] at hrealizedSum
    rw [hrealizedSum]
    ring
  · simp only [hone, false_and, not_false_eq_true, true_and, if_false, List.map_nil, List.sum_nil,
      hgasIf, hgasSum]
    ring

/-! ## Explicit receipts -/

/-- A call whose receipt says its profit after gas and its gas cost in micro dollars. -/
def SyncCall.withReceipt (c : SyncCall) (afterGasMicro gasMicro gasWei : Int) : SyncCall :=
  { c with decoded := ⟨.digits afterGasMicro, .digits gasMicro, gasWei⟩ }

/-- What the trade made or lost. -/
def SyncCall.trueNetUsd (c : SyncCall) (afterGasMicro gasMicro : Int) : Usd :=
  (if c.status = 1 then (afterGasMicro : Usd) / 1000000 else -((gasMicro : Usd) / 1000000))
    - c.pending.borrowCostUsd

def SyncCall.clampedNetUsd (c : SyncCall) (afterGasMicro gasMicro : Int) : Usd :=
  (if c.status = 1 then max 0 ((afterGasMicro : Usd) / 1000000)
    else -max 0 ((gasMicro : Usd) / 1000000)) - c.pending.borrowCostUsd

theorem dec_micro (n : Int) : Dec 6 ((n : ℚ) / 1000000) := ⟨n, by norm_num⟩

theorem borrowCostUsd_nonneg (pending : Pending) : 0 ≤ pending.borrowCostUsd := by
  unfold Pending.borrowCostUsd
  cases pending.borrowCostsUsd.findSome? id with
  | none => exact le_refl _
  | some x => exact le_max_left 0 x

/-- **The books agree.** Whatever a receipt says, the three books say the clamped net. -/
theorem transaction_booked (c : SyncCall) (chain : String) (afterGasMicro gasMicro gasWei : Int) :
    ∃ row, (c.withReceipt afterGasMicro gasMicro gasWei).transaction chain = some row
      ∧ row.cash = pyRound 8 (c.clampedNetUsd afterGasMicro gasMicro)
      ∧ BookedAt row (c.clampedNetUsd afterGasMicro gasMicro) := by
  set called := c.withReceipt afterGasMicro gasMicro gasWei with hcalled
  have hborrowNonneg := borrowCostUsd_nonneg c.pending
  have hzero : Dec 6 (0 : ℚ) := dec_zero 6
  have hafterDec : Dec 6 (max 0 ((afterGasMicro : ℚ) / 1000000)) := hzero.max (dec_micro _)
  have hgasDec : Dec 6 (max 0 ((gasMicro : ℚ) / 1000000)) := hzero.max (dec_micro _)
  have hgasUsd : called.decoded.gasCostUsd = max 0 ((gasMicro : ℚ) / 1000000) := rfl
  -- The profit that is booked: none after a failure.
  obtain ⟨realized, hrealized, hrealizedDec, hrealizedEq⟩ :
      ∃ realized, called.decoded.realizedAfterUsd called.status = some realized ∧ Dec 6 realized
        ∧ realized = if c.status = 1 then max 0 ((afterGasMicro : ℚ) / 1000000) else 0 := by
    by_cases hone : c.status = 1
    · refine ⟨_, ?_, hafterDec, (if_pos hone).symm⟩
      exact if_neg (not_not.2 hone)
    · refine ⟨0, ?_, hzero, (if_neg hone).symm⟩
      exact if_pos hone
  have hnet : called.netRealizedUsd realized = c.clampedNetUsd afterGasMicro gasMicro := by
    have hsuccess : called.success = decide (c.status = 1) := rfl
    unfold SyncCall.netRealizedUsd SyncCall.clampedNetUsd
    rw [hrealizedEq, hgasUsd, hsuccess]
    show _ - c.pending.borrowCostUsd - _ = _
    by_cases hone : c.status = 1
    · simp [hone]
    · simp [hone]
      ring
  refine ⟨_, congrArg (Option.map _) hrealized, ?_, ?_, ?_, ?_⟩
  · simp [TxPayload.cash, SyncCall.receiptTx, hnet]
  · simpa [TxPayload.cash, SyncCall.receiptTx, hnet] using near_pyRound 8 _
  · rw [projectedEntryRows_settlement rfl rfl,
      sum_receiptComponentEntries rfl rfl rfl (dec_pyRound 6 _) rfl (dec_pyRound 6 _) rfl
        (dec_pyRound 6 _)]
    rw [hrealizedDec.pyRound_eq, hgasUsd, hgasDec.pyRound_eq]
    show Near 6 ((if c.status = 1 then max 0 realized else -max 0 (max 0 ((gasMicro : ℚ) / 1000000)))
      - max 0 (pyRound 6 c.pending.borrowCostUsd)) _
    rw [max_eq_right (pyRound_nonneg 6 hborrowNonneg)]
    have hround : |c.pending.borrowCostUsd - pyRound 6 c.pending.borrowCostUsd| ≤ 1 / 2 / 10 ^ 6 := by
      rw [abs_sub_comm]
      exact abs_pyRound_sub 6 _
    have hsplit : (if c.status = 1 then max 0 realized
          else -max 0 (max 0 ((gasMicro : ℚ) / 1000000))) - pyRound 6 c.pending.borrowCostUsd
          - c.clampedNetUsd afterGasMicro gasMicro
        = c.pending.borrowCostUsd - pyRound 6 c.pending.borrowCostUsd := by
      unfold SyncCall.clampedNetUsd
      rw [hrealizedEq, max_eq_right (le_max_left 0 _)]
      split
      · rw [max_eq_right (le_max_left 0 _)]
        ring
      · ring
    show |_ - _| ≤ _
    rw [← hsplit] at hround
    exact hround
  · show Near 6 (pyRound 8 (pyRound 6 (called.netRealizedUsd realized))) _
    rw [((dec_pyRound 6 _).of_le (by omega : 6 ≤ 8)).pyRound_eq, hnet]
    exact near_pyRound 6 _

/-- A clamp that takes away a whole micro dollar is seen at eight decimals. -/
theorem micro_nonneg_of_near (n : Int)
    (h : |max 0 ((n : ℚ) / 1000000) - (n : ℚ) / 1000000| ≤ 1 / 10 ^ 8) : 0 ≤ n := by
  by_contra hneg
  have hle : (n : ℚ) ≤ -1 := by exact_mod_cast (by omega : n ≤ -1)
  have hmicro : (n : ℚ) / 1000000 ≤ -1 / 1000000 := div_le_div_of_nonneg_right hle (by norm_num)
  have hmax : max 0 ((n : ℚ) / 1000000) = 0 := max_eq_left (by linarith)
  rw [hmax, zero_sub, abs_neg, abs_of_nonpos (by linarith)] at h
  norm_num at h
  linarith

/-- **A loss is hidden exactly by a clamp.** Where a receipt says its profit and its gas, the three
books say the true net exactly when a success made no loss after gas and the gas of a failure is
not negative. -/
theorem booked_iff (c : SyncCall) (chain : String) (afterGasMicro gasMicro gasWei : Int) :
    (∃ row, (c.withReceipt afterGasMicro gasMicro gasWei).transaction chain = some row
        ∧ BookedAt row (c.trueNetUsd afterGasMicro gasMicro))
      ↔ (c.status = 1 → 0 ≤ afterGasMicro) ∧ (c.status ≠ 1 → 0 ≤ gasMicro) := by
  obtain ⟨row, hrow, hcash, hbooked⟩ := transaction_booked c chain afterGasMicro gasMicro gasWei
  have hmicro : ∀ n : Int, (0 : ℚ) ≤ (n : ℚ) / 1000000 ↔ 0 ≤ n := fun n => by
    rw [le_div_iff₀ (by norm_num), zero_mul]
    exact_mod_cast Iff.rfl
  have hclamp : ∀ n : Int, max 0 ((n : ℚ) / 1000000) = n / 1000000 ↔ 0 ≤ n := fun n => by
    rw [max_eq_right_iff, hmicro]
  constructor
  · rintro ⟨row', hrow', hbooked'⟩
    rw [hrow] at hrow'
    obtain rfl : row = row' := Option.some.inj hrow'
    -- The two nets are as near as the cash line is to both.
    have hnear : |c.clampedNetUsd afterGasMicro gasMicro - c.trueNetUsd afterGasMicro gasMicro|
        ≤ 1 / 10 ^ 8 := by
      have hleft : |row.cash - c.clampedNetUsd afterGasMicro gasMicro| ≤ 1 / 2 / 10 ^ 8 :=
        hbooked.cash
      have hright : |row.cash - c.trueNetUsd afterGasMicro gasMicro| ≤ 1 / 2 / 10 ^ 8 :=
        hbooked'.cash
      rw [abs_le] at hleft hright ⊢
      constructor <;> linarith [hleft.1, hleft.2, hright.1, hright.2]
    constructor
    · intro hone
      refine micro_nonneg_of_near afterGasMicro ?_
      simpa only [SyncCall.clampedNetUsd, SyncCall.trueNetUsd, if_pos hone, sub_sub_sub_cancel_right]
        using hnear
    · intro hone
      refine micro_nonneg_of_near gasMicro ?_
      rw [abs_sub_comm] at hnear
      simpa only [SyncCall.clampedNetUsd, SyncCall.trueNetUsd, if_neg hone, sub_sub_sub_cancel_right,
        neg_sub_neg] using hnear
  · rintro ⟨hsuccess, hfailure⟩
    have hnet : c.clampedNetUsd afterGasMicro gasMicro = c.trueNetUsd afterGasMicro gasMicro := by
      unfold SyncCall.clampedNetUsd SyncCall.trueNetUsd
      by_cases hone : c.status = 1
      · rw [if_pos hone, if_pos hone, (hclamp _).2 (hsuccess hone)]
      · rw [if_neg hone, if_neg hone, (hclamp _).2 (hfailure hone)]
    exact ⟨row, hrow, hnet ▸ hbooked⟩

def plainSuccess : SyncCall where
  txHash := "0x1"
  pending := ⟨[], [], [], [], "", "", "", ⟨"", "", false, false, 0⟩⟩
  decoded := ⟨.missing, .missing, 0⟩
  status := 1
  amountIn := 1000
  realizedAfter := 0
  submitToReceiptMs := 0
  routeId := "r"
  routeFamily := ""
  strategyFamily := ""
  captureLanePending := ""
  outcomeTruthVerified := true
  outcomeTruthReasonCode := "ok"
  stamp := ⟨"t", 1⟩
  clock := ⟨1, ⟨"t2", 1⟩, ⟨"t3", 1⟩, "l"⟩

/-- A trade whose gas exceeded its profit by half a dollar is booked at zero. -/
theorem loss_booked_at_zero :
    plainSuccess.trueNetUsd (-500000) 700000 = -1 / 2
      ∧ ¬ ∃ row, (plainSuccess.withReceipt (-500000) 700000 0).transaction "eth" = some row
          ∧ BookedAt row (plainSuccess.trueNetUsd (-500000) 700000) := by
  have hnet : plainSuccess.trueNetUsd (-500000) 700000 = -1 / 2 := by
    norm_num [SyncCall.trueNetUsd, plainSuccess, Pending.borrowCostUsd]
  have hclamped : plainSuccess.clampedNetUsd (-500000) 700000 = 0 := by
    norm_num [SyncCall.clampedNetUsd, plainSuccess, Pending.borrowCostUsd]
  refine ⟨hnet, ?_⟩
  rintro ⟨row, hrow, hbooked⟩
  obtain ⟨row', hrow', hcash, -⟩ := transaction_booked plainSuccess "eth" (-500000) 700000 0
  rw [hrow] at hrow'
  obtain rfl : row = row' := Option.some.inj hrow'
  have hnear := hbooked.cash
  rw [hcash, hclamped, hnet, pyRound_zero] at hnear
  norm_num [Near] at hnear

end SovereignCapital.Receipt
