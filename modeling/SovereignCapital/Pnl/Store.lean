import SovereignCapital.Executor.Contract
import SovereignCapital.Tx.Confirmation
import SovereignCapital.Lib.Dict

/-! # The event of an arbitrage

The executor contract emits `ArbExecuted` when a loan is settled; `executor_events.py` reads the
log again. The route and the token are indexed and stand in the topics, the other three values
are the ABI words of the data.
-/

namespace SovereignCapital.Pnl

open Bytes Abi Executor

/-! ## What the contract emits -/

/-- `emit ArbExecuted(routeId, borrowToken, amountBorrow, profit, provider)`. -/
structure ArbExecuted where
  routeId : Word
  token : Address
  amountBorrowed : Word
  profit : Word
  provider : Byte

def arbExecutedSig : Text := "ArbExecuted(bytes32,address,uint256,uint256,uint8)".toList

def arbExecutedTopic0 : Text := topic0 arbExecutedSig

def ArbExecuted.data (e : ArbExecuted) : List Byte :=
  wordBytes e.amountBorrowed ++ wordBytes e.profit ++ (List.replicate 31 0 ++ [e.provider])

def arbLog (contract : SpelledAddress) (e : ArbExecuted) : Tx.Log where
  address := contract.text
  topics := [arbExecutedTopic0, with0x (toHex (wordBytes e.routeId)), with0x (toHex e.token.word)]
  data := with0x (toHex e.data)

/-! ## What the store reads -/

/-- The event as `decode_arb_executed` returns it. -/
structure DecodedArb where
  routeId : Text
  token : Text
  amountBorrowed : Nat
  profit : Nat
  provider : Nat
deriving DecidableEq

def stripped0x (t : Text) : Text := (strip0x t).getD t

def addrFromTopic (t : Text) : Text :=
  let h := stripped0x t
  let h := if h.length ≠ 64 then pyRjust 64 '0' h else h
  with0x (h.drop (h.length - 40))

/-- `log.get("data") or "0x"`. -/
def dataOf (log : Tx.Log) : Text := if log.data = [] then "0x".toList else log.data

def decodeArbExecuted (log : Tx.Log) : Option DecodedArb :=
  match log.topics with
  | t0 :: t1 :: t2 :: _ =>
    if pyLower t0 = pyLower arbExecutedTopic0 then do
      let data ← fromHex (stripped0x (dataOf log))
      if data.length < 96 then none
      else
        some {
          routeId := with0x (pyRjust 64 '0' (stripped0x t1))
          token := addrFromTopic t2
          amountBorrowed := beNat (data.take 32)
          profit := beNat ((data.drop 32).take 32)
          provider := beNat ((data.drop 64).take 32) % 256 }
    else none
  | _ => none

/-! ## The log is read exactly -/

@[simp] theorem stripped0x_with0x (t : Text) : stripped0x (with0x t) = t := by
  rw [stripped0x, strip0x_with0x, Option.getD_some]

theorem length_toHex_word {ws : List Byte} (h : ws.length = 32) : (toHex ws).length = 64 := by
  rw [length_toHex, h]

theorem addrFromTopic_word (a : Address) : addrFromTopic (with0x (toHex a.word)) = a.text := by
  have hlen : (toHex a.word).length = 64 := length_toHex_word a.length_word
  simp only [addrFromTopic, stripped0x_with0x, hlen, ne_eq, not_true_eq_false, if_false]
  rw [show 64 - 40 = 24 from rfl, toHex_word_drop]
  rfl

theorem pyRjust_word {ws : List Byte} (h : ws.length = 32) : pyRjust 64 '0' (toHex ws) = toHex ws := by
  rw [pyRjust, length_toHex_word h]
  rfl

theorem length_data (e : ArbExecuted) : e.data.length = 96 := by
  simp [ArbExecuted.data]

/-- **The event is read as it was emitted.** -/
theorem decodeArbExecuted_arbLog (contract : SpelledAddress) (e : ArbExecuted) :
    decodeArbExecuted (arbLog contract e) = some {
      routeId := with0x (toHex (wordBytes e.routeId))
      token := e.token.text
      amountBorrowed := e.amountBorrowed.val
      profit := e.profit.val
      provider := e.provider.val } := by
  have hdata : dataOf (arbLog contract e) = with0x (toHex e.data) :=
    if_neg (List.cons_ne_nil _ _)
  have hamount : e.data.take 32 = wordBytes e.amountBorrowed := by
    rw [ArbExecuted.data, List.append_assoc]
    exact List.take_left' (length_wordBytes _)
  have hprofit : (e.data.drop 32).take 32 = wordBytes e.profit := by
    rw [ArbExecuted.data, List.append_assoc, List.drop_left' (length_wordBytes _)]
    exact List.take_left' (length_wordBytes _)
  have hprovider : (e.data.drop 64).take 32 = List.replicate 31 0 ++ [e.provider] := by
    rw [ArbExecuted.data, List.drop_left' (by simp)]
    exact List.take_of_length_le (by simp)
  have hbyte : beNat (List.replicate 31 (0 : Byte) ++ [e.provider]) = e.provider.val := by
    rw [beNat_replicate_zero_append]
    simp [beNat]
  unfold decodeArbExecuted
  rw [hdata, stripped0x_with0x, fromHex_toHex]
  simp only [arbLog, if_true, Option.bind_eq_bind, Option.bind_some, length_data, lt_irrefl, if_false, hamount,
    hprofit, hprovider, hbyte, beNat_wordBytes, stripped0x_with0x, addrFromTopic_word,
    pyRjust_word (length_wordBytes _), Nat.mod_eq_of_lt e.provider.isLt]

theorem decodeArbExecuted_eq_none {log : Tx.Log}
    (h : ∀ t ∈ log.topics.head?, pyLower t ≠ arbExecutedTopic0) : decodeArbExecuted log = none := by
  unfold decodeArbExecuted
  split
  · rename_i t0 t1 t2 rest htopics
    have hother : pyLower t0 ≠ pyLower arbExecutedTopic0 := by
      rw [arbExecutedTopic0, topic0, pyLower_with0x_toHex]
      exact h t0 (by rw [htopics]; rfl)
    rw [if_neg hother]
  · rfl

end SovereignCapital.Pnl

/-! # The store of profits and losses

`PnLStore`: a table with a row for each trade. The receipt of a transaction is written to the rows
of the transaction; `summary` adds up the last rows and is cached until the next write. Amounts are
kept as texts.
-/

namespace SovereignCapital.Pnl

open Bytes Abi

/-! ## Receipts -/

/-- The fields of a receipt that are read. A quantity is a text or missing. -/
structure RawReceipt where
  status : Option Text
  gasUsed : Option Text
  effectiveGasPrice : Option Text
  gasPrice : Option Text
  logs : List Tx.Log

structure Costs where
  realizedGasCostInProfitTokenWei : Option Int
  realizedProfitUsdMicro : Option Int
  realizedGasCostUsdMicro : Option Int
  realizedProfitAfterGasUsdMicro : Option Int

/-- The columns that a receipt fills; nothing stands for NULL. -/
structure Columns where
  receiptStatus : Option Int
  gasUsed : Option Int
  effectiveGasPriceWei : Option Text
  realizedGasCostWei : Option Text
  realizedGasCostInProfitTokenWei : Option Text
  realizedProfitAfterGasWei : Option Text
  realizedProfitToken : Option Text
  realizedProfitTokenWei : Option Text
  realizedProvider : Option Nat
  realizedProfitUsdMicro : Option Text
  realizedGasCostUsdMicro : Option Text
  realizedProfitAfterGasUsdMicro : Option Text
deriving DecidableEq

def Columns.null : Columns :=
  ⟨none, none, none, none, none, none, none, none, none, none, none, none⟩

/-- `int(h, 16) if isinstance(h, str) else None`; nothing where it raises. -/
def readQuantity : Option Text → Option (Option Int)
  | none => some none
  | some t => (pyInt 16 t).map some

/-- `a or b` of two optional texts. -/
def orText (a b : Option Text) : Option Text := if a = none ∨ a = some [] then b else a

def FitsInteger (n : Option Int) : Prop := ∀ m ∈ n, -2 ^ 63 ≤ m ∧ m < 2 ^ 63

instance (n : Option Int) : Decidable (FitsInteger n) :=
  match n with
  | none => .isTrue (by intro m hm; cases hm)
  | some n => decidable_of_iff (-2 ^ 63 ≤ n ∧ n < 2 ^ 63) (by simp [FitsInteger])

def executorEvent (executorAddress : Text) (logs : List Tx.Log) : Option DecodedArb :=
  if executorAddress = [] then none
  else
    logs.findSome? fun log =>
      if pyLower log.address = pyLower executorAddress then decodeArbExecuted log else none

/-- The gas in units of the profit token: given, or the gas itself for the wrapped native token. -/
def gasInProfitToken (chainWeth : Text) (given : Option Int) (gasCost : Int) (ev : DecodedArb) :
    Option Int :=
  match given with
  | some gas => some gas
  | none =>
    if chainWeth ≠ [] ∧ pyLower ev.token = pyLower chainWeth then some gasCost else none

def gasCostOf (gasUsed eff : Option Int) : Int := gasUsed.getD 0 * eff.getD 0

/-- The columns from the quantities and the event of a receipt. -/
def fill (chainWeth : Text) (c : Costs) (status gasUsed eff : Option Int) (ev : Option DecodedArb) :
    Columns :=
  let inProfit := ev.bind
    (gasInProfitToken chainWeth c.realizedGasCostInProfitTokenWei (gasCostOf gasUsed eff))
  { receiptStatus := status
    gasUsed := gasUsed
    effectiveGasPriceWei := some (pyDecimal (eff.getD 0))
    realizedGasCostWei := some (pyDecimal (gasCostOf gasUsed eff))
    realizedGasCostInProfitTokenWei := inProfit.map pyDecimal
    realizedProfitAfterGasWei :=
      ev.bind fun ev => inProfit.map fun gas => pyDecimal (max 0 (ev.profit - gas))
    realizedProfitToken := ev.map DecodedArb.token
    realizedProfitTokenWei := ev.map fun ev => pyDecimal ev.profit
    realizedProvider := ev.map DecodedArb.provider
    realizedProfitUsdMicro := c.realizedProfitUsdMicro.map pyDecimal
    realizedGasCostUsdMicro := c.realizedGasCostUsdMicro.map pyDecimal
    realizedProfitAfterGasUsdMicro := c.realizedProfitAfterGasUsdMicro.map pyDecimal }

/-- What `update_receipt` writes; nothing where it raises. -/
def columns (executorAddress chainWeth : Text) (r : RawReceipt) (c : Costs) : Option Columns := do
  let status ← readQuantity r.status
  let gasUsed ← readQuantity r.gasUsed
  let eff ← readQuantity (orText r.effectiveGasPrice r.gasPrice)
  guard (FitsInteger status ∧ FitsInteger gasUsed)
  return fill chainWeth c status gasUsed eff (executorEvent executorAddress r.logs)

/-! ## Rows -/

/-- When a trade was made, in the order of the table. -/
structure Trade where
  id : Nat
  ts : Int
  txHash : Option Text
deriving DecidableEq

/-- A row as it is added. -/
structure NewTrade where
  ts : Int
  txHash : Option Text
  dryRun : Bool
  ok : Bool
  expectedProfitAfterCostsWei : Text
  fits : FitsInteger (some ts)

structure Row where
  trade : Trade
  dryRun : Bool
  ok : Bool
  expectedProfitAfterCostsWei : Text
  receipt : Columns

/-- `INSERT INTO trades`. -/
def insertTrade (rows : List Row) (t : NewTrade) : List Row :=
  rows ++ [{
    trade := ⟨rows.length + 1, t.ts, t.txHash⟩
    dryRun := t.dryRun
    ok := t.ok
    expectedProfitAfterCostsWei := t.expectedProfitAfterCostsWei
    receipt := Columns.null }]

/-- `UPDATE trades SET … WHERE tx_hash=?`. -/
def updateRows (rows : List Row) (txHash : Text) (cols : Columns) : List Row :=
  rows.map fun row => if row.trade.txHash = some txHash then { row with receipt := cols } else row

/-! ## Summaries -/

/-- `ORDER BY ts DESC, id DESC`. -/
def Trade.Newer (a b : Trade) : Prop := b.ts < a.ts ∨ b.ts = a.ts ∧ b.id ≤ a.id

instance : DecidableRel Trade.Newer := fun _ _ => by unfold Trade.Newer; infer_instance

/-- `LIMIT`: a negative one takes every row. -/
def limit {α : Type} (window : Int) (rows : List α) : List α :=
  if window < 0 then rows else rows.take window.toNat

def lastRows (rows : List Row) (window : Int) : List Row :=
  limit window (rows.insertionSort fun a b => a.trade.Newer b.trade)

def safeInt (t : Text) : Int := (pyInt 10 (if t = [] then ['0'] else t)).getD 0

/-- What a nullable column of amounts adds to a total. -/
def amount (t : Option Text) : Int := (t.map safeInt).getD 0

/-- The rates, which are rounded floats, are left out. -/
structure Summary where
  n : Nat
  succeeded : Nat
  expectedProfitAfterCostsWei : Text
  realizedProfitAfterGasWei : Text
  realizedProfitAfterGasUsdMicro : Text
deriving DecidableEq

def Row.succeeded (row : Row) : Bool :=
  row.receipt.receiptStatus == some 1
    || (row.receipt.receiptStatus == none && row.dryRun && row.ok)

def Row.realizedWei (row : Row) : Int := amount row.receipt.realizedProfitAfterGasWei

def Row.realizedUsdMicro (row : Row) : Int := amount row.receipt.realizedProfitAfterGasUsdMicro

def summarize (rows : List Row) : Summary where
  n := rows.length
  succeeded := rows.countP Row.succeeded
  expectedProfitAfterCostsWei :=
    pyDecimal (rows.map fun row => safeInt row.expectedProfitAfterCostsWei).sum
  realizedProfitAfterGasWei := pyDecimal (rows.map Row.realizedWei).sum
  realizedProfitAfterGasUsdMicro := pyDecimal (rows.map Row.realizedUsdMicro).sum

/-! ## The store -/

structure Store where
  rows : List Row
  cache : Dict Int Summary

namespace Store

def addTrade (s : Store) (t : NewTrade) : Store := ⟨insertTrade s.rows t, Dict.empty⟩

def updateReceipt (s : Store) (executorAddress chainWeth txHash : Text) (r : RawReceipt)
    (c : Costs) : Store :=
  match columns executorAddress chainWeth r c with
  | none => s
  | some cols => ⟨updateRows s.rows txHash cols, Dict.empty⟩

/-- The summary and the cache after it; the flag is whether what is cached has expired. -/
def summary (s : Store) (window : Int) (expired : Bool) : Summary × Store :=
  match if expired then none else s.cache.get? window with
  | some out => (out, s)
  | none =>
    let out := summarize (lastRows s.rows window)
    (out, { s with cache := s.cache.set window out })

end Store

/-! ## Lemmas -/

theorem safeInt_pyDecimal (n : Int) : safeInt (pyDecimal n) = n := by
  rw [safeInt, if_neg (pyDecimal_ne_nil n), pyInt_pyDecimal]
  rfl

theorem amount_map_pyDecimal (n : Option Int) : amount (n.map pyDecimal) = n.getD 0 := by
  cases n with
  | none => rfl
  | some n => exact safeInt_pyDecimal n

theorem map_trade_updateRows (rows : List Row) (txHash : Text) (cols : Columns) :
    (updateRows rows txHash cols).map Row.trade = rows.map Row.trade := by
  rw [updateRows, List.map_map]
  refine List.map_congr_left fun row _ => ?_
  by_cases h : row.trade.txHash = some txHash
  · simp [h]
  · simp [h]

theorem map_limit {α β : Type} (f : α → β) (window : Int) (rows : List α) :
    (limit window rows).map f = limit window (rows.map f) := by
  unfold limit
  split_ifs
  · rfl
  · rw [List.map_take]

theorem map_trade_lastRows (rows : List Row) (window : Int) :
    (lastRows rows window).map Row.trade
      = limit window ((rows.map Row.trade).insertionSort Trade.Newer) := by
  rw [lastRows, map_limit]
  congr 1
  exact List.map_insertionSort _ _ Row.trade rows fun _ _ _ _ => Iff.rfl

theorem mem_lastRows_all (rows : List Row) (row : Row) :
    row ∈ rows.insertionSort (fun a b => a.trade.Newer b.trade) ↔ row ∈ rows :=
  (List.perm_insertionSort _ rows).mem_iff

end SovereignCapital.Pnl
