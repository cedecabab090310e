import SovereignCapital.Lib.LastRows
import SovereignCapital.Lib.Runs
import SovereignCapital.Pnl.Store

/-! # Realised profits as the chain tells them

A receipt of the executor contract says what a trade has earned: the profit of its event less the
gas, which may be negative. The store writes the event down exactly, but nothing below zero, and a
receipt that arrives before its trade is lost. Otherwise every summary adds up what the latest
receipts of the last trades say.
-/

namespace SovereignCapital.Pnl

open Bytes Abi Executor Runs

/-! ## Receipts of the chain -/

structure Quantity where
  text : Text
  value : Int
  reads : pyInt 16 text = some value

def Foreign (executor : SpelledAddress) (log : Tx.Log) : Prop :=
  pyLower log.address ≠ executor.address.text
    ∨ ∀ t ∈ log.topics.head?, pyLower t ≠ arbExecutedTopic0

/-- A mined receipt. The event of the executor, if there is one, stands among other logs; `spelling`
is the text its address is reported as. -/
structure Mined (executor : SpelledAddress) where
  status : Quantity
  gasUsed : Quantity
  gasPrice : Quantity
  status_fits : FitsInteger (some status.value)
  gasUsed_fits : FitsInteger (some gasUsed.value)
  event : Option ArbExecuted
  spelling : SpelledAddress
  spelling_eq : spelling.address = executor.address
  before : List Tx.Log
  after : List Tx.Log
  foreign : ∀ log ∈ before ++ after, Foreign executor log

namespace Mined

variable {executor : SpelledAddress} (m : Mined executor)

def raw : RawReceipt where
  status := some m.status.text
  gasUsed := some m.gasUsed.text
  effectiveGasPrice := some m.gasPrice.text
  gasPrice := none
  logs := m.before ++ (m.event.map (arbLog m.spelling)).toList ++ m.after

def gasCost : Int := m.gasUsed.value * m.gasPrice.value

/-- The gas in units of the profit token, where it is known. `weth` is the wrapped native token. -/
def gasInProfit (weth : Option SpelledAddress) (c : Costs) (e : ArbExecuted) : Option Int :=
  match c.realizedGasCostInProfitTokenWei with
  | some gas => some gas
  | none => if weth.map SpelledAddress.address = some e.token then some m.gasCost else none

/-- What the trade has earned, gas deducted. -/
def net (weth : Option SpelledAddress) (c : Costs) : Option Int :=
  m.event.bind fun e => (m.gasInProfit weth c e).map fun gas => e.profit.val - gas

end Mined

/-- `chain_weth`. -/
def wethText (weth : Option SpelledAddress) : Text := (weth.map SpelledAddress.text).getD []

structure Columns.Exact {executor : SpelledAddress} (weth : Option SpelledAddress)
    (m : Mined executor) (c : Costs) (cols : Columns) : Prop where
  token : cols.realizedProfitToken = m.event.map fun e => e.token.text
  profit : cols.realizedProfitTokenWei = m.event.map fun e => pyDecimal e.profit.val
  provider : cols.realizedProvider = m.event.map fun e => e.provider.val
  afterGas : cols.realizedProfitAfterGasWei = (m.net weth c).map pyDecimal

/-! ## What one receipt writes -/

section Receipt

variable {executor : SpelledAddress} (weth : Option SpelledAddress) (m : Mined executor)
  (c : Costs)

/-- An event as it is read. -/
def ArbExecuted.decoded (e : ArbExecuted) : DecodedArb where
  routeId := with0x (toHex (wordBytes e.routeId))
  token := e.token.text
  amountBorrowed := e.amountBorrowed.val
  profit := e.profit.val
  provider := e.provider.val

theorem spelled_ne_nil (s : SpelledAddress) : s.text ≠ [] := by
  intro h
  have hspells := s.spells
  rw [h] at hspells
  exact s.address.text_ne_nil hspells.symm

theorem read_foreign {log : Tx.Log} (h : Foreign executor log) :
    (if pyLower log.address = pyLower executor.text then decodeArbExecuted log else none) = none := by
  rcases h with haddress | htopic
  · rw [if_neg]
    rwa [executor.spells]
  · rw [decodeArbExecuted_eq_none htopic, ite_self]

theorem executorEvent_raw :
    executorEvent executor.text m.raw.logs = m.event.map ArbExecuted.decoded := by
  have hforeign : ∀ log ∈ m.before ++ m.after, (if pyLower log.address = pyLower executor.text then
      decodeArbExecuted log else none) = none := fun log hlog => read_foreign (m.foreign log hlog)
  rw [executorEvent, if_neg (spelled_ne_nil executor), Mined.raw, List.findSome?_append,
    List.findSome?_append]
  rw [List.findSome?_eq_none_iff.2 fun log hlog => hforeign log (List.mem_append_left _ hlog),
    List.findSome?_eq_none_iff.2 fun log hlog => hforeign log (List.mem_append_right _ hlog),
    Option.none_or, Option.or_none]
  cases m.event with
  | none => rfl
  | some e =>
    have hlower : pyLower (arbLog m.spelling e).address = pyLower executor.text := by
      rw [executor.spells, ← m.spelling_eq]
      exact m.spelling.spells
    simp only [Option.map_some, Option.toList_some, List.findSome?_cons, if_pos hlower,
      decodeArbExecuted_arbLog]
    rfl

/-- The wrapped native token is told by its address. -/
theorem gasInProfitToken_decoded (e : ArbExecuted) :
    gasInProfitToken (wethText weth) c.realizedGasCostInProfitTokenWei m.gasCost e.decoded
      = m.gasInProfit weth c e := by
  unfold gasInProfitToken Mined.gasInProfit
  cases c.realizedGasCostInProfitTokenWei with
  | some gas => rfl
  | none =>
    cases weth with
    | none => rfl
    | some w =>
      have hiff : (wethText (some w) ≠ [] ∧ pyLower e.decoded.token = pyLower (wethText (some w)))
          ↔ (some w).map SpelledAddress.address = some e.token := by
        have htext : wethText (some w) = w.text := rfl
        rw [htext, w.spells, Option.map_some, Option.some.injEq]
        constructor
        · rintro ⟨-, htoken⟩
          rw [ArbExecuted.decoded, pyLower_text] at htoken
          exact (Address.text_injective htoken).symm
        · intro hw
          refine ⟨spelled_ne_nil w, ?_⟩
          rw [ArbExecuted.decoded, pyLower_text, hw]
      simp only [hiff]

def Mined.filled : Columns :=
  fill (wethText weth) c (some m.status.value) (some m.gasUsed.value) (some m.gasPrice.value)
    (m.event.map ArbExecuted.decoded)

theorem columns_raw :
    columns executor.text (wethText weth) m.raw c = some (m.filled weth c) := by
  have hread : ∀ q : Quantity, readQuantity (some q.text) = some (some q.value) := by
    intro q
    rw [readQuantity, q.reads]
    rfl
  have hprice : orText m.raw.effectiveGasPrice m.raw.gasPrice = some m.gasPrice.text := by
    have hne : m.gasPrice.text ≠ [] := by
      intro h
      have hreads := m.gasPrice.reads
      rw [h] at hreads
      cases hreads
    simp [orText, Mined.raw, hne]
  have hstatus : readQuantity m.raw.status = some (some m.status.value) := hread _
  have hgas : readQuantity m.raw.gasUsed = some (some m.gasUsed.value) := hread _
  have hfits : FitsInteger (some m.status.value) ∧ FitsInteger (some m.gasUsed.value) :=
    ⟨m.status_fits, m.gasUsed_fits⟩
  simp only [columns, hprice, hstatus, hgas, hread, executorEvent_raw, Option.bind_eq_bind,
    Option.bind_some, guard, if_pos hfits]
  rfl

theorem filled_afterGas :
    (m.filled weth c).realizedProfitAfterGasWei
      = (m.net weth c).map fun n => pyDecimal (max 0 n) := by
  unfold Mined.net
  cases hevent : m.event with
  | none => simp [Mined.filled, fill, hevent]
  | some e =>
    have hgas : gasInProfitToken (wethText weth) c.realizedGasCostInProfitTokenWei
        (gasCostOf (some m.gasUsed.value) (some m.gasPrice.value)) e.decoded
        = m.gasInProfit weth c e := gasInProfitToken_decoded weth m c e
    simp only [Mined.filled, fill, hevent, Option.map_some, Option.bind_some, hgas,
      Option.map_map]
    rfl

/-- **What a receipt writes** is exact when the gas is not above the profit, and only then. -/
theorem exact_filled_iff :
    (m.filled weth c).Exact weth m c ↔ ∀ n, m.net weth c = some n → 0 ≤ n := by
  constructor
  · intro h n hn
    have hafter := h.afterGas
    rw [filled_afterGas, hn, Option.map_some, Option.map_some, Option.some.injEq] at hafter
    have hmax := pyDecimal_injective hafter
    omega
  · intro h
    refine ⟨?_, ?_, ?_, ?_⟩
    · simp only [Mined.filled, fill, Option.map_map]
      rfl
    · simp only [Mined.filled, fill, Option.map_map]
      rfl
    · simp only [Mined.filled, fill, Option.map_map]
      rfl
    · rw [filled_afterGas]
      cases hn : m.net weth c with
      | none => rfl
      | some n => rw [Option.map_some, Option.map_some, max_eq_right (h n hn)]

end Receipt

/-! ## Runs -/

/-- What the latest receipt of a transaction says. -/
structure Realised where
  wei : Option Int
  usdMicro : Option Int

inductive Call (executor : SpelledAddress) where
  | addTrade (t : NewTrade)
  | updateReceipt (txHash : Text) (m : Mined executor) (c : Costs)
  | summary (window : Int) (expired : Bool)

structure World where
  store : Store
  trades : List Trade
  receipts : Dict Text Realised

namespace World

variable {executor : SpelledAddress}

def start : World := ⟨⟨[], Dict.empty⟩, [], Dict.empty⟩

def step (weth : Option SpelledAddress) (w : World) : Call executor → World
  | .addTrade t =>
    { w with
      store := w.store.addTrade t
      trades := w.trades ++ [⟨w.trades.length + 1, t.ts, t.txHash⟩] }
  | .updateReceipt txHash m c =>
    { w with
      store := w.store.updateReceipt executor.text (wethText weth) txHash m.raw c
      receipts := w.receipts.set txHash ⟨m.net weth c, c.realizedProfitAfterGasUsdMicro⟩ }
  | .summary window expired => { w with store := (w.store.summary window expired).2 }

/-- What a transaction has earned by its latest receipt. -/
def earnedWei (w : World) (txHash : Option Text) : Int :=
  ((txHash.bind w.receipts.get?).bind Realised.wei).getD 0

def earnedUsdMicro (w : World) (txHash : Option Text) : Int :=
  ((txHash.bind w.receipts.get?).bind Realised.usdMicro).getD 0

def lastTrades (w : World) (window : Int) : List Trade :=
  limit window (w.trades.insertionSort Trade.Newer)

/-- The totals of a summary are those of the latest receipts. -/
def Right (w : World) (window : Int) (out : Summary) : Prop :=
  out.realizedProfitAfterGasWei
      = pyDecimal ((w.lastTrades window).map fun t => w.earnedWei t.txHash).sum
    ∧ out.realizedProfitAfterGasUsdMicro
      = pyDecimal ((w.lastTrades window).map fun t => w.earnedUsdMicro t.txHash).sum

/-- Every summary that is made of the rows now is right. -/
def Totals (w : World) : Prop :=
  ∀ window, w.Right window (summarize (lastRows w.store.rows window))

end World

section Steps

variable {executor : SpelledAddress} (weth : Option SpelledAddress)

/-- What a call should do. -/
def StepSound (w : World) (call : Call executor) : Prop :=
  match call with
  | .addTrade _ => (w.step weth call).Totals
  | .updateReceipt txHash m c =>
    (∃ cols, columns executor.text (wethText weth) m.raw c = some cols ∧ cols.Exact weth m c
      ∧ ∀ row ∈ (w.step weth call).store.rows, row.trade.txHash = some txHash →
        row.receipt = cols)
    ∧ (w.step weth call).Totals
  | .summary window expired => w.Right window (w.store.summary window expired).1

/-- The condition of a call. -/
def CallOk (w : World) : Call executor → Prop
  -- No receipt with an amount came before the trade.
  | .addTrade t => w.earnedWei t.txHash = 0 ∧ w.earnedUsdMicro t.txHash = 0
  -- The gas is not above the profit.
  | .updateReceipt _ m c => ∀ n, m.net weth c = some n → 0 ≤ n
  | .summary _ _ => True

/-- The rows are the trades with what they have earned, and the cache holds summaries of them. -/
structure Inv (w : World) : Prop where
  trades : w.store.rows.map Row.trade = w.trades
  earned : ∀ row ∈ w.store.rows, row.realizedWei = w.earnedWei row.trade.txHash
    ∧ row.realizedUsdMicro = w.earnedUsdMicro row.trade.txHash
  cached : ∀ window out, w.store.cache.get? window = some out →
    out = summarize (lastRows w.store.rows window)

theorem lastTrades_eq {w : World} (h : w.store.rows.map Row.trade = w.trades) (window : Int) :
    w.lastTrades window = (lastRows w.store.rows window).map Row.trade := by
  rw [map_trade_lastRows, h]
  rfl

/-- **Summaries and rows.** Every summary is right exactly when every row has what its trade has
earned. -/
theorem totals_iff {w : World} (h : w.store.rows.map Row.trade = w.trades) :
    w.Totals ↔ ∀ row ∈ w.store.rows, row.realizedWei = w.earnedWei row.trade.txHash
      ∧ row.realizedUsdMicro = w.earnedUsdMicro row.trade.txHash := by
  have hlast : ∀ (earned : Option Text → Int) (window : Int),
      ((w.lastTrades window).map fun t => earned t.txHash)
        = (lastRows w.store.rows window).map fun row => earned row.trade.txHash := by
    intro earned window
    rw [lastTrades_eq h, List.map_map]
    rfl
  constructor
  · intro htotals
    have hrow : ∀ (f : Row → Int) (earned : Option Text → Int),
        (∀ k : Nat, ((lastRows w.store.rows k).map f).sum
          = ((w.lastTrades k).map fun t => earned t.txHash).sum) →
        ∀ row ∈ w.store.rows, f row = earned row.trade.txHash := by
      intro f earned hsum row hmem
      refine (LastRows.sums_take_iff f (fun row => earned row.trade.txHash)
        (w.store.rows.insertionSort fun a b => a.trade.Newer b.trade)).1 (fun k => ?_) row
        ((mem_lastRows_all _ row).2 hmem)
      have hk := hsum k
      rw [hlast] at hk
      simpa only [lastRows, limit, Int.not_ofNat_neg, if_false, Int.toNat_natCast] using hk
    intro row hmem
    constructor
    · exact hrow Row.realizedWei w.earnedWei (fun k => pyDecimal_injective (htotals k).1) row hmem
    · exact hrow Row.realizedUsdMicro w.earnedUsdMicro
        (fun k => pyDecimal_injective (htotals k).2) row hmem
  · intro hrows window
    have hmem : ∀ row ∈ lastRows w.store.rows window, row ∈ w.store.rows := by
      intro row hrow
      refine (mem_lastRows_all w.store.rows row).1 ?_
      unfold lastRows limit at hrow
      split_ifs at hrow
      · exact hrow
      · exact List.mem_of_mem_take hrow
    constructor
    · rw [hlast, ← List.map_congr_left fun row hrow => (hrows row (hmem row hrow)).1]
      rfl
    · rw [hlast, ← List.map_congr_left fun row hrow => (hrows row (hmem row hrow)).2]
      rfl

/-! ## The calls -/

/-- A call does what it should exactly under its condition, and then keeps the invariant. -/
def CallSpec (w : World) (call : Call executor) : Prop :=
  (StepSound weth w call ↔ CallOk weth w call) ∧ (CallOk weth w call → Inv (w.step weth call))

theorem addTrade_spec {w : World} (h : Inv w) (t : NewTrade) :
    CallSpec weth w (.addTrade t : Call executor) := by
  have hlength : w.store.rows.length = w.trades.length := by
    rw [← h.trades, List.length_map]
  have htrades : (w.step weth (.addTrade t : Call executor)).store.rows.map Row.trade
      = (w.step weth (.addTrade t : Call executor)).trades := by
    show (insertTrade w.store.rows t).map Row.trade = _
    rw [insertTrade, List.map_append, h.trades, hlength]
    rfl
  have hrows : (∀ row ∈ (w.step weth (.addTrade t : Call executor)).store.rows,
        row.realizedWei = w.earnedWei row.trade.txHash
          ∧ row.realizedUsdMicro = w.earnedUsdMicro row.trade.txHash)
      ↔ CallOk weth w (.addTrade t : Call executor) := by
    show (∀ row ∈ insertTrade w.store.rows t, _) ↔ _
    rw [insertTrade]
    constructor
    · intro hall
      -- the new row has no amounts yet
      obtain ⟨hwei, husd⟩ := hall _ (List.mem_append_right _ List.mem_cons_self)
      exact ⟨hwei.symm, husd.symm⟩
    · rintro ⟨hwei, husd⟩ row hrow
      rcases List.mem_append.1 hrow with hold | hnew
      · exact h.earned row hold
      · rw [List.mem_singleton.1 hnew]
        exact ⟨hwei.symm, husd.symm⟩
  refine ⟨(totals_iff htrades).trans hrows, fun hok => ⟨htrades, hrows.2 hok, ?_⟩⟩
  intro window out hout
  cases hout

theorem updateReceipt_store (w : World) (txHash : Text) (m : Mined executor) (c : Costs) :
    (w.step weth (.updateReceipt txHash m c)).store
      = ⟨updateRows w.store.rows txHash (m.filled weth c), Dict.empty⟩ := by
  simp only [World.step, Store.updateReceipt, columns_raw]

theorem updateReceipt_spec {w : World} (h : Inv w) (txHash : Text) (m : Mined executor)
    (c : Costs) : CallSpec weth w (.updateReceipt txHash m c) := by
  have hstore := updateReceipt_store weth w txHash m c
  have htrades : (w.step weth (.updateReceipt txHash m c)).store.rows.map Row.trade
      = (w.step weth (.updateReceipt txHash m c)).trades := by
    rw [hstore, map_trade_updateRows, h.trades]
    rfl
  have hwritten : ∀ row ∈ (w.step weth (.updateReceipt txHash m c)).store.rows,
      row.trade.txHash = some txHash → row.receipt = m.filled weth c := by
    intro row hrow htx
    rw [hstore, updateRows] at hrow
    obtain ⟨old, -, rfl⟩ := List.mem_map.1 hrow
    split_ifs at htx ⊢ with hold
    · rfl
    · exact absurd htx hold
  have hearned : CallOk weth w (.updateReceipt txHash m c) →
      ∀ row ∈ (w.step weth (.updateReceipt txHash m c)).store.rows,
        row.realizedWei
            = (w.step weth (.updateReceipt txHash m c)).earnedWei row.trade.txHash
          ∧ row.realizedUsdMicro
            = (w.step weth (.updateReceipt txHash m c)).earnedUsdMicro row.trade.txHash := by
    intro hok row hrow
    by_cases htx : row.trade.txHash = some txHash
    · have hreceipt := hwritten row hrow htx
      have hexact := (exact_filled_iff weth m c).2 hok
      have hlatest : (w.step weth (.updateReceipt txHash m c)).receipts.get? txHash
          = some ⟨m.net weth c, c.realizedProfitAfterGasUsdMicro⟩ := Dict.get?_set_self _ _ _
      constructor
      · rw [Row.realizedWei, hreceipt, hexact.afterGas, amount_map_pyDecimal, World.earnedWei, htx,
          Option.bind_some, hlatest]
        rfl
      · rw [Row.realizedUsdMicro, hreceipt, World.earnedUsdMicro, htx, Option.bind_some, hlatest]
        exact amount_map_pyDecimal _
    · -- the rows of other transactions are as before
      have hold : row ∈ w.store.rows := by
        rw [hstore, updateRows] at hrow
        obtain ⟨old, hold, rfl⟩ := List.mem_map.1 hrow
        split_ifs at htx ⊢ with hsame
        · exact absurd hsame htx
        · exact hold
      have hsame : row.trade.txHash.bind (w.step weth (.updateReceipt txHash m c)).receipts.get?
          = row.trade.txHash.bind w.receipts.get? := by
        cases hrowTx : row.trade.txHash with
        | none => rfl
        | some other =>
          refine Dict.get?_set_of_ne _ _ fun heq => htx ?_
          rw [hrowTx, heq]
      rw [World.earnedWei, World.earnedUsdMicro, hsame]
      exact h.earned row hold
  refine ⟨⟨?_, ?_⟩, fun hok => ⟨htrades, hearned hok, ?_⟩⟩
  · rintro ⟨⟨cols, hcols, hexact, -⟩, -⟩
    rw [columns_raw, Option.some.injEq] at hcols
    rw [← hcols] at hexact
    exact (exact_filled_iff weth m c).1 hexact
  · intro hok
    refine ⟨⟨m.filled weth c, columns_raw weth m c, (exact_filled_iff weth m c).2 hok, hwritten⟩, ?_⟩
    exact (totals_iff htrades).2 (hearned hok)
  · intro window out hout
    rw [hstore] at hout
    cases hout

/-- A summary from the cache is the one that would be made now. -/
theorem summary_eq {w : World} (h : Inv w) (window : Int) (expired : Bool) :
    (w.store.summary window expired).1 = summarize (lastRows w.store.rows window) := by
  unfold Store.summary
  split
  · rename_i out hout
    cases expired with
    | true => cases hout
    | false => exact h.cached window out hout
  · rfl

theorem summary_spec {w : World} (h : Inv w) (window : Int) (expired : Bool) :
    CallSpec weth w (.summary window expired : Call executor) := by
  constructor
  · refine iff_of_true ?_ trivial
    show w.Right window (w.store.summary window expired).1
    rw [summary_eq h]
    exact (totals_iff h.trades).2 h.earned window
  · intro _
    have hrows : (w.store.summary window expired).2.rows = w.store.rows := by
      unfold Store.summary
      split <;> rfl
    constructor
    · show ((w.store.summary window expired).2.rows).map Row.trade = w.trades
      rw [hrows, h.trades]
    · show ∀ row ∈ (w.store.summary window expired).2.rows, _
      rw [hrows]
      exact h.earned
    · intro k out hout
      show out = summarize (lastRows (w.store.summary window expired).2.rows k)
      rw [hrows]
      have hcache : (w.store.summary window expired).2.cache.get? k = some out := hout
      unfold Store.summary at hcache
      split at hcache
      · exact h.cached k out hcache
      · rw [Dict.get?_set] at hcache
        split_ifs at hcache with hk
        · rw [hk, ← Option.some.inj hcache]
        · exact h.cached k out hcache

end Steps

/-- **Realised profits.** In every run from an empty table every receipt is stored exactly and every
summary adds up the latest receipts of the last trades, exactly when no receipt has more gas than
profit and no receipt with an amount comes before its trade. -/
theorem realised_iff (executor : SpelledAddress) (weth : Option SpelledAddress)
    (calls : List (Call executor)) :
    AllSteps (World.step weth) (StepSound weth) World.start calls
      ↔ AllSteps (World.step weth) (CallOk weth) World.start calls := by
  have hspec : ∀ (w : World) (call : Call executor), Inv w → CallSpec weth w call := by
    intro w call h
    cases call with
    | addTrade t => exact addTrade_spec weth h t
    | updateReceipt txHash m c => exact updateReceipt_spec weth h txHash m c
    | summary window expired => exact summary_spec weth h window expired
  have hstart : Inv World.start := by
    refine ⟨rfl, ?_, ?_⟩
    · intro row hrow
      cases hrow
    · intro window out hout
      cases hout
  have hstep : ∀ (w : World) (call : Call executor), Inv w → CallOk weth w call →
      Inv (World.step weth w call) := fun w call h hok => (hspec w call h).2 hok
  exact allSteps_iff (fun w call h => (hspec w call h).1) hstep hstart calls

/-! ### A trade that costs more gas than it earns -/

def one : Quantity := ⟨"0x1".toList, 1, by decide⟩

def fiftyEarned : ArbExecuted where
  routeId := 7
  token := sampleAddress 10
  amountBorrowed := 100
  profit := 50
  provider := 2

def lossReceipt : Mined (sampleAddress 1).spelled where
  status := one
  gasUsed := one
  gasPrice := one
  status_fits := by decide
  gasUsed_fits := by decide
  event := some fiftyEarned
  spelling := (sampleAddress 1).spelled
  spelling_eq := rfl
  before := []
  after := []
  foreign := by intro log hlog; cases hlog

/-- The gas is sixty in units of the profit token. -/
def lossCosts : Costs := ⟨some 60, none, none, none⟩

def lossTrade : NewTrade := ⟨1700000000, some "0xaa".toList, false, true, "50".toList, by decide⟩

/-- The loss of ten is stored as nothing. -/
theorem loss_stored_as_zero :
    ¬ AllSteps (World.step none) (StepSound none) World.start
      [.addTrade lossTrade, .updateReceipt "0xaa".toList lossReceipt lossCosts] := by
  rintro ⟨-, ⟨⟨cols, hcols, hexact, -⟩, -⟩, -⟩
  rw [columns_raw, Option.some.injEq] at hcols
  rw [← hcols] at hexact
  have hpos : (0 : Int) ≤ -10 := (exact_filled_iff none lossReceipt lossCosts).1 hexact (-10) rfl
  exact absurd hpos (by decide)

end SovereignCapital.Pnl
