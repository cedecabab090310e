import SovereignCapital.Lib.DecimalContext
import SovereignCapital.Lib.Guarded
import SovereignCapital.Lib.PyDecimal

/-! # Quote units

`b4_quote_units.py`: the check of a final quote, and the conversion of a notional in dollars to raw
units of the asset. The check reads the values with `float` and `int`, the conversion with
`Decimal`.
-/

namespace SovereignCapital.Sizing

open PyDecimal Guarded

/-! ## The context of a quote -/

structure QuoteContext where
  assetPriceUsd : PyTree
  assetDecimals : PyTree

/-- `d.get(key, d.get(other))`. -/
def getEither (d : PyMap) (key other : String) : PyTree := (d.get? key).getD (d.get other)

def quoteContextFromMapping (quote : PyTree) : QuoteContext where
  assetPriceUsd := getEither quote.mapping "asset_price_usd" "assetPriceUsd"
  assetDecimals := getEither quote.mapping "asset_decimals" "assetDecimals"

/-- `_quote_price_error`. That an integer is too large for a float is not caught. -/
def quotePriceError : PyTree → Except ConversionError (Option String)
  | .leaf .none => .ok (some "asset_price_usd_missing")
  | price =>
    match price.float with
    | .ok (.finite number) => .ok (if number ≤ 0 then some "asset_price_usd_invalid" else none)
    | .ok _ => .ok (some "asset_price_usd_invalid")
    | .error .overflow => .error .overflow
    | .error _ => .ok (some "asset_price_usd_invalid")

/-- `_quote_decimals_error`. That an infinity is no integer is not caught. -/
def quoteDecimalsError : PyTree → Except ConversionError (Option String)
  | .leaf .none => .ok (some "asset_decimals_missing")
  | decimals =>
    match decimals.int with
    | .ok value => .ok (if 0 ≤ value ∧ value ≤ 255 then none else some "asset_decimals_invalid")
    | .error .overflow => .error .overflow
    | .error _ => .ok (some "asset_decimals_invalid")

def quoteValidationErrors (context : QuoteContext) : Except ConversionError (List String) := do
  let priceError ← quotePriceError context.assetPriceUsd
  let decimalsError ← quoteDecimalsError context.assetDecimals
  return priceError.toList ++ decimalsError.toList

def validateQuoteContext (quote : PyTree) : Except ConversionError (Bool × List String) :=
  (quoteValidationErrors (quoteContextFromMapping quote)).map fun errors => (errors.isEmpty, errors)

/-! ## Conversion -/

/-- What the conversion raises: `QuoteUnitSizingError` with its reason, or `decimal.Overflow`. -/
inductive QuoteUnitError where
  | sizing (reason : String)
  | overflow
deriving DecidableEq

/-- `sys.get_int_max_str_digits()`. -/
def intMaxStrDigits : ℕ := 4300

/-- `str(value)`; nothing where an integer has too many digits. -/
def strText (value : PyTree) : Option String :=
  match value with
  | .leaf (.int n) =>
    if intMaxStrDigits < (Nat.toDigits 10 n.natAbs).length then none else some value.str
  | _ => some value.str

/-- `Decimal(str(value))`. -/
def decimalOf (value : PyTree) : Option PyNumber := (strText value).bind fun t => ofText t.toList

def decimal (value : PyTree) (error : String) : Except QuoteUnitError ℚ :=
  match decimalOf value with
  | none => .error (.sizing error)
  | some .special => .error (.sizing "quote_value_non_finite")
  | some (.finite number) => .ok number

def decimalsOf (value : PyTree) : Except QuoteUnitError ℕ := do
  let decimals ← decimal value "asset_decimals_invalid"
  ensure (decimals = ⌊decimals⌋ ∧ 0 ≤ decimals ∧ decimals ≤ 255)
    (.sizing "asset_decimals_invalid")
  return ⌊decimals⌋.toNat

def positiveDecimal (value : PyTree) (error : String) : Except QuoteUnitError ℚ := do
  let number ← decimal value "quote_value_invalid"
  ensure (0 < number) (.sizing error)
  return number

def nonnegativeDecimal (value : PyTree) (error : String) : Except QuoteUnitError ℚ := do
  let number ← decimal value "quote_value_invalid"
  ensure (0 ≤ number) (.sizing error)
  return number

/-- `_raw_units`; a power of ten has one digit and is exact. -/
def rawUnits (notional price : ℚ) (decimals : ℕ) : Except QuoteUnitError ℤ :=
  match (fit (notional / price)).bind fun quotient => fit (quotient * 10 ^ decimals) with
  | none => .error .overflow
  | some product => if ⌊product⌋ < 0 then .error (.sizing "raw_units_negative") else .ok ⌊product⌋

def usdNotionalToRawUnits (usdNotional assetPriceUsd assetDecimals : PyTree) :
    Except QuoteUnitError ℤ := do
  let decimals ← decimalsOf assetDecimals
  let notional ← nonnegativeDecimal usdNotional "usd_notional_negative"
  let price ← positiveDecimal assetPriceUsd "asset_price_usd_invalid"
  rawUnits notional price decimals

end SovereignCapital.Sizing

/-! # Conservative units

When the raw units of a notional are the whole units that it buys. The 28 digits of the quotient are
rounded to the nearest, so they may reach the next whole unit.
-/

namespace SovereignCapital.Sizing

open Decimal PyDecimal Guarded

/-! ## What the conversion reads -/

/-- `Decimal(str(value))` is the number. -/
def Reads (value : PyTree) (x : ℚ) : Prop := decimalOf value = some (.finite x)

variable {value decimals : PyTree} {x n p : ℚ} {error : String} {d : ℕ}

theorem Reads.unique {y : ℚ} (h : Reads value x) (h' : Reads value y) : x = y := by
  rw [Reads, h] at h'
  cases h'
  rfl

theorem decimal_eq_ok_iff : decimal value error = .ok x ↔ Reads value x := by
  unfold decimal Reads
  cases decimalOf value with
  | none => simp
  | some number => cases number <;> simp

theorem decimalsOf_eq_ok_iff : decimalsOf value = .ok d ↔ Reads value d ∧ d ≤ 255 := by
  unfold decimalsOf
  simp only [bind_ok_iff, decimal_eq_ok_iff, ensure_eq_ok]
  constructor
  · rintro ⟨x, hx, -, ⟨hwhole, hlow, hhigh⟩, hd⟩
    have hfloor : 0 ≤ ⌊x⌋ := Int.floor_nonneg.2 hlow
    have hcast : ((⌊x⌋.toNat : ℕ) : ℚ) = x := by
      rw [hwhole]
      exact_mod_cast Int.toNat_of_nonneg hfloor
    have hd' : ⌊x⌋.toNat = d := Except.ok.inj hd
    rw [hd'] at hcast
    rw [← hcast] at hx hhigh
    exact ⟨hx, by exact_mod_cast hhigh⟩
  · rintro ⟨hd, hhigh⟩
    refine ⟨d, hd, (), ⟨?_, Nat.cast_nonneg d, by exact_mod_cast hhigh⟩, ?_⟩
    · rw [Int.floor_natCast]
      rfl
    · rw [Int.floor_natCast]
      rfl

theorem nonnegativeDecimal_eq_ok_iff :
    nonnegativeDecimal value error = .ok x ↔ Reads value x ∧ 0 ≤ x := by
  unfold nonnegativeDecimal
  simp only [bind_ok_iff, decimal_eq_ok_iff, ensure_eq_ok]
  constructor
  · rintro ⟨y, hy, -, hnonneg, hxy⟩
    cases hxy
    exact ⟨hy, hnonneg⟩
  · rintro ⟨hx, hnonneg⟩
    exact ⟨x, hx, (), hnonneg, rfl⟩

theorem positiveDecimal_eq_ok_iff :
    positiveDecimal value error = .ok x ↔ Reads value x ∧ 0 < x := by
  unfold positiveDecimal
  simp only [bind_ok_iff, decimal_eq_ok_iff, ensure_eq_ok]
  constructor
  · rintro ⟨y, hy, -, hpos, hxy⟩
    cases hxy
    exact ⟨hy, hpos⟩
  · rintro ⟨hx, hpos⟩
    exact ⟨x, hx, (), hpos, rfl⟩

/-- The conversion of three numbers that were read. -/
theorem rawUnits_eq_ok_iff (hn : 0 ≤ n) (hp : 0 < p) {raw : ℤ} :
    rawUnits n p d = .ok raw
      ↔ Int.log 10 (rounded (n / p) * 10 ^ d) ≤ emax ∧ raw = ⌊rounded (n / p) * 10 ^ d⌋ := by
  have hq : 0 ≤ n / p := div_nonneg hn hp.le
  have hnonneg : 0 ≤ rounded (n / p) * 10 ^ d := mul_nonneg (rounded_nonneg hq) (pow_ten_pos d).le
  have hunits : ¬ ⌊rounded (n / p) * 10 ^ d⌋ < 0 := not_lt.2 (Int.floor_nonneg.2 hnonneg)
  unfold rawUnits
  rw [fit_bind_fit hq]
  by_cases hover : emax < Int.log 10 (rounded (n / p) * 10 ^ d)
  · rw [if_pos hover]
    constructor
    · intro h
      cases h
    · rintro ⟨h, -⟩
      exact absurd hover (not_lt.2 h)
  · rw [if_neg hover]
    dsimp only
    rw [if_neg hunits]
    constructor
    · intro h
      cases h
      exact ⟨not_lt.1 hover, rfl⟩
    · rintro ⟨-, rfl⟩
      rfl

theorem usdNotionalToRawUnits_eq_ok_iff {notional price : PyTree} {raw : ℤ} :
    usdNotionalToRawUnits notional price decimals = .ok raw
      ↔ ∃ (n p : ℚ) (d : ℕ), Reads notional n ∧ 0 ≤ n ∧ Reads price p ∧ 0 < p
        ∧ Reads decimals d ∧ d ≤ 255 ∧ rawUnits n p d = .ok raw := by
  unfold usdNotionalToRawUnits
  simp only [bind_ok_iff, decimalsOf_eq_ok_iff, nonnegativeDecimal_eq_ok_iff,
    positiveDecimal_eq_ok_iff]
  constructor
  · rintro ⟨d, ⟨hd, hd'⟩, n, ⟨hn, hn'⟩, p, ⟨hp, hp'⟩, hraw⟩
    exact ⟨n, p, d, hn, hn', hp, hp', hd, hd', hraw⟩
  · rintro ⟨n, p, d, hn, hn', hp, hp', hd, hd', hraw⟩
    exact ⟨d, ⟨hd, hd'⟩, n, ⟨hn, hn'⟩, p, ⟨hp, hp'⟩, hraw⟩

/-! ## What an accepted quote is read as -/

/-- The text of a float is one that `float` reads as it. -/
def Spelled : PyTree → Prop
  | .leaf (.float x repr) => PyFloat.ofText repr.1.toList = some (.finite x)
  | _ => True

theorem decimalOf_of_int {n : ℤ} (h : Reads (.leaf (.int n)) x) : x = n := by
  unfold Reads decimalOf strText at h
  dsimp only at h
  split at h
  · cases h
  · rw [Option.bind_some] at h
    have htext : (PyTree.leaf (.int n)).str.toList = Bytes.pyDecimal n := String.toList_ofList
    rw [htext] at h
    exact eq_of_int (Bytes.pyInt_pyDecimal n) h

theorem decimalOf_of_bool {b : Bool} (h : Reads (.leaf (.bool b)) x) : False := by
  cases b with
  | false => cases h
  | true => cases h

/-- A float is the number that `Decimal` reads, rounded. -/
theorem nearest_of_reads (hspelled : Spelled value) {y : ℚ} (hfloat : value.float = .ok (.finite y))
    (hx : Reads value x) : y = Double.nearest x := by
  cases value with
  | inf negative => cases hfloat
  | nan => cases hfloat
  | list items repr => cases hfloat
  | dict items repr => cases hfloat
  | leaf v =>
    cases v with
    | none => cases hfloat
    | object truthy repr => cases hfloat
    | bool b => exact (decimalOf_of_bool hx).elim
    | int n =>
      change (Double.ofInt n).elim _ _ = _ at hfloat
      rw [decimalOf_of_int hx]
      unfold Double.ofInt at hfloat
      by_cases hlarge : |Double.nearest n| < 2 ^ 1024
      · rw [if_pos hlarge] at hfloat
        cases hfloat
        rfl
      · rw [if_neg hlarge] at hfloat
        cases hfloat
    | float z repr =>
      cases hfloat
      exact nearest_of_float hspelled hx
    | text s =>
      change (PyFloat.ofText s.toList).elim _ _ = _ at hfloat
      cases hread : PyFloat.ofText s.toList with
      | none =>
        rw [hread] at hfloat
        cases hfloat
      | some z =>
        rw [hread] at hfloat
        cases hfloat
        exact nearest_of_float hread hx

/-- `Decimal` reads a positive number of an accepted price, if it reads one. -/
theorem pos_of_accepted_price {price : PyTree} (haccepted : quotePriceError price = .ok none)
    (hspelled : Spelled price) (hp : Reads price p) : 0 < p := by
  unfold quotePriceError at haccepted
  split at haccepted
  · cases haccepted
  · split at haccepted
    · rename_i number hfloat
      split at haccepted
      · cases haccepted
      · rename_i hpos
        rw [nearest_of_reads hspelled hfloat hp] at hpos
        exact Double.pos_of_nearest_pos (not_le.1 hpos)
    · cases haccepted
    · cases haccepted
    · cases haccepted

/-- The check reads the decimals with `int`. -/
theorem int_of_accepted_decimals (haccepted : quoteDecimalsError decimals = .ok none) :
    ∃ k, decimals.int = .ok k ∧ k ≤ 255 := by
  unfold quoteDecimalsError at haccepted
  split at haccepted
  · cases haccepted
  · split at haccepted
    · rename_i k hk
      split at haccepted
      · rename_i hrange
        exact ⟨k, hk, hrange.2⟩
      · cases haccepted
    · cases haccepted
    · cases haccepted

/-- A whole number above the limit is rounded to a float above it. -/
theorem le_of_trunc_nearest {k : ℤ} (hk : Double.trunc (Double.nearest d) = k) (hle : k ≤ 255) :
    d ≤ 255 := by
  by_contra hlarge
  have hpow : (2 : ℚ) ^ 8 ≤ d := by
    have h256 : 256 ≤ d := by omega
    norm_num
    exact_mod_cast h256
  have hbig := Double.two_pow_le_nearest hpow
  have hfloor : (256 : ℤ) ≤ ⌊Double.nearest d⌋ := by
    rw [Int.le_floor]
    norm_num at hbig ⊢
    exact hbig
  unfold Double.trunc at hk
  rw [if_pos (Int.floor_nonneg.1 (by omega))] at hk
  omega

/-- `Decimal` reads at most 255 of accepted decimals, if it reads a natural number. -/
theorem le_of_accepted_decimals (haccepted : quoteDecimalsError decimals = .ok none)
    (hspelled : Spelled decimals) (hd : Reads decimals d) : d ≤ 255 := by
  obtain ⟨k, hk, hle⟩ := int_of_accepted_decimals haccepted
  cases decimals with
  | inf negative => cases hk
  | nan => cases hk
  | list items repr => cases hk
  | dict items repr => cases hk
  | leaf v =>
    cases v with
    | none => cases hk
    | object truthy repr => cases hk
    | bool b => exact (decimalOf_of_bool hd).elim
    | int n =>
      have hn : (d : ℤ) = n := by exact_mod_cast decimalOf_of_int hd
      have hk' : n = k := Except.ok.inj hk
      omega
    | text s =>
      change (Bytes.pyInt 10 s.toList).elim _ _ = _ at hk
      cases hread : Bytes.pyInt 10 s.toList with
      | none =>
        rw [hread] at hk
        cases hk
      | some n =>
        rw [hread] at hk
        have hn : (d : ℤ) = n := by exact_mod_cast eq_of_int hread hd
        have hk' : n = k := Except.ok.inj hk
        omega
    | float x repr =>
      have hk' : Double.trunc x = k := Except.ok.inj hk
      rw [nearest_of_float hspelled hd] at hk'
      exact le_of_trunc_nearest hk' hle

theorem accepted_iff {quote : PyTree} :
    validateQuoteContext quote = .ok (true, [])
      ↔ quotePriceError (quoteContextFromMapping quote).assetPriceUsd = .ok none
        ∧ quoteDecimalsError (quoteContextFromMapping quote).assetDecimals = .ok none := by
  unfold validateQuoteContext quoteValidationErrors
  simp only [map_ok_iff, bind_ok_iff]
  constructor
  · rintro ⟨errors, ⟨priceError, hprice, decimalsError, hdecimals, herrors⟩, hpair⟩
    have hnil : errors = [] := (Prod.mk.inj hpair).2
    have happend : priceError.toList ++ decimalsError.toList = [] := by
      rw [← hnil]
      exact Except.ok.inj herrors
    obtain ⟨hpriceNil, hdecimalsNil⟩ := List.append_eq_nil_iff.1 happend
    rw [Option.toList_eq_nil_iff] at hpriceNil hdecimalsNil
    rw [hprice, hdecimals, hpriceNil, hdecimalsNil]
    exact ⟨rfl, rfl⟩
  · rintro ⟨hprice, hdecimals⟩
    exact ⟨[], ⟨none, hprice, none, hdecimals, rfl⟩, rfl⟩

/-! ## Conservative conversions -/

/-- The conversion returns the whole units that the notional buys. -/
def Conservative (notional price decimals : PyTree) : Prop :=
  ∃ (n p : ℚ) (d : ℕ) (raw : ℤ), Reads notional n ∧ Reads price p ∧ Reads decimals d
    ∧ usdNotionalToRawUnits notional price decimals = .ok raw
    ∧ raw * p ≤ n * 10 ^ d ∧ n * 10 ^ d < (raw + 1) * p

/-- `Decimal` reads the three values, the decimals as a whole number; the units do not overflow, and
their 28 digits hold the whole unit they are in. -/
def Converts (notional price decimals : PyTree) : Prop :=
  ∃ (n p : ℚ) (d : ℕ), Reads notional n ∧ 0 ≤ n ∧ Reads price p ∧ Reads decimals d
    ∧ Int.log 10 (n / p * 10 ^ d) ≤ emax ∧ FloorKept (n / p * 10 ^ d)

theorem floor_units_iff (hp : 0 < p) (d : ℕ) (raw : ℤ) :
    raw * p ≤ n * 10 ^ d ∧ n * 10 ^ d < (raw + 1) * p ↔ ⌊n / p * 10 ^ d⌋ = raw := by
  rw [Int.floor_eq_iff, div_mul_eq_mul_div, le_div_iff₀ hp, div_lt_iff₀ hp]

theorem floor_kept_iff (hn : 0 ≤ n) (hp : 0 < p) (hd : d ≤ 255) :
    ⌊rounded (n / p) * 10 ^ d⌋ = ⌊n / p * 10 ^ d⌋ ↔ FloorKept (n / p * 10 ^ d) := by
  rcases eq_or_lt_of_le hn with hzero | hpos
  · rw [← hzero, zero_div, rounded_zero, zero_mul]
    refine iff_of_true rfl ?_
    exact_mod_cast floorKept_of_natCast (k := 0) (by norm_num)
  · exact floor_rounded_mul_iff (div_pos hpos hp) hd

/-- **Conservative units.** On a context that the check accepts the conversion is conservative
exactly when `Decimal` reads the values and the digits it keeps do not reach the next unit. -/
theorem raw_units_conservative_iff {quote : PyTree}
    (haccepted : validateQuoteContext quote = .ok (true, []))
    (hprice : Spelled (quoteContextFromMapping quote).assetPriceUsd)
    (hdecimals : Spelled (quoteContextFromMapping quote).assetDecimals) (notional : PyTree) :
    Conservative notional (quoteContextFromMapping quote).assetPriceUsd
        (quoteContextFromMapping quote).assetDecimals
      ↔ Converts notional (quoteContextFromMapping quote).assetPriceUsd
        (quoteContextFromMapping quote).assetDecimals := by
  obtain ⟨hpriceOk, hdecimalsOk⟩ := accepted_iff.1 haccepted
  have hemax : emax = ((999999 : ℕ) : ℤ) := rfl
  constructor
  · rintro ⟨n, p, d, raw, hn, hp, hd, hraw, hlow, hhigh⟩
    obtain ⟨n', p', d', hn', hnonneg, hp', hpos, hd', hle, hunits⟩ :=
      usdNotionalToRawUnits_eq_ok_iff.1 hraw
    rw [hn'.unique hn] at hnonneg hunits
    rw [hp'.unique hp] at hpos hunits
    have hdd : d' = d := by exact_mod_cast hd'.unique hd
    rw [hdd] at hle hunits
    obtain ⟨hlog, hfloor⟩ := (rawUnits_eq_ok_iff hnonneg hpos).1 hunits
    have hkept : ⌊rounded (n / p) * 10 ^ d⌋ = ⌊n / p * 10 ^ d⌋ := by
      rw [← hfloor]
      exact ((floor_units_iff hpos d raw).1 ⟨hlow, hhigh⟩).symm
    refine ⟨n, p, d, hn, hnonneg, hp, hd, ?_, (floor_kept_iff hnonneg hpos hle).1 hkept⟩
    have hx : 0 ≤ n / p * 10 ^ d := mul_nonneg (div_nonneg hnonneg hpos.le) (pow_ten_pos d).le
    rw [hemax] at hlog ⊢
    exact log_le_of_floor_eq hx hkept hlog
  · rintro ⟨n, p, d, hn, hnonneg, hp, hd, hlog, hkept⟩
    have hpos := pos_of_accepted_price hpriceOk hprice hp
    have hle := le_of_accepted_decimals hdecimalsOk hdecimals hd
    have hfloor := (floor_kept_iff hnonneg hpos hle).2 hkept
    have hy : 0 ≤ rounded (n / p) * 10 ^ d :=
      mul_nonneg (rounded_nonneg (div_nonneg hnonneg hpos.le)) (pow_ten_pos d).le
    have hlog' : Int.log 10 (rounded (n / p) * 10 ^ d) ≤ emax := by
      rw [hemax] at hlog ⊢
      exact log_le_of_floor_eq hy hfloor.symm hlog
    have hunits := (rawUnits_eq_ok_iff hnonneg hpos).2 ⟨hlog', hfloor.symm⟩
    obtain ⟨hlow, hhigh⟩ := (floor_units_iff (n := n) hpos d _).2 rfl
    exact ⟨n, p, d, _, hn, hp, hd, usdNotionalToRawUnits_eq_ok_iff.2
      ⟨n, p, d, hn, hnonneg, hp, hpos, hd, hle, hunits⟩, hlow, hhigh⟩

/-! ## A quotient of 28 digits -/

theorem quoteText_ne : "\x7b...\x7d" ≠ "" := by decide

/-- A quote at a price of three dollars. -/
def sampleQuote : PyTree :=
  .dict [("asset_price_usd", .leaf (.int 3)), ("asset_decimals", .leaf (.int 18))]
    ⟨"\x7b...\x7d", quoteText_ne⟩

theorem sampleQuote_accepted : validateQuoteContext sampleQuote = .ok (true, []) := by
  decide +kernel

/-- Thirty dollars buy ten tokens. -/
theorem raw_units_conservative_thirty :
    Conservative (.leaf (.int 30)) (.leaf (.int 3)) (.leaf (.int 18)) := by
  have hkept : FloorKept ((30 : ℚ) / 3 * 10 ^ 18) := by
    have h := floorKept_of_natCast (k := 10 ^ 19) (by norm_num)
    norm_num at h ⊢
    exact h
  exact (raw_units_conservative_iff sampleQuote_accepted trivial trivial (.leaf (.int 30))).2
    ⟨30, 3, 18, rfl, by norm_num, rfl, rfl, by decide +kernel, hkept⟩

/-- Twenty billions buy a third of a unit less than is returned. -/
theorem raw_units_above_notional :
    validateQuoteContext sampleQuote = .ok (true, [])
      ∧ usdNotionalToRawUnits (.leaf (.int 20000000000)) (.leaf (.int 3)) (.leaf (.int 18))
        = .ok 6666666666666666666666666667
      ∧ ¬ Conservative (.leaf (.int 20000000000)) (.leaf (.int 3)) (.leaf (.int 18)) := by
  have hunits : usdNotionalToRawUnits (.leaf (.int 20000000000)) (.leaf (.int 3)) (.leaf (.int 18))
      = .ok 6666666666666666666666666667 := by decide +kernel
  refine ⟨sampleQuote_accepted, hunits, ?_⟩
  rintro ⟨n, p, d, raw, hn, hp, hd, hraw, hlow, -⟩
  have hd' : (d : ℚ) = ((18 : ℕ) : ℚ) := by exact_mod_cast decimalOf_of_int hd
  rw [hunits] at hraw
  cases hraw
  rw [decimalOf_of_int hn, decimalOf_of_int hp, Nat.cast_inj.1 hd'] at hlow
  norm_num at hlow

end SovereignCapital.Sizing
