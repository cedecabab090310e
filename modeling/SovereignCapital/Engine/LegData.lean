import SovereignCapital.Engine.BatchAgrees
import SovereignCapital.Engine.Builders

/-! # The data of a leg on the chain

The executor contract reads the `data` of a leg back into the parameters of a pool: the fee, the
indices and the function of a Curve pool, and so on. An adapter takes a quote with parameters of
the edge. For the legs of both builders these are the same.

* `legFunction_two`, `legFunction_three` : the data of a leg name the function that was quoted.
* `quoted_call` : that function is the one the node answered the quote for.
-/

namespace SovereignCapital.Engine

open Bytes Abi Execute

/-! ## What a leg executes -/

/-- The parameters of a pool that are not on the leg itself. -/
inductive PoolFunction where
  | univ3 (fee : Int)
  | curve (i j : Int) (underlying : Bool)
  | balancer (poolId : Nat)
  | aerodrome (factory : Nat) (stable : Bool)
  | slipstream (tickSpacing : Int)
  /-- router and pair decide -/
  | pair
  deriving DecidableEq

/-- `int24` of the low bits. -/
def int24 (n : Nat) : Int := if n < 2 ^ 23 then n else n - 2 ^ 24

/-- The parameters `_runLegs` reads from the `aux` of a leg; nothing for an unknown `dex`. -/
def runLegsFunction (dex aux : Nat) : Option PoolFunction :=
  match dex with
  | 1 => some (.univ3 (aux &&& 0xFFFFFF : Nat))
  | 2 => some (.curve (aux &&& 0xFF : Nat) (aux >>> 8 &&& 0xFF : Nat) (aux >>> 16 &&& 1 == 1))
  | 3 => some (.balancer aux)
  | 4 => some (.aerodrome (aux % 2 ^ 160) (aux >>> 160 &&& 1 == 1))
  | 5 => some (.slipstream (int24 (aux &&& 0xFFFFFF)))
  | 6 | 7 | 8 => some .pair
  | _ => none

/-- The function a leg executes, once it is encoded for the contract. -/
def legFunction (leg : RouteLeg) : Option PoolFunction := do
  let dex ← dexId leg.dex
  let aux ← b32FromHex leg.aux
  runLegsFunction dex (beNat aux)

/-! ## What a quote is taken with -/

/-- The function a quote is taken with: the parameters of the edge, and the function of the pool
that answered. -/
def quotedFunction (e : Edge) (quote : Meta) : Option PoolFunction :=
  match e.dex with
  | .univ3 => (e.intParam "fee" 3000).map PoolFunction.univ3
  | .curve => do
    let i ← (← e.params.get? "i").int?
    let j ← (← e.params.get? "j").int?
    return .curve i j (quote.getD "used_underlying" (.bool false)).truthy
  | .balancer => do
    let poolId ← textOf? (← e.params.get? "pool_id")
    let raw ← fromHex ((strip0x poolId.toList).getD poolId.toList)
    return .balancer (beNat raw)
  | .aerodrome => do
    let factory ← encAddress (e.textParam "factory").toList
    return .aerodrome (beNat factory) (e.boolParam "stable")
  | .slipstream => (e.intParam "tick_spacing" 0).map PoolFunction.slipstream
  | .camelotAlgebra | .camelotV2 | .constantProduct => some .pair

def askedData (e : Edge) (amountIn : Int) (f : PoolFunction) : Option String :=
  match f with
  | .univ3 fee => univ3Calldata e.tokenIn e.tokenOut fee amountIn
  | .curve i j underlying => curveCalldata i j amountIn underlying
  | .balancer poolId =>
    balancerCalldata (String.ofList (with0x (toHex (beBytes 32 poolId)))) e.tokenIn e.tokenOut
      amountIn
  | .aerodrome factory stable =>
    aerodromeCalldata e.tokenIn e.tokenOut stable
      (String.ofList (with0x (toHex (beBytes 20 factory)))) amountIn
  | .slipstream tickSpacing => slipstreamCalldata e.tokenIn e.tokenOut tickSpacing amountIn
  | .pair => requestData e amountIn

/-- A quote of an edge: one `quote_edge` takes, or one of a batch of edges of the configuration. -/
inductive QuoteOf (cfg : ChainConfig) (e : Edge) (amountIn : Int) (q : EdgeQuote) : Prop where
  | single (rpc : Rpc) (h : quoteEdgeFresh rpc cfg e amountIn = some q)
  | batch (rpc : Rpc) (missing : List Edge) (hmissing : ∀ e ∈ missing, e ∈ buildEdges cfg)
      (writes : List (Edge × Option EdgeQuote))
      (hwrites : networkWrites rpc cfg missing amountIn = some writes) (h : (e, some q) ∈ writes)

variable {data : String} {rpc : Rpc} {cfg : ChainConfig} {e : Edge} {amountIn minOut : Int}
  {q : EdgeQuote}

theorem callData_some {signature : String} {arguments : List (Option (List Byte))}
    (h : callData signature arguments = some data) {argument : Option (List Byte)}
    (hmem : argument ∈ arguments) : argument.isSome = true := by
  obtain ⟨words, hwords, -⟩ := callData_eq_some h
  rw [Option.isSome_iff_ne_none]
  rintro rfl
  rw [mapM_eq_none ⟨none, hmem, rfl⟩] at hwords
  cases hwords

theorem fresh_univ3 (hdex : e.dex = .univ3) (h : quoteEdgeFresh rpc cfg e amountIn = some q) :
    ∃ fee data, e.intParam "fee" 3000 = some fee ∧ q.quote.get? "fee" = some (.int fee)
      ∧ univ3Calldata e.tokenIn e.tokenOut fee amountIn = some data
      ∧ answerAmount .univ3 amountIn (rpc.ethCall cfg.univ3QuoterV2 data) = some q.amountOut := by
  simp only [quoteEdgeFresh, hdex, quoteExactInputSingle, Option.bind_eq_bind,
    Option.bind_eq_some_iff, Option.pure_def, Option.some.injEq] at h
  obtain ⟨fee, hfee, quote, ⟨data, hdata, hparse⟩, rfl⟩ := h
  refine ⟨fee, data, hfee, rfl, hdata, ?_⟩
  rw [answerAmount, hparse]
  rfl

/-- A quote of Curve: the function of the pool that answered. -/
theorem fresh_curve (hdex : e.dex = .curve) (h : quoteEdgeFresh rpc cfg e amountIn = some q) :
    ∃ i j underlying data, (e.params.get? "i").bind PyValue.int? = some i
      ∧ (e.params.get? "j").bind PyValue.int? = some j
      ∧ q.quote.get? "i" = some (.int i) ∧ q.quote.get? "j" = some (.int j)
      ∧ q.quote.get? "used_underlying" = some (.bool underlying)
      ∧ curveCalldata i j amountIn underlying = some data
      ∧ answerAmount .curve amountIn (rpc.ethCall e.venue data) = some q.amountOut
      ∧ (underlying ≠ e.boolParam "underlying" → ∀ preferred,
          curveCalldata i j amountIn (e.boolParam "underlying") = some preferred →
          parseCurve (rpc.ethCall e.venue preferred) = none) := by
  simp only [quoteEdgeFresh, hdex, Option.bind_eq_bind, Option.bind_eq_some_iff, Option.pure_def,
    Option.some.injEq] at h
  obtain ⟨i', hi', i, hi, j', hj', j, hj, quote, hquote, rfl⟩ := h
  have hparams : (e.params.get? "i").bind PyValue.int? = some i
      ∧ (e.params.get? "j").bind PyValue.int? = some j := by
    rw [hi', hj', Option.bind_some, Option.bind_some]
    exact ⟨hi, hj⟩
  obtain ⟨first, hfirst, hquote⟩ := Option.bind_eq_some_iff.1 hquote
  obtain ⟨data, hdata, rfl⟩ := Option.map_eq_some_iff.1 hfirst
  cases hparse : parseCurve (rpc.ethCall e.venue data) with
  | some out =>
    rw [hparse] at hquote
    cases hquote
    exact ⟨i, j, _, data, hparams.1, hparams.2, rfl, rfl, rfl, hdata, hparse,
      fun hne => absurd rfl hne⟩
  | none =>
    rw [hparse] at hquote
    obtain ⟨second, hsecond, hquote⟩ := Option.bind_eq_some_iff.1 hquote
    obtain ⟨data', hdata', rfl⟩ := Option.map_eq_some_iff.1 hsecond
    cases hparse' : parseCurve (rpc.ethCall e.venue data') with
    | some out =>
      rw [hparse'] at hquote
      cases hquote
      refine ⟨i, j, _, data', hparams.1, hparams.2, rfl, rfl, rfl, hdata', hparse',
        fun _ preferred hpreferred => ?_⟩
      rw [hdata] at hpreferred
      cases hpreferred
      exact hparse
    | none =>
      rw [hparse'] at hquote
      cases hquote

theorem fresh_balancer (hdex : e.dex = .balancer) (h : quoteEdgeFresh rpc cfg e amountIn = some q) :
    ∃ poolId raw data, e.params.get? "pool_id" = some (.text poolId)
      ∧ fromHex ((strip0x poolId.toList).getD poolId.toList) = some raw ∧ raw.length = 32
      ∧ balancerCalldata poolId e.tokenIn e.tokenOut amountIn = some data
      ∧ answerAmount .balancer amountIn (rpc.ethCall cfg.balancerVault data)
          = some q.amountOut := by
  simp only [quoteEdgeFresh, hdex, quoteBalancerGivenIn, Option.bind_eq_bind,
    Option.bind_eq_some_iff, Option.pure_def, Option.some.injEq] at h
  obtain ⟨value, hvalue, poolId, htext, out, ⟨data, hdata, hout⟩, rfl⟩ := h
  have hvalue : e.params.get? "pool_id" = some (.text poolId) := by
    rw [hvalue]
    cases value <;> simp_all [textOf?]
  have hpool : ((fromHex ((strip0x poolId.toList).getD poolId.toList)).filter fun raw =>
      raw.length == 32).isSome = true := by
    rw [balancerCalldata] at hdata
    split at hdata
    · cases hdata
    · exact callData_some hdata (by simp)
  obtain ⟨raw, hraw⟩ := Option.isSome_iff_exists.1 hpool
  obtain ⟨hraw, hlen⟩ := Option.filter_eq_some_iff.1 hraw
  exact ⟨poolId, raw, data, hvalue, hraw, by simpa using hlen, hdata, hout⟩

theorem fresh_aerodrome (hdex : e.dex = .aerodrome)
    (h : quoteEdgeFresh rpc cfg e amountIn = some q) :
    ∃ data, q.quote.get? "stable" = some (.bool (e.boolParam "stable"))
      ∧ q.quote.get? "factory" = some (.text (e.textParam "factory"))
      ∧ aerodromeCalldata e.tokenIn e.tokenOut (e.boolParam "stable") (e.textParam "factory")
          amountIn = some data
      ∧ answerAmount .aerodrome amountIn (rpc.ethCall cfg.aerodromeRouter data)
          = some q.amountOut := by
  simp only [quoteEdgeFresh, hdex, quoteAerodrome, Option.bind_eq_bind, Option.bind_eq_some_iff,
    Option.pure_def, Option.some.injEq] at h
  obtain ⟨quote, ⟨data, hdata, out, hout, rfl⟩, rfl⟩ := h
  exact ⟨data, rfl, rfl, hdata, hout⟩

theorem fresh_slipstream (hdex : e.dex = .slipstream)
    (h : quoteEdgeFresh rpc cfg e amountIn = some q) :
    ∃ spacing data, e.intParam "tick_spacing" 0 = some spacing
      ∧ q.quote.get? "tick_spacing" = some (.int spacing) ∧ -2 ^ 23 ≤ spacing ∧ spacing < 2 ^ 23
      ∧ slipstreamCalldata e.tokenIn e.tokenOut spacing amountIn = some data
      ∧ answerAmount .slipstream amountIn (rpc.ethCall cfg.slipstreamQuoterV2 data)
          = some q.amountOut := by
  simp only [quoteEdgeFresh, hdex, quoteSlipstream, Option.bind_eq_bind, Option.bind_eq_some_iff,
    Option.pure_def, Option.some.injEq] at h
  obtain ⟨spacing, hspacing, quote, ⟨data, hdata, hparse⟩, rfl⟩ := h
  have hspacingOf : quote.tickSpacing = spacing := by
    simp only [SlipstreamQuote.parse, Option.bind_eq_bind, Option.bind_eq_some_iff] at hparse
    obtain ⟨raw, -, hparse⟩ := hparse
    split at hparse
    · cases hparse
    · split at hparse
      · cases hparse
        rfl
      · cases hparse
  have hrange : -2 ^ 23 ≤ spacing ∧ spacing < 2 ^ 23 := by
    have hword : (encTickSpacing spacing).isSome = true := callData_some hdata (by simp)
    rw [encTickSpacing] at hword
    split at hword
    · cases hword
    · omega
  refine ⟨spacing, data, hspacing, ?_, hrange.1, hrange.2, hdata, ?_⟩
  · rw [← hspacingOf]
    rfl
  · rw [answerAmount, ← slipstream_amountOut _ spacing, hparse]
    rfl

/-! ## Texts of factories -/

/-- The reader of an integer does not see case. -/
theorem digitsValue_pyLower (base acc : Nat) (afterDigit : Bool) (t : Text) :
    digitsValue base acc afterDigit (pyLower t) = digitsValue base acc afterDigit t := by
  have hunderscore : ∀ c : Char, (c.toLower = '_') = (c = '_') := by
    intro c
    exact apply_toLower (fun c => (c = '_')) (fun n _ _ => by interval_cases n <;> decide) c
  induction t generalizing acc afterDigit with
  | nil => rfl
  | cons c rest ih =>
    rw [show pyLower (c :: rest) = c.toLower :: pyLower rest from rfl]
    simp only [digitsValue, hunderscore, hexVal_toLower, ih]

theorem digitsValue_toHex {bs : List Byte} (h : bs ≠ []) :
    digitsValue 16 0 false (toHex bs) = some (beNat bs) := by
  induction bs using List.reverseRecOn with
  | nil => exact absurd rfl h
  | append_singleton bs b ih =>
    have hb := b.isLt
    have hvalue : beNat (bs ++ [b]) = (beNat bs * 16 + b.val / 16) * 16 + b.val % 16 := by
      rw [beNat_concat]
      omega
    have htext : toHex (bs ++ [b])
        = (toHex bs ++ [Nat.digitChar (b.val / 16)]) ++ [Nat.digitChar (b.val % 16)] := by
      rw [toHex_append, toHex_cons, toHex_nil, List.append_nil, hexPair, List.append_assoc]
      rfl
    rw [htext, hvalue]
    refine digitsValue_concat le_rfl (by omega) ?_
    by_cases hempty : bs = []
    · subst hempty
      have hdigit := digitChar_spec (b.val / 16) (by omega)
      rw [toHex_nil, List.nil_append, digitsValue,
        if_neg (digitChar_ne_underscore (by omega)), hdigit.1]
      have hlt : b.val / 16 < 16 := by omega
      simp [hlt, digitsValue]
    · exact digitsValue_concat le_rfl (by omega) (ih hempty)

theorem unsignedValue_crossed {x d : Char} {rest : Text} (hx : x = 'x' ∨ x = 'X') (hd : d ≠ '_') :
    unsignedValue 16 ('0' :: x :: d :: rest) = digitsValue 16 0 false (d :: rest) := by
  rcases hx with rfl | rfl <;> unfold unsignedValue <;> split <;> simp_all

/-- `int(t, 16)` of the text of an address. -/
theorem pyInt_spelled (s : SpelledAddress) :
    pyInt 16 s.text = some (beNat s.address.bytes : Int) := by
  have hbytes : s.address.bytes ≠ [] := by
    intro h
    have hlen := s.address.length_eq
    rw [h] at hlen
    cases hlen
  have hzero : ∀ c : Char, (c.toLower = '0') = (c = '0') :=
    apply_toLower (fun c => (c = '0')) fun n _ _ => by interval_cases n <;> decide
  have hcross : ∀ c : Char, (c.toLower = 'x' ∨ c.toLower = 'X') = (c = 'x' ∨ c = 'X') :=
    apply_toLower (fun c => (c = 'x' ∨ c = 'X')) fun n _ _ => by interval_cases n <;> decide
  have hunderscore : ∀ c : Char, (c.toLower = '_') = (c = '_') :=
    apply_toLower (fun c => (c = '_')) fun n _ _ => by interval_cases n <;> decide
  obtain ⟨b, bs, hb⟩ := List.exists_cons_of_ne_nil hbytes
  -- the text, its digits below the prefix
  obtain ⟨zero, x, d, rest, htext⟩ : ∃ zero x d rest, s.text = zero :: x :: d :: rest := by
    have hlen : s.text.length = 42 := by rw [← length_pyLower, s.spells, Address.length_text]
    match htext : s.text with
    | zero :: x :: d :: rest => exact ⟨zero, x, d, rest, rfl⟩
    | [] | [_] | [_, _] => simp [htext] at hlen
  have hspells := s.spells
  rw [htext, Address.text, with0x] at hspells
  obtain ⟨h0, hspells⟩ := List.cons.inj hspells
  obtain ⟨h1, hdigits⟩ := List.cons.inj hspells
  have hd : d ≠ '_' := by
    rw [hb, toHex_cons] at hdigits
    rw [ne_eq, ← hunderscore, (List.cons.inj hdigits).1]
    exact digitChar_ne_underscore (by omega)
  rw [hzero] at h0
  have hx := (hcross x).mp (Or.inl h1)
  subst h0
  have hvalue : unsignedValue 16 ('0' :: x :: d :: rest) = some (beNat s.address.bytes) := by
    rw [unsignedValue_crossed hx hd, ← digitsValue_pyLower, show pyLower (d :: rest)
      = toHex s.address.bytes from hdigits, digitsValue_toHex hbytes]
  rw [pyInt, s.pyStrip_text, htext]
  show (unsignedValue 16 ('0' :: x :: d :: rest)).map (fun n => (n : Int)) = _
  rw [hvalue]
  rfl

/-! ## Reading the data back -/

/-- `DEX_ID` of a family. -/
def Dex.id : Dex → Nat
  | univ3 => 1
  | curve => 2
  | balancer => 3
  | aerodrome => 4
  | slipstream => 5
  | camelotAlgebra => 6
  | camelotV2 => 7
  | constantProduct => 8

theorem dexId_name (dex : Dex) : dexId dex.name = some dex.id := by
  cases dex <;> rfl

theorem legFunction_leg {raw : List Byte}
    (h : b32FromHex (e.leg amountIn minOut data).aux = some raw) :
    legFunction (e.leg amountIn minOut data) = runLegsFunction e.dex.id (beNat raw) := by
  rw [legFunction, show (e.leg amountIn minOut data).dex = e.dex.name from rfl, dexId_name, h]
  rfl

theorem b32FromHex_word (n : Int) :
    b32FromHex (auxU256ToB32Hex n).toList = some (beBytes 32 (n % 2 ^ 256).toNat) := by
  rw [b32FromHex, auxU256ToB32Hex, String.toList_ofList, strip0x_with0x, Option.getD_some,
    fromHex_toHex, Option.map_some, if_neg (by rw [length_beBytes]; decide), zpad32,
    length_beBytes, Nat.sub_self, List.replicate_zero, List.nil_append]

theorem legFunction_word (e : Edge) (amountIn minOut n : Int) :
    legFunction (e.leg amountIn minOut (auxU256ToB32Hex n))
      = runLegsFunction e.dex.id (n % 2 ^ 256).toNat := by
  have haux : (e.leg amountIn minOut (auxU256ToB32Hex n)).aux
      = (auxU256ToB32Hex n).toList := by
    rw [RouteLeg.aux]
    refine if_neg fun h => ?_
    have hlist := congrArg String.toList h
    rw [show (e.leg amountIn minOut (auxU256ToB32Hex n)).data = auxU256ToB32Hex n from rfl,
      auxU256ToB32Hex, String.toList_ofList] at hlist
    cases hlist
  rw [legFunction_leg (by rw [haux, b32FromHex_word]), beNat_beBytes_of_lt (by omega)]

theorem legFunction_word_nat (e : Edge) (amountIn minOut : Int) {n : Nat} (hn : n < 2 ^ 256) :
    legFunction (e.leg amountIn minOut (auxU256ToB32Hex n)) = runLegsFunction e.dex.id n := by
  have hmod : ((n : Int) % 2 ^ 256).toNat = n := by omega
  rw [legFunction_word, hmod]

theorem legFunction_empty (e : Edge) (amountIn minOut : Int) :
    legFunction (e.leg amountIn minOut "0x") = runLegsFunction e.dex.id 0 := by
  have haux : (e.leg amountIn minOut "0x").aux = ['0', 'x'] := by
    rw [RouteLeg.aux, show (e.leg amountIn minOut "0x").data = "0x" from rfl,
      if_neg (by decide : ¬ "0x" = "")]
    rfl
  have hraw : b32FromHex ['0', 'x'] = some (List.replicate 32 0) := by decide
  rw [legFunction_leg (by rw [haux, hraw]), show beNat (List.replicate 32 0) = 0 by decide]

/-- The bits `aux_curve` packs. -/
theorem auxCurve_eq {i j : Nat} (hi : i < 256) (hj : j < 256) (underlying : Bool) :
    auxCurve i j underlying
      = auxU256ToB32Hex ((i + j * 256 + (if underlying then 65536 else 0) : Nat) : Int) := by
  have hi' : ((i : Int) % 256).toNat = i := by omega
  have hj' : ((j : Int) % 256).toNat = j := by omega
  have hlow : i ||| j <<< 8 = i + j * 256 := by
    rw [Nat.lor_comm, ← Nat.shiftLeft_add_eq_or_of_lt (by omega : i < 2 ^ 8), Nat.shiftLeft_eq]
    omega
  have hflag : i + j * 256 ||| (if underlying then 1 else 0) <<< 16
      = i + j * 256 + (if underlying then 65536 else 0) := by
    rw [Nat.lor_comm, ← Nat.shiftLeft_add_eq_or_of_lt (by omega : i + j * 256 < 2 ^ 16),
      Nat.shiftLeft_eq]
    cases underlying with
    | false => simp
    | true =>
      simp only [if_true]
      omega
  rw [auxCurve, hi', hj', hlow, hflag]

/-- The executor reads the indices and the flag back. -/
theorem runLegs_curve {i j : Nat} (hi : i < 256) (hj : j < 256) (underlying : Bool) :
    runLegsFunction 2 (i + j * 256 + (if underlying then 65536 else 0))
      = some (.curve i j underlying) := by
  generalize hword : i + j * 256 + (if underlying then 65536 else 0) = word
  have hmaskI : word &&& 0xFF = i := by
    rw [show 0xFF = 2 ^ 8 - 1 from rfl, Nat.and_two_pow_sub_one_eq_mod]
    cases underlying <;> simp at hword <;> omega
  have hmaskJ : word >>> 8 &&& 0xFF = j := by
    rw [show 0xFF = 2 ^ 8 - 1 from rfl, Nat.and_two_pow_sub_one_eq_mod, Nat.shiftRight_eq_div_pow]
    cases underlying <;> simp at hword <;> omega
  have hbit : word >>> 16 &&& 1 = if underlying then 1 else 0 := by
    rw [Nat.and_one_is_mod, Nat.shiftRight_eq_div_pow]
    cases underlying <;> simp at hword ⊢ <;> omega
  simp only [runLegsFunction, hmaskI, hmaskJ, hbit]
  cases underlying <;> rfl

/-- The executor reads factory and flag back. -/
theorem runLegs_aerodrome {factory : Nat} (h : factory < 2 ^ 160) (stable : Bool) :
    runLegsFunction 4 (factory + (if stable then 2 ^ 160 else 0))
      = some (.aerodrome factory stable) := by
  generalize hword : factory + (if stable then 2 ^ 160 else 0) = word
  have hmod : word % 2 ^ 160 = factory := by
    cases stable <;> simp at hword <;> omega
  have hbit : word >>> 160 &&& 1 = if stable then 1 else 0 := by
    rw [Nat.and_one_is_mod, Nat.shiftRight_eq_div_pow]
    cases stable <;> simp at hword ⊢ <;> omega
  simp only [runLegsFunction, hmod, hbit]
  cases stable <;> rfl

theorem runLegs_univ3 {fee : Nat} (h : fee < 2 ^ 24) :
    runLegsFunction 1 fee = some (.univ3 fee) := by
  rw [runLegsFunction, show 0xFFFFFF = 2 ^ 24 - 1 from rfl, Nat.and_two_pow_sub_one_eq_mod,
    Nat.mod_eq_of_lt h]

/-- The executor reads a tick spacing of 24 bits with its sign. -/
theorem runLegs_slipstream {n : Int} (hlo : -2 ^ 23 ≤ n) (hhi : n < 2 ^ 23) :
    runLegsFunction 5 (n % 2 ^ 24).toNat = some (.slipstream n) := by
  have hlt : (n % 2 ^ 24).toNat < 2 ^ 24 := by omega
  rw [runLegsFunction, show 0xFFFFFF = 2 ^ 24 - 1 from rfl, Nat.and_two_pow_sub_one_eq_mod,
    Nat.mod_eq_of_lt hlt, int24]
  congr 2
  split <;> omega

/-! ## Legs of the builders -/

/-- The parameters of an edge fit into the data of a leg: a fee of 24 bits, indices of a byte, the
address of a factory. -/
def InRange (e : Edge) : Prop :=
  match e.dex with
  | .univ3 => ∀ fee, e.intParam "fee" 3000 = some fee → fee < 2 ^ 24
  | .curve => ∀ i j, (e.params.get? "i").bind PyValue.int? = some i →
      (e.params.get? "j").bind PyValue.int? = some j → (0 ≤ i ∧ i ≤ 255) ∧ 0 ≤ j ∧ j ≤ 255
  | .aerodrome => ∃ s : SpelledAddress,
      e.params.get? "factory" = some (.text (String.ofList s.text))
  | _ => True

/-- Outside the V2 routers and Camelot Algebra a quote is one that `quote_edge` takes. -/
theorem QuoteOf.fresh (h : QuoteOf cfg e amountIn q) (hproduct : e.dex ≠ .constantProduct)
    (hcamelot : e.dex ≠ .camelotAlgebra) : ∃ rpc, quoteEdgeFresh rpc cfg e amountIn = some q := by
  cases h with
  | single rpc h => exact ⟨rpc, h⟩
  | batch rpc missing hmissing writes hwrites h =>
    obtain ⟨writes', hwrites', hsound, -⟩ := networkWrites_covers rpc amountIn
      (fun e he => (suited_of_mem_buildEdges (hmissing e he)).readable)
      (fun e he => (suited_of_mem_buildEdges (hmissing e he)).available)
    rw [hwrites] at hwrites'
    cases hwrites'
    exact ⟨rpc, (hsound _ h).2.fresh q rfl hproduct hcamelot⟩

/-- The factory of an Aerodrome edge, as both builders read it. -/
theorem factory_spelled {s : SpelledAddress}
    (h : e.params.get? "factory" = some (.text (String.ofList s.text))) :
    edgeFactory e = String.ofList s.text ∧ e.textParam "factory" = String.ofList s.text := by
  refine ⟨?_, textParam_of_get? h⟩
  have hne : String.ofList s.text ≠ "" := by
    intro hempty
    have hlen := congrArg (fun t => t.toList.length) hempty
    simp only [String.toList_ofList] at hlen
    rw [← length_pyLower, s.spells, Address.length_text] at hlen
    cases hlen
  rw [edgeFactory, PyDict.get, Dict.getD, h, Option.getD_some,
    PyValue.orElse_of_truthy _ (by simpa [PyValue.truthy] using hne)]
  rfl

/-- The data `_route_aux_for_edge` encodes name the function of the quote. -/
theorem legFunction_route {quotedAt : Int} (hquote : QuoteOf cfg e quotedAt q) (hrange : InRange e)
    (hdata : routeAuxForEdge e q.quote = some data) :
    ∃ f, legFunction (e.leg amountIn minOut data) = some f ∧ quotedFunction e q.quote = some f := by
  cases hdex : e.dex with
  | univ3 =>
    obtain ⟨rpc, hfresh⟩ := hquote.fresh (by rw [hdex]; decide) (by rw [hdex]; decide)
    obtain ⟨fee, call, hfee, hmeta, hcall, -⟩ := fresh_univ3 hdex hfresh
    have hlt : fee < 2 ^ 24 := by
      rw [InRange, hdex] at hrange
      exact hrange fee hfee
    have hnonneg : 0 ≤ fee := by
      have hword : (encUint fee).isSome = true := callData_some hcall (by simp)
      rw [encUint] at hword
      split at hword
      · rename_i hbound
        exact hbound.1
      · cases hword
    lift fee to ℕ using hnonneg
    have hdata : data = auxU256ToB32Hex fee := by
      rw [routeAuxForEdge, hdex] at hdata
      simp only [feeOf, Dict.getD, hmeta, Option.getD_some, PyValue.int?, Option.map_some,
        auxUniv3Fee] at hdata
      rw [← Option.some.inj hdata, Int.emod_eq_of_lt (by omega) hlt]
    have hfeeNat : fee < 2 ^ 24 := by omega
    refine ⟨.univ3 fee, ?_, ?_⟩
    · rw [hdata, legFunction_word_nat _ _ _ (by omega), hdex, Dex.id, runLegs_univ3 hfeeNat]
    · rw [quotedFunction, hdex]
      simp only [hfee, Option.map_some]
  | curve =>
    obtain ⟨rpc, hfresh⟩ := hquote.fresh (by rw [hdex]; decide) (by rw [hdex]; decide)
    obtain ⟨i, j, underlying, call, hi, hj, hmetaI, hmetaJ, hmetaU, -⟩ := fresh_curve hdex hfresh
    rw [InRange, hdex] at hrange
    obtain ⟨⟨hi0, hi1⟩, hj0, hj1⟩ := hrange i j hi hj
    lift i to ℕ using hi0
    lift j to ℕ using hj0
    have hdata : data = auxCurve i j underlying := by
      rw [routeAuxForEdge, hdex] at hdata
      simp only [auxCurveFromMeta, Dict.getD, hmetaI, hmetaJ, hmetaU, Option.getD_some,
        PyValue.int?, PyValue.truthy, Option.bind_eq_bind, Option.bind_some, Option.pure_def]
        at hdata
      exact (Option.some.inj hdata).symm
    refine ⟨.curve i j underlying, ?_, ?_⟩
    · rw [hdata, auxCurve_eq (by omega) (by omega), legFunction_word_nat _ _ _ (by
        cases underlying <;> simp <;> omega), hdex, Dex.id,
        runLegs_curve (by omega) (by omega)]
    · obtain ⟨valueI, hvalueI, hi⟩ := Option.bind_eq_some_iff.1 hi
      obtain ⟨valueJ, hvalueJ, hj⟩ := Option.bind_eq_some_iff.1 hj
      rw [quotedFunction, hdex]
      simp only [hvalueI, hvalueJ, hi, hj, Dict.getD, hmetaU, Option.bind_eq_bind,
        Option.bind_some, Option.pure_def, Option.getD_some, PyValue.truthy]
  | balancer =>
    obtain ⟨rpc, hfresh⟩ := hquote.fresh (by rw [hdex]; decide) (by rw [hdex]; decide)
    obtain ⟨poolId, raw, call, hpool, hraw, hlen, -⟩ := fresh_balancer hdex hfresh
    have hne : poolId ≠ "" := by
      rintro rfl
      cases hraw
      cases hlen
    have hdata : data = poolId := by
      rw [routeAuxForEdge, hdex] at hdata
      simp only [PyDict.get, Dict.getD, hpool, Option.getD_some] at hdata
      rw [PyValue.orElse_of_truthy _ (by simpa [PyValue.truthy] using hne)] at hdata
      exact (Option.some.inj hdata).symm
    refine ⟨.balancer (beNat raw), ?_, ?_⟩
    · have haux : b32FromHex (e.leg amountIn minOut data).aux = some raw := by
        have hleg : (e.leg amountIn minOut data).data = poolId := hdata
        rw [RouteLeg.aux, hleg, if_neg hne, b32FromHex, hraw, Option.map_some, hlen,
          if_neg (by decide), zpad32, hlen]
        rfl
      rw [legFunction_leg haux, hdex]
      rfl
    · rw [quotedFunction, hdex]
      simp only [hpool, textOf?, hraw, Option.bind_eq_bind, Option.bind_some, Option.pure_def]
  | aerodrome =>
    rw [InRange, hdex] at hrange
    obtain ⟨s, hs⟩ := hrange
    obtain ⟨hfactory, htext⟩ := factory_spelled hs
    have hlt := beNat_address_lt s.address
    have hdata : data = auxU256ToB32Hex ((beNat s.address.bytes
        + (if e.boolParam "stable" then 2 ^ 160 else 0) : Nat) : Int) := by
      rw [routeAuxForEdge, hdex] at hdata
      simp only [hfactory] at hdata
      rw [factoryWord_of_lt (by rw [String.toList_ofList, pyInt_spelled]) hlt] at hdata
      exact (Option.some.inj hdata).symm
    refine ⟨.aerodrome (beNat s.address.bytes) (e.boolParam "stable"), ?_, ?_⟩
    · rw [hdata, legFunction_word_nat _ _ _ (by cases e.boolParam "stable" <;> simp <;> omega), hdex,
        Dex.id, runLegs_aerodrome hlt]
    · rw [quotedFunction, hdex]
      simp only [htext, String.toList_ofList, encAddress_spelled, beNat_address_word,
        Option.bind_eq_bind, Option.bind_some, Option.pure_def]
  | slipstream =>
    obtain ⟨rpc, hfresh⟩ := hquote.fresh (by rw [hdex]; decide) (by rw [hdex]; decide)
    obtain ⟨spacing, call, hspacing, -, hlo, hhi, -⟩ := fresh_slipstream hdex hfresh
    have hdata : data = auxU256ToB32Hex ((spacing % 2 ^ 24).toNat : Int) := by
      rw [routeAuxForEdge, hdex] at hdata
      simp only [show (e.params.getD "tick_spacing" (.int 0)).int? = some spacing from hspacing,
        Option.map_some] at hdata
      rw [← Option.some.inj hdata, Int.toNat_of_nonneg (Int.emod_nonneg _ (by norm_num))]
    refine ⟨.slipstream spacing, ?_, ?_⟩
    · rw [hdata, legFunction_word_nat _ _ _ (by omega), hdex, Dex.id, runLegs_slipstream hlo hhi]
    · rw [quotedFunction, hdex]
      simp only [hspacing, Option.map_some]
  | camelotAlgebra =>
    rw [routeAuxForEdge, hdex] at hdata
    cases hdata
    refine ⟨.pair, ?_, by rw [quotedFunction, hdex]⟩
    rw [legFunction_empty, hdex]
    rfl
  | camelotV2 =>
    rw [routeAuxForEdge, hdex] at hdata
    obtain ⟨raw, -, hdata⟩ := Option.bind_eq_some_iff.1 hdata
    refine ⟨.pair, ?_, by rw [quotedFunction, hdex]⟩
    rw [← Option.some.inj hdata, legFunction_word, hdex, Dex.id, runLegsFunction]
  | constantProduct =>
    rw [routeAuxForEdge, hdex] at hdata
    obtain ⟨raw, -, hdata⟩ := Option.bind_eq_some_iff.1 hdata
    refine ⟨.pair, ?_, by rw [quotedFunction, hdex]⟩
    rw [← Option.some.inj hdata, legFunction_word, hdex, Dex.id, runLegsFunction]

/-- So do the data `_aux_for` encodes: on a V2 router they are empty, and read by nothing. -/
theorem legFunction_aux {quotedAt : Int} (hquote : QuoteOf cfg e quotedAt q) (hrange : InRange e)
    (hdata : auxFor e q.quote = some data) :
    ∃ f, legFunction (e.leg amountIn minOut data) = some f ∧ quotedFunction e q.quote = some f := by
  by_cases hrouter : e.dex = .camelotV2 ∨ e.dex = .constantProduct
  · have hempty : data = "0x" := by
      rw [auxFor] at hdata
      rcases hrouter with h | h
      all_goals
        rw [h] at hdata
        exact (Option.some.inj hdata).symm
    refine ⟨.pair, ?_, ?_⟩
    · rw [hempty, legFunction_empty]
      rcases hrouter with h | h <;> rw [h] <;> rfl
    · rcases hrouter with h | h <;> rw [quotedFunction, h]
  · obtain ⟨hcamelot, hproduct⟩ := not_or.1 hrouter
    refine legFunction_route hquote hrange ((sameData_iff e q.quote).2 ?_ ▸ hdata)
    rw [SameData]
    cases hdex : e.dex with
    | aerodrome =>
      rw [InRange, hdex] at hrange
      obtain ⟨s, hs⟩ := hrange
      obtain ⟨hfactory, htext⟩ := factory_spelled hs
      obtain ⟨rpc, hfresh⟩ := hquote.fresh hproduct (by rw [hdex]; decide)
      obtain ⟨call, hstable, hquoted, -⟩ := fresh_aerodrome hdex hfresh
      have hne : String.ofList s.text ≠ "" := by
        intro hempty
        have hlen := congrArg (fun t => t.toList.length) hempty
        simp only [String.toList_ofList] at hlen
        rw [← length_pyLower, s.spells, Address.length_text] at hlen
        cases hlen
      simp only [quotedFactory, quotedStable, Dict.getD, hstable, hquoted, htext, hfactory,
        Option.getD_some]
      rw [PyValue.orElse_of_truthy _ (by simpa [PyValue.truthy] using hne)]
      rfl
    | slipstream =>
      obtain ⟨rpc, hfresh⟩ := hquote.fresh hproduct (by rw [hdex]; decide)
      obtain ⟨spacing, call, hspacing, hquoted, -⟩ := fresh_slipstream hdex hfresh
      have hedge : (e.params.getD "tick_spacing" (.int 0)).int? = some spacing := hspacing
      simp only [quotedTickSpacing, hedge]
      rw [Dict.getD, hquoted]
      rfl
    | camelotV2 => exact hcamelot hdex
    | constantProduct => exact hproduct hdex
    | _ => trivial

theorem balancerCalldata_congr {poolId poolId' tokenIn tokenOut : String}
    (h : fromHex ((strip0x poolId.toList).getD poolId.toList)
      = fromHex ((strip0x poolId'.toList).getD poolId'.toList)) :
    balancerCalldata poolId tokenIn tokenOut amountIn
      = balancerCalldata poolId' tokenIn tokenOut amountIn := by
  simp only [balancerCalldata, h]

/-- The function a quote is taken with is the one the node answers: the quoter's call for it has
the quoted amount as its answer. -/
theorem quoted_call (hrange : InRange e) (h : quoteEdgeFresh rpc cfg e amountIn = some q) :
    ∃ f data, quotedFunction e q.quote = some f ∧ askedData e amountIn f = some data
      ∧ answerAmount e.dex amountIn (rpc.ethCall (callTarget cfg e) data) = some q.amountOut := by
  cases hdex : e.dex with
  | univ3 =>
    obtain ⟨fee, data, hfee, -, hdata, hanswer⟩ := fresh_univ3 hdex h
    refine ⟨.univ3 fee, data, ?_, hdata, ?_⟩
    · rw [quotedFunction, hdex]
      simp only [hfee, Option.map_some]
    · rw [callTarget, hdex]
      exact hanswer
  | curve =>
    obtain ⟨i, j, underlying, data, hi, hj, -, -, hflag, hdata, hanswer, -⟩ := fresh_curve hdex h
    obtain ⟨valueI, hvalueI, hi⟩ := Option.bind_eq_some_iff.1 hi
    obtain ⟨valueJ, hvalueJ, hj⟩ := Option.bind_eq_some_iff.1 hj
    refine ⟨.curve i j underlying, data, ?_, hdata, ?_⟩
    · rw [quotedFunction, hdex]
      simp only [hvalueI, hvalueJ, hi, hj, Dict.getD, hflag, Option.bind_eq_bind,
        Option.bind_some, Option.pure_def, Option.getD_some, PyValue.truthy]
    · rw [callTarget, hdex]
      exact hanswer
  | balancer =>
    obtain ⟨poolId, raw, data, hpool, hraw, hlen, hdata, hanswer⟩ := fresh_balancer hdex h
    refine ⟨.balancer (beNat raw), data, ?_, ?_, ?_⟩
    · rw [quotedFunction, hdex]
      simp only [hpool, textOf?, hraw, Option.bind_eq_bind, Option.bind_some, Option.pure_def]
    · have hback : fromHex ((strip0x (with0x (toHex (beBytes 32 (beNat raw))))).getD
          (with0x (toHex (beBytes 32 (beNat raw))))) = some raw := by
        rw [strip0x_with0x, Option.getD_some, fromHex_toHex, ← hlen, beBytes_beNat]
      rw [askedData, ← hdata]
      refine balancerCalldata_congr ?_
      rw [String.toList_ofList, hback, hraw]
    · rw [callTarget, hdex]
      exact hanswer
  | aerodrome =>
    rw [InRange, hdex] at hrange
    obtain ⟨s, hs⟩ := hrange
    obtain ⟨-, htext⟩ := factory_spelled hs
    obtain ⟨data, -, -, hdata, hanswer⟩ := fresh_aerodrome hdex h
    refine ⟨.aerodrome (beNat s.address.bytes) (e.boolParam "stable"), data, ?_, ?_, ?_⟩
    · rw [quotedFunction, hdex]
      simp only [htext, String.toList_ofList, encAddress_spelled, beNat_address_word,
        Option.bind_eq_bind, Option.bind_some, Option.pure_def]
    · have hbytes : beBytes 20 (beNat s.address.bytes) = s.address.bytes := by
        rw [← s.address.length_eq, beBytes_beNat]
      have hspelled : encAddress (with0x (toHex s.address.bytes)) = some s.address.word :=
        encAddress_spelled s.address.spelled
      rw [askedData, ← hdata, aerodromeCalldata, aerodromeCalldata, hbytes, htext,
        String.toList_ofList, String.toList_ofList, hspelled, encAddress_spelled]
    · rw [callTarget, hdex]
      exact hanswer
  | slipstream =>
    obtain ⟨spacing, data, hspacing, -, -, -, hdata, hanswer⟩ := fresh_slipstream hdex h
    refine ⟨.slipstream spacing, data, ?_, hdata, ?_⟩
    · rw [quotedFunction, hdex]
      simp only [hspacing, Option.map_some]
    · rw [callTarget, hdex]
      exact hanswer
  | _ =>
    have hread : Readable e := by rw [Readable, hdex]; trivial
    have hamount : (quoteEdgeFresh rpc cfg e amountIn).map EdgeQuote.amountOut
        = some q.amountOut := by rw [h, Option.map_some]
    rw [quoteEdgeFresh_amount hread] at hamount
    obtain ⟨call, hcall, hanswer⟩ := Option.bind_eq_some_iff.1 hamount
    obtain ⟨data, hdata, rfl⟩ := Option.map_eq_some_iff.1 hcall
    refine ⟨.pair, data, by rw [quotedFunction, hdex], hdata, ?_⟩
    have hother : otherRequest amountIn e = none := if_neg (by rw [hdex]; decide)
    rw [hother, Option.bind_none, Option.or_none, hdex] at hanswer
    exact hanswer

end SovereignCapital.Engine
