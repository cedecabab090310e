import SovereignCapital.Abi.KeccakSponge
import SovereignCapital.Execute.Calldata
import SovereignCapital.Executor.UserData

/-! # The route and the calldata of an execution

`calldata_builder.py` and `route_encoding.py` against the contract: what a request asks for is
what the contract decodes, and the identifier of the route is the one it computes. A request is
made of texts; `SpellsRequest` says which arguments they spell, with or without `0x` and in
letters of either case.
-/

namespace SovereignCapital.Execute

open Bytes Abi

/-! ## Texts -/

/-- The digits of a byte string in either case, after `0x` in either case or without it. -/
def Spells (t : Text) (bs : List Byte) : Prop :=
  pyLower t = toHex bs ∨ pyLower t = with0x (toHex bs)

instance (t : Text) (bs : List Byte) : Decidable (Spells t bs) :=
  inferInstanceAs (Decidable (_ ∨ _))

/-- A text that starts with `0X`. -/
def UpperMark (t : Text) : Prop := t.take 2 = ['0', 'X']

instance (t : Text) : Decidable (UpperMark t) := inferInstanceAs (Decidable (_ = _))

theorem strip0x_toHex (bs : List Byte) : strip0x (toHex bs) = none := by
  cases bs with
  | nil => rfl
  | cons b bs =>
    have hx : ∀ n, n < 16 → Nat.digitChar n ≠ 'x' := by decide
    have hlow := hx (b.val % 16) (by omega)
    rw [toHex_cons, hexPair, strip0x]
    intro rest heq
    simp only [List.cons_append, List.nil_append, List.cons.injEq] at heq
    exact hlow heq.2.1

variable {t : Text} {bs : List Byte} {text : RouteLeg} {leg : Executor.Leg}
  {legs : List Executor.Leg} {p : Executor.Params}

/-- Without the mark in front, the digits are left. -/
theorem Spells.strip (h : Spells t bs) : (strip0x (pyLower t)).getD (pyLower t) = toHex bs := by
  rcases h with h | h
  · rw [h, strip0x_toHex, Option.getD_none]
  · rw [h, strip0x_with0x, Option.getD_some]

theorem Spells.addr20 {a : Address} (h : Spells t a.bytes) : addr20 t = some a.bytes := by
  have hlength : (toHex a.bytes).length = 40 := by rw [length_toHex, a.length_eq]
  rw [Execute.addr20, h.strip, pyRjust, hlength, Nat.sub_self, List.replicate_zero,
    List.nil_append, fromHex_toHex]

theorem Spells.encAddress {a : Address} (h : Spells t a.bytes) : encAddress t = some a.word := by
  have hlength : (toHex a.bytes).length = 40 := by rw [length_toHex, a.length_eq]
  rw [Abi.encAddress]
  simp only [h.strip, pyRjust, hlength, Nat.sub_self, List.replicate_zero, List.nil_append,
    fromHex_toHex, Option.map_some, zpad32, a.length_eq, Address.word]

/-- The helper of the route folds the case before it looks for the mark. -/
theorem Spells.b32_lower (h : Spells t bs) (hlength : bs.length ≤ 32) :
    b32FromHex (pyLower t) = some (zpad32 bs) := by
  rw [b32FromHex, h.strip, fromHex_toHex, Option.map_some, if_neg (by omega)]

theorem toLower_cases (c : Char) : c.toLower = c ∨ (65 ≤ c.toNat ∧ c.toNat ≤ 90) := by
  by_cases hc : 65 ≤ c.toNat ∧ c.toNat ≤ 90
  · exact .inr hc
  · exact .inl (dif_neg (by simpa [UInt32.le_iff_toNat_le] using hc))

theorem mark_cases {rest : Text} (h : pyLower t = with0x rest) :
    ∃ tail, t = '0' :: 'x' :: tail ∨ t = '0' :: 'X' :: tail := by
  have hzero : ∀ n, 65 ≤ n → n ≤ 90 → (Char.ofNat n).toLower ≠ '0' := by
    intro n _ _
    interval_cases n <;> decide
  have hx : ∀ n, 65 ≤ n → n ≤ 90 → (Char.ofNat n).toLower = 'x' → Char.ofNat n = 'X' := by
    intro n _ _
    interval_cases n <;> decide
  cases t with
  | nil => cases h
  | cons c t =>
    cases t with
    | nil => cases (List.cons.inj h).2
    | cons d tail =>
      obtain ⟨hc, hrest⟩ := List.cons.inj h
      obtain ⟨hd, -⟩ := List.cons.inj hrest
      have hfirst : c = '0' := by
        rcases toLower_cases c with hsame | hupper
        · rw [← hsame, hc]
        · rw [← Char.ofNat_toNat c] at hc
          exact absurd hc (hzero _ hupper.1 hupper.2)
      refine ⟨tail, ?_⟩
      rcases toLower_cases d with hsame | hupper
      · left
        rw [hfirst, ← hsame, hd]
      · right
        rw [← Char.ofNat_toNat d] at hd ⊢
        rw [hfirst, hx _ hupper.1 hupper.2 hd]

/-- The helper of the calldata does not: it takes every spelling but one with `0X`. -/
theorem Spells.b32_eq (h : Spells t bs) (hlength : bs.length ≤ 32) :
    b32FromHex t = if UpperMark t then none else some (zpad32 bs) := by
  have hpad : ∀ digits, pyLower digits = toHex bs →
      ((fromHex digits).map fun raw => if 32 < raw.length then raw.drop (raw.length - 32)
        else zpad32 raw) = some (zpad32 bs) := by
    intro digits hdigits
    rw [← fromHex_pyLower, hdigits, fromHex_toHex, Option.map_some, if_neg (by omega)]
  rcases h with h | h
  · have hno : ∀ tail, t ≠ '0' :: 'x' :: tail ∧ t ≠ '0' :: 'X' :: tail := by
      have hstrip := strip0x_toHex bs
      rw [← h] at hstrip
      intro tail
      constructor
      · rintro rfl
        cases hstrip
      · rintro rfl
        cases hstrip
    have hupper : ¬UpperMark t := by
      intro hupper
      apply (hno (t.drop 2)).2
      rw [← List.take_append_drop 2 t, hupper]
      rfl
    have hstrip : strip0x t = none := by
      rw [strip0x]
      exact fun tail => (hno tail).1
    rw [if_neg hupper, b32FromHex, hstrip, Option.getD_none, hpad t h]
  · obtain ⟨tail, rfl | rfl⟩ := mark_cases h
    · have htail : pyLower tail = toHex bs := (List.cons.inj (List.cons.inj h).2).2
      have hupper : ¬UpperMark ('0' :: 'x' :: tail) := by
        intro hupper
        cases hupper
      rw [if_neg hupper]
      exact hpad tail htail
    · -- the mark is left in front of the digits, and `X` is no digit
      have hupper : UpperMark ('0' :: 'X' :: tail) := rfl
      rw [if_pos hupper]
      rfl

/-! ## Legs -/

/-- The texts of a leg spell a leg of the contract, its `aux` with zeros in front. -/
structure SpellsLeg (text : RouteLeg) (leg : Executor.Leg) : Prop where
  dex : dexId text.dex = some leg.dex.val
  venue : Spells text.venue.toList leg.venue.bytes
  tokenIn : Spells text.tokenIn.toList leg.tokenIn.bytes
  tokenOut : Spells text.tokenOut.toList leg.tokenOut.bytes
  minOut : readDecimal text.minOut = some (leg.minOut.val : Int)
  aux : ∃ bs, bs.length ≤ 32 ∧ Spells text.data.toList bs ∧ wordBytes leg.aux = zpad32 bs

/-- An `aux` that is left out is empty. -/
theorem SpellsLeg.aux_text (h : SpellsLeg text leg) :
    ∃ bs, bs.length ≤ 32 ∧ Spells text.aux bs ∧ wordBytes leg.aux = zpad32 bs
      ∧ (UpperMark text.aux ↔ UpperMark text.data.toList) := by
  obtain ⟨bs, hlength, hspells, hword⟩ := h.aux
  refine ⟨bs, hlength, ?_, hword, ?_⟩
  · rw [RouteLeg.aux]
    split
    · rename_i hempty
      rw [hempty] at hspells
      rcases hspells with hspells | hspells
      · right
        rw [← hspells]
        decide
      · cases hspells
    · exact hspells
  · rw [RouteLeg.aux]
    split
    · rename_i hempty
      rw [hempty]
      decide
    · exact Iff.rfl

def packedLeg (leg : Executor.Leg) : List Byte :=
  leg.dex :: (leg.venue.bytes ++ leg.tokenIn.bytes ++ leg.tokenOut.bytes ++ wordBytes leg.aux)

/-- A route of the contract, packed: `abi.encodePacked` of `_computeRouteId`. -/
def packed (legs : List Executor.Leg) : List Byte :=
  1 :: Fin.ofNat 256 legs.length :: legs.flatMap packedLeg

theorem computeRouteId_eq (legs : List Executor.Leg) :
    Executor.computeRouteId legs = Fin.ofNat (2 ^ 256) (beNat (Keccak.keccak256 (packed legs))) := rfl

theorem encodeRouteLeg_of_spells (h : SpellsLeg text leg) :
    encodeRouteLeg text = some (packedLeg leg) := by
  obtain ⟨bs, hlength, haux, hword, -⟩ := h.aux_text
  have hdex : Fin.ofNat 256 leg.dex.val = leg.dex := Fin.ext (Nat.mod_eq_of_lt leg.dex.isLt)
  simp only [encodeRouteLeg, h.dex, h.venue.addr20, h.tokenIn.addr20, h.tokenOut.addr20,
    haux.b32_lower hlength, Option.bind_eq_bind, Option.bind_some, Option.pure_def, hdex, packedLeg,
    hword]

theorem toWord_val (w : Word) : toWord (w.val : Int) = some w := by
  have hrange : (w.val : Int) < 2 ^ 256 := by exact_mod_cast w.isLt
  rw [toWord, dif_pos ⟨Int.natCast_nonneg _, hrange⟩]
  exact congrArg some (Fin.ext (Int.toNat_natCast _))

/-- The tuple of a leg whose other fields are read: its `aux` decides. -/
theorem encodeLegTuple_eq {dex : Nat} {venue tokenIn tokenOut : List Byte} {n : Int} {minOut : Word}
    (hdex : dexId text.dex = some dex) (hvenue : encAddress text.venue.toList = some venue)
    (hin : encAddress text.tokenIn.toList = some tokenIn)
    (hout : encAddress text.tokenOut.toList = some tokenOut)
    (hread : readDecimal text.minOut = some n) (hmin : toWord n = some minOut) :
    encodeLegTuple text = (b32FromHex text.aux).map fun aux =>
      { dex, venue, tokenIn, tokenOut, minOut, aux } := by
  simp only [encodeLegTuple, hread, hdex, hvenue, hin, hout, hmin, Option.bind_eq_bind,
    Option.bind_some, Option.map_eq_bind]
  rfl

def legTuple (leg : Executor.Leg) : LegTuple :=
  ⟨leg.dex.val, leg.venue.word, leg.tokenIn.word, leg.tokenOut.word, leg.minOut, wordBytes leg.aux⟩

/-- The tuple of a leg is there unless its `aux` is written with `0X`. -/
theorem encodeLegTuple_of_spells (h : SpellsLeg text leg) :
    encodeLegTuple text = if UpperMark text.data.toList then none else some (legTuple leg) := by
  obtain ⟨bs, hlength, haux, hword, hmark⟩ := h.aux_text
  rw [encodeLegTuple_eq h.dex h.venue.encAddress h.tokenIn.encAddress h.tokenOut.encAddress h.minOut
    (toWord_val leg.minOut), haux.b32_eq hlength, legTuple, hword]
  simp only [hmark]
  split
  · rfl
  · rfl

/-! ## Routes -/

def encodeRoute (legs : List RouteLeg) : Option (List Byte) := do
  let encoded ← legs.mapM encodeRouteLeg
  if 255 < legs.length then none
  else return 1 :: Fin.ofNat 256 legs.length :: encoded.flatten

theorem mapM_of_forall₂ {α β γ : Type} {f : α → Option β} {g : γ → β} {R : α → γ → Prop}
    (hf : ∀ a c, R a c → f a = some (g c)) {as : List α} {cs : List γ}
    (h : List.Forall₂ R as cs) : as.mapM f = some (cs.map g) := by
  induction h with
  | nil => rfl
  | cons hac _ ih => rw [List.mapM_cons, hf _ _ hac, ih]; rfl

/-- **The route of the texts is the route of the contract**, byte by byte. -/
theorem encodeRoute_of_spells {texts : List RouteLeg} (h : List.Forall₂ SpellsLeg texts legs)
    (hcount : legs.length ≤ 255) : encodeRoute texts = some (packed legs) := by
  have hlength : texts.length = legs.length := h.length_eq
  have hencoded : texts.mapM encodeRouteLeg = some (legs.map packedLeg) :=
    mapM_of_forall₂ (fun _ _ hleg => encodeRouteLeg_of_spells hleg) h
  rw [encodeRoute, hencoded]
  simp only [Option.bind_eq_bind, Option.bind_some]
  rw [if_neg (by omega), hlength]
  rfl

theorem length_packedLeg (leg : Executor.Leg) : (packedLeg leg).length = 93 := by
  simp [packedLeg, leg.venue.length_eq, leg.tokenIn.length_eq, leg.tokenOut.length_eq]

theorem length_packed (legs : List Executor.Leg) : (packed legs).length = 2 + 93 * legs.length := by
  have hlegs : (legs.flatMap packedLeg).length = 93 * legs.length :=
    (length_flatten_of_length fun _ hw => by
      obtain ⟨leg, -, rfl⟩ := List.mem_map.1 hw
      exact length_packedLeg leg).trans (by rw [List.length_map])
  rw [packed, List.length_cons, List.length_cons, hlegs]
  omega

/-- What a leg of the contract says but for its minimum output. -/
def swapOf (leg : Executor.Leg) : Byte × Address × Address × Address × Word :=
  (leg.dex, leg.venue, leg.tokenIn, leg.tokenOut, leg.aux)

theorem packedLeg_injective {leg' : Executor.Leg} (h : packedLeg leg = packedLeg leg') :
    swapOf leg = swapOf leg' := by
  obtain ⟨hdex, hrest⟩ := List.cons.inj h
  have haddresses : ∀ l : Executor.Leg,
      (l.venue.bytes ++ l.tokenIn.bytes ++ l.tokenOut.bytes).length = 60 := by
    intro l
    simp [l.venue.length_eq, l.tokenIn.length_eq, l.tokenOut.length_eq]
  obtain ⟨hrest, haux⟩ := List.append_inj hrest ((haddresses leg).trans (haddresses leg').symm)
  obtain ⟨hrest, hout⟩ := List.append_inj' hrest (by rw [leg.tokenOut.length_eq, leg'.tokenOut.length_eq])
  obtain ⟨hvenue, hin⟩ := List.append_inj' hrest (by rw [leg.tokenIn.length_eq, leg'.tokenIn.length_eq])
  have hword : leg.aux = leg'.aux := by
    have hnat := congrArg beNat haux
    rw [beNat_wordBytes, beNat_wordBytes] at hnat
    exact Fin.ext hnat
  rw [swapOf, swapOf, hdex, Address.ext_bytes hvenue, Address.ext_bytes hin,
    Address.ext_bytes hout, hword]

/-- **Two routes never have the same bytes.** -/
theorem packed_injective {legs' : List Executor.Leg} (hcount : legs.length ≤ 255)
    (hcount' : legs'.length ≤ 255) (h : packed legs = packed legs') :
    legs.map swapOf = legs'.map swapOf := by
  obtain ⟨hlength, hlegs⟩ := List.cons.inj (List.cons.inj h).2
  have hmod : legs.length % 256 = legs'.length % 256 := congrArg Fin.val hlength
  replace hlength : legs.length = legs'.length := by omega
  clear hmod h hcount hcount'
  -- the legs are cut off one after the other, each as long as the other route's
  induction legs generalizing legs' with
  | nil =>
    rw [List.eq_nil_of_length_eq_zero hlength.symm]
  | cons leg legs ih =>
    cases legs' with
    | nil => cases hlength
    | cons leg' legs' =>
      rw [List.flatMap_cons, List.flatMap_cons] at hlegs
      obtain ⟨hleg, hlegs⟩ := List.append_inj hlegs
        ((length_packedLeg leg).trans (length_packedLeg leg').symm)
      rw [List.map_cons, List.map_cons, packedLeg_injective hleg,
        ih hlegs (Nat.succ.inj hlength)]

/-- The packed route misses one byte to whole blocks with 57 or 193 legs. -/
theorem packed_short_iff (hcount : legs.length ≤ 255) :
    (packed legs).length % rateBytes + 1 = rateBytes ↔ legs.length = 57 ∨ legs.length = 193 := by
  rw [length_packed, rateBytes]
  omega

/-! ## Requests -/

/-- The arguments of `build_execute_calldata`. -/
structure Request where
  provider : String
  borrowToken : String
  amountBorrow : Int
  minProfit : Int
  profitTo : String
  deadline : Int
  legs : List RouteLeg

/-- `build_execute_calldata` in a process with a hash function. -/
def Request.call (hash : List Byte → List Byte) (r : Request) : Option ExecuteCall := do
  let provider ← providerId r.provider
  let routeId ← (encodeRoute r.legs).map hash
  let legs ← r.legs.mapM encodeLegTuple
  let borrowToken ← encAddress r.borrowToken.toList
  let amountBorrow ← toWord r.amountBorrow
  let minProfit ← toWord r.minProfit
  let profitTo ← encAddress r.profitTo.toList
  let deadline ← toWord r.deadline
  return { provider, borrowToken, amountBorrow, minProfit, profitTo, deadline, routeId, legs }

def ExecuteCall.calldata (hash : List Byte → List Byte) (call : ExecuteCall) : List Byte :=
  (hash (encodeUtf8 executeSig)).take 4 ++ call.words.flatten

/-- The texts and integers of a request spell arguments of the contract, with 1 to 255 legs; the
identifier of the route is not asked for. -/
structure SpellsRequest (r : Request) (p : Executor.Params) : Prop where
  provider : providerId r.provider = some p.provider.val
  borrowToken : Spells r.borrowToken.toList p.borrowToken.bytes
  amountBorrow : r.amountBorrow = p.amountBorrow.val
  minProfit : r.minProfit = p.minProfit.val
  profitTo : Spells r.profitTo.toList p.profitTo.bytes
  deadline : r.deadline = p.deadline.val
  legs : List.Forall₂ SpellsLeg r.legs p.legs
  one_le_count : 1 ≤ p.legs.length
  count_le : p.legs.length ≤ 255

/-- The contract decodes what was asked for, and computes the identifier that was sent. -/
def Faithful (hash : List Byte → List Byte) (r : Request) (p : Executor.Params) : Prop :=
  ∃ call id, r.call hash = some call
    ∧ Executor.decode ((call.calldata hash).drop 4) = some { p with routeId := id }
    ∧ call.routeId = wordBytes id
    ∧ Executor.computeRouteId p.legs = id

/-- No leg has an `aux` that starts with `0X`. -/
def Request.Lower (r : Request) : Prop := ∀ leg ∈ r.legs, ¬UpperMark leg.data.toList

variable {r : Request}

theorem SpellsRequest.tuples (h : SpellsRequest r p) (hlower : r.Lower) :
    r.legs.mapM encodeLegTuple = some (p.legs.map legTuple) := by
  have hlegs := h.legs
  rw [Request.Lower] at hlower
  generalize r.legs = texts, p.legs = legs at hlegs hlower
  induction hlegs with
  | nil => rfl
  | cons hleg _ ih =>
    rw [List.mapM_cons, encodeLegTuple_of_spells hleg, if_neg (hlower _ List.mem_cons_self),
      ih fun leg hmem => hlower leg (List.mem_cons_of_mem _ hmem)]
    rfl

/-- A leg with `0X` stops the builder. -/
theorem SpellsRequest.lower_of_tuples (h : SpellsRequest r p) {tuples : List LegTuple}
    (htuples : r.legs.mapM encodeLegTuple = some tuples) : r.Lower := by
  have hlegs := h.legs
  rw [Request.Lower]
  generalize r.legs = texts, p.legs = legs at hlegs htuples
  induction hlegs generalizing tuples with
  | nil => exact fun _ hmem => absurd hmem List.not_mem_nil
  | cons hleg _ ih =>
    simp only [List.mapM_cons, Option.bind_eq_bind, Option.bind_eq_some_iff] at htuples
    obtain ⟨tuple, htuple, rest, hrest, -⟩ := htuples
    rw [encodeLegTuple_of_spells hleg] at htuple
    intro leg hmem hupper
    rcases List.mem_cons.1 hmem with rfl | hmem
    · rw [if_pos hupper] at htuple
      cases htuple
    · exact ih hrest leg hmem hupper

theorem SpellsRequest.call_eq (h : SpellsRequest r p) (hash : List Byte → List Byte)
    (hlower : r.Lower) :
    r.call hash = some
      { provider := p.provider.val
        borrowToken := p.borrowToken.word
        amountBorrow := p.amountBorrow
        minProfit := p.minProfit
        profitTo := p.profitTo.word
        deadline := p.deadline
        routeId := hash (packed p.legs)
        legs := p.legs.map legTuple } := by
  rw [Request.call, h.provider, encodeRoute_of_spells h.legs h.count_le, h.tuples hlower,
    h.borrowToken.encAddress, h.amountBorrow, h.minProfit, h.profitTo.encAddress, h.deadline,
    toWord_val, toWord_val, toWord_val]
  rfl

theorem wordBytes_beNat (hlength : bs.length = 32) :
    wordBytes (Fin.ofNat (2 ^ 256) (beNat bs)) = bs := by
  have hlt : beNat bs < 2 ^ 256 := by
    have hself := beBytes_beNat bs
    have hnat := congrArg beNat hself
    rw [beNat_beBytes, hlength] at hnat
    rw [← hnat]
    exact Nat.mod_lt _ (by decide)
  have hval : (Fin.ofNat (2 ^ 256) (beNat bs)).val = beNat bs := Nat.mod_eq_of_lt hlt
  rw [wordBytes, hval, ← hlength, beBytes_beNat]

/-- **When the calldata is faithful**: exactly when no `aux` is written with `0X` and the hash of
the process is Keccak-256 on the packed route. -/
theorem faithful_iff {hash : List Byte → List Byte} (hlength : ∀ data, (hash data).length = 32)
    (h : SpellsRequest r p) :
    Faithful hash r p ↔ r.Lower ∧ hash (packed p.legs) = Keccak.keccak256 (packed p.legs) := by
  constructor
  · rintro ⟨call, id, hcall, -, hid, hcomputed⟩
    have hlower : r.Lower := by
      have htuples := hcall
      simp only [Request.call, Option.bind_eq_bind, Option.bind_eq_some_iff] at htuples
      obtain ⟨_, -, _, -, tuples, htuples, -⟩ := htuples
      exact h.lower_of_tuples htuples
    refine ⟨hlower, ?_⟩
    rw [h.call_eq hash hlower] at hcall
    cases hcall
    calc hash (packed p.legs) = wordBytes id := hid
      _ = wordBytes (Fin.ofNat (2 ^ 256) (beNat (Keccak.keccak256 (packed p.legs)))) := by
          rw [← hcomputed, computeRouteId_eq]
      _ = Keccak.keccak256 (packed p.legs) := wordBytes_beNat (length_keccak _)
  · rintro ⟨hlower, hhash⟩
    have hid : hash (packed p.legs) = wordBytes (Executor.computeRouteId p.legs) := by
      rw [hhash, computeRouteId_eq, wordBytes_beNat (length_keccak _)]
    refine ⟨_, _, h.call_eq hash hlower, ?_, hid, rfl⟩
    have hfour : ((hash (encodeUtf8 executeSig)).take 4).length = 4 := by
      rw [List.length_take, hlength]
      rfl
    rw [ExecuteCall.calldata, List.drop_left' hfour]
    have hwords : ∀ call : ExecuteCall, call.words = ({ p with
        routeId := Executor.computeRouteId p.legs } : Executor.Params).words →
        Executor.decode call.words.flatten
          = some { p with routeId := Executor.computeRouteId p.legs } := by
      intro call hwords
      rw [hwords]
      exact Executor.decode_encode _
    apply hwords
    rw [ExecuteCall.words, Executor.Params.words, hid, List.length_map, List.flatMap_map]
    rfl

/-! ## The hash -/

/-- A process without a library misses Keccak-256 on a route of 57 or 193 legs only. -/
theorem hash_packed {installed : Installed} (himpl : installed.Implements)
    (hcount : legs.length ≤ 255)
    (hshort : legs.length = 57 ∨ legs.length = 193 →
      installed.ethHash.isSome = true ∨ installed.pycryptodome.isSome = true) :
    installed.keccak256 (packed legs) = Keccak.keccak256 (packed legs) := by
  rcases himpl.keccak256_cases with hkeccak | ⟨heth, hpy, -⟩
  · rw [hkeccak]
  · apply himpl.keccak256_eq
    intro hmissing
    have hfound := hshort ((packed_short_iff hcount).1 hmissing)
    rw [heth, hpy] at hfound
    rcases hfound with hfound | hfound
    · cases hfound
    · cases hfound

/-- **The built-in hash is Keccak-256** for every length but those one byte short of whole blocks,
where it pads with a block too many; there, and for a route of 57 or 193 legs, what is installed
matters. Elsewhere the identifier of a route is the one the contract computes. -/
theorem builtin_is_keccak (installed : Installed) (himpl : installed.Implements) :
    (∀ data : List Byte, data.length % 136 ≠ 135 →
      keccak256 data = Keccak.keccak256 data ∧ installed.keccak256 data = keccak256 data)
    ∧ (∀ data : List Byte, padded data = Keccak.paddedBytes 136 data ↔ data.length % 136 ≠ 135)
    ∧ ∀ texts legs, List.Forall₂ SpellsLeg texts legs → legs.length ≤ 255 →
        legs.length ≠ 57 → legs.length ≠ 193 →
        (encodeRoute texts).map keccak256 = some (wordBytes (Executor.computeRouteId legs))
          ∧ (encodeRoute texts).map installed.keccak256
            = some (wordBytes (Executor.computeRouteId legs)) := by
  have hrate : ∀ data : List Byte,
      data.length % rateBytes + 1 ≠ rateBytes ↔ data.length % 136 ≠ 135 := by
    intro data
    rw [rateBytes]
    omega
  refine ⟨fun data hdata => ?_, fun data => (padded_eq_iff data).trans (hrate data), ?_⟩
  · have hkeccak := keccak256_eq ((hrate data).2 hdata)
    exact ⟨hkeccak, (himpl.keccak256_eq ((hrate data).2 hdata)).trans hkeccak.symm⟩
  · intro texts legs hlegs hcount hfirst hsecond
    have hwhole : (packed legs).length % rateBytes + 1 ≠ rateBytes := fun hmissing =>
      ((packed_short_iff hcount).1 hmissing).elim hfirst hsecond
    have hid : Keccak.keccak256 (packed legs) = wordBytes (Executor.computeRouteId legs) := by
      rw [computeRouteId_eq, wordBytes_beNat (length_keccak _)]
    rw [encodeRoute_of_spells hlegs hcount, Option.map_some, Option.map_some, keccak256_eq hwhole,
      himpl.keccak256_eq hwhole, hid]
    exact ⟨rfl, rfl⟩

theorem builtin_is_keccak_empty : keccak256 [] = Keccak.keccak256 [] :=
  ((builtin_is_keccak ⟨none, none⟩ ⟨nofun, nofun⟩).1 [] (by decide)).1

/-- The hash of 135 zero bytes is not the built-in one. -/
theorem builtin_not_keccak : ¬∀ data : List Byte, keccak256 data = Keccak.keccak256 data := by
  intro h
  have hzeros := h (List.replicate 135 0)
  rw [keccak_eq_digest] at hzeros
  revert hzeros
  decide +kernel

/-! ## The encodings -/

/-- **Calldata is faithful exactly when** no `aux` is written with `0X` and the hash of the process
is Keccak-256 on the route, which it is with a library or but for 57 and 193 legs. Routes are told
apart by their bytes. -/
theorem encodings_agree_iff (installed : Installed) (himpl : installed.Implements) :
    (∀ r p, SpellsRequest r p →
      (Faithful installed.keccak256 r p
          ↔ r.Lower ∧ installed.keccak256 (packed p.legs) = Keccak.keccak256 (packed p.legs))
        ∧ ((p.legs.length = 57 ∨ p.legs.length = 193 →
            installed.ethHash.isSome = true ∨ installed.pycryptodome.isSome = true) →
          (Faithful installed.keccak256 r p ↔ r.Lower)))
    ∧ ∀ texts texts' legs legs', List.Forall₂ SpellsLeg texts legs →
        List.Forall₂ SpellsLeg texts' legs' → legs.length ≤ 255 → legs'.length ≤ 255 →
        encodeRoute texts = encodeRoute texts' → legs.map swapOf = legs'.map swapOf := by
  constructor
  · intro r p h
    have hiff := faithful_iff himpl.length_keccak256 h
    refine ⟨hiff, fun hshort => ?_⟩
    rw [hiff, and_iff_left (hash_packed himpl h.count_le hshort)]
  · intro texts texts' legs legs' hlegs hlegs' hcount hcount' hsame
    rw [encodeRoute_of_spells hlegs hcount, encodeRoute_of_spells hlegs' hcount'] at hsame
    exact packed_injective hcount hcount' (Option.some.inj hsame)

/-- The sample of the contract, with an `aux` of its own spelling. -/
def sampleRequest (aux : String) : Request where
  provider := " Balancer"
  borrowToken := String.ofList (Executor.sampleAddress 10).text
  amountBorrow := 100
  minProfit := 0
  profitTo := String.ofList (Executor.sampleAddress 6).text
  deadline := 1000
  legs :=
    [{ dex := "univ3"
       venue := String.ofList (Executor.sampleAddress 4).text
       tokenIn := String.ofList (Executor.sampleAddress 10).text
       tokenOut := String.ofList (Executor.sampleAddress 10).text
       amountIn := "100"
       minOut := "0"
       data := aux }]

theorem spells_text (a : Address) : Spells (String.ofList a.text).toList a.bytes := by
  rw [String.toList_ofList]
  exact .inr (pyLower_text a)

theorem sampleRequest_spells {aux : String} (h : Spells aux.toList [1, 244]) :
    SpellsRequest (sampleRequest aux) Executor.sampleParams where
  provider := show providerId " Balancer" = some 2 by decide
  borrowToken := spells_text _
  amountBorrow := rfl
  minProfit := rfl
  profitTo := spells_text _
  deadline := rfl
  legs := .cons
    { dex := show dexId "univ3" = some 1 by decide
      venue := spells_text _
      tokenIn := spells_text _
      tokenOut := spells_text _
      minOut := show readDecimal "0" = some 0 by decide
      aux := ⟨[1, 244], by decide, h, by decide⟩ } .nil
  one_le_count := by decide
  count_le := by decide

theorem encodings_agree_sample :
    Faithful keccak256 (sampleRequest "0x01F4") Executor.sampleParams :=
  (((encodings_agree_iff ⟨none, none⟩ ⟨nofun, nofun⟩).1 _ _
    (sampleRequest_spells (by decide))).2 fun h => by revert h; decide).2 (by
      intro leg hleg
      rw [List.mem_singleton.1 hleg]
      decide)

/-- The same request is refused when its `aux` is written `0X01F4`, whatever the hash is. -/
theorem upper_mark_refused :
    ¬∀ r p, SpellsRequest r p → Faithful Keccak.keccak256 r p := by
  intro h
  have hspells : SpellsRequest (sampleRequest "0X01F4") Executor.sampleParams :=
    sampleRequest_spells (by decide)
  have hlower := ((faithful_iff length_keccak hspells).1 (h _ _ hspells)).1
  exact hlower _ List.mem_cons_self (by decide)

end SovereignCapital.Execute
