import SovereignCapital.Abi.KeccakSponge
import SovereignCapital.Engine.Adapters
import SovereignCapital.Lib.AbiLayout

/-! # The format of Balancer quotes

The calldata of `queryBatchSwap` is the ABI encoding of one swap, and the decoders of the deltas
read nothing but ABI encodings: the returned `int256[]`, and the `QueryError` that a vault reverts
with, where the offset is missing.
-/

namespace SovereignCapital.Engine

open Bytes Abi AbiLayout

/-! ## `QueryError` -/

def queryErrorSelector : List Byte := [0xfa, 0x61, 0xcc, 0x12]

def decodeQueryErrorBody (body : List Byte) : Option (List Int) :=
  let count := wordAt body 0
  if body.length < 32 ∨ 4096 < body.length ∨ (body.length - 32) % 32 ≠ 0 then none
  else if count < 2 ∨ 64 < count ∨ body.length ≠ 32 + count * 32 then none
  else some ((List.range count).map fun k => signedWordAt body (32 + 32 * k))

/-- `_decode_query_error_candidate`, with whether the selector was recognised. -/
def decodeQueryErrorCandidate (candidate : String) : Option (List Int) × Bool :=
  let payload := (strip0x candidate.toList).getD candidate.toList
  if payload.length < 8 ∨ payload.length % 2 ≠ 0 then (none, false)
  else
    match fromHex payload with
    | none => (none, false)
    | some raw =>
      if raw.take 4 = queryErrorSelector then (decodeQueryErrorBody (raw.drop 4), true)
      else (none, false)

/-! ## The ABI types -/

abbrev Int256 := { x : Int // -2 ^ 255 ≤ x ∧ x < 2 ^ 255 }

/-- The integer of a word in two's complement. -/
def signedOf (n : Nat) : Int := if 2 ^ 255 ≤ n then n - 2 ^ 256 else n

theorem signedOf_range {n : Nat} (h : n < 2 ^ 256) :
    -2 ^ 255 ≤ signedOf n ∧ signedOf n < 2 ^ 255 := by
  unfold signedOf
  split <;> omega

/-- The word of a signed integer. -/
def unsignedOf (x : Int) : Nat := (x % 2 ^ 256).toNat

theorem unsignedOf_lt (x : Int) : unsignedOf x < 2 ^ 256 := by
  unfold unsignedOf
  omega

theorem signedOf_unsignedOf {x : Int} (hlow : -2 ^ 255 ≤ x) (hhigh : x < 2 ^ 255) :
    signedOf (unsignedOf x) = x := by
  unfold signedOf unsignedOf
  by_cases h : 2 ^ 255 ≤ (x % 2 ^ 256).toNat
  · rw [if_pos h]
    omega
  · rw [if_neg h]
    omega

theorem unsignedOf_signedOf {n : Nat} (h : n < 2 ^ 256) : unsignedOf (signedOf n) = n := by
  unfold signedOf unsignedOf
  by_cases hn : 2 ^ 255 ≤ n
  · rw [if_pos hn]
    omega
  · rw [if_neg hn]
    omega

def int256 : Layout Int256 :=
  (word 256).map (fun n => ⟨signedOf n.val, signedOf_range n.isLt⟩)
    fun x => ⟨unsignedOf x.1, unsignedOf_lt x.1⟩

/-- `int256[]`. -/
def deltas : Layout (List Int256) := int256.array

def address : Layout Address :=
  (word 160).map (fun n => ⟨beBytes 20 n.val, length_beBytes 20 n.val⟩)
    fun a => ⟨beNat a.bytes, beNat_address_lt a⟩

theorem address_lawful : address.Lawful :=
  (word_lawful (by decide)).map fun a => Address.ext_bytes (by
    have hbytes := beBytes_beNat a.bytes
    rwa [a.length_eq] at hbytes)

def boolean : Layout Bool := (word 1).map (fun n => decide (n.val = 1)) fun b => if b then 1 else 0

theorem boolean_lawful : boolean.Lawful :=
  (word_lawful (by decide)).map fun b => by cases b <;> rfl

structure BatchSwapStep where
  poolId : Word
  assetInIndex : Word
  assetOutIndex : Word
  amount : Word
  userData : List Byte
deriving DecidableEq

def batchSwapStep : Layout BatchSwapStep :=
  ((word 256).pair ((word 256).pair ((word 256).pair ((word 256).pair bytes)))).map
    (fun v => ⟨v.1, v.2.1, v.2.2.1, v.2.2.2.1, v.2.2.2.2⟩)
    fun s => (s.poolId, s.assetInIndex, s.assetOutIndex, s.amount, s.userData)

theorem batchSwapStep_lawful : batchSwapStep.Lawful :=
  ((word_lawful le_rfl).pair ((word_lawful le_rfl).pair ((word_lawful le_rfl).pair
    ((word_lawful le_rfl).pair bytes_lawful)))).map fun _ => rfl

structure FundManagement where
  sender : Address
  fromInternalBalance : Bool
  recipient : Address
  toInternalBalance : Bool
deriving DecidableEq

def fundManagement : Layout FundManagement :=
  (address.pair (boolean.pair (address.pair boolean))).map
    (fun v => ⟨v.1, v.2.1, v.2.2.1, v.2.2.2⟩)
    fun f => (f.sender, f.fromInternalBalance, f.recipient, f.toInternalBalance)

theorem fundManagement_lawful : fundManagement.Lawful :=
  (address_lawful.pair (boolean_lawful.pair (address_lawful.pair boolean_lawful))).map
    fun _ => rfl

structure QueryBatchSwap where
  kind : Fin (2 ^ 8)
  swaps : List BatchSwapStep
  assets : List Address
  funds : FundManagement
deriving DecidableEq

def queryBatchSwap : Layout QueryBatchSwap :=
  ((word 8).pair (batchSwapStep.dynamic.array.pair (address.array.pair fundManagement))).map
    (fun v => ⟨v.1, v.2.1, v.2.2.1, v.2.2.2⟩) fun q => (q.kind, q.swaps, q.assets, q.funds)

theorem queryBatchSwap_lawful : queryBatchSwap.Lawful :=
  ((word_lawful (by decide)).pair ((batchSwapStep_lawful.dynamic.array (by decide)).pair
    ((address_lawful.array (by decide)).pair fundManagement_lawful))).map fun _ => rfl

def queryBatchSwapSig : String :=
  "queryBatchSwap(uint8,(bytes32,uint256,uint256,uint256,bytes)[],address[],"
    ++ "(address,bool,address,bool))"

/-- The standard reading of calldata: the four bytes that select the function, then its
arguments. -/
def decodeQueryBatchSwap (data : String) : Option QueryBatchSwap :=
  ((strip0x data.toList).bind fromHex).bind fun raw =>
    if raw.take 4 = (Keccak.keccak256 (encodeUtf8 queryBatchSwapSig.toList)).take 4 then
      queryBatchSwap.decode (raw.drop 4)
    else none

/-! ## Lists of deltas -/

def deltaWord (x : Int256) : List Byte := beBytes 32 (unsignedOf x.1)

def deltaWords (xs : List Int256) : List (List Byte) := beBytes 32 xs.length :: xs.map deltaWord

theorem length_deltaWords (xs : List Int256) : (deltaWords xs).length = xs.length + 1 := by
  rw [deltaWords, List.length_cons, List.length_map]

theorem length_of_mem_deltaWords {xs : List Int256} {w : List Byte} (hw : w ∈ deltaWords xs) :
    w.length = 32 := by
  rcases List.mem_cons.1 hw with hw | hw
  · rw [hw, length_beBytes]
  · obtain ⟨x, -, hx⟩ := List.mem_map.1 hw
    rw [← hx, deltaWord, length_beBytes]

theorem headsOf_int256 (xs : List Int256) (t : Nat) :
    int256.headsOf xs t = (xs.map deltaWord).flatten := by
  induction xs generalizing t with
  | nil => rfl
  | cons x xs ih =>
    rw [Layout.headsOf, ih, List.map_cons, List.flatten_cons]
    rfl

theorem deltas_tail (xs : List Int256) : deltas.tail xs = (deltaWords xs).flatten := by
  have hnone : xs.flatMap int256.tail = [] := by
    rw [List.flatMap_eq_nil_iff]
    exact fun _ _ => rfl
  rw [deltas, array_tail, headsOf_int256, hnone, List.append_nil, deltaWords, List.flatten_cons]

theorem length_deltas_tail (xs : List Int256) :
    (deltas.tail xs).length = 32 * (xs.length + 1) := by
  rw [deltas_tail, length_flatten_of_length fun w hw => length_of_mem_deltaWords hw,
    length_deltaWords]

theorem wordAt_deltas_tail {xs : List Int256} {i n : Nat} (hn : n < 2 ^ 256)
    (hi : (deltaWords xs)[i]? = some (beBytes 32 n)) :
    wordAt (deltas.tail xs) (32 * i) = n := by
  have hlength : ∀ w ∈ deltaWords xs, w.length = 32 := fun w hw => length_of_mem_deltaWords hw
  have hword := take_drop_flatten hlength i
  rw [Engine.wordAt, deltas_tail, hword, hi, Option.getD_some,
    beNat_beBytes_of_lt (lt_of_lt_of_eq hn (by norm_num))]

def readDeltas (body : List Byte) : List Int :=
  (List.range (wordAt body 0)).map fun k => signedWordAt body (32 + 32 * k)

theorem signedWordAt_eq (raw : List Byte) (offset : Nat) :
    signedWordAt raw offset = signedOf (wordAt raw offset) := by
  unfold signedWordAt signedOf
  split <;> rfl

theorem readDeltas_tail {xs : List Int256} (hxs : xs.length < 2 ^ 256) :
    wordAt (deltas.tail xs) 0 = xs.length
      ∧ readDeltas (deltas.tail xs) = xs.map Subtype.val := by
  have hcount : wordAt (deltas.tail xs) 0 = xs.length := wordAt_deltas_tail (i := 0) hxs rfl
  refine ⟨hcount, ?_⟩
  rw [readDeltas, hcount]
  apply List.ext_getElem
  · simp
  · intro i hleft hright
    have hi : i < xs.length := by simpa using hleft
    have hword : (deltaWords xs)[i + 1]? = some (beBytes 32 (unsignedOf xs[i].1)) := by
      rw [deltaWords, List.getElem?_cons_succ, List.getElem?_map, List.getElem?_eq_getElem hi]
      rfl
    have hread := wordAt_deltas_tail (unsignedOf_lt _) hword
    have hpos : 32 + 32 * i = 32 * (i + 1) := by ring
    rw [List.getElem_map, List.getElem_range, List.getElem_map, signedWordAt_eq, hpos, hread,
      signedOf_unsignedOf xs[i].2.1 xs[i].2.2]

/-- A byte string as long as its number says is the encoding of the deltas it is read as. -/
theorem exists_of_length {body : List Byte} (h : body.length = 32 * (wordAt body 0 + 1)) :
    ∃ xs : List Int256, readDeltas body = xs.map Subtype.val ∧ xs.length = wordAt body 0
      ∧ xs.length < 2 ^ 256 ∧ body = deltas.tail xs := by
  have hlt : ∀ offset, wordAt body offset < 2 ^ 256 := by
    intro offset
    have hbytes := beNat_lt ((body.drop offset).take 32)
    have hlength : ((body.drop offset).take 32).length ≤ 32 := List.length_take_le _ _
    calc wordAt body offset < 256 ^ ((body.drop offset).take 32).length := hbytes
      _ ≤ 256 ^ 32 := Nat.pow_le_pow_right (by decide) hlength
      _ = 2 ^ 256 := by norm_num
  let xs : List Int256 := (List.range (wordAt body 0)).map fun k =>
    ⟨signedOf (wordAt body (32 * (k + 1))), signedOf_range (hlt _)⟩
  have hlength : xs.length = wordAt body 0 := by simp [xs]
  refine ⟨xs, ?_, hlength, hlength ▸ hlt 0, ?_⟩
  · rw [readDeltas, List.map_map]
    refine List.map_congr_left fun k _ => ?_
    have hpos : 32 + 32 * k = 32 * (k + 1) := by ring
    rw [signedWordAt_eq, hpos]
    rfl
  · -- cut into words, the number first
    have hword : ∀ i < wordAt body 0 + 1,
        (body.drop (32 * i)).take 32 = beBytes 32 (wordAt body (32 * i)) := by
      intro i hi
      have hchunk : ((body.drop (32 * i)).take 32).length = 32 := by
        rw [List.length_take, List.length_drop, h]
        omega
      have hself := beBytes_beNat ((body.drop (32 * i)).take 32)
      rw [hchunk] at hself
      exact hself.symm
    have hrest : (xs.map deltaWord).flatten
        = (List.range (wordAt body 0)).flatMap fun k => (body.drop (32 * (k + 1))).take 32 := by
      rw [List.map_map, List.flatMap_def]
      refine congrArg List.flatten (List.map_congr_left fun k hk => ?_)
      have hk' : k + 1 < wordAt body 0 + 1 := Nat.succ_lt_succ (List.mem_range.1 hk)
      rw [hword (k + 1) hk', Function.comp_apply, deltaWord, unsignedOf_signedOf (hlt _)]
    have hcut := flatMap_words h
    rw [List.range_succ_eq_map, List.flatMap_cons, List.flatMap_map] at hcut
    have hfirst := hword 0 (Nat.succ_pos _)
    rw [deltas_tail, deltaWords, List.flatten_cons, hlength, hrest]
    rw [Nat.mul_zero] at hfirst
    rw [Nat.mul_zero, hfirst] at hcut
    exact hcut.symm

/-! ## The decoders -/

theorem deltas_encode (xs : List Int256) : deltas.encode xs = beBytes 32 32 ++ deltas.tail xs := rfl

theorem wordAt_drop (raw : List Byte) (offset pos : Nat) :
    wordAt (raw.drop offset) pos = wordAt raw (offset + pos) := by
  rw [Engine.wordAt, Engine.wordAt, List.drop_drop]

/-- **The decoder of the answer reads the encodings of `int256[]`**, each as its list, and nothing
else. -/
theorem decodeBalancerSwapDeltas_iff (raw : List Byte) (ds : List Int) :
    decodeBalancerSwapDeltas raw = some ds
      ↔ ∃ xs : List Int256, ds = xs.map Subtype.val ∧ xs.length < 2 ^ 256
        ∧ raw = deltas.encode xs := by
  have hcount : wordAt raw 32 = wordAt (raw.drop 32) 0 := by rw [wordAt_drop]
  have hlist : ((List.range (wordAt raw 32)).map fun k => signedWordAt raw (64 + 32 * k))
      = readDeltas (raw.drop 32) := by
    rw [readDeltas, hcount]
    refine List.map_congr_left fun k _ => ?_
    have hpos : 64 + 32 * k = 32 + (32 + 32 * k) := by ring
    rw [signedWordAt_eq, signedWordAt_eq, wordAt_drop, hpos]
  unfold decodeBalancerSwapDeltas
  rw [hlist, hcount]
  constructor
  · intro h
    split at h
    · cases h
    · rename_i hcanonical
      push Not at hcanonical
      obtain ⟨hlong, -, hoffset, hlength⟩ := hcanonical
      have hbody : (raw.drop 32).length = 32 * (wordAt (raw.drop 32) 0 + 1) := by
        rw [List.length_drop, hlength]
        omega
      obtain ⟨xs, hread, -, hlt, htail⟩ := exists_of_length hbody
      refine ⟨xs, (Option.some.inj h).symm.trans hread, hlt, ?_⟩
      have hfirst : raw.take 32 = beBytes 32 32 := by
        have hself := beBytes_beNat (raw.take 32)
        have hvalue : beNat (raw.take 32) = 32 := hoffset
        rw [List.length_take, Nat.min_eq_left (by omega), hvalue] at hself
        exact hself.symm
      rw [deltas_encode, ← htail, ← hfirst, List.take_append_drop]
  · rintro ⟨xs, hds, hlt, rfl⟩
    have hdrop : (deltas.encode xs).drop 32 = deltas.tail xs := by
      rw [deltas_encode]
      exact List.drop_left' (length_beBytes 32 32)
    have hfirst : wordAt (deltas.encode xs) 0 = 32 := by
      rw [Engine.wordAt, List.drop_zero, deltas_encode, List.take_left' (length_beBytes 32 32)]
      exact beNat_beBytes_of_lt (by norm_num)
    have hlength : (deltas.encode xs).length = 64 + xs.length * 32 := by
      rw [deltas_encode, List.length_append, length_beBytes, length_deltas_tail]
      omega
    obtain ⟨hnumber, hread⟩ := readDeltas_tail hlt
    rw [hdrop, hnumber, hread, hfirst, hlength, if_neg, hds]
    omega

/-- **The decoder of the revert data** reads the number and the words of two to sixty-four deltas,
and nothing else. -/
theorem decodeQueryErrorBody_iff (body : List Byte) (ds : List Int) :
    decodeQueryErrorBody body = some ds
      ↔ ∃ xs : List Int256, ds = xs.map Subtype.val ∧ 2 ≤ xs.length ∧ xs.length ≤ 64
        ∧ body = deltas.tail xs := by
  unfold decodeQueryErrorBody
  constructor
  · intro h
    simp only at h
    split at h
    · cases h
    · split at h
      · cases h
      · rename_i hcanonical
        push Not at hcanonical
        obtain ⟨hmin, hmax, hlength⟩ := hcanonical
        have hbody : body.length = 32 * (wordAt body 0 + 1) := by omega
        obtain ⟨xs, hread, hnumber, -, htail⟩ := exists_of_length hbody
        exact ⟨xs, (Option.some.inj h).symm.trans hread, by omega, by omega, htail⟩
  · rintro ⟨xs, hds, hmin, hmax, hbody⟩
    obtain ⟨hnumber, hread⟩ := readDeltas_tail (show xs.length < 2 ^ 256 by omega)
    have hlength := length_deltas_tail xs
    rw [← hbody] at hnumber hread hlength
    rw [readDeltas, hnumber] at hread
    simp only [hnumber, hread]
    rw [if_neg (by omega), if_neg (by omega), hds]

theorem length_fromHex_le {t : Text} {bs : List Byte} (h : fromHex t = some bs) :
    2 * bs.length ≤ t.length := by
  induction t using fromHex.induct generalizing bs with
  | case1 =>
    obtain rfl := Option.some.inj h
    exact Nat.le_refl 0
  | case2 c hspace =>
    rw [fromHex, if_pos hspace] at h
    obtain rfl := Option.some.inj h
    exact Nat.zero_le _
  | case3 c hspace =>
    rw [fromHex, if_neg hspace] at h
    cases h
  | case4 c d rest hspace ih =>
    rw [fromHex, if_pos hspace] at h
    exact (ih h).trans (Nat.le_succ _)
  | case5 c d rest hspace hi lo bs' hrest hlo hhi ih =>
    rw [fromHex, if_neg hspace, hhi, hlo, hrest] at h
    obtain rfl := Option.some.inj h
    have hle := ih hrest
    simp only [List.length_cons]
    omega
  | case6 c d rest hspace hnone ih =>
    rw [fromHex, if_neg hspace] at h
    split at h
    · rename_i hi lo bs' hhi hlo hrest
      exact absurd hrest (hnone _ _ _ hhi hlo)
    · cases h

theorem decodeQueryErrorCandidate_iff (candidate : String) (ds : List Int) :
    (decodeQueryErrorCandidate candidate).1 = some ds
      ↔ ((strip0x candidate.toList).getD candidate.toList).length % 2 = 0
        ∧ ∃ xs : List Int256, ds = xs.map Subtype.val ∧ 2 ≤ xs.length ∧ xs.length ≤ 64
          ∧ fromHex ((strip0x candidate.toList).getD candidate.toList)
            = some (queryErrorSelector ++ deltas.tail xs) := by
  unfold decodeQueryErrorCandidate
  generalize (strip0x candidate.toList).getD candidate.toList = payload
  simp only
  constructor
  · intro h
    split at h
    · cases h
    · rename_i hlength
      push Not at hlength
      cases hraw : fromHex payload with
      | none =>
        rw [hraw] at h
        cases h
      | some raw =>
        rw [hraw] at h
        simp only at h
        split at h
        · rename_i hselector
          obtain ⟨xs, hds, hmin, hmax, hbody⟩ := (decodeQueryErrorBody_iff _ _).1 h
          refine ⟨hlength.2, xs, hds, hmin, hmax, ?_⟩
          rw [← hbody, ← hselector, List.take_append_drop]
        · cases h
  · rintro ⟨heven, xs, hds, hmin, hmax, hraw⟩
    have hlong := length_fromHex_le hraw
    rw [List.length_append, length_deltas_tail] at hlong
    have hbody := (decodeQueryErrorBody_iff (deltas.tail xs) ds).2 ⟨xs, hds, hmin, hmax, rfl⟩
    have htake : (queryErrorSelector ++ deltas.tail xs).take 4 = queryErrorSelector :=
      List.take_left' rfl
    have hdrop : (queryErrorSelector ++ deltas.tail xs).drop 4 = deltas.tail xs :=
      List.drop_left' rfl
    rw [if_neg (by omega), hraw]
    simp only
    rw [if_pos htake, hdrop, hbody]

/-! ## The calldata -/

structure SpelledPoolId where
  bytes : List Byte
  length_eq : bytes.length = 32
  text : String
  spells : fromHex ((strip0x text.toList).getD text.toList) = some bytes

def SpelledPoolId.word (p : SpelledPoolId) : Word :=
  ⟨beNat p.bytes, by
    have hlt := beNat_lt p.bytes
    rw [p.length_eq] at hlt
    exact lt_of_lt_of_eq hlt (by norm_num)⟩

def zeroAddress : Address := ⟨List.replicate 20 0, rfl⟩

/-- The call that quotes one swap of an exact input. -/
def singleSwap (pool : SpelledPoolId) (tokenIn tokenOut : Address) (amount : Word) :
    QueryBatchSwap where
  kind := 0
  swaps := [⟨pool.word, 0, 1, amount, []⟩]
  assets := [tokenIn, tokenOut]
  funds := ⟨zeroAddress, false, zeroAddress, false⟩

theorem address_heads (a : Address) (t : Nat) : address.heads a t = a.word := by
  have hself := beBytes_beNat a.word
  rw [a.length_word, beNat_address_word] at hself
  exact hself

theorem address_headSize : address.headSize = 32 := rfl

theorem address_tail (a : Address) : address.tail a = [] := rfl

theorem singleSwap_encode (pool : SpelledPoolId) (tokenIn tokenOut : Address) (amount : Word) :
    queryBatchSwap.encode (singleSwap pool tokenIn tokenOut amount)
      = [beBytes 32 0, beBytes 32 224, beBytes 32 480, zeroAddress.word, beBytes 32 0,
          zeroAddress.word, beBytes 32 0, beBytes 32 1, beBytes 32 32, pool.bytes, beBytes 32 0,
          beBytes 32 1, wordBytes amount, beBytes 32 160, beBytes 32 0, beBytes 32 2,
          tokenIn.word, tokenOut.word].flatten := by
  have hpool : beBytes 32 pool.word.val = pool.bytes := by
    have hself := beBytes_beNat pool.bytes
    rwa [pool.length_eq] at hself
  simp [queryBatchSwap, singleSwap, batchSwapStep, fundManagement, boolean, Layout.encode,
    address_headSize, address_heads, address_tail, hpool, pool.length_eq, wordBytes]

theorem selector_queryBatchSwap :
    selector queryBatchSwapSig.toList
      = (Keccak.keccak256 (encodeUtf8 queryBatchSwapSig.toList)).take 4 := by
  have hlength : (encodeUtf8 queryBatchSwapSig.toList).length % rateBytes + 1 ≠ rateBytes := by
    decide +kernel
  rw [selector, keccak256_eq hlength]

/-- The calldata of an amount that is a positive word, nothing for any other amount. -/
theorem balancerCalldata_eq (pool : SpelledPoolId) (tokenIn tokenOut : SpelledAddress)
    (amount : Int) :
    balancerCalldata pool.text (String.ofList tokenIn.text) (String.ofList tokenOut.text) amount
      = if h : 0 < amount ∧ amount < 2 ^ 256 then
          some (String.ofList (with0x (toHex (selector queryBatchSwapSig.toList
            ++ queryBatchSwap.encode (singleSwap pool tokenIn.address tokenOut.address
              ⟨amount.toNat, by omega⟩)))))
        else none := by
  have hzero : encAddress "0x0000000000000000000000000000000000000000".toList
      = some zeroAddress.word := by decide +kernel
  have hpool : (fromHex ((strip0x pool.text.toList).getD pool.text.toList)).filter
      (fun raw => raw.length == 32) = some pool.bytes := by
    rw [pool.spells]
    simp [pool.length_eq]
  have henc : ∀ n : Nat, n < 2 ^ 256 → encUint n = some (beBytes 32 n) := by
    intro n hn
    rw [encUint, if_pos ⟨Int.natCast_nonneg n, by exact_mod_cast hn⟩, Int.toNat_natCast]
  have h0 : encUint 0 = some (beBytes 32 0) := henc 0 (by decide)
  have h1 : encUint 1 = some (beBytes 32 1) := henc 1 (by decide)
  have h2 : encUint 2 = some (beBytes 32 2) := henc 2 (by decide)
  have hstep : encUint 32 = some (beBytes 32 32) := henc 32 (by decide)
  have huser : encUint (32 * 5) = some (beBytes 32 160) := henc 160 (by decide)
  have hswaps : encUint (32 * 7) = some (beBytes 32 224) := henc 224 (by decide)
  have hassets : encUint (32 * 7 + 32 * 8) = some (beBytes 32 480) := henc 480 (by decide)
  unfold balancerCalldata callData
  simp only [hpool, hzero, h0, h1, h2, hstep, huser, hswaps, hassets, encBool,
    String.toList_ofList, encAddress_spelled, Bool.false_eq_true, if_false]
  by_cases h : 0 < amount ∧ amount < 2 ^ 256
  · have hamount : encUint amount = some (beBytes 32 amount.toNat) := by
      rw [encUint, if_pos ⟨le_of_lt h.1, h.2⟩]
    rw [if_neg (by omega), dif_pos h, hamount, singleSwap_encode]
    rfl
  · rw [dif_neg h]
    by_cases hpos : amount ≤ 0
    · rw [if_pos hpos]
    · have hamount : encUint amount = none := by
        rw [encUint, if_neg (by omega)]
      rw [if_neg hpos, hamount]
      rfl

/-- **The calldata is one swap.** Read as the ABI says, the calldata of a pool, a pair of tokens
and an amount is the call of that single swap; an amount that is no positive word has none. -/
theorem balancerCalldata_decode (pool : SpelledPoolId) (tokenIn tokenOut : SpelledAddress)
    (amount : Int) :
    (balancerCalldata pool.text (String.ofList tokenIn.text) (String.ofList tokenOut.text)
        amount).bind decodeQueryBatchSwap
      = if h : 0 < amount ∧ amount < 2 ^ 256 then
          some (singleSwap pool tokenIn.address tokenOut.address ⟨amount.toNat, by omega⟩)
        else none := by
  rw [balancerCalldata_eq]
  by_cases h : 0 < amount ∧ amount < 2 ^ 256
  · rw [dif_pos h, dif_pos h, Option.bind_some]
    generalize hswap : singleSwap pool tokenIn.address tokenOut.address
      ⟨amount.toNat, by omega⟩ = swap
    have hlength : (queryBatchSwap.encode swap).length < 2 ^ 256 := by
      rw [← hswap, singleSwap_encode]
      simp [pool.length_eq]
    have htake : (selector queryBatchSwapSig.toList ++ queryBatchSwap.encode swap).take 4
        = selector queryBatchSwapSig.toList := List.take_left' (length_selector _)
    have hdrop : (selector queryBatchSwapSig.toList ++ queryBatchSwap.encode swap).drop 4
        = queryBatchSwap.encode swap := List.drop_left' (length_selector _)
    rw [decodeQueryBatchSwap, String.toList_ofList, strip0x_with0x, Option.bind_some,
      fromHex_toHex, Option.bind_some, htake, hdrop, if_pos selector_queryBatchSwap,
      queryBatchSwap_lawful.decode_encode hlength]
  · rw [dif_neg h, dif_neg h]
    rfl

/-- **The format of Balancer quotes.** The calldata is read as the swap it was built for. The
answer decoder reads exactly the encodings of `int256[]`, and the revert decoder exactly those of
`QueryError` with two to sixty-four deltas. -/
theorem balancer_format :
    (∀ (pool : SpelledPoolId) (tokenIn tokenOut : SpelledAddress) (amount : Int),
      (balancerCalldata pool.text (String.ofList tokenIn.text) (String.ofList tokenOut.text)
          amount).bind decodeQueryBatchSwap
        = if h : 0 < amount ∧ amount < 2 ^ 256 then
            some (singleSwap pool tokenIn.address tokenOut.address ⟨amount.toNat, by omega⟩)
          else none)
    ∧ (∀ raw ds, decodeBalancerSwapDeltas raw = some ds
        ↔ ∃ xs : List Int256, ds = xs.map Subtype.val ∧ xs.length < 2 ^ 256
          ∧ raw = deltas.encode xs)
    ∧ ∀ candidate ds, (decodeQueryErrorCandidate candidate).1 = some ds
        ↔ ((strip0x candidate.toList).getD candidate.toList).length % 2 = 0
          ∧ ∃ xs : List Int256, ds = xs.map Subtype.val ∧ 2 ≤ xs.length ∧ xs.length ≤ 64
            ∧ fromHex ((strip0x candidate.toList).getD candidate.toList)
              = some (queryErrorSelector ++ deltas.tail xs) :=
  ⟨balancerCalldata_decode, decodeBalancerSwapDeltas_iff, decodeQueryErrorCandidate_iff⟩

/-- The answer to a quote of one million, as text and as deltas. -/
example : decodeBalancerSwapDeltas (deltas.encode [⟨1000000, by decide⟩, ⟨-998, by decide⟩])
    = some [1000000, -998] := by decide +kernel

end SovereignCapital.Engine
