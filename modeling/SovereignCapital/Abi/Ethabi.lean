import SovereignCapital.Lib.PyText
import SovereignCapital.Abi.Keccak

/-! # ABI words

The encoders of `ethabi.py` and `abi_utils.py` (`selector`, `topic0`, `enc_uint`,
`enc_address`), the on-chain values they encode (`Address`, `Word`), and the round trips
between an address, its ABI word and its text.
-/

namespace SovereignCapital.Abi

open Bytes

/-- An account address: twenty bytes. -/
structure Address where
  bytes : List Byte
  length_eq : bytes.length = 20
deriving DecidableEq

/-- A `uint256`. -/
abbrev Word := Fin (2 ^ 256)

instance (priority := 10000) neZero_word : NeZero (2 ^ 256) := ⟨by decide⟩

/-- The ABI word of an address: twelve zero bytes, then the address. -/
def Address.word (a : Address) : List Byte := List.replicate 12 0 ++ a.bytes

/-- The ABI word of an unsigned integer. -/
def wordBytes (w : Word) : List Byte := beBytes 32 w.val

def Address.text (a : Address) : Text := with0x (toHex a.bytes)

/-- An address together with a text that spells it, in digits of either case. -/
structure SpelledAddress where
  address : Address
  text : Text
  spells : pyLower text = address.text

def Address.spelled (a : Address) : SpelledAddress :=
  ⟨a, a.text, pyLower_with0x_toHex a.bytes⟩

/-! ## Encoders of the source -/

/-- `selector`: the first four bytes of the hash of a signature. -/
def selector (sig : Text) : List Byte := (keccak256 (encodeUtf8 sig)).take 4

/-- `topic0`: the hash of an event signature, as text. -/
def topic0 (sig : Text) : Text := with0x (toHex (keccak256 (encodeUtf8 sig)))

/-- `enc_uint`; nothing for the integers the source raises on. -/
def encUint (n : Int) : Option (List Byte) :=
  if 0 ≤ n ∧ n < 2 ^ 256 then some (beBytes 32 n.toNat) else none

def zpad32 (b : List Byte) : List Byte := List.replicate (32 - b.length) 0 ++ b

def encAddress (addr : Text) : Option (List Byte) :=
  let a := pyLower addr
  let a := (strip0x a).getD a
  (fromHex (pyRjust 40 '0' a)).map zpad32

/-! ## Round trips -/

theorem Address.ext_bytes {a b : Address} (h : a.bytes = b.bytes) : a = b := by
  cases a; cases b; simpa using h

@[simp] theorem Address.length_word (a : Address) : a.word.length = 32 := by
  simp [Address.word, a.length_eq]

@[simp] theorem length_wordBytes (w : Word) : (wordBytes w).length = 32 := by simp [wordBytes]

@[simp] theorem Address.length_text (a : Address) : a.text.length = 42 := by
  simp [Address.text, a.length_eq]

theorem Address.text_ne_nil (a : Address) : a.text ≠ [] := by
  intro h
  have hlen := a.length_text
  simp [h] at hlen

theorem Address.text_injective {a b : Address} (h : a.text = b.text) : a = b :=
  Address.ext_bytes (toHex_injective (with0x_injective h))

@[simp] theorem pyLower_text (a : Address) : pyLower a.text = a.text :=
  pyLower_with0x_toHex a.bytes

theorem isPySpace_text (a : Address) : ∀ c ∈ a.text, isPySpace c = false :=
  isPySpace_with0x_toHex a.bytes

theorem SpelledAddress.pyStrip_text (s : SpelledAddress) : pyStrip s.text = s.text := by
  refine pyStrip_eq_self (isPySpace_of_pyLower ?_)
  rw [s.spells]
  exact isPySpace_text s.address

theorem length_selector (sig : Text) : (selector sig).length = 4 := by
  simp [selector, length_keccak256]

theorem beNat_wordBytes (w : Word) : beNat (wordBytes w) = w.val :=
  beNat_beBytes_of_lt (by have := w.isLt; norm_num at this ⊢; exact this)

theorem beNat_address_lt (a : Address) : beNat a.bytes < 2 ^ 160 := by
  have hlt := beNat_lt a.bytes
  rw [a.length_eq] at hlt
  exact lt_of_lt_of_eq hlt (by norm_num)

theorem beNat_address_word (a : Address) : beNat a.word = beNat a.bytes :=
  beNat_replicate_zero_append 12 a.bytes

theorem val_ne_zero_of_pos {w : Word} (h : 0 < w) : w.val ≠ 0 := by
  have hlt := Fin.lt_def.1 h
  rw [Fin.val_zero] at hlt
  omega

theorem encUint_word (w : Word) : encUint (w.val : Int) = some (wordBytes w) := by
  have hw : (w.val : Int) < 2 ^ 256 := by exact_mod_cast w.isLt
  rw [encUint, if_pos ⟨Int.natCast_nonneg _, hw⟩]
  rfl

theorem encAddress_spelled (s : SpelledAddress) : encAddress s.text = some s.address.word := by
  have hlen : (toHex s.address.bytes).length = 40 := by simp [s.address.length_eq]
  simp only [encAddress, s.spells, Address.text, strip0x_with0x, Option.getD_some, pyRjust, hlen,
    Nat.sub_self, List.replicate_zero, List.nil_append, fromHex_toHex, Option.map_some, zpad32,
    s.address.length_eq, Address.word]

/-- The last forty digits of an address word spell the address. -/
theorem toHex_word_drop (a : Address) : (toHex a.word).drop 24 = toHex a.bytes := by
  rw [show (24 : Nat) = 2 * 12 from rfl, toHex_drop, Address.word]
  congr 1

end SovereignCapital.Abi
