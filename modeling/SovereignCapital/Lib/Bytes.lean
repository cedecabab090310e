import Mathlib.Data.List.Induction
import Mathlib.Data.Nat.Digits.Defs
import Mathlib.Tactic.IntervalCases

/-! # Bytes, big-endian words and hexadecimal text

Byte strings are lists of `Byte`, text is a list of characters. The file fixes two codecs
and proves that they invert each other: fixed-width big-endian integers (`beBytes`,
`beNat`) and lower-case hexadecimal text (`toHex`, `fromHex`). The reader of hexadecimal
text is the permissive one of Python's `bytes.fromhex`: digits of either case, white space
between the pairs.
-/

namespace Bytes

abbrev Byte := Fin 256

abbrev Text := List Char

-- The instances of the literals of bytes and of the membership of text have names, so that
-- every module finds the same ones.
instance (priority := 10000) neZero_byte : NeZero 256 := ⟨by decide⟩

instance (priority := 10000) lawfulBEq_text : LawfulBEq Text := inferInstance

/-! ## Big-endian integers -/

/-- The integer a byte string spells, most significant byte first. -/
def beNat (bs : List Byte) : Nat := bs.foldl (fun acc b => acc * 256 + b.val) 0

/-- The `k` low bytes of `n`, most significant first. -/
def beBytes : Nat → Nat → List Byte
  | 0, _ => []
  | k + 1, n => beBytes k (n / 256) ++ [Fin.ofNat 256 n]

@[simp] theorem beNat_nil : beNat [] = 0 := rfl

theorem beNat_concat (bs : List Byte) (b : Byte) : beNat (bs ++ [b]) = beNat bs * 256 + b.val := by
  simp [beNat, List.foldl_append]

@[simp] theorem length_beBytes (k n : Nat) : (beBytes k n).length = k := by
  induction k generalizing n with
  | zero => rfl
  | succ k ih => simp [beBytes, ih]

theorem beNat_beBytes (k n : Nat) : beNat (beBytes k n) = n % 256 ^ k := by
  induction k generalizing n with
  | zero => simp [beBytes, Nat.mod_one]
  | succ k ih =>
    rw [beBytes, beNat_concat, ih]
    show n / 256 % 256 ^ k * 256 + n % 256 = n % 256 ^ (k + 1)
    rw [Nat.pow_succ', Nat.mod_mul]
    ring

theorem beNat_beBytes_of_lt {k n : Nat} (h : n < 256 ^ k) : beNat (beBytes k n) = n := by
  rw [beNat_beBytes, Nat.mod_eq_of_lt h]

theorem beBytes_beNat (bs : List Byte) : beBytes bs.length (beNat bs) = bs := by
  induction bs using List.reverseRecOn with
  | nil => rfl
  | append_singleton bs b ih =>
    have hdiv : (beNat bs * 256 + b.val) / 256 = beNat bs := by omega
    have hmod : Fin.ofNat 256 (beNat bs * 256 + b.val) = b := by
      ext
      show (beNat bs * 256 + b.val) % 256 = b.val
      omega
    rw [beNat_concat, List.length_append, List.length_singleton, beBytes, hdiv, hmod, ih]

theorem beNat_lt (bs : List Byte) : beNat bs < 256 ^ bs.length := by
  induction bs using List.reverseRecOn with
  | nil => exact Nat.one_pos
  | append_singleton bs b ih =>
    rw [beNat_concat, List.length_append, List.length_singleton, Nat.pow_succ]
    have hb := b.isLt
    omega

theorem beNat_replicate_zero_append (k : Nat) (bs : List Byte) :
    beNat (List.replicate k 0 ++ bs) = beNat bs := by
  induction k with
  | zero => rfl
  | succ k ih =>
    rw [List.replicate_succ, List.cons_append]
    exact ih

/-! ## Words -/

theorem length_flatten_of_length {k : Nat} {ws : List (List Byte)} (h : ∀ w ∈ ws, w.length = k) :
    ws.flatten.length = k * ws.length := by
  induction ws with
  | nil => rfl
  | cons w ws ih =>
    rw [List.flatten_cons, List.length_append, h w List.mem_cons_self,
      ih fun w hw => h w (List.mem_cons_of_mem _ hw), List.length_cons, Nat.mul_succ,
      Nat.add_comm]

/-- A word of a byte string that is cut into words of one length. -/
theorem take_drop_flatten {k : Nat} {ws : List (List Byte)} (h : ∀ w ∈ ws, w.length = k) (i : Nat) :
    (ws.flatten.drop (k * i)).take k = ws[i]?.getD [] := by
  induction ws generalizing i with
  | nil => simp
  | cons w ws ih =>
    have hw : w.length = k := h w List.mem_cons_self
    cases i with
    | zero => simp [← hw]
    | succ i =>
      have hdrop : (w ++ ws.flatten).drop (k * (i + 1)) = ws.flatten.drop (k * i) := by
        rw [Nat.mul_succ, Nat.add_comm, ← List.drop_drop, ← hw, List.drop_left]
      rw [List.flatten_cons, hdrop, List.getElem?_cons_succ]
      exact ih (fun w hw => h w (List.mem_cons_of_mem _ hw)) i

/-- A byte string is put together from the words it is cut into. -/
theorem flatMap_words {k n : Nat} {bs : List Byte} (h : bs.length = k * n) :
    ((List.range n).flatMap fun i => (bs.drop (k * i)).take k) = bs := by
  induction n generalizing bs with
  | zero => exact (List.length_eq_zero_iff.1 h).symm
  | succ n ih =>
    rw [Nat.mul_succ] at h
    have hfront : (bs.take (k * n)).length = k * n := by
      rw [List.length_take, h]
      omega
    have hsame : ∀ i ∈ List.range n,
        (bs.drop (k * i)).take k = ((bs.take (k * n)).drop (k * i)).take k := by
      intro i hi
      have hle : k * i + k ≤ k * n := by
        rw [← Nat.mul_succ]
        exact Nat.mul_le_mul_left k (List.mem_range.1 hi)
      rw [List.drop_take, List.take_take, Nat.min_eq_left (by omega)]
    have hlast : (bs.drop (k * n)).take k = bs.drop (k * n) :=
      List.take_of_length_le (by rw [List.length_drop]; omega)
    have hwords : ((List.range n).flatMap fun i => (bs.drop (k * i)).take k)
        = bs.take (k * n) := by
      rw [List.flatMap_def, List.map_congr_left hsame, ← List.flatMap_def, ih hfront]
    rw [List.range_succ, List.flatMap_append, hwords, List.flatMap_singleton, hlast,
      List.take_append_drop]

/-- The words of equally long records, in the list of all words. -/
theorem getElem?_flatMap_of_length {α β : Type} {f : α → List β} {k : Nat}
    (h : ∀ a, (f a).length = k) (l : List α) (i : Nat) {j : Nat} (hj : j < k) :
    (l.flatMap f)[k * i + j]? = l[i]?.bind fun a => (f a)[j]? := by
  induction l generalizing i with
  | nil => simp
  | cons a l ih =>
    rw [List.flatMap_cons]
    cases i with
    | zero =>
      rw [Nat.mul_zero, Nat.zero_add, List.getElem?_append_left (by rw [h]; exact hj)]
      rfl
    | succ i =>
      have hpast : (f a).length ≤ k * (i + 1) + j := by
        rw [h, Nat.mul_succ]
        omega
      have hrest : k * (i + 1) + j - (f a).length = k * i + j := by
        rw [h, Nat.mul_succ]
        omega
      rw [List.getElem?_append_right hpast, hrest, ih]
      rfl

/-! ## Hexadecimal text -/

def hexPair (b : Byte) : Text := [Nat.digitChar (b.val / 16), Nat.digitChar (b.val % 16)]

/-- The lower-case hexadecimal spelling of a byte string. -/
def toHex (bs : List Byte) : Text := bs.flatMap hexPair

/-- The value of a hexadecimal digit of either case. -/
def hexVal (c : Char) : Option Nat :=
  if '0' ≤ c ∧ c ≤ '9' then some (c.toNat - 48)
  else if 'a' ≤ c ∧ c ≤ 'f' then some (c.toNat - 87)
  else if 'A' ≤ c ∧ c ≤ 'F' then some (c.toNat - 55)
  else none

/-- The white space `bytes.fromhex` skips. -/
def isAsciiSpace (c : Char) : Bool := c == ' ' || (9 ≤ c.toNat && c.toNat ≤ 13)

/-- `bytes.fromhex`: pairs of digits, white space between the pairs skipped. -/
def fromHex : Text → Option (List Byte)
  | [] => some []
  | [c] => if isAsciiSpace c then some [] else none
  | c :: d :: rest =>
    if isAsciiSpace c then fromHex (d :: rest)
    else
      match hexVal c, hexVal d, fromHex rest with
      | some hi, some lo, some bs => some (Fin.ofNat 256 (16 * hi + lo) :: bs)
      | _, _, _ => none

@[simp] theorem toHex_nil : toHex [] = [] := rfl

theorem toHex_cons (b : Byte) (bs : List Byte) : toHex (b :: bs) = hexPair b ++ toHex bs := rfl

theorem toHex_append (as bs : List Byte) : toHex (as ++ bs) = toHex as ++ toHex bs := by
  simp [toHex]

@[simp] theorem length_toHex (bs : List Byte) : (toHex bs).length = 2 * bs.length := by
  induction bs with
  | nil => rfl
  | cons b bs ih =>
    rw [toHex_cons, List.length_append, ih, List.length_cons]
    simp [hexPair]
    omega

theorem digitChar_spec (n : Nat) (h : n < 16) :
    hexVal (Nat.digitChar n) = some n ∧ isAsciiSpace (Nat.digitChar n) = false
      ∧ (Nat.digitChar n).toLower = Nat.digitChar n := by
  interval_cases n <;> decide

theorem fromHex_toHex_append (bs : List Byte) (t : Text) :
    fromHex (toHex bs ++ t) = (fromHex t).map (bs ++ ·) := by
  induction bs with
  | nil => cases h : fromHex t <;> simp [h]
  | cons b bs ih =>
    obtain ⟨hhi, hsp, -⟩ := digitChar_spec (b.val / 16) (by omega)
    obtain ⟨hlo, -, -⟩ := digitChar_spec (b.val % 16) (by omega)
    have hb : Fin.ofNat 256 (16 * (b.val / 16) + b.val % 16) = b := by
      ext
      show (16 * (b.val / 16) + b.val % 16) % 256 = b.val
      omega
    show fromHex (_ :: _ :: (toHex bs ++ t)) = _
    rw [fromHex, hsp, if_neg (by simp), hhi, hlo, ih]
    cases fromHex t with
    | none => rfl
    | some ts =>
      show some (Fin.ofNat 256 _ :: (bs ++ ts)) = some (b :: (bs ++ ts))
      rw [hb]

/-- **Hexadecimal text reads back as the bytes it was written from.** -/
theorem fromHex_toHex (bs : List Byte) : fromHex (toHex bs) = some bs := by
  have h := fromHex_toHex_append bs []
  simpa [fromHex] using h

theorem toHex_injective {as bs : List Byte} (h : toHex as = toHex bs) : as = bs := by
  have hr := congrArg fromHex h
  rw [fromHex_toHex, fromHex_toHex] at hr
  exact Option.some.inj hr

/-- Lower-casing leaves written hexadecimal text as it is. -/
theorem toHex_map_toLower (bs : List Byte) : (toHex bs).map Char.toLower = toHex bs := by
  induction bs with
  | nil => rfl
  | cons b bs ih =>
    obtain ⟨-, -, hhi⟩ := digitChar_spec (b.val / 16) (by omega)
    obtain ⟨-, -, hlo⟩ := digitChar_spec (b.val % 16) (by omega)
    rw [toHex_cons, List.map_append, ih, hexPair, List.map_cons, List.map_cons, hhi, hlo]
    rfl

/-- Taking whole bytes from the front of hexadecimal text. -/
theorem toHex_drop (bs : List Byte) (k : Nat) : (toHex bs).drop (2 * k) = toHex (bs.drop k) := by
  induction k generalizing bs with
  | zero => rfl
  | succ k ih =>
    cases bs with
    | nil => simp
    | cons b bs =>
      rw [toHex_cons, show 2 * (k + 1) = 2 * k + 1 + 1 by ring, hexPair]
      exact ih bs

end Bytes
