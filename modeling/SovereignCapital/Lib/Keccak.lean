import Mathlib.Data.BitVec
import Mathlib.Data.List.GetD
import SovereignCapital.Lib.Bytes

/-! # Keccak

The hash function as its authors define it: the permutation of twenty-five lanes in five steps
a round, the rotations from a walk over the lanes, the round constants from a feedback
register, and the sponge on bit strings with the padding `1 0* 1`. Nothing is a table. Bytes
are read with their lowest bit first.
-/

namespace Keccak

open Bytes

abbrev Bits := List Bool

abbrev State := Fin 5 → Fin 5 → BitVec 64

def laneOf (f : Fin 64 → Bool) : BitVec 64 := BitVec.ofNat 64 (Nat.ofBits f)

theorem toNat_laneOf (f : Fin 64 → Bool) : (laneOf f).toNat = Nat.ofBits f :=
  Nat.mod_eq_of_lt (Nat.ofBits_lt_two_pow f)

/-! ## The permutation -/

def parity (A : State) (x : Fin 5) : BitVec 64 := A x 0 ^^^ A x 1 ^^^ A x 2 ^^^ A x 3 ^^^ A x 4

def theta (A : State) : State := fun x y =>
  A x y ^^^ (parity A (x - 1) ^^^ (parity A (x + 1)).rotateLeft 1)

/-- The walk over all lanes but the first. -/
def walk : Nat → Fin 5 × Fin 5
  | 0 => (1, 0)
  | t + 1 => ((walk t).2, 2 * (walk t).1 + 3 * (walk t).2)

/-- The rotation of a lane: the triangular number of the step that walks to it. -/
def offset (x y : Fin 5) : Nat :=
  match (List.range 24).find? fun t => walk t = (x, y) with
  | some t => (t + 1) * (t + 2) / 2
  | none => 0

def rho (A : State) : State := fun x y => (A x y).rotateLeft (offset x y)

def pi (A : State) : State := fun x y => A (x + 3 * y) x

def chi (A : State) : State := fun x y => A x y ^^^ (~~~A (x + 1) y &&& A (x + 2) y)

/-- The feedback register: times `X`, modulo `X ^ 8 + X ^ 6 + X ^ 5 + X ^ 4 + 1`. -/
def lfsr (r : BitVec 8) : BitVec 8 := r <<< 1 ^^^ if r.msb then 0x71 else 0

/-- The lowest bit of the register after `t` steps. -/
def rc (t : Nat) : Bool := (lfsr^[t] 1).getLsbD 0

def roundConstant (i : Nat) : BitVec 64 := laneOf fun z =>
  (List.range 7).any fun j => z.val + 1 = 2 ^ j && rc (j + 7 * i)

def iota (i : Nat) (A : State) : State := fun x y =>
  if x = 0 ∧ y = 0 then A x y ^^^ roundConstant i else A x y

def round (i : Nat) (A : State) : State := iota i (chi (pi (rho (theta A))))

def keccakF (A : State) : State := (List.range 24).foldl (fun A i => round i A) A

/-! ## The sponge -/

/-- The padding of a message of `len` bits to whole blocks. -/
def pad (rate len : Nat) : Bits :=
  true :: (List.replicate ((rate - (len + 2) % rate) % rate) false ++ [true])

def laneBits (v : BitVec 64) : Bits := (List.range 64).map v.getLsbD

/-- The string of a state, row by row. -/
def stateBits (A : State) : Bits :=
  (List.range 25).flatMap fun i => laneBits (A (Fin.ofNat 5 i) (Fin.ofNat 5 (i / 5)))

def xorBlock (A : State) (block : Bits) : State := fun x y =>
  A x y ^^^ laneOf fun z => block.getD (64 * (x + 5 * y) + z) false

def absorb (rate : Nat) (blocks : Bits) (A : State) : State :=
  (List.range (blocks.length / rate)).foldl
    (fun A k => keccakF (xorBlock A ((blocks.drop (rate * k)).take rate))) A

/-- The first `d` bits of the output. -/
def squeeze (rate d : Nat) (A : State) : Bits :=
  ((List.range ((d + rate - 1) / rate)).flatMap fun k =>
    (stateBits (keccakF^[k] A)).take rate).take d

def sponge (rate : Nat) (message : Bits) (d : Nat) : Bits :=
  squeeze rate d (absorb rate (message ++ pad rate message.length) fun _ _ => 0)

/-! ## Bytes -/

def byteBits (b : Byte) : Bits := (List.range 8).map b.val.testBit

def bitsOfBytes (bs : List Byte) : Bits := bs.flatMap byteBits

def byteOf (f : Fin 8 → Bool) : Byte := ⟨Nat.ofBits f, Nat.ofBits_lt_two_pow f⟩

def bytesOfBits (bits : Bits) : List Byte :=
  (List.range (bits.length / 8)).map fun k => byteOf fun j => bits.getD (8 * k + j) false

/-- **Keccak-256**: a rate of 1088 bits, an output of 256. -/
@[irreducible] def keccak256 (data : List Byte) : List Byte := bytesOfBits (sponge 1088 (bitsOfBytes data) 256)

@[simp] theorem bitsOfBytes_nil : bitsOfBytes [] = [] := rfl

theorem bitsOfBytes_cons (b : Byte) (bs : List Byte) :
    bitsOfBytes (b :: bs) = byteBits b ++ bitsOfBytes bs := rfl

theorem bitsOfBytes_append (as bs : List Byte) :
    bitsOfBytes (as ++ bs) = bitsOfBytes as ++ bitsOfBytes bs := List.flatMap_append

@[simp] theorem length_byteBits (b : Byte) : (byteBits b).length = 8 := rfl

@[simp] theorem length_bitsOfBytes (bs : List Byte) : (bitsOfBytes bs).length = 8 * bs.length := by
  induction bs with
  | nil => rfl
  | cons b bs ih =>
    rw [bitsOfBytes_cons, List.length_append, ih, length_byteBits, List.length_cons]
    omega

theorem bitsOfBytes_replicate_zero (k : Nat) :
    bitsOfBytes (List.replicate k 0) = List.replicate (8 * k) false := by
  induction k with
  | zero => rfl
  | succ k ih =>
    rw [List.replicate_succ, bitsOfBytes_cons, ih, Nat.mul_succ, Nat.add_comm,
      List.replicate_add]
    rfl

theorem getD_bitsOfBytes (bs : List Byte) (i : Nat) :
    (bitsOfBytes bs).getD i false = (bs.getD (i / 8) 0).val.testBit (i % 8) := by
  induction bs generalizing i with
  | nil => simp
  | cons b bs ih =>
    rw [bitsOfBytes_cons]
    by_cases hi : i < 8
    · have hdiv : i / 8 = 0 := by omega
      have hmod : i % 8 = i := by omega
      rw [List.getD_append _ _ _ _ hi, hdiv, hmod]
      simp [byteBits, List.getD_eq_getElem?_getD, hi]
    · have hdiv : i / 8 = (i - 8) / 8 + 1 := by omega
      have hmod : i % 8 = (i - 8) % 8 := by omega
      rw [List.getD_append_right _ _ _ _ (by rw [length_byteBits]; omega), length_byteBits, ih,
        hdiv, hmod, List.getD_cons_succ]

theorem bitsOfBytes_drop (bs : List Byte) (k : Nat) :
    (bitsOfBytes bs).drop (8 * k) = bitsOfBytes (bs.drop k) := by
  induction k generalizing bs with
  | zero => rfl
  | succ k ih =>
    cases bs with
    | nil => simp
    | cons b bs =>
      rw [bitsOfBytes_cons, List.drop_succ_cons, ← ih bs, Nat.mul_succ, Nat.add_comm,
        ← List.drop_drop]
      rfl

theorem bitsOfBytes_take (bs : List Byte) (k : Nat) :
    (bitsOfBytes bs).take (8 * k) = bitsOfBytes (bs.take k) := by
  have hsplit : bitsOfBytes (bs.take k) ++ bitsOfBytes (bs.drop k) = bitsOfBytes bs := by
    rw [← bitsOfBytes_append, List.take_append_drop]
  rw [← bitsOfBytes_drop] at hsplit
  exact List.append_cancel_right (hsplit.trans (List.take_append_drop _ _).symm).symm

theorem bitsOfBytes_block (bs : List Byte) (n k : Nat) :
    ((bitsOfBytes bs).drop (8 * n * k)).take (8 * n) = bitsOfBytes ((bs.drop (n * k)).take n) := by
  rw [Nat.mul_assoc, bitsOfBytes_drop, bitsOfBytes_take]

theorem bytesOfBits_bitsOfBytes (bs : List Byte) : bytesOfBits (bitsOfBytes bs) = bs := by
  have hlength : (bitsOfBytes bs).length / 8 = bs.length := by rw [length_bitsOfBytes]; omega
  apply List.ext_getElem
  · rw [bytesOfBits, List.length_map, List.length_range, hlength]
  · intro k _ hk
    simp only [bytesOfBits, List.getElem_map, List.getElem_range]
    apply Fin.ext
    apply Nat.eq_of_testBit_eq
    intro j
    by_cases hj : j < 8
    · have hdiv : (8 * k + j) / 8 = k := by omega
      have hmod : (8 * k + j) % 8 = j := by omega
      simp only [byteOf, Nat.testBit_ofBits_lt _ _ hj]
      rw [getD_bitsOfBytes, hdiv, hmod, List.getD_eq_getElem _ _ hk]
    · have hpow : 2 ^ 8 ≤ 2 ^ j := Nat.pow_le_pow_right (by decide) (Nat.le_of_not_lt hj)
      have hbyte : bs[k].val < 2 ^ j := by omega
      simp only [byteOf, Nat.testBit_ofBits_ge _ _ (Nat.le_of_not_lt hj)]
      rw [Nat.testBit_lt_two_pow hbyte]

/-! ## The padding of bytes -/

/-- A message of bytes with its padding: one byte `0x81` where one is missing, else `0x01`,
zeros and `0x80`. -/
def paddedBytes (rateBytes : Nat) (data : List Byte) : List Byte :=
  data ++ if data.length % rateBytes + 1 = rateBytes then [0x81]
    else 1 :: (List.replicate (rateBytes - 2 - data.length % rateBytes) 0 ++ [0x80])

theorem bitsOfBytes_paddedBytes {rateBytes : Nat} (hrate : 1 < rateBytes) (data : List Byte) :
    bitsOfBytes (paddedBytes rateBytes data)
      = bitsOfBytes data ++ pad (8 * rateBytes) (bitsOfBytes data).length := by
  have hrest : data.length % rateBytes < rateBytes := Nat.mod_lt _ (by omega)
  have hbits : (8 * data.length + 2) % (8 * rateBytes) = 8 * (data.length % rateBytes) + 2 := by
    have hdiv := Nat.div_add_mod data.length rateBytes
    have hlength : 8 * data.length + 2
        = 8 * (data.length % rateBytes) + 2 + 8 * rateBytes * (data.length / rateBytes) := by
      rw [Nat.mul_assoc]
      omega
    rw [hlength, Nat.add_mul_mod_self_left, Nat.mod_eq_of_lt (by omega)]
  have hzeros : (8 * rateBytes - (8 * (data.length % rateBytes) + 2)) % (8 * rateBytes)
      = 8 * rateBytes - (8 * (data.length % rateBytes) + 2) := Nat.mod_eq_of_lt (by omega)
  rw [paddedBytes, bitsOfBytes_append, length_bitsOfBytes, pad, hbits, hzeros]
  congr 1
  split
  · rename_i hlast
    have hsix : 8 * rateBytes - (8 * (data.length % rateBytes) + 2) = 6 := by omega
    rw [hsix]
    decide
  · rename_i hlast
    have hsplit : 8 * rateBytes - (8 * (data.length % rateBytes) + 2)
        = 7 + (8 * (rateBytes - 2 - data.length % rateBytes) + 7) := by omega
    rw [hsplit, bitsOfBytes_cons, bitsOfBytes_append, bitsOfBytes_replicate_zero,
      List.replicate_add, List.replicate_add, List.append_assoc, List.append_assoc]
    rfl

theorem length_paddedBytes {rateBytes : Nat} (hrate : 1 < rateBytes) (data : List Byte) :
    rateBytes ∣ (paddedBytes rateBytes data).length := by
  have hrest : data.length % rateBytes < rateBytes := Nat.mod_lt _ (by omega)
  have hdiv := Nat.div_add_mod data.length rateBytes
  refine ⟨data.length / rateBytes + 1, ?_⟩
  rw [paddedBytes, Nat.mul_succ]
  split
  · rw [List.length_append, List.length_singleton]
    omega
  · rw [List.length_append, List.length_cons, List.length_append, List.length_replicate,
      List.length_singleton]
    omega

end Keccak
