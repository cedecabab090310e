import SovereignCapital.Lib.Bytes

/-! # Keccak-256

`_keccak256_pure` of `ethabi.py`: the sponge over twenty-five 64-bit lanes, the lane of
column `x` and row `y` at index `x + 5 * y`. The source prefers an installed library to
this function; both compute the same hash.
-/

namespace SovereignCapital.Abi

open Bytes

/-- The lane at index `i`. -/
def lane (s : List Nat) (i : Nat) : Nat := s.getD i 0

/-- The round constants. -/
def RC : List Nat :=
  [0x0000000000000001, 0x0000000000008082, 0x800000000000808A, 0x8000000080008000,
   0x000000000000808B, 0x0000000080000001, 0x8000000080008081, 0x8000000000008009,
   0x000000000000008A, 0x0000000000000088, 0x0000000080008009, 0x000000008000000A,
   0x000000008000808B, 0x800000000000008B, 0x8000000000008089, 0x8000000000008003,
   0x8000000000008002, 0x8000000000000080, 0x000000000000800A, 0x800000008000000A,
   0x8000000080008081, 0x8000000000008080, 0x0000000080000001, 0x8000000080008008]

/-- The rotation offsets, `rot[x][y]`. -/
def rot : List (List Nat) :=
  [[0, 36, 3, 41, 18], [1, 44, 10, 45, 2], [62, 6, 43, 15, 61], [28, 55, 25, 21, 56],
   [27, 20, 39, 8, 14]]

/-- Rotation of a 64-bit lane to the left. -/
def rol (x n : Nat) : Nat :=
  ((x <<< (n &&& 63)) ||| (x >>> (64 - (n &&& 63)))) &&& (2 ^ 64 - 1)

/-- The column parities, mixed into every lane. -/
def theta (s : List Nat) : List Nat :=
  let c := (List.range 5).map fun x =>
    lane s x ^^^ lane s (x + 5) ^^^ lane s (x + 10) ^^^ lane s (x + 15) ^^^ lane s (x + 20)
  let d := (List.range 5).map fun x => lane c ((x + 4) % 5) ^^^ rol (lane c ((x + 1) % 5)) 1
  (List.range 25).map fun i => lane s i ^^^ lane d (i % 5)

/-- Every lane rotated and moved to its new place. -/
def rhoPi (s : List Nat) : List Nat :=
  (List.range 5).foldl (fun b x =>
    (List.range 5).foldl (fun b y =>
      b.set (y + 5 * ((2 * x + 3 * y) % 5))
        (rol (lane s (x + 5 * y)) ((rot.getD x []).getD y 0))) b)
    (List.replicate 25 0)

/-- The row step. `~u & v` of the source is `v` without the bits of `u`. -/
def chi (b : List Nat) : List Nat :=
  (List.range 25).map fun i =>
    let u := lane b ((i % 5 + 1) % 5 + 5 * (i / 5))
    let v := lane b ((i % 5 + 2) % 5 + 5 * (i / 5))
    lane b i ^^^ (v ^^^ (u &&& v))

/-- The round constant, mixed into lane zero. -/
def iota (rc : Nat) (s : List Nat) : List Nat := s.set 0 (lane s 0 ^^^ rc)

/-- The permutation: twenty-four rounds. -/
def keccakF (s : List Nat) : List Nat :=
  RC.foldl (fun s rc => iota rc (chi (rhoPi (theta s)))) s

/-- `int.from_bytes(.., "little")`. -/
def leNat : List Byte → Nat
  | [] => 0
  | b :: bs => b.val + 256 * leNat bs

/-- `int.to_bytes(k, "little")`. -/
def leBytes : Nat → Nat → List Byte
  | 0, _ => []
  | k + 1, n => Fin.ofNat 256 n :: leBytes k (n / 256)

def rateBytes : Nat := 136

/-- The domain byte `0x01`, zeros up to the last byte of the block, then `0x80`. -/
def padded (data : List Byte) : List Byte :=
  data ++ [1] ++ List.replicate (rateBytes - 1 - (data.length + 1) % rateBytes) 0 ++ [0x80]

def absorbBlock (s : List Nat) (block : List Byte) : List Nat :=
  keccakF ((List.range (rateBytes / 8)).foldl
    (fun s i => s.set i (lane s i ^^^ leNat ((block.drop (8 * i)).take 8))) s)

/-- `_keccak256_pure`. The output is shorter than the rate, so one squeeze is enough. -/
def keccak256 (data : List Byte) : List Byte :=
  let p := padded data
  let s := (List.range (p.length / rateBytes)).foldl
    (fun s k => absorbBlock s ((p.drop (rateBytes * k)).take rateBytes)) (List.replicate 25 0)
  (List.range 4).flatMap fun i => leBytes 8 (lane s i)

theorem length_leBytes (k n : Nat) : (leBytes k n).length = k := by
  induction k generalizing n with
  | zero => rfl
  | succ k ih => simp [leBytes, ih]

theorem length_keccak256 (data : List Byte) : (keccak256 data).length = 32 := by
  simp [keccak256, List.range_succ, length_leBytes]

end SovereignCapital.Abi
