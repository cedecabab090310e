import SovereignCapital.Lib.Bytes

/-! # SHA-256

The hash function on lists of bytes, and the length of a digest.
-/

namespace Bytes.Sha256

open Bytes

def roundConstants : List (BitVec 32) :=
  [0x428a2f98, 0x71374491, 0xb5c0fbcf, 0xe9b5dba5, 0x3956c25b, 0x59f111f1, 0x923f82a4, 0xab1c5ed5,
   0xd807aa98, 0x12835b01, 0x243185be, 0x550c7dc3, 0x72be5d74, 0x80deb1fe, 0x9bdc06a7, 0xc19bf174,
   0xe49b69c1, 0xefbe4786, 0x0fc19dc6, 0x240ca1cc, 0x2de92c6f, 0x4a7484aa, 0x5cb0a9dc, 0x76f988da,
   0x983e5152, 0xa831c66d, 0xb00327c8, 0xbf597fc7, 0xc6e00bf3, 0xd5a79147, 0x06ca6351, 0x14292967,
   0x27b70a85, 0x2e1b2138, 0x4d2c6dfc, 0x53380d13, 0x650a7354, 0x766a0abb, 0x81c2c92e, 0x92722c85,
   0xa2bfe8a1, 0xa81a664b, 0xc24b8b70, 0xc76c51a3, 0xd192e819, 0xd6990624, 0xf40e3585, 0x106aa070,
   0x19a4c116, 0x1e376c08, 0x2748774c, 0x34b0bcb5, 0x391c0cb3, 0x4ed8aa4a, 0x5b9cca4f, 0x682e6ff3,
   0x748f82ee, 0x78a5636f, 0x84c87814, 0x8cc70208, 0x90befffa, 0xa4506ceb, 0xbef9a3f7, 0xc67178f2]

/-- The eight words of the chaining value. -/
structure Chain where
  a : BitVec 32
  b : BitVec 32
  c : BitVec 32
  d : BitVec 32
  e : BitVec 32
  f : BitVec 32
  g : BitVec 32
  h : BitVec 32

def initial : Chain :=
  ⟨0x6a09e667, 0xbb67ae85, 0x3c6ef372, 0xa54ff53a, 0x510e527f, 0x9b05688c, 0x1f83d9ab, 0x5be0cd19⟩

def blockWords (block : List Byte) : List (BitVec 32) :=
  (List.range 16).map fun i => BitVec.ofNat 32 (beNat ((block.drop (4 * i)).take 4))

/-- The last word of the schedule comes first. -/
def extend : Nat → List (BitVec 32) → List (BitVec 32)
  | 0, ws => ws
  | n + 1, ws =>
    let w2 := ws.getD 1 0
    let w15 := ws.getD 14 0
    let s0 := w15.rotateRight 7 ^^^ w15.rotateRight 18 ^^^ w15 >>> 3
    let s1 := w2.rotateRight 17 ^^^ w2.rotateRight 19 ^^^ w2 >>> 10
    extend n ((ws.getD 15 0 + s0 + ws.getD 6 0 + s1) :: ws)

def schedule (block : List Byte) : List (BitVec 32) :=
  (extend 48 (blockWords block).reverse).reverse

def round (v : Chain) (kw : BitVec 32 × BitVec 32) : Chain :=
  let s1 := v.e.rotateRight 6 ^^^ v.e.rotateRight 11 ^^^ v.e.rotateRight 25
  let ch := (v.e &&& v.f) ^^^ (~~~v.e &&& v.g)
  let t1 := v.h + s1 + ch + kw.1 + kw.2
  let s0 := v.a.rotateRight 2 ^^^ v.a.rotateRight 13 ^^^ v.a.rotateRight 22
  let maj := (v.a &&& v.b) ^^^ (v.a &&& v.c) ^^^ (v.b &&& v.c)
  ⟨t1 + (s0 + maj), v.a, v.b, v.c, v.d + t1, v.e, v.f, v.g⟩

def compress (v : Chain) (block : List Byte) : Chain :=
  let r := (roundConstants.zip (schedule block)).foldl round v
  ⟨v.a + r.a, v.b + r.b, v.c + r.c, v.d + r.d, v.e + r.e, v.f + r.f, v.g + r.g, v.h + r.h⟩

/-- The message, a one bit, zeros, and the length in bits. -/
def padded (data : List Byte) : List Byte :=
  data ++ [128] ++ List.replicate ((119 - data.length % 64) % 64) 0
    ++ beBytes 8 (8 * data.length)

/-- The digest of `data`. -/
def sha256 (data : List Byte) : List Byte :=
  let message := padded data
  let v := (List.range (message.length / 64)).foldl
    (fun v i => compress v ((message.drop (64 * i)).take 64)) initial
  [v.a, v.b, v.c, v.d, v.e, v.f, v.g, v.h].flatMap fun w => beBytes 4 w.toNat

theorem length_sha256 (data : List Byte) : (sha256 data).length = 32 := by
  simp [sha256]

end Bytes.Sha256
