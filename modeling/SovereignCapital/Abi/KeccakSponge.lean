import Mathlib.Tactic.FinCases
import SovereignCapital.Abi.Keccak
import SovereignCapital.Lib.Keccak

/-! # The built-in hash and Keccak-256

The lanes of the source, integers in a list, are those of the state of the permutation; its
tables are the walk and the register of the definition. What differs is the padding: where one
byte is missing to a whole block, the source adds a block, the definition one byte.
-/

namespace SovereignCapital.Abi

open Bytes

/-! ## Lanes -/

structure Lanes (s : List Nat) (A : Keccak.State) : Prop where
  length_eq : s.length = 25
  lane_eq : ∀ x y : Fin 5, lane s (x + 5 * y) = (A x y).toNat

variable {i : Nat} {s : List Nat} {A : Keccak.State}

theorem lane_map_range {f : Nat → Nat} {n : Nat} (h : i < n) :
    lane ((List.range n).map f) i = f i := by
  simp [lane, List.getD_eq_getElem?_getD, h]

theorem lane_set_self {v : Nat} (h : i < s.length) : lane (s.set i v) i = v := by
  simp [lane, List.getD_eq_getElem?_getD, h]

theorem lane_set_ne {j v : Nat} (h : i ≠ j) : lane (s.set i v) j = lane s j := by
  simp [lane, List.getD_eq_getElem?_getD, h]

theorem lanes_map {f : Nat → Nat} (h : ∀ x y : Fin 5, f (x + 5 * y) = (A x y).toNat) :
    Lanes ((List.range 25).map f) A where
  length_eq := by simp
  lane_eq x y := by rw [lane_map_range (by omega), h]

theorem rol_toNat (v : BitVec 64) (n : Nat) : rol v.toNat n = (v.rotateLeft n).toNat := by
  have hmask : n &&& 63 = n % 64 := Nat.and_two_pow_sub_one_eq_mod n 6
  have hshift : v.toNat >>> (64 - n % 64) < 2 ^ 64 :=
    Nat.lt_of_le_of_lt (Nat.shiftRight_le _ _) v.isLt
  rw [rol, hmask, Nat.and_two_pow_sub_one_eq_mod, Nat.or_mod_two_pow, Nat.mod_eq_of_lt hshift,
    BitVec.toNat_rotateLeft]

/-! ## The five steps -/

theorem val_add_one (x : Fin 5) : (x + 1 : Nat) % 5 = (x + 1 : Fin 5) := (Fin.val_add x 1).symm

theorem Lanes.theta (h : Lanes s A) : Lanes (theta s) (Keccak.theta A) := by
  have hparity : ∀ x : Fin 5, lane s x ^^^ lane s (x + 5) ^^^ lane s (x + 10) ^^^ lane s (x + 15)
      ^^^ lane s (x + 20) = (Keccak.parity A x).toNat := by
    intro x
    have h0 : lane s x = (A x 0).toNat := h.lane_eq x 0
    have h1 : lane s (x + 5) = (A x 1).toNat := h.lane_eq x 1
    have h2 : lane s (x + 10) = (A x 2).toNat := h.lane_eq x 2
    have h3 : lane s (x + 15) = (A x 3).toNat := h.lane_eq x 3
    have h4 : lane s (x + 20) = (A x 4).toNat := h.lane_eq x 4
    simp only [h0, h1, h2, h3, h4, Keccak.parity, BitVec.toNat_xor]
  simp only [Abi.theta]
  apply lanes_map
  intro x y
  have hx : (x + 5 * y : Nat) % 5 = x := by omega
  have hprev : (x + 4 : Nat) % 5 = (x - 1 : Fin 5) := by clear hx; revert x; decide
  rw [hx, lane_map_range (by omega), hprev, val_add_one, lane_map_range (by omega),
    lane_map_range (by omega), hparity, hparity, rol_toNat, h.lane_eq, Keccak.theta,
    BitVec.toNat_xor, BitVec.toNat_xor]

/-- The table of the rotations holds the steps of the walk. -/
theorem rot_eq_offset (x y : Fin 5) :
    (rot.getD x []).getD y 0 = Keccak.offset x y % 64 := by
  revert x y
  decide

/-- Writes to distinct places: each place holds what was written to it. -/
theorem lane_foldl_set {ι : Type} (place value : ι → Nat) {writes : List ι}
    (hnodup : (writes.map place).Nodup) {w : ι} (hw : w ∈ writes) {b : List Nat}
    (hplace : place w < b.length) :
    lane (writes.foldl (fun b w => b.set (place w) (value w)) b) (place w) = value w := by
  induction writes using List.reverseRecOn generalizing b with
  | nil => cases hw
  | append_singleton writes last ih =>
    rw [List.map_append, List.map_singleton, List.nodup_append] at hnodup
    obtain ⟨hnodup, -, hfresh⟩ := hnodup
    have hlength : ∀ b : List Nat,
        (writes.foldl (fun b w => b.set (place w) (value w)) b).length = b.length := by
      intro b
      clear ih hnodup hfresh hw hplace
      induction writes generalizing b with
      | nil => rfl
      | cons first writes ih => rw [List.foldl_cons, ih, List.length_set]
    rw [List.foldl_append, List.foldl_cons, List.foldl_nil]
    rcases List.mem_append.1 hw with hw | hw
    · have hne : place last ≠ place w := fun heq =>
        hfresh _ (List.mem_map_of_mem hw) _ (List.mem_singleton_self _) heq.symm
      rw [lane_set_ne hne, ih hnodup hw hplace]
    · rw [List.mem_singleton.1 hw] at hplace ⊢
      exact lane_set_self (by rw [hlength]; exact hplace)

/-- Where the source writes a lane. -/
def target (p : Nat × Nat) : Nat := p.2 + 5 * ((2 * p.1 + 3 * p.2) % 5)

def lanePairs : List (Nat × Nat) :=
  (List.range 5).flatMap fun x => (List.range 5).map fun y => (x, y)

theorem rhoPi_eq (s : List Nat) :
    rhoPi s = lanePairs.foldl
      (fun b p => b.set (target p) (rol (lane s (p.1 + 5 * p.2)) ((rot.getD p.1 []).getD p.2 0)))
      (List.replicate 25 0) := by
  simp only [rhoPi, lanePairs, List.foldl_flatMap, List.foldl_map, target]

theorem lane_rhoPi (s : List Nat) (x y : Fin 5) :
    lane (rhoPi s) (x + 5 * y)
      = rol (lane s ((x + 3 * y : Fin 5) + 5 * x)) ((rot.getD (x + 3 * y : Fin 5) []).getD x 0) := by
  have hmem : (((x + 3 * y : Fin 5) : Nat), (x : Nat)) ∈ lanePairs := by
    revert x y
    decide
  have htarget : (x + 5 * y : Nat) = target ((x + 3 * y : Fin 5), x) := by
    revert x y
    decide
  rw [rhoPi_eq, htarget]
  apply lane_foldl_set target (fun p => rol (lane s (p.1 + 5 * p.2)) ((rot.getD p.1 []).getD p.2 0))
    (by decide) hmem
  rw [← htarget, List.length_replicate]
  omega

theorem Lanes.rhoPi (h : Lanes s A) : Lanes (rhoPi s) (Keccak.pi (Keccak.rho A)) where
  length_eq := by
    rw [Abi.rhoPi]
    simp only [List.range_succ, List.range_zero, List.nil_append, List.cons_append, List.foldl_cons,
      List.foldl_nil, List.length_set, List.length_replicate]
  lane_eq x y := by
    rw [lane_rhoPi, h.lane_eq, rot_eq_offset, rol_toNat, BitVec.rotateLeft_mod_eq_rotateLeft]
    rfl

/-- The bits of `v` that `u` does not have. -/
theorem xor_and_toNat (u v : BitVec 64) : v.toNat ^^^ (u.toNat &&& v.toNat) = (~~~u &&& v).toNat := by
  rw [← BitVec.toNat_and, ← BitVec.toNat_xor]
  congr 1
  ext i hi
  simp only [BitVec.getElem_xor, BitVec.getElem_and, BitVec.getElem_not]
  cases u[i] <;> cases v[i] <;> rfl

theorem Lanes.chi (h : Lanes s A) : Lanes (chi s) (Keccak.chi A) := by
  apply lanes_map
  intro x y
  have hx : (x + 5 * y : Nat) % 5 = x := by omega
  have hy : (x + 5 * y : Nat) / 5 = y := by omega
  have hafter : (x + 2 : Nat) % 5 = (x + 2 : Fin 5) := (Fin.val_add x 2).symm
  simp only [hx, hy, val_add_one, hafter, h.lane_eq, xor_and_toNat]
  rw [Keccak.chi, BitVec.toNat_xor]

theorem Lanes.iota (h : Lanes s A) (i : Nat) :
    Lanes (iota (Keccak.roundConstant i).toNat s) (Keccak.iota i A) where
  length_eq := by rw [Abi.iota, List.length_set, h.length_eq]
  lane_eq x y := by
    by_cases hzero : x = 0 ∧ y = 0
    · obtain ⟨rfl, rfl⟩ := hzero
      have hlane : lane s 0 = (A 0 0).toNat := h.lane_eq 0 0
      have hlength : 0 < s.length := by rw [h.length_eq]; decide
      rw [Keccak.iota, if_pos ⟨rfl, rfl⟩, BitVec.toNat_xor, ← hlane]
      exact lane_set_self hlength
    · have hne : 0 ≠ (x + 5 * y : Nat) := by
        intro heq
        exact hzero ⟨Fin.ext (by omega), Fin.ext (by omega)⟩
      rw [Keccak.iota, if_neg hzero, Abi.iota, lane_set_ne hne, h.lane_eq]

theorem RC_eq : RC = (List.range 24).map fun i => (Keccak.roundConstant i).toNat := by
  decide +kernel

/-- **The permutation of the source is that of the definition.** -/
theorem Lanes.keccakF (h : Lanes s A) : Lanes (keccakF s) (Keccak.keccakF A) := by
  rw [Abi.keccakF, RC_eq, List.foldl_map, Keccak.keccakF]
  generalize List.range 24 = rounds
  induction rounds generalizing s A with
  | nil => exact h
  | cons i rounds ih => exact ih (h.theta.rhoPi.chi.iota i)

/-! ## Blocks -/

theorem testBit_leNat (bs : List Byte) (i : Nat) :
    (leNat bs).testBit i = (Keccak.bitsOfBytes bs).getD i false := by
  induction bs generalizing i with
  | nil => simp [leNat]
  | cons b bs ih =>
    have hsum : leNat (b :: bs) = 2 ^ 8 * leNat bs + b.val := Nat.add_comm b.val (256 * leNat bs)
    rw [hsum, Nat.testBit_two_pow_mul_add _ b.isLt, Keccak.bitsOfBytes_cons]
    by_cases hi : i < 8
    · rw [if_pos hi, List.getD_append _ _ _ _ hi]
      simp [Keccak.byteBits, List.getD_eq_getElem?_getD, hi]
    · rw [if_neg hi, ih, List.getD_append_right _ _ _ _ (by rw [Keccak.length_byteBits]; omega),
        Keccak.length_byteBits]

theorem leNat_word (block : List Byte) (i : Nat) :
    leNat ((block.drop (8 * i)).take 8)
      = (Keccak.laneOf fun z => (Keccak.bitsOfBytes block).getD (64 * i + z) false).toNat := by
  rw [Keccak.toNat_laneOf]
  apply Nat.eq_of_testBit_eq
  intro z
  rw [testBit_leNat, Keccak.getD_bitsOfBytes]
  by_cases hz : z < 64
  · have hdiv : (64 * i + z) / 8 = 8 * i + z / 8 := by omega
    have hmod : (64 * i + z) % 8 = z % 8 := by omega
    have hbyte : z / 8 < 8 := by omega
    rw [Nat.testBit_ofBits_lt _ _ hz, Keccak.getD_bitsOfBytes, hdiv, hmod]
    simp [List.getD_eq_getElem?_getD, hbyte]
  · have hbyte : ¬z / 8 < 8 := by omega
    rw [Nat.testBit_ofBits_ge _ _ (Nat.le_of_not_lt hz)]
    simp [List.getD_eq_getElem?_getD, hbyte]

theorem lanes_foldl_range (word : Nat → Nat) (s : List Nat) {n : Nat} (hn : n ≤ s.length) :
    ((List.range n).foldl (fun s i => s.set i (lane s i ^^^ word i)) s).length = s.length
      ∧ ∀ j, lane ((List.range n).foldl (fun s i => s.set i (lane s i ^^^ word i)) s) j
        = if j < n then lane s j ^^^ word j else lane s j := by
  induction n with
  | zero => exact ⟨rfl, fun j => (if_neg (Nat.not_lt_zero j)).symm⟩
  | succ n ih =>
    obtain ⟨hlength, hlane⟩ := ih (by omega)
    rw [List.range_succ, List.foldl_append, List.foldl_cons, List.foldl_nil]
    refine ⟨by rw [List.length_set, hlength], fun j => ?_⟩
    by_cases hj : j = n
    · subst hj
      rw [lane_set_self (by rw [hlength]; omega), hlane, if_neg (by omega), if_pos (by omega)]
    · rw [lane_set_ne (Ne.symm hj), hlane]
      have hiff : j < n ↔ j < n + 1 := by omega
      simp only [hiff]

theorem Lanes.absorbBlock (h : Lanes s A) {block : List Byte} (hblock : block.length = rateBytes) :
    Lanes (absorbBlock s block) (Keccak.keccakF (Keccak.xorBlock A (Keccak.bitsOfBytes block))) := by
  obtain ⟨hlength, hlane⟩ := lanes_foldl_range
    (fun i => leNat ((block.drop (8 * i)).take 8)) s (n := rateBytes / 8)
    (by rw [h.length_eq]; decide)
  refine Lanes.keccakF ⟨hlength.trans h.length_eq, fun x y => ?_⟩
  rw [hlane, Keccak.xorBlock, BitVec.toNat_xor, ← leNat_word, h.lane_eq]
  split
  · rfl
  · -- the lanes behind the rate
    rename_i hpast
    have hempty : block.drop (8 * (x + 5 * y)) = [] := by
      rw [List.drop_eq_nil_iff, hblock]
      rw [rateBytes] at hpast ⊢
      omega
    rw [hempty]
    exact (Nat.xor_zero _).symm

/-- The state after whole blocks. -/
def absorbed (blocks : List Byte) : List Nat :=
  (List.range (blocks.length / rateBytes)).foldl
    (fun s k => absorbBlock s ((blocks.drop (rateBytes * k)).take rateBytes)) (List.replicate 25 0)

def digest (s : List Nat) : List Byte := (List.range 4).flatMap fun i => leBytes 8 (lane s i)

theorem keccak256_eq_digest (data : List Byte) : keccak256 data = digest (absorbed (padded data)) :=
  rfl

theorem lanes_absorbed {blocks : List Byte} (hblocks : rateBytes ∣ blocks.length) :
    Lanes (absorbed blocks) (Keccak.absorb (8 * rateBytes) (Keccak.bitsOfBytes blocks) fun _ _ => 0) := by
  obtain ⟨n, hn⟩ := hblocks
  have hcount : (Keccak.bitsOfBytes blocks).length / (8 * rateBytes) = n := by
    rw [Keccak.length_bitsOfBytes, hn, ← Nat.mul_assoc]
    exact Nat.mul_div_cancel_left n (by decide)
  have hbytes : blocks.length / rateBytes = n := by
    rw [hn]
    exact Nat.mul_div_cancel_left n (by decide)
  have hstart : Lanes ((List.range 25).map fun _ => 0) fun _ _ => 0 := lanes_map fun _ _ => rfl
  rw [absorbed, Keccak.absorb, hcount, hbytes]
  -- the blocks are absorbed in their order, each from the state the one before left
  suffices hfirst : ∀ m ≤ n, Lanes
      ((List.range m).foldl
        (fun s k => absorbBlock s ((blocks.drop (rateBytes * k)).take rateBytes))
        (List.replicate 25 0))
      ((List.range m).foldl
        (fun A k => Keccak.keccakF (Keccak.xorBlock A
          (((Keccak.bitsOfBytes blocks).drop (8 * rateBytes * k)).take (8 * rateBytes))))
        fun _ _ => 0) from hfirst n (Nat.le_refl n)
  intro m hm
  induction m with
  | zero => exact hstart
  | succ m ih =>
    have hlength : ((blocks.drop (rateBytes * m)).take rateBytes).length = rateBytes := by
      have hle : rateBytes * (m + 1) ≤ rateBytes * n := Nat.mul_le_mul_left _ hm
      rw [Nat.mul_succ] at hle
      rw [List.length_take, List.length_drop, hn]
      omega
    rw [List.range_succ, List.foldl_append, List.foldl_append, List.foldl_cons, List.foldl_nil,
      List.foldl_cons, List.foldl_nil, Keccak.bitsOfBytes_block]
    exact (ih (by omega)).absorbBlock hlength

/-! ## The output -/

theorem bitsOfBytes_leBytes (k n : Nat) :
    Keccak.bitsOfBytes (leBytes k n) = (List.range (8 * k)).map n.testBit := by
  induction k generalizing n with
  | zero => rfl
  | succ k ih =>
    have hbyte : Keccak.byteBits (Fin.ofNat 256 n) = (List.range 8).map n.testBit := by
      apply List.map_congr_left
      intro j hj
      show (n % 2 ^ 8).testBit j = n.testBit j
      rw [Nat.testBit_mod_two_pow, decide_eq_true (List.mem_range.1 hj), Bool.true_and]
    have hrest : (n / 256).testBit = fun j => n.testBit (8 + j) := by
      funext j
      show (n / 2 ^ 8).testBit j = _
      rw [Nat.testBit_div_two_pow, Nat.add_comm]
    rw [leBytes, Keccak.bitsOfBytes_cons, ih, hbyte, hrest, Nat.mul_succ, Nat.add_comm,
      List.range_add, List.map_append, List.map_map]
    rfl

theorem bitsOfBytes_digest (h : Lanes s A) :
    Keccak.bitsOfBytes (digest s) = Keccak.laneBits (A 0 0) ++ (Keccak.laneBits (A 1 0)
      ++ (Keccak.laneBits (A 2 0) ++ Keccak.laneBits (A 3 0))) := by
  have hlane : ∀ x : Fin 5, Keccak.bitsOfBytes (leBytes 8 (lane s x)) = Keccak.laneBits (A x 0) := by
    intro x
    have hx : lane s x = (A x 0).toNat := h.lane_eq x 0
    rw [hx, bitsOfBytes_leBytes]
    rfl
  have hdigest : digest s = leBytes 8 (lane s (0 : Fin 5)) ++ (leBytes 8 (lane s (1 : Fin 5))
      ++ (leBytes 8 (lane s (2 : Fin 5)) ++ leBytes 8 (lane s (3 : Fin 5)))) := by
    simp [digest, List.range_succ]
  rw [hdigest]
  simp only [Keccak.bitsOfBytes_append, hlane]

/-- The output is the front of the first block of it. -/
theorem squeeze_eq (h : Lanes s A) :
    Keccak.bytesOfBits (Keccak.squeeze (8 * rateBytes) 256 A) = digest s := by
  have hone : Keccak.squeeze (8 * rateBytes) 256 A = (Keccak.stateBits A).take 256 := by
    have hblocks : (256 + 8 * rateBytes - 1) / (8 * rateBytes) = 1 := rfl
    rw [Keccak.squeeze, hblocks, List.range_one, List.flatMap_cons, List.flatMap_nil,
      List.append_nil, List.take_take]
    rfl
  have hfront : Keccak.stateBits A = Keccak.bitsOfBytes (digest s)
      ++ (List.range' 4 21).flatMap fun i =>
        Keccak.laneBits (A (Fin.ofNat 5 i) (Fin.ofNat 5 (i / 5))) := by
    have hrange : List.range 25 = 0 :: 1 :: 2 :: 3 :: List.range' 4 21 := rfl
    rw [bitsOfBytes_digest h, Keccak.stateBits, hrange]
    simp only [List.flatMap_cons, List.append_assoc]
    rfl
  have hlength : (Keccak.bitsOfBytes (digest s)).length = 256 := by
    rw [Keccak.length_bitsOfBytes, digest]
    simp [List.range_succ, length_leBytes]
  rw [hone, hfront, List.take_left' hlength, Keccak.bytesOfBits_bitsOfBytes]

/-! ## The hash -/

/-- **Keccak-256 on the lanes of the source**: the blocks it absorbs are the padded bytes. -/
theorem keccak_eq_digest (data : List Byte) :
    Keccak.keccak256 data = digest (absorbed (Keccak.paddedBytes rateBytes data)) := by
  have hwhole : rateBytes ∣ (Keccak.paddedBytes rateBytes data).length :=
    Keccak.length_paddedBytes (by decide) data
  have hlanes := lanes_absorbed hwhole
  rw [Keccak.bitsOfBytes_paddedBytes (by decide)] at hlanes
  rw [← squeeze_eq hlanes, Keccak.keccak256, Keccak.sponge]
  rfl

/-- The source pads as the definition does, but where one byte is missing to a block. -/
theorem padded_eq_iff (data : List Byte) :
    padded data = Keccak.paddedBytes rateBytes data ↔ data.length % rateBytes + 1 ≠ rateBytes := by
  have hrest : data.length % rateBytes < rateBytes := Nat.mod_lt _ (by decide)
  rw [padded, Keccak.paddedBytes, List.append_assoc, List.append_assoc, List.append_cancel_left_eq]
  split
  · rename_i hlast
    constructor
    · intro h
      have hhead := congrArg List.head? h
      rw [List.singleton_append, List.head?_cons, List.head?_cons] at hhead
      exact absurd hhead (by decide)
    · exact fun h => absurd hlast h
  · rename_i hlast
    have hzeros : rateBytes - 1 - (data.length + 1) % rateBytes
        = rateBytes - 2 - data.length % rateBytes := by
      have hmod := Nat.add_mod data.length 1 rateBytes
      rw [rateBytes] at *
      omega
    rw [hzeros]
    exact iff_of_true rfl hlast

/-- **The built-in hash is Keccak-256** but where one byte is missing to a whole block. -/
theorem keccak256_eq {data : List Byte} (h : data.length % rateBytes + 1 ≠ rateBytes) :
    keccak256 data = Keccak.keccak256 data := by
  rw [keccak256_eq_digest, (padded_eq_iff data).2 h, keccak_eq_digest]

theorem length_digest (s : List Nat) : (digest s).length = 32 := by
  simp [digest, List.range_succ, length_leBytes]

theorem length_keccak (data : List Byte) : (Keccak.keccak256 data).length = 32 := by
  rw [keccak_eq_digest, length_digest]

/-! ## The hash of a process -/

structure Installed where
  ethHash : Option (List Byte → List Byte)
  pycryptodome : Option (List Byte → List Byte)

/-- `keccak256`: `eth-hash`, else `pycryptodome`, else the built-in function. -/
def Installed.keccak256 (installed : Installed) (data : List Byte) : List Byte :=
  match installed.ethHash with
  | some hash => hash data
  | none =>
    match installed.pycryptodome with
    | some hash => hash data
    | none => Abi.keccak256 data

structure Installed.Implements (installed : Installed) : Prop where
  ethHash : ∀ hash, installed.ethHash = some hash → hash = Keccak.keccak256
  pycryptodome : ∀ hash, installed.pycryptodome = some hash → hash = Keccak.keccak256

variable {installed : Installed}

theorem Installed.Implements.keccak256_cases (h : installed.Implements) :
    installed.keccak256 = Keccak.keccak256
      ∨ (installed.ethHash = none ∧ installed.pycryptodome = none
        ∧ installed.keccak256 = Abi.keccak256) := by
  cases heth : installed.ethHash with
  | some hash =>
    left
    funext data
    rw [Installed.keccak256, heth, ← h.ethHash hash heth]
  | none =>
    cases hpy : installed.pycryptodome with
    | some hash =>
      left
      funext data
      rw [Installed.keccak256, heth, hpy, ← h.pycryptodome hash hpy]
    | none =>
      right
      refine ⟨rfl, rfl, funext fun data => ?_⟩
      rw [Installed.keccak256, heth, hpy]

theorem Installed.Implements.length_keccak256 (h : installed.Implements) (data : List Byte) :
    (installed.keccak256 data).length = 32 := by
  rcases h.keccak256_cases with heq | ⟨-, -, heq⟩
  · rw [heq, length_keccak]
  · rw [heq, Abi.length_keccak256]

theorem Installed.Implements.keccak256_eq (h : installed.Implements) {data : List Byte}
    (hdata : data.length % rateBytes + 1 ≠ rateBytes) :
    installed.keccak256 data = Keccak.keccak256 data := by
  rcases h.keccak256_cases with heq | ⟨-, -, heq⟩
  · rw [heq]
  · rw [heq, Abi.keccak256_eq hdata]

end SovereignCapital.Abi
