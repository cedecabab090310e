import SovereignCapital.Lib.Bytes

/-! # The contract ABI

A layout says how values of one type stand in a block of arguments: what is written into the
head, given where the tail starts, what is written into the tail, and how a value is read from
the position of its head. Offsets count from the start of the block. Words, pairs, dynamic
tuples, dynamic arrays and byte strings are layouts, and a layout that is put together from them
reads back what it wrote, in whatever stands around it.
-/

namespace AbiLayout

open Bytes

/-! ## Positions in a buffer -/

/-- Some bytes stand at a position of a buffer. -/
def At (buf : List Byte) (pos : Nat) (bs : List Byte) : Prop := bs <+: buf.drop pos

variable {buf bs : List Byte} {pos bits : Nat}

theorem At.left {as : List Byte} (h : At buf pos (as ++ bs)) : At buf pos as :=
  (List.prefix_append as bs).trans h

theorem At.right {as : List Byte} (h : At buf pos (as ++ bs)) : At buf (pos + as.length) bs := by
  obtain ⟨rest, hrest⟩ := h
  refine ⟨rest, ?_⟩
  rw [← List.drop_drop, ← hrest, List.append_assoc, List.drop_left]

/-- What stands behind an offset stands in the buffer from there on. -/
theorem At.drop {offset : Nat} (h : At buf (offset + pos) bs) : At (buf.drop offset) pos bs := by
  unfold At
  rwa [List.drop_drop]

theorem At.take (h : At buf pos bs) : (buf.drop pos).take bs.length = bs := by
  obtain ⟨rest, hrest⟩ := h
  rw [← hrest, List.take_left]

theorem At.le_drop (h : At buf pos bs) : bs.length ≤ (buf.drop pos).length :=
  List.IsPrefix.length_le h

theorem At.add_le (h : At buf pos bs) (hbs : bs ≠ []) : pos + bs.length ≤ buf.length := by
  have hle := h.le_drop
  have hpos := List.length_pos_iff.2 hbs
  rw [List.length_drop] at hle
  omega

theorem at_zero (buf : List Byte) : At buf 0 buf := List.prefix_refl buf

def wordAt (buf : List Byte) (pos : Nat) : Option Nat :=
  if pos + 32 ≤ buf.length then some (beNat ((buf.drop pos).take 32)) else none

theorem beBytes_ne_nil (n : Nat) : beBytes 32 n ≠ [] := by
  intro h
  have hlength := length_beBytes 32 n
  rw [h] at hlength
  cases hlength

theorem wordAt_of_at {n : Nat} (h : At buf pos (beBytes 32 n)) (hn : n < 2 ^ 256) :
    wordAt buf pos = some n := by
  have hle := h.add_le (beBytes_ne_nil n)
  have htake := h.take
  rw [length_beBytes] at hle htake
  rw [wordAt, if_pos hle, htake, beNat_beBytes_of_lt (lt_of_lt_of_eq hn (by norm_num))]

/-! ## Layouts -/

structure Layout (α : Type) where
  headSize : Nat
  heads : α → Nat → List Byte
  tail : α → List Byte
  read : List Byte → Nat → Option α

variable {α β : Type}

/-- A block of arguments: the head, and the tail right behind it. -/
def Layout.encode (l : Layout α) (v : α) : List Byte := l.heads v l.headSize ++ l.tail v

/-- The arguments of a block. -/
def Layout.decode (l : Layout α) (block : List Byte) : Option α := l.read block 0

/-- A layout that reads back what it wrote, wherever the head and the tail stand. -/
structure Layout.Lawful (l : Layout α) : Prop where
  length_heads : ∀ v t, (l.heads v t).length = l.headSize
  read_eq : ∀ v buf p t, At buf p (l.heads v t) → At buf t (l.tail v) →
    t + (l.tail v).length < 2 ^ 256 → l.read buf p = some v

/-- **A block reads back** as the value it was written from. -/
theorem Layout.Lawful.decode_encode {l : Layout α} (h : l.Lawful) {v : α}
    (hlength : (l.encode v).length < 2 ^ 256) : l.decode (l.encode v) = some v := by
  have hwhole : At (l.encode v) 0 (l.heads v l.headSize ++ l.tail v) := at_zero _
  have htail := hwhole.right
  rw [h.length_heads, Nat.zero_add] at htail
  refine h.read_eq v _ 0 l.headSize hwhole.left htail ?_
  rwa [Layout.encode, List.length_append, h.length_heads] at hlength

/-! ## Words -/

/-- An unsigned integer of some bits. -/
def word (bits : Nat) : Layout (Fin (2 ^ bits)) where
  headSize := 32
  heads n _ := beBytes 32 n
  tail _ := []
  read buf p := (wordAt buf p).bind fun n =>
    if h : n < 2 ^ bits then some ⟨n, h⟩ else none

@[simp] theorem word_headSize (bits : Nat) : (word bits).headSize = 32 := rfl

@[simp] theorem word_heads (n : Fin (2 ^ bits)) (t : Nat) : (word bits).heads n t = beBytes 32 n :=
  rfl

@[simp] theorem word_tail (n : Fin (2 ^ bits)) : (word bits).tail n = [] := rfl

theorem word_lawful (hbits : bits ≤ 256) : (word bits).Lawful where
  length_heads n _ := length_beBytes 32 n
  read_eq n buf p t hhead _ _ := by
    have hn : n.val < 2 ^ 256 := lt_of_lt_of_le n.isLt (Nat.pow_le_pow_right (by decide) hbits)
    have hword : wordAt buf p = some n.val := wordAt_of_at hhead hn
    simp [word, hword]

/-- Values that are written as those of another type. -/
def Layout.map (l : Layout α) (f : α → β) (g : β → α) : Layout β where
  headSize := l.headSize
  heads v t := l.heads (g v) t
  tail v := l.tail (g v)
  read buf p := (l.read buf p).map f

@[simp] theorem map_headSize (l : Layout α) (f : α → β) (g : β → α) :
    (l.map f g).headSize = l.headSize := rfl

@[simp] theorem map_heads (l : Layout α) (f : α → β) (g : β → α) (v : β) (t : Nat) :
    (l.map f g).heads v t = l.heads (g v) t := rfl

@[simp] theorem map_tail (l : Layout α) (f : α → β) (g : β → α) (v : β) :
    (l.map f g).tail v = l.tail (g v) := rfl

theorem Layout.Lawful.map {l : Layout α} (h : l.Lawful) {f : α → β} {g : β → α}
    (hfg : ∀ v, f (g v) = v) : (l.map f g).Lawful where
  length_heads v t := h.length_heads (g v) t
  read_eq v buf p t hhead htail hlt := by
    have hread := h.read_eq (g v) buf p t hhead htail hlt
    simp [Layout.map, hread, hfg]

/-! ## Tuples -/

/-- Two values side by side. -/
def Layout.pair (a : Layout α) (b : Layout β) : Layout (α × β) where
  headSize := a.headSize + b.headSize
  heads v t := a.heads v.1 t ++ b.heads v.2 (t + (a.tail v.1).length)
  tail v := a.tail v.1 ++ b.tail v.2
  read buf p := do return (← a.read buf p, ← b.read buf (p + a.headSize))

@[simp] theorem pair_headSize (a : Layout α) (b : Layout β) :
    (a.pair b).headSize = a.headSize + b.headSize := rfl

@[simp] theorem pair_heads (a : Layout α) (b : Layout β) (v : α × β) (t : Nat) :
    (a.pair b).heads v t = a.heads v.1 t ++ b.heads v.2 (t + (a.tail v.1).length) := rfl

@[simp] theorem pair_tail (a : Layout α) (b : Layout β) (v : α × β) :
    (a.pair b).tail v = a.tail v.1 ++ b.tail v.2 := rfl

theorem Layout.Lawful.pair {a : Layout α} {b : Layout β} (ha : a.Lawful) (hb : b.Lawful) :
    (a.pair b).Lawful where
  length_heads v t := by
    rw [Layout.pair, List.length_append, ha.length_heads, hb.length_heads]
  read_eq v buf p t hhead htail hlt := by
    have hlength : ((a.pair b).tail v).length = (a.tail v.1).length + (b.tail v.2).length :=
      List.length_append
    have hfirst : a.read buf p = some v.1 :=
      ha.read_eq v.1 buf p t hhead.left htail.left (by omega)
    have hsecond : b.read buf (p + a.headSize) = some v.2 := by
      have hright := hhead.right
      rw [ha.length_heads] at hright
      exact hb.read_eq v.2 buf _ _ hright htail.right (by omega)
    simp [Layout.pair, hfirst, hsecond]

/-- A dynamic tuple: the head is the offset of a block of its own. -/
def Layout.dynamic (a : Layout α) : Layout α where
  headSize := 32
  heads _ t := beBytes 32 t
  tail v := a.encode v
  read buf p := (wordAt buf p).bind fun offset => a.read (buf.drop offset) 0

@[simp] theorem dynamic_headSize (a : Layout α) : a.dynamic.headSize = 32 := rfl

@[simp] theorem dynamic_heads (a : Layout α) (v : α) (t : Nat) :
    a.dynamic.heads v t = beBytes 32 t := rfl

@[simp] theorem dynamic_tail (a : Layout α) (v : α) : a.dynamic.tail v = a.encode v := rfl

theorem Layout.Lawful.dynamic {a : Layout α} (ha : a.Lawful) : a.dynamic.Lawful where
  length_heads _ t := length_beBytes 32 t
  read_eq v buf p t hhead htail hlt := by
    have hword : wordAt buf p = some t := wordAt_of_at hhead (by omega)
    have hblock : At (buf.drop t) 0 (a.heads v a.headSize ++ a.tail v) := At.drop htail
    have hright := hblock.right
    rw [ha.length_heads, Nat.zero_add] at hright
    have hlength : (a.dynamic.tail v).length = a.headSize + (a.tail v).length := by
      rw [dynamic_tail, Layout.encode, List.length_append, ha.length_heads]
    have hread : a.read (buf.drop t) 0 = some v :=
      ha.read_eq v _ 0 a.headSize hblock.left hright (by omega)
    simp [Layout.dynamic, hword, hread]

/-! ## Arrays -/

/-- The heads of some values whose tails start at `t`. -/
def Layout.headsOf (a : Layout α) : List α → Nat → List Byte
  | [], _ => []
  | v :: vs, t => a.heads v t ++ a.headsOf vs (t + (a.tail v).length)

/-- The values whose heads start at `p`. -/
def Layout.readMany (a : Layout α) (buf : List Byte) : Nat → Nat → Option (List α)
  | 0, _ => some []
  | n + 1, p => do return (← a.read buf p) :: (← a.readMany buf n (p + a.headSize))

/-- A dynamic array: the number of its elements, and behind it a block of them. -/
def Layout.array (a : Layout α) : Layout (List α) where
  headSize := 32
  heads _ t := beBytes 32 t
  tail vs := beBytes 32 vs.length ++ (a.headsOf vs (a.headSize * vs.length) ++ vs.flatMap a.tail)
  read buf p := do
    let offset ← wordAt buf p
    let count ← wordAt buf offset
    let elements := buf.drop (offset + 32)
    if a.headSize * count ≤ elements.length then a.readMany elements count 0 else none

@[simp] theorem array_headSize (a : Layout α) : a.array.headSize = 32 := rfl

@[simp] theorem array_heads (a : Layout α) (vs : List α) (t : Nat) :
    a.array.heads vs t = beBytes 32 t := rfl

@[simp] theorem array_tail (a : Layout α) (vs : List α) :
    a.array.tail vs = beBytes 32 vs.length
      ++ (a.headsOf vs (a.headSize * vs.length) ++ vs.flatMap a.tail) := rfl

@[simp] theorem headsOf_nil (a : Layout α) (t : Nat) : a.headsOf [] t = [] := rfl

@[simp] theorem headsOf_cons (a : Layout α) (v : α) (vs : List α) (t : Nat) :
    a.headsOf (v :: vs) t = a.heads v t ++ a.headsOf vs (t + (a.tail v).length) := rfl

theorem Layout.Lawful.length_headsOf {a : Layout α} (ha : a.Lawful) (vs : List α) (t : Nat) :
    (a.headsOf vs t).length = a.headSize * vs.length := by
  induction vs generalizing t with
  | nil => rfl
  | cons v vs ih =>
    rw [Layout.headsOf, List.length_append, ha.length_heads, ih, List.length_cons,
      Nat.mul_succ, Nat.add_comm]

theorem Layout.Lawful.readMany_eq {a : Layout α} (ha : a.Lawful) (vs : List α) {p t : Nat}
    (hhead : At buf p (a.headsOf vs t)) (htail : At buf t (vs.flatMap a.tail))
    (hlt : t + (vs.flatMap a.tail).length < 2 ^ 256) : a.readMany buf vs.length p = some vs := by
  induction vs generalizing p t with
  | nil => rfl
  | cons v vs ih =>
    rw [List.flatMap_cons] at htail hlt
    rw [List.length_append] at hlt
    have hfirst : a.read buf p = some v :=
      ha.read_eq v buf p t hhead.left htail.left (by omega)
    have hright := hhead.right
    rw [ha.length_heads] at hright
    have hrest := ih hright htail.right (by omega)
    simp [Layout.readMany, hfirst, hrest]

theorem Layout.Lawful.array {a : Layout α} (ha : a.Lawful) (hsize : 0 < a.headSize) :
    a.array.Lawful where
  length_heads _ t := length_beBytes 32 t
  read_eq vs buf p t hhead htail hlt := by
    have hlength : (a.array.tail vs).length
        = 32 + (a.headSize * vs.length + (vs.flatMap a.tail).length) := by
      rw [array_tail, List.length_append, List.length_append, length_beBytes, ha.length_headsOf]
    rw [array_tail] at htail
    have hcount : vs.length ≤ a.headSize * vs.length := Nat.le_mul_of_pos_left _ hsize
    have hoffset : wordAt buf p = some t := wordAt_of_at hhead (by omega)
    have hword : wordAt buf t = some vs.length := wordAt_of_at htail.left (by omega)
    have helements : At buf (t + 32)
        (a.headsOf vs (a.headSize * vs.length) ++ vs.flatMap a.tail) := by
      have hright := htail.right
      rwa [length_beBytes] at hright
    have hblock : At (buf.drop (t + 32)) 0
        (a.headsOf vs (a.headSize * vs.length) ++ vs.flatMap a.tail) := At.drop helements
    have hbound : a.headSize * vs.length ≤ (buf.drop (t + 32)).length := by
      have hle := hblock.left.le_drop
      rwa [ha.length_headsOf, List.drop_zero] at hle
    have hright := hblock.right
    rw [ha.length_headsOf, Nat.zero_add] at hright
    have hmany : a.readMany (buf.drop (t + 32)) vs.length 0 = some vs :=
      ha.readMany_eq vs hblock.left hright (by omega)
    rw [List.length_drop] at hbound
    simp [Layout.array, hoffset, hword, hbound, hmany]

/-! ## Byte strings -/

/-- The zero bytes that fill the last word. -/
def padding (bs : List Byte) : List Byte := List.replicate ((32 - bs.length % 32) % 32) 0

/-- A byte string: its length, and behind it its bytes. -/
def bytes : Layout (List Byte) where
  headSize := 32
  heads _ t := beBytes 32 t
  tail bs := beBytes 32 bs.length ++ (bs ++ padding bs)
  read buf p := do
    let offset ← wordAt buf p
    let length ← wordAt buf offset
    let content := buf.drop (offset + 32)
    if length ≤ content.length then some (content.take length) else none

@[simp] theorem bytes_headSize : bytes.headSize = 32 := rfl

@[simp] theorem bytes_heads (bs : List Byte) (t : Nat) : bytes.heads bs t = beBytes 32 t := rfl

@[simp] theorem bytes_tail (bs : List Byte) :
    bytes.tail bs = beBytes 32 bs.length ++ (bs ++ padding bs) := rfl

@[simp] theorem padding_nil : padding [] = [] := rfl

theorem bytes_lawful : bytes.Lawful where
  length_heads _ t := length_beBytes 32 t
  read_eq bs buf p t hhead htail hlt := by
    rw [bytes_tail] at htail hlt
    rw [List.length_append, List.length_append, length_beBytes] at hlt
    have hoffset : wordAt buf p = some t := wordAt_of_at hhead (by omega)
    have hword : wordAt buf t = some bs.length := wordAt_of_at htail.left (by omega)
    have hright := htail.right
    rw [length_beBytes] at hright
    have hbound : bs.length ≤ (buf.drop (t + 32)).length := hright.left.le_drop
    have htake : (buf.drop (t + 32)).take bs.length = bs := hright.left.take
    have hbound' : bs.length ≤ buf.length - (t + 32) := by rwa [List.length_drop] at hbound
    simp [bytes, hoffset, hword, hbound', htake]

end AbiLayout
