import Mathlib.Data.List.DropRight
import SovereignCapital.Lib.Bytes

/-! # Text operations of Python

`str.strip`, `str.lower`, `str.startswith`, `str.rjust`, `str.encode`, `int`, `hex` and the
string encoder of `json.dumps` on lists of characters. Case is folded and digits are read on
ASCII only: the programs that use these functions compare hexadecimal text, where nothing
else occurs.
-/

namespace Bytes

/-- The characters `str.strip` removes. -/
def isPySpace (c : Char) : Bool :=
  let n := c.toNat
  (9 ≤ n && n ≤ 13) || (28 ≤ n && n ≤ 32) || n == 0x85 || n == 0xA0 || n == 0x1680
    || (0x2000 ≤ n && n ≤ 0x200A) || n == 0x2028 || n == 0x2029 || n == 0x202F || n == 0x205F
    || n == 0x3000

/-- `str.strip`. -/
def pyStrip (t : Text) : Text :=
  ((t.dropWhile isPySpace).reverse.dropWhile isPySpace).reverse

/-- `str.lower`. -/
def pyLower (t : Text) : Text := t.map Char.toLower

/-- `str.rjust`. -/
def pyRjust (width : Nat) (fill : Char) (t : Text) : Text :=
  List.replicate (width - t.length) fill ++ t

/-- `str.encode("utf-8")`. -/
def encodeUtf8 (t : Text) : List Byte :=
  (t.flatMap String.utf8EncodeChar).map fun b => Fin.ofNat 256 b.toNat

/-- `t[2:]` when `t` starts with `0x`, otherwise nothing. -/
def strip0x : Text → Option Text
  | '0' :: 'x' :: rest => some rest
  | _ => none

/-- The prefix `0x` in front of text. -/
def with0x (t : Text) : Text := '0' :: 'x' :: t

/-! ## Integers -/

/-- The digits of an integer literal, single underscores allowed between two of them. -/
def digitsValue (base : Nat) : Nat → Bool → Text → Option Nat
  | acc, afterDigit, [] => if afterDigit then some acc else none
  | acc, afterDigit, c :: rest =>
    if c = '_' then if afterDigit then digitsValue base acc false rest else none
    else
      match hexVal c with
      | some d => if d < base then digitsValue base (acc * base + d) true rest else none
      | none => none

/-- The digits after the sign; in base sixteen they may have a prefix `0x`. -/
def unsignedValue (base : Nat) (t : Text) : Option Nat :=
  match base, t with
  | 16, '0' :: 'x' :: '_' :: rest => digitsValue 16 0 false rest
  | 16, '0' :: 'X' :: '_' :: rest => digitsValue 16 0 false rest
  | 16, '0' :: 'x' :: rest => digitsValue 16 0 false rest
  | 16, '0' :: 'X' :: rest => digitsValue 16 0 false rest
  | base, t => digitsValue base 0 false t

/-- `int(t, base)`; nothing where it raises. -/
def pyInt (base : Nat) (t : Text) : Option Int :=
  match pyStrip t with
  | '-' :: rest => (unsignedValue base rest).map fun n => -(n : Int)
  | '+' :: rest => (unsignedValue base rest).map fun n => (n : Int)
  | t => (unsignedValue base t).map fun n => (n : Int)

/-- `str(n)` of an integer. -/
def pyDecimal (n : Int) : Text :=
  if n < 0 then '-' :: Nat.toDigits 10 n.natAbs else Nat.toDigits 10 n.natAbs

/-- `hex(n)`. -/
def pyHex (n : Int) : Text :=
  let digits := with0x (Nat.toDigits 16 n.natAbs)
  if n < 0 then '-' :: digits else digits

/-! ## JSON strings -/

/-- A `\u` escape. -/
def jsonUnicode (n : Nat) : Text := '\\' :: 'u' :: pyRjust 4 '0' (Nat.toDigits 16 n)

/-- One character of a JSON string; outside ASCII it is one escape or a surrogate pair. -/
def jsonChar (c : Char) : Text :=
  let n := c.toNat
  if c = '"' then ['\\', '"']
  else if c = '\\' then ['\\', '\\']
  else if n = 8 then ['\\', 'b']
  else if n = 9 then ['\\', 't']
  else if n = 10 then ['\\', 'n']
  else if n = 12 then ['\\', 'f']
  else if n = 13 then ['\\', 'r']
  else if 32 ≤ n ∧ n < 127 then [c]
  else if n < 0x10000 then jsonUnicode n
  else jsonUnicode (0xD800 + (n - 0x10000) / 0x400) ++ jsonUnicode (0xDC00 + (n - 0x10000) % 0x400)

/-- `json.dumps` of a string. -/
def jsonString (t : Text) : Text := '"' :: t.flatMap jsonChar ++ ['"']

/-! ## Lemmas -/

@[simp] theorem strip0x_with0x (t : Text) : strip0x (with0x t) = some t := rfl

@[simp] theorem length_with0x (t : Text) : (with0x t).length = t.length + 2 := rfl

variable {t name : Text} {α : Type} {c : Char}

theorem with0x_injective {s : Text} (h : with0x s = with0x t) : s = t := by
  simpa [with0x] using h

theorem dropWhile_eq_self {p : α → Bool} {l : List α} (h : ∀ a ∈ l, p a = false) :
    l.dropWhile p = l := by
  cases l with
  | nil => rfl
  | cons a l => rw [List.dropWhile_cons_of_neg (by simp [h a (by simp)])]

theorem dropWhile_prefix_eq_self {p : α → Bool} {u v : List α} (h : v <+: u)
    (hu : u.dropWhile p = u) : v.dropWhile p = v := by
  cases v with
  | nil => rfl
  | cons a v =>
    obtain ⟨w, rfl⟩ := h
    by_cases ha : p a
    · -- A first element in `p` would have been dropped from the longer list.
      rw [List.cons_append, List.dropWhile_cons_of_pos ha] at hu
      have hlen := ((v ++ w).dropWhile_sublist p).length_le
      rw [hu] at hlen
      simp at hlen
    · rw [List.dropWhile_cons_of_neg ha]

@[simp] theorem pyStrip_pyStrip (t : Text) : pyStrip (pyStrip t) = pyStrip t := by
  have hright : ∀ u : Text, (u.reverse.dropWhile isPySpace).reverse <+: u := by
    intro u
    rw [← List.reverse_suffix, List.reverse_reverse]
    exact List.dropWhile_suffix _
  have hleft := dropWhile_prefix_eq_self (hright (t.dropWhile isPySpace))
    (List.dropWhile_idempotent _ _)
  unfold pyStrip
  rw [hleft, List.reverse_reverse, List.dropWhile_idempotent]

/-- Text without white space is its own `strip`. -/
theorem pyStrip_eq_self (h : ∀ c ∈ t, isPySpace c = false) : pyStrip t = t := by
  rw [pyStrip, dropWhile_eq_self h, dropWhile_eq_self (by simpa using h), List.reverse_reverse]

/-- A function that does not tell the upper-case letters from the lower-case ones does not
see case at all. -/
theorem apply_toLower (f : Char → α)
    (h : ∀ n, 65 ≤ n → n ≤ 90 → f (Char.ofNat n).toLower = f (Char.ofNat n)) (c : Char) :
    f c.toLower = f c := by
  by_cases hc : 65 ≤ c.toNat ∧ c.toNat ≤ 90
  · have hself : Char.ofNat c.toNat = c := Char.ofNat_toNat c
    rw [← hself]
    exact h _ hc.1 hc.2
  · have hself : c.toLower = c := dif_neg (by simpa [UInt32.le_iff_toNat_le] using hc)
    rw [hself]

@[simp] theorem isPySpace_toLower (c : Char) : isPySpace c.toLower = isPySpace c :=
  apply_toLower isPySpace (fun n _ _ => by interval_cases n <;> decide) c

@[simp] theorem isAsciiSpace_toLower (c : Char) : isAsciiSpace c.toLower = isAsciiSpace c :=
  apply_toLower isAsciiSpace (fun n _ _ => by interval_cases n <;> decide) c

@[simp] theorem hexVal_toLower (c : Char) : hexVal c.toLower = hexVal c :=
  apply_toLower hexVal (fun n _ _ => by interval_cases n <;> decide) c

@[simp] theorem toLower_toLower (c : Char) : c.toLower.toLower = c.toLower :=
  apply_toLower Char.toLower (fun n _ _ => by interval_cases n <;> decide) c

@[simp] theorem pyLower_pyLower (t : Text) : pyLower (pyLower t) = pyLower t := by
  have hcomp : Char.toLower ∘ Char.toLower = Char.toLower := funext toLower_toLower
  rw [pyLower, pyLower, List.map_map, hcomp]

/-- The reader of hexadecimal text does not see case. -/
@[simp] theorem fromHex_pyLower (t : Text) : fromHex (pyLower t) = fromHex t := by
  unfold pyLower
  induction t using fromHex.induct with
  | case1 => rfl
  | case2 c hc => simp [fromHex]
  | case3 c hc => simp [fromHex]
  | case4 c d rest hc ih =>
    simp only [List.map_cons] at ih ⊢
    rw [fromHex, fromHex, isAsciiSpace_toLower, if_pos hc, if_pos hc, ih]
  | case5 c d rest hc hi lo bs _ _ _ ih =>
    simp only [List.map_cons]
    rw [fromHex, fromHex, isAsciiSpace_toLower, if_neg hc, if_neg hc, ih, hexVal_toLower,
      hexVal_toLower]
  | case6 c d rest hc _ ih =>
    simp only [List.map_cons]
    rw [fromHex, fromHex, isAsciiSpace_toLower, if_neg hc, if_neg hc, ih, hexVal_toLower,
      hexVal_toLower]

@[simp] theorem length_pyLower (t : Text) : (pyLower t).length = t.length := List.length_map _

theorem strip0x_pyLower {digits : Text} (h : strip0x t = some digits) :
    strip0x (pyLower t) = some (pyLower digits) := by
  unfold strip0x at h
  split at h
  · cases h
    rfl
  · cases h

theorem isPySpace_of_pyLower (h : ∀ c ∈ pyLower t, isPySpace c = false) :
    ∀ c ∈ t, isPySpace c = false := by
  intro c hc
  rw [← isPySpace_toLower]
  exact h c.toLower (List.mem_map_of_mem hc)

/-- Stripping and folding case commute. -/
theorem pyStrip_pyLower (t : Text) : pyStrip (pyLower t) = pyLower (pyStrip t) := by
  have hcomp : isPySpace ∘ Char.toLower = isPySpace := funext isPySpace_toLower
  simp only [pyStrip, pyLower, List.dropWhile_map, ← List.map_reverse, hcomp]

theorem isPySpace_digitChar (n : Nat) (h : n < 16) : isPySpace (Nat.digitChar n) = false := by
  interval_cases n <;> decide

/-! ## Decimal text -/

theorem digitChar_ne_underscore {d : Nat} (h : d < 16) : Nat.digitChar d ≠ '_' := by
  interval_cases d <;> decide

theorem digitsValue_concat {base d : Nat} (hbase : base ≤ 16) (hd : d < base) {acc v : Nat}
    {afterDigit : Bool} (h : digitsValue base acc afterDigit t = some v) :
    digitsValue base acc afterDigit (t ++ [Nat.digitChar d]) = some (v * base + d) := by
  have hdigit := digitChar_spec d (by omega)
  induction t generalizing acc afterDigit with
  | nil =>
    have hacc : acc = v := by
      unfold digitsValue at h
      split at h
      · exact Option.some.inj h
      · cases h
    subst hacc
    simp [digitsValue, digitChar_ne_underscore (show d < 16 by omega), hdigit.1, hd]
  | cons c rest ih =>
    simp only [List.cons_append, digitsValue] at h ⊢
    split
    · rename_i hc
      rw [if_pos hc] at h
      split
      · rename_i hafter
        rw [if_pos hafter] at h
        exact ih h
      · rename_i hafter
        rw [if_neg hafter] at h
        cases h
    · rename_i hc
      rw [if_neg hc] at h
      cases hval : hexVal c with
      | none =>
        rw [hval] at h
        cases h
      | some e =>
        rw [hval] at h
        simp only at h ⊢
        split
        · rename_i he
          rw [if_pos he] at h
          exact ih h
        · rename_i he
          rw [if_neg he] at h
          cases h

theorem digitsValue_toDigits (n : Nat) : digitsValue 10 0 false (Nat.toDigits 10 n) = some n := by
  induction n using Nat.strongRecOn with
  | ind n ih =>
    rw [Nat.toDigits_eq_if (by omega)]
    split
    · rename_i hn
      have hdigit := digitChar_spec n (by omega)
      simp [digitsValue, digitChar_ne_underscore (show n < 16 by omega), hdigit.1, hn]
    · rename_i hn
      rw [digitsValue_concat (by omega) (Nat.mod_lt n (by omega)) (ih (n / 10) (by omega))]
      rw [Nat.div_add_mod']

theorem mem_toDigits {n : Nat} (h : c ∈ Nat.toDigits 10 n) : ∃ d < 10, c = Nat.digitChar d := by
  induction n using Nat.strongRecOn with
  | ind n ih =>
    rw [Nat.toDigits_eq_if (by omega)] at h
    split at h
    · rename_i hn
      exact ⟨n, hn, List.mem_singleton.1 h⟩
    · rename_i hn
      rcases List.mem_append.1 h with h | h
      · exact ih (n / 10) (by omega) h
      · exact ⟨n % 10, Nat.mod_lt n (by omega), List.mem_singleton.1 h⟩

theorem unsignedValue_ten (t : Text) : unsignedValue 10 t = digitsValue 10 0 false t := rfl

/-- **The text of an integer is read back.** -/
theorem pyInt_pyDecimal (n : Int) : pyInt 10 (pyDecimal n) = some n := by
  have hdigits := digitsValue_toDigits n.natAbs
  have hspace : ∀ c ∈ Nat.toDigits 10 n.natAbs, isPySpace c = false := by
    intro c hc
    obtain ⟨d, hd, rfl⟩ := mem_toDigits hc
    exact isPySpace_digitChar d (by omega)
  unfold pyDecimal
  split
  · rename_i hneg
    have hstrip : pyStrip ('-' :: Nat.toDigits 10 n.natAbs) = '-' :: Nat.toDigits 10 n.natAbs := by
      apply pyStrip_eq_self
      intro c hc
      rcases List.mem_cons.1 hc with rfl | hc
      · decide
      · exact hspace c hc
    simp only [pyInt, hstrip, unsignedValue_ten, hdigits]
    show some (-(n.natAbs : Int)) = some n
    congr 1
    omega
  · rename_i hpos
    -- The first character is a digit, not a sign.
    obtain ⟨c, rest, hcons⟩ := List.exists_cons_of_ne_nil (Nat.toDigits_ne_nil (n := n.natAbs) (b := 10))
    have hmem : c ∈ Nat.toDigits 10 n.natAbs := by simp [hcons]
    obtain ⟨d, hd, rfl⟩ := mem_toDigits hmem
    have hsign : Nat.digitChar d ≠ '-' ∧ Nat.digitChar d ≠ '+' := by
      interval_cases d <;> decide
    unfold pyInt
    rw [pyStrip_eq_self hspace, hcons]
    rw [hcons] at hdigits
    split
    · rename_i heq
      exact absurd (List.cons.inj heq).1 hsign.1
    · rename_i heq
      exact absurd (List.cons.inj heq).1 hsign.2
    · rename_i heq _
      simp only [unsignedValue_ten, hdigits]
      show some (n.natAbs : Int) = some n
      congr 1
      omega

theorem pyDecimal_injective {n m : Int} (h : pyDecimal n = pyDecimal m) : n = m := by
  have hread := pyInt_pyDecimal n
  rw [h, pyInt_pyDecimal] at hread
  exact (Option.some.inj hread).symm

theorem pyDecimal_ne_nil (n : Int) : pyDecimal n ≠ [] := by
  unfold pyDecimal
  split_ifs
  · exact List.cons_ne_nil _ _
  · exact Nat.toDigits_ne_nil

theorem isPySpace_toHex (bs : List Byte) : ∀ c ∈ toHex bs, isPySpace c = false := by
  intro c hc
  simp only [toHex, List.mem_flatMap, hexPair, List.mem_cons, List.not_mem_nil, or_false] at hc
  obtain ⟨b, -, rfl | rfl⟩ := hc
  · exact isPySpace_digitChar _ (by omega)
  · exact isPySpace_digitChar _ (by omega)

theorem isPySpace_with0x_toHex (bs : List Byte) :
    ∀ c ∈ with0x (toHex bs), isPySpace c = false := by
  intro c hc
  rcases List.mem_cons.1 hc with rfl | hc
  · decide
  · rcases List.mem_cons.1 hc with rfl | hc
    · decide
    · exact isPySpace_toHex bs c hc

@[simp] theorem pyStrip_with0x_toHex (bs : List Byte) :
    pyStrip (with0x (toHex bs)) = with0x (toHex bs) :=
  pyStrip_eq_self (isPySpace_with0x_toHex bs)

@[simp] theorem pyLower_with0x_toHex (bs : List Byte) :
    pyLower (with0x (toHex bs)) = with0x (toHex bs) := by
  have h := toHex_map_toLower bs
  show '0'.toLower :: 'x'.toLower :: (toHex bs).map Char.toLower = _
  rw [h]
  rfl

/-! ## Separators -/

theorem takeWhile_name (h : c ∉ name) (rest : Text) :
    (name ++ c :: rest).takeWhile (fun d => d != c) = name := by
  have hall : ∀ d ∈ name, (d != c) = true := by
    intro d hd
    rw [bne_iff_ne]
    rintro rfl
    exact h hd
  rw [List.takeWhile_append_of_pos hall]
  simp

theorem append_separator_inj {name' rest rest' : Text} (h : c ∉ name) (h' : c ∉ name')
    (heq : name ++ c :: rest = name' ++ c :: rest') : name = name' ∧ rest = rest' := by
  have hname : name = name' := by
    rw [← takeWhile_name h rest, heq, takeWhile_name h' rest']
  subst hname
  exact ⟨rfl, List.cons_injective (List.append_cancel_left heq)⟩

theorem append_last_separator_inj {name' before before' : Text} (h : c ∉ name) (h' : c ∉ name')
    (heq : before ++ c :: name = before' ++ c :: name') : name = name' := by
  have hreverse := congrArg List.reverse heq
  simp only [List.reverse_append, List.reverse_cons, List.append_assoc, List.singleton_append]
    at hreverse
  have hnames := (append_separator_inj (by simpa using h) (by simpa using h') hreverse).1
  exact List.reverse_injective hnames

/-! ## Order -/

/-- `a <= b` on texts: lexicographic by code points. -/
def textLe : Text → Text → Bool
  | [], _ => true
  | _ :: _, [] => false
  | a :: as, b :: bs => decide (a.toNat < b.toNat) || (decide (a = b) && textLe as bs)

theorem textLe_refl (a : Text) : textLe a a = true := by
  induction a with
  | nil => rfl
  | cons c a ih => simp [textLe, ih]

theorem textLe_total (a b : Text) : textLe a b = true ∨ textLe b a = true := by
  induction a generalizing b with
  | nil => exact Or.inl rfl
  | cons c a ih =>
    cases b with
    | nil => exact Or.inr rfl
    | cons d b =>
      simp only [textLe, Bool.or_eq_true, Bool.and_eq_true, decide_eq_true_eq]
      rcases Nat.lt_trichotomy c.toNat d.toNat with hlt | heq | hgt
      · exact Or.inl (Or.inl hlt)
      · have hcd : c = d := Char.toNat_inj.1 heq
        rcases ih b with h | h
        · exact Or.inl (Or.inr ⟨hcd, h⟩)
        · exact Or.inr (Or.inr ⟨hcd.symm, h⟩)
      · exact Or.inr (Or.inl hgt)

theorem textLe_trans {a b c : Text} (hab : textLe a b = true) (hbc : textLe b c = true) :
    textLe a c = true := by
  induction a generalizing b c with
  | nil => rfl
  | cons x a ih =>
    cases b with
    | nil => cases hab
    | cons y b =>
      cases c with
      | nil => cases hbc
      | cons z c =>
        simp only [textLe, Bool.or_eq_true, Bool.and_eq_true, decide_eq_true_eq] at hab hbc ⊢
        rcases hab with hxy | ⟨rfl, hab⟩
        · rcases hbc with hyz | ⟨rfl, hbc⟩
          · exact Or.inl (by omega)
          · exact Or.inl hxy
        · rcases hbc with hyz | ⟨rfl, hbc⟩
          · exact Or.inl hyz
          · exact Or.inr ⟨rfl, ih hab hbc⟩

theorem textLe_antisymm {a b : Text} (hab : textLe a b = true) (hba : textLe b a = true) :
    a = b := by
  induction a generalizing b with
  | nil =>
    cases b with
    | nil => rfl
    | cons y b => cases hba
  | cons x a ih =>
    cases b with
    | nil => cases hab
    | cons y b =>
      simp only [textLe, Bool.or_eq_true, Bool.and_eq_true, decide_eq_true_eq] at hab hba
      rcases hab with hxy | ⟨rfl, hab⟩
      · rcases hba with hyx | ⟨rfl, -⟩
        · omega
        · omega
      · rcases hba with hyx | ⟨-, hba⟩
        · omega
        · rw [ih hab hba]

end Bytes
