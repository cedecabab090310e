import SovereignCapital.Lib.CanonicalJson

/-! # JSON values

`json.dumps(v, separators=(",", ":"))` of nested values, in ASCII. A value ends where its brackets
close, a text where its closing quote stands, a number or a name at the first character that neither
has: two values with the same text are equal.
-/

namespace Bytes.JsonTree

open Bytes CanonicalJson

/-! ## Texts -/

/-- Four digits of a `\u` escape. -/
def fourDigits (a b c d : Char) : Option Nat := do
  let a ← hexVal a
  let b ← hexVal b
  let c ← hexVal c
  let d ← hexVal d
  return 4096 * a + 256 * b + 16 * c + d

/-- The character an escape is for, and what follows; two escapes may be one character. -/
def readChar : Text → Option (Char × Text)
  | '\\' :: 'u' :: a :: b :: c :: d :: rest => do
    let high ← fourDigits a b c d
    if 0xD800 ≤ high ∧ high < 0xDC00 then
      match rest with
      | '\\' :: 'u' :: a :: b :: c :: d :: rest => do
        let low ← fourDigits a b c d
        return (Char.ofNat (0x10000 + (high - 0xD800) * 0x400 + (low - 0xDC00)), rest)
      | _ => none
    else return (Char.ofNat high, rest)
  | '\\' :: 'b' :: rest => some (Char.ofNat 8, rest)
  | '\\' :: 't' :: rest => some (Char.ofNat 9, rest)
  | '\\' :: 'n' :: rest => some (Char.ofNat 10, rest)
  | '\\' :: 'f' :: rest => some (Char.ofNat 12, rest)
  | '\\' :: 'r' :: rest => some (Char.ofNat 13, rest)
  | '\\' :: c :: rest => some (c, rest)
  | c :: rest => some (c, rest)
  | [] => none

theorem hexVal_digitChar {n : Nat} (h : n < 16) : hexVal (Nat.digitChar n) = some n := by
  interval_cases n <;> rfl

/-- A `\u` escape has four digits. -/
theorem jsonUnicode_eq {n : Nat} (h : n < 0x10000) :
    jsonUnicode n = ['\\', 'u', Nat.digitChar (n / 4096), Nat.digitChar (n / 256 % 16),
      Nat.digitChar (n / 16 % 16), Nat.digitChar (n % 16)] := by
  have hzero : Nat.digitChar 0 = '0' := rfl
  have hbase : (1 : Nat) < 16 := by decide
  unfold jsonUnicode pyRjust
  by_cases h1 : n < 16
  · rw [Nat.toDigits_eq_if hbase, if_pos h1, show n / 4096 = 0 by omega,
      show n / 256 % 16 = 0 by omega, show n / 16 % 16 = 0 by omega, Nat.mod_eq_of_lt h1, hzero]
    rfl
  by_cases h2 : n < 256
  · rw [Nat.toDigits_eq_if hbase, if_neg h1, Nat.toDigits_eq_if hbase, if_pos (by omega),
      show n / 4096 = 0 by omega, show n / 256 % 16 = 0 by omega,
      show n / 16 % 16 = n / 16 by omega, hzero]
    rfl
  by_cases h3 : n < 4096
  · rw [Nat.toDigits_eq_if hbase, if_neg h1, Nat.toDigits_eq_if hbase, if_neg (by omega),
      Nat.toDigits_eq_if hbase, if_pos (by omega), show n / 4096 = 0 by omega,
      show n / 256 % 16 = n / 16 / 16 by omega, hzero]
    rfl
  · rw [Nat.toDigits_eq_if hbase, if_neg h1, Nat.toDigits_eq_if hbase, if_neg (by omega),
      Nat.toDigits_eq_if hbase, if_neg (by omega), Nat.toDigits_eq_if hbase, if_pos (by omega),
      show n / 4096 = n / 16 / 16 / 16 by omega, show n / 256 % 16 = n / 16 / 16 % 16 by omega]
    rfl

theorem fourDigits_digitChar {n : Nat} (h : n < 0x10000) :
    fourDigits (Nat.digitChar (n / 4096)) (Nat.digitChar (n / 256 % 16))
      (Nat.digitChar (n / 16 % 16)) (Nat.digitChar (n % 16)) = some n := by
  unfold fourDigits
  rw [hexVal_digitChar (by omega), hexVal_digitChar (by omega), hexVal_digitChar (by omega),
    hexVal_digitChar (by omega)]
  simp only [Option.bind_eq_bind, Option.bind_some, Option.pure_def]
  congr 1
  omega

theorem readChar_unicode {n : Nat} (h : n < 0x10000) (hhigh : ¬ (0xD800 ≤ n ∧ n < 0xDC00))
    (rest : Text) : readChar (jsonUnicode n ++ rest) = some (Char.ofNat n, rest) := by
  rw [jsonUnicode_eq h]
  simp only [List.cons_append, List.nil_append, readChar]
  rw [fourDigits_digitChar h]
  simp only [Option.bind_eq_bind, Option.bind_some, if_neg hhigh, Option.pure_def]

theorem readChar_pair {high low : Nat} (hlow : 0xD800 ≤ high) (hhigh : high < 0xDC00)
    (hsecond : low < 0x10000) (rest : Text) :
    readChar (jsonUnicode high ++ (jsonUnicode low ++ rest))
      = some (Char.ofNat (0x10000 + (high - 0xD800) * 0x400 + (low - 0xDC00)), rest) := by
  rw [jsonUnicode_eq (hhigh.trans (by decide)), jsonUnicode_eq hsecond]
  simp only [List.cons_append, List.nil_append, readChar]
  rw [fourDigits_digitChar (hhigh.trans (by decide)), fourDigits_digitChar hsecond]
  simp only [Option.bind_eq_bind, Option.bind_some, if_pos (And.intro hlow hhigh), Option.pure_def]

theorem readChar_self {c : Char} (hslash : c ≠ '\\') (rest : Text) :
    readChar (c :: rest) = some (c, rest) := by
  unfold readChar
  split
  all_goals first
    | exact absurd rfl hslash
    | rfl
    | simp_all

/-- A character outside ASCII is one escape, or two. -/
theorem readChar_escaped (c : Char) (rest : Text) :
    readChar ((if c.toNat < 0x10000 then jsonUnicode c.toNat
      else jsonUnicode (0xD800 + (c.toNat - 0x10000) / 0x400)
        ++ jsonUnicode (0xDC00 + (c.toNat - 0x10000) % 0x400)) ++ rest) = some (c, rest) := by
  have hvalid : c.toNat < 0xD800 ∨ 0xDFFF < c.toNat ∧ c.toNat < 0x110000 := c.valid
  by_cases hbmp : c.toNat < 0x10000
  · rw [if_pos hbmp, readChar_unicode hbmp (by omega), Char.ofNat_toNat]
  · have hsplit := Nat.div_add_mod (c.toNat - 0x10000) 0x400
    have hdiv : (c.toNat - 0x10000) / 0x400 < 0x400 := by omega
    have hmod : (c.toNat - 0x10000) % 0x400 < 0x400 := Nat.mod_lt _ (by omega)
    rw [if_neg hbmp, List.append_assoc, readChar_pair (Nat.le_add_right _ _) (by omega) (by omega),
      Nat.add_sub_cancel_left, Nat.add_sub_cancel_left]
    have hvalue : 0x10000 + (c.toNat - 0x10000) / 0x400 * 0x400 + (c.toNat - 0x10000) % 0x400
        = c.toNat := by omega
    rw [hvalue, Char.ofNat_toNat]

theorem readChar_jsonChar (c : Char) (rest : Text) :
    readChar (jsonChar c ++ rest) = some (c, rest) := by
  have hcontrol : ∀ n, c.toNat = n → c = Char.ofNat n := fun n hn => by
    rw [← hn, Char.ofNat_toNat]
  unfold jsonChar
  dsimp only
  by_cases hquote : c = '"'
  · subst hquote
    rfl
  by_cases hslash : c = '\\'
  · subst hslash
    rfl
  rw [if_neg hquote, if_neg hslash]
  by_cases h8 : c.toNat = 8
  · rw [if_pos h8, hcontrol 8 h8]
    rfl
  by_cases h9 : c.toNat = 9
  · rw [if_neg h8, if_pos h9, hcontrol 9 h9]
    rfl
  by_cases h10 : c.toNat = 10
  · rw [if_neg h8, if_neg h9, if_pos h10, hcontrol 10 h10]
    rfl
  by_cases h12 : c.toNat = 12
  · rw [if_neg h8, if_neg h9, if_neg h10, if_pos h12, hcontrol 12 h12]
    rfl
  by_cases h13 : c.toNat = 13
  · rw [if_neg h8, if_neg h9, if_neg h10, if_neg h12, if_pos h13, hcontrol 13 h13]
    rfl
  rw [if_neg h8, if_neg h9, if_neg h10, if_neg h12, if_neg h13]
  by_cases hprintable : 32 ≤ c.toNat ∧ c.toNat < 127
  · rw [if_pos hprintable]
    exact readChar_self hslash rest
  · rw [if_neg hprintable]
    exact readChar_escaped c rest

theorem jsonChar_head (c : Char) : ∃ d rest, jsonChar c = d :: rest ∧ d ≠ '"' := by
  unfold jsonChar
  dsimp only
  split_ifs with h
  all_goals first
    | exact ⟨_, _, rfl, by decide⟩
    | exact ⟨_, _, rfl, h⟩

/-- A text ends where its closing quote stands. -/
theorem jsonString_append_inj {s t u v : Text} (h : jsonString s ++ u = jsonString t ++ v) :
    s = t ∧ u = v := by
  unfold jsonString at h
  rw [List.cons_append, List.cons_append, List.append_assoc, List.append_assoc] at h
  exact closed_append_inj readChar_jsonChar jsonChar_head (List.cons.inj h).2

/-! ## Values -/

/-- The characters of numbers and of the names of constants. -/
def WordChar (c : Char) : Bool := c.isAlphanum || c == '+' || c == '-' || c == '.'

/-- A number, or the name of a constant. -/
structure Word where
  text : Text
  nonempty : text ≠ []
  chars : ∀ c ∈ text, WordChar c = true

theorem Word.ext_text {w w' : Word} (h : w.text = w'.text) : w = w' := by
  cases w
  cases w'
  cases h
  rfl

theorem wordChar_pyDecimal (n : Int) : ∀ c ∈ pyDecimal n, WordChar c = true := by
  intro c hc
  have hint := intChar_pyDecimal n c hc
  unfold IntChar at hint
  unfold WordChar Char.isAlphanum
  rw [Bool.or_eq_true, beq_iff_eq] at hint
  rcases hint with rfl | hdigit
  · decide
  · rw [hdigit]
    simp

def Word.ofInt (n : Int) : Word := ⟨pyDecimal n, pyDecimal_ne_nil n, wordChar_pyDecimal n⟩

theorem wordChars {t : Text} (h : t.all WordChar = true) : ∀ c ∈ t, WordChar c = true :=
  List.all_eq_true.1 h

theorem wordChar_null : ∀ c ∈ "null".toList, WordChar c = true := wordChars rfl

/-- `None`. -/
def Word.null : Word := ⟨"null".toList, List.cons_ne_nil _ _, wordChar_null⟩

theorem wordChar_bool (b : Bool) :
    ∀ c ∈ if b then "true".toList else "false".toList, WordChar c = true := by
  cases b with
  | true => exact wordChars rfl
  | false => exact wordChars rfl

theorem bool_ne_nil (b : Bool) : (if b then "true".toList else "false".toList) ≠ [] := by
  cases b <;> decide

def Word.ofBool (b : Bool) : Word :=
  ⟨if b then "true".toList else "false".toList, bool_ne_nil b, wordChar_bool b⟩

theorem Word.ofInt_injective {n m : Int} (h : Word.ofInt n = Word.ofInt m) : n = m :=
  pyDecimal_injective (congrArg Word.text h)

theorem Word.ofBool_injective {b b' : Bool} (h : Word.ofBool b = Word.ofBool b') : b = b' := by
  have htext := congrArg Word.text h
  cases b with
  | false =>
    cases b' with
    | false => rfl
    | true => exact absurd htext (by decide)
  | true =>
    cases b' with
    | false => exact absurd htext (by decide)
    | true => rfl

end JsonTree

/-- A value of JSON; the fields of an object stand as they are written. -/
inductive JsonTree where
  | word (w : JsonTree.Word)
  | text (t : Text)
  | array (items : List JsonTree)
  | object (fields : List (Text × JsonTree))

namespace JsonTree

open CanonicalJson

mutual

/-- `json.dumps` of a value, and what follows it. -/
def write : JsonTree → Text → Text
  | .word w, rest => w.text ++ rest
  | .text t, rest => jsonString t ++ rest
  | .array [], rest => '[' :: ']' :: rest
  | .array (j :: items), rest => '[' :: j.write (writeItems items (']' :: rest))
  | .object [], rest => '\x7b' :: '\x7d' :: rest
  | .object (f :: fields), rest =>
    '\x7b' :: (jsonString f.1 ++ ':' :: f.2.write (writeFields fields ('\x7d' :: rest)))

def writeItems : List JsonTree → Text → Text
  | [], rest => rest
  | j :: items, rest => ',' :: j.write (writeItems items rest)

def writeFields : List (Text × JsonTree) → Text → Text
  | [], rest => rest
  | f :: fields, rest => ',' :: (jsonString f.1 ++ ':' :: f.2.write (writeFields fields rest))

end

def dumps (j : JsonTree) : Text := j.write []

/-- What may follow a value. -/
def Closed (rest : Text) : Prop := ∀ c u, rest = c :: u → WordChar c = false

def Begins (c : Char) : JsonTree → Prop
  | .word _ => WordChar c = true
  | .text _ => c = '"'
  | .array _ => c = '['
  | .object _ => c = '\x7b'

theorem closed_nil : Closed [] := by
  intro c u h
  cases h

theorem closed_cons {c : Char} (hc : WordChar c = false) (u : Text) : Closed (c :: u) := by
  intro d v h
  rw [← (List.cons.inj h).1]
  exact hc

theorem closed_writeItems (items : List JsonTree) (u : Text) :
    Closed (writeItems items (']' :: u)) := by
  cases items with
  | nil =>
    rw [writeItems]
    exact closed_cons (by decide) u
  | cons j items =>
    rw [writeItems]
    exact closed_cons (by decide) _

theorem closed_writeFields (fields : List (Text × JsonTree)) (u : Text) :
    Closed (writeFields fields ('\x7d' :: u)) := by
  cases fields with
  | nil =>
    rw [writeFields]
    exact closed_cons (by decide) u
  | cons f fields =>
    rw [writeFields]
    exact closed_cons (by decide) _

theorem exists_begins (j : JsonTree) (u : Text) : ∃ c t, j.write u = c :: t ∧ j.Begins c := by
  cases j with
  | word w =>
    obtain ⟨c, t, hw⟩ := List.exists_cons_of_ne_nil w.nonempty
    refine ⟨c, t ++ u, by rw [write, hw, List.cons_append], ?_⟩
    exact w.chars c (by rw [hw]; exact List.mem_cons_self)
  | text t => exact ⟨'"', _, by rw [write]; rfl, rfl⟩
  | array items =>
    cases items with
    | nil => exact ⟨'[', _, by rw [write], rfl⟩
    | cons j items => exact ⟨'[', _, by rw [write], rfl⟩
  | object fields =>
    cases fields with
    | nil => exact ⟨'\x7b', _, by rw [write], rfl⟩
    | cons f fields => exact ⟨'\x7b', _, by rw [write], rfl⟩

theorem begins_of_write_eq {j j' : JsonTree} {u v : Text} (h : j.write u = j'.write v) :
    ∃ c, j.Begins c ∧ j'.Begins c := by
  obtain ⟨c, t, hc, hbegins⟩ := exists_begins j u
  obtain ⟨d, s, hd, hbegins'⟩ := exists_begins j' v
  rw [hc, hd] at h
  obtain ⟨rfl, -⟩ := List.cons.inj h
  exact ⟨c, hbegins, hbegins'⟩

theorem write_ne_bracket (j : JsonTree) (u v : Text) : j.write u ≠ ']' :: v := by
  intro h
  obtain ⟨c, t, hc, hbegins⟩ := exists_begins j u
  rw [hc] at h
  obtain ⟨rfl, -⟩ := List.cons.inj h
  cases j <;> cases hbegins

theorem takeWhile_word (w : Word) {u : Text} (hu : Closed u) :
    (w.text ++ u).takeWhile WordChar = w.text := by
  rw [List.takeWhile_append_of_pos w.chars]
  cases u with
  | nil => rw [List.takeWhile_nil, List.append_nil]
  | cons c u =>
    have hc : ¬ WordChar c = true := by
      rw [hu c u rfl]
      exact Bool.false_ne_true
    rw [List.takeWhile_cons_of_neg hc, List.append_nil]

theorem word_append_inj {w w' : Word} {u v : Text} (hu : Closed u) (hv : Closed v)
    (h : w.text ++ u = w'.text ++ v) : w = w' ∧ u = v := by
  have htake := congrArg (List.takeWhile WordChar) h
  rw [takeWhile_word w hu, takeWhile_word w' hv] at htake
  rw [htake] at h
  exact ⟨Word.ext_text htake, List.append_cancel_left h⟩

mutual

/-- A value that something closed follows is read in one way. -/
theorem write_inj : ∀ {j j' : JsonTree} {u v : Text}, Closed u → Closed v →
    j.write u = j'.write v → j = j' ∧ u = v
  | .word w, j', u, v, hu, hv, h => by
    obtain ⟨c, hbegins, hbegins'⟩ := begins_of_write_eq h
    cases j' with
    | word w' =>
      rw [write, write] at h
      obtain ⟨rfl, hrest⟩ := word_append_inj hu hv h
      exact ⟨rfl, hrest⟩
    | text t => cases hbegins'; cases hbegins
    | array items => cases hbegins'; cases hbegins
    | object fields => cases hbegins'; cases hbegins
  | .text t, j', u, v, hu, hv, h => by
    obtain ⟨c, hbegins, hbegins'⟩ := begins_of_write_eq h
    cases hbegins
    cases j' with
    | word w' => cases hbegins'
    | text t' =>
      rw [write, write] at h
      obtain ⟨rfl, hrest⟩ := jsonString_append_inj h
      exact ⟨rfl, hrest⟩
    | array items => cases hbegins'
    | object fields => cases hbegins'
  | .array items, j', u, v, hu, hv, h => by
    obtain ⟨c, hbegins, hbegins'⟩ := begins_of_write_eq h
    cases hbegins
    cases j' with
    | word w' => cases hbegins'
    | text t' => cases hbegins'
    | array items' =>
      cases items with
      | nil =>
        cases items' with
        | nil =>
          rw [write, write] at h
          exact ⟨rfl, (List.cons.inj (List.cons.inj h).2).2⟩
        | cons j' items' =>
          rw [write, write] at h
          exact absurd (List.cons.inj h).2.symm (write_ne_bracket j' _ _)
      | cons j items =>
        cases items' with
        | nil =>
          rw [write, write] at h
          exact absurd (List.cons.inj h).2 (write_ne_bracket j _ _)
        | cons j' items' =>
          rw [write, write] at h
          obtain ⟨rfl, hitems⟩ := write_inj (closed_writeItems items u)
            (closed_writeItems items' v) (List.cons.inj h).2
          obtain ⟨rfl, hrest⟩ := writeItems_inj hitems
          exact ⟨rfl, hrest⟩
    | object fields => cases hbegins'
  | .object fields, j', u, v, hu, hv, h => by
    obtain ⟨c, hbegins, hbegins'⟩ := begins_of_write_eq h
    cases hbegins
    cases j' with
    | word w' => cases hbegins'
    | text t' => cases hbegins'
    | array items' => cases hbegins'
    | object fields' =>
      cases fields with
      | nil =>
        cases fields' with
        | nil =>
          rw [write, write] at h
          exact ⟨rfl, (List.cons.inj (List.cons.inj h).2).2⟩
        | cons f' fields' =>
          rw [write, write] at h
          exact absurd (List.cons.inj (List.cons.inj h).2).1 (by decide)
      | cons f fields =>
        obtain ⟨k, j⟩ := f
        cases fields' with
        | nil =>
          rw [write, write] at h
          exact absurd (List.cons.inj (List.cons.inj h).2).1 (by decide)
        | cons f' fields' =>
          obtain ⟨k', j'⟩ := f'
          rw [write, write] at h
          obtain ⟨rfl, hvalue⟩ := jsonString_append_inj (List.cons.inj h).2
          obtain ⟨rfl, hfields⟩ := write_inj (closed_writeFields fields u)
            (closed_writeFields fields' v) (List.cons.inj hvalue).2
          obtain ⟨rfl, hrest⟩ := writeFields_inj hfields
          exact ⟨rfl, hrest⟩

theorem writeItems_inj : ∀ {items items' : List JsonTree} {u v : Text},
    writeItems items (']' :: u) = writeItems items' (']' :: v) → items = items' ∧ u = v
  | [], items', u, v, h => by
    cases items' with
    | nil =>
      rw [writeItems, writeItems] at h
      exact ⟨rfl, (List.cons.inj h).2⟩
    | cons j' items' =>
      rw [writeItems, writeItems] at h
      exact absurd (List.cons.inj h).1 (by decide)
  | j :: items, items', u, v, h => by
    cases items' with
    | nil =>
      rw [writeItems, writeItems] at h
      exact absurd (List.cons.inj h).1 (by decide)
    | cons j' items' =>
      rw [writeItems, writeItems] at h
      obtain ⟨rfl, hitems⟩ := write_inj (closed_writeItems items u)
        (closed_writeItems items' v) (List.cons.inj h).2
      obtain ⟨rfl, hrest⟩ := writeItems_inj hitems
      exact ⟨rfl, hrest⟩

theorem writeFields_inj : ∀ {fields fields' : List (Text × JsonTree)} {u v : Text},
    writeFields fields ('\x7d' :: u) = writeFields fields' ('\x7d' :: v) →
      fields = fields' ∧ u = v
  | [], fields', u, v, h => by
    cases fields' with
    | nil =>
      rw [writeFields, writeFields] at h
      exact ⟨rfl, (List.cons.inj h).2⟩
    | cons f fields' =>
      rw [writeFields, writeFields] at h
      exact absurd (List.cons.inj h).1 (by decide)
  | (k, j) :: fields, fields', u, v, h => by
    cases fields' with
    | nil =>
      rw [writeFields, writeFields] at h
      exact absurd (List.cons.inj h).1 (by decide)
    | cons f' fields' =>
      obtain ⟨k', j'⟩ := f'
      rw [writeFields, writeFields] at h
      obtain ⟨rfl, hvalue⟩ := jsonString_append_inj (List.cons.inj h).2
      obtain ⟨rfl, hfields⟩ := write_inj (closed_writeFields fields u)
        (closed_writeFields fields' v) (List.cons.inj hvalue).2
      obtain ⟨rfl, hrest⟩ := writeFields_inj hfields
      exact ⟨rfl, hrest⟩

end

/-- **Values with the same text are equal.** -/
theorem dumps_injective {j j' : JsonTree} (h : j.dumps = j'.dumps) : j = j' :=
  (write_inj closed_nil closed_nil h).1

/-! ## Objects with sorted keys -/

/-- An object as `sort_keys=True` writes it. -/
def sorted (fields : List (Text × JsonTree)) : JsonTree :=
  .object (fields.insertionSort fun f g => textLe f.1 g.1)

/-- Two lists of fields with the same keys have the same fields when they are sorted to the same. -/
theorem eq_of_perm {α : Type} {fields fields' : List (Text × α)}
    (hkeys : fields.map Prod.fst = fields'.map Prod.fst) (hnodup : (fields.map Prod.fst).Nodup)
    (h : fields.Perm fields') : fields = fields' := by
  induction fields generalizing fields' with
  | nil => exact (List.map_eq_nil_iff.1 hkeys.symm).symm
  | cons f fields ih =>
    cases fields' with
    | nil => cases hkeys
    | cons g fields' =>
      rw [List.map_cons, List.map_cons] at hkeys
      obtain ⟨hkey, htail⟩ := List.cons.inj hkeys
      rw [List.map_cons, List.nodup_cons] at hnodup
      have hfg : f = g := by
        rcases List.mem_cons.1 (h.subset List.mem_cons_self) with heq | hmem
        · exact heq
        · have hin : f.1 ∈ fields'.map Prod.fst := List.mem_map_of_mem hmem
          rw [← htail] at hin
          exact absurd hin hnodup.1
      subst hfg
      rw [ih htail hnodup.2 h.cons_inv]

theorem sorted_injective {fields fields' : List (Text × JsonTree)}
    (hkeys : fields.map Prod.fst = fields'.map Prod.fst) (hnodup : (fields.map Prod.fst).Nodup)
    (h : sorted fields = sorted fields') : fields = fields' := by
  have hsorted := JsonTree.object.inj h
  have hperm := List.perm_insertionSort (fun f g => textLe f.1 g.1 = true) fields
  have hperm' := List.perm_insertionSort (fun f g => textLe f.1 g.1 = true) fields'
  rw [hsorted] at hperm
  exact eq_of_perm hkeys hnodup (hperm.symm.trans hperm')

end Bytes.JsonTree
