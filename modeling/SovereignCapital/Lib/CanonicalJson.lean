import Mathlib.Data.List.Sort
import SovereignCapital.Lib.PyText

/-! # Canonical JSON objects

`json.dumps(d, sort_keys=True, separators=(",", ":"), ensure_ascii=False)` of a dictionary whose
values are integers and texts. Two objects with the same keys have the same text exactly when
they are equal: a text ends where its closing quote stands, an integer at the first character
that no integer has.
-/

namespace Bytes.CanonicalJson

open Bytes

/-! ## Texts -/

/-- One character of a string; outside ASCII it stands for itself. -/
def escape (c : Char) : Text :=
  if c = '"' then ['\\', '"']
  else if c = '\\' then ['\\', '\\']
  else if c.toNat = 8 then ['\\', 'b']
  else if c.toNat = 9 then ['\\', 't']
  else if c.toNat = 10 then ['\\', 'n']
  else if c.toNat = 12 then ['\\', 'f']
  else if c.toNat = 13 then ['\\', 'r']
  else if c.toNat < 32 then jsonUnicode c.toNat
  else [c]

/-- The characters of a string and its closing quote. -/
def quoted (t : Text) : Text := t.flatMap escape ++ ['"']

/-- The character an escape sequence is for, and what follows. -/
def unescape : Text → Option (Char × Text)
  | '\\' :: 'u' :: _ :: _ :: a :: b :: rest => do
    let a ← hexVal a
    let b ← hexVal b
    return (Char.ofNat (16 * a + b), rest)
  | '\\' :: 'b' :: rest => some (Char.ofNat 8, rest)
  | '\\' :: 't' :: rest => some (Char.ofNat 9, rest)
  | '\\' :: 'n' :: rest => some (Char.ofNat 10, rest)
  | '\\' :: 'f' :: rest => some (Char.ofNat 12, rest)
  | '\\' :: 'r' :: rest => some (Char.ofNat 13, rest)
  | '\\' :: c :: rest => some (c, rest)
  | c :: rest => some (c, rest)
  | [] => none

/-- A control character has a short escape or four digits, of which the first two are zero. -/
theorem unescape_control : ∀ n, n < 32 → ∀ rest : Text,
    unescape (escape (Char.ofNat n) ++ rest) = some (Char.ofNat n, rest) := by
  intro n hn rest
  interval_cases n <;> rfl

/-- A reader of the escapes of control characters, of the quote and the backslash, and of every
other character by itself reads every escape back. -/
theorem reads_escape {read : Text → Option (Char × Text)}
    (hcontrol : ∀ n, n < 32 → ∀ rest,
      read (escape (Char.ofNat n) ++ rest) = some (Char.ofNat n, rest))
    (hquote : ∀ rest, read ('\\' :: '"' :: rest) = some ('"', rest))
    (hslash : ∀ rest, read ('\\' :: '\\' :: rest) = some ('\\', rest))
    (hself : ∀ c, c ≠ '\\' → ¬ c.toNat < 32 → ∀ rest, read (c :: rest) = some (c, rest))
    (c : Char) (rest : Text) : read (escape c ++ rest) = some (c, rest) := by
  by_cases hlow : c.toNat < 32
  · have h := hcontrol c.toNat hlow rest
    rwa [Char.ofNat_toNat] at h
  by_cases hc : c = '"'
  · subst hc
    exact hquote rest
  by_cases hc' : c = '\\'
  · subst hc'
    exact hslash rest
  have hshort : c.toNat ≠ 8 ∧ c.toNat ≠ 9 ∧ c.toNat ≠ 10 ∧ c.toNat ≠ 12 ∧ c.toNat ≠ 13 := by omega
  have hescape : escape c = [c] := by simp [escape, hc, hc', hshort, hlow]
  rw [hescape]
  exact hself c hc' hlow rest

theorem unescape_escape (c : Char) (rest : Text) :
    unescape (escape c ++ rest) = some (c, rest) := by
  refine reads_escape unescape_control (fun _ => rfl) (fun _ => rfl)
    (fun c hslash _ rest => ?_) c rest
  unfold unescape
  split <;> simp_all

theorem escape_head (c : Char) : ∃ d rest, escape c = d :: rest ∧ d ≠ '"' := by
  unfold escape
  split_ifs with h
  all_goals first
    | exact ⟨_, _, rfl, by decide⟩
    | exact ⟨_, _, rfl, h⟩

/-- A text of escaped characters ends where its closing quote stands, when each escape is read back
and none begins with a quote. -/
theorem closed_append_inj {esc : Char → Text} {read : Text → Option (Char × Text)}
    (hread : ∀ c rest, read (esc c ++ rest) = some (c, rest))
    (hhead : ∀ c, ∃ d rest, esc c = d :: rest ∧ d ≠ '"') {s t u v : Text}
    (h : s.flatMap esc ++ '"' :: u = t.flatMap esc ++ '"' :: v) : s = t ∧ u = v := by
  induction s generalizing t with
  | nil =>
    cases t with
    | nil => exact ⟨rfl, (List.cons.inj h).2⟩
    | cons d t =>
      obtain ⟨a, rest, ha, hne⟩ := hhead d
      rw [List.flatMap_cons, ha] at h
      exact absurd (List.cons.inj h).1.symm hne
  | cons c s ih =>
    cases t with
    | nil =>
      obtain ⟨a, rest, ha, hne⟩ := hhead c
      rw [List.flatMap_cons, ha] at h
      exact absurd (List.cons.inj h).1 hne
    | cons d t =>
      rw [List.flatMap_cons, List.flatMap_cons, List.append_assoc, List.append_assoc] at h
      have hchar := congrArg read h
      rw [hread, hread, Option.some.injEq, Prod.mk.injEq] at hchar
      obtain ⟨rfl, hrest⟩ := hchar
      obtain ⟨rfl, rfl⟩ := ih hrest
      exact ⟨rfl, rfl⟩

/-- A string ends where its closing quote stands. -/
theorem quoted_append_inj {s t u v : Text} (h : quoted s ++ u = quoted t ++ v) :
    s = t ∧ u = v := by
  rw [quoted, quoted, List.append_assoc, List.append_assoc] at h
  exact closed_append_inj unescape_escape escape_head h

/-! ## Values -/

inductive Value where
  | int (n : Int)
  | text (t : Text)
deriving DecidableEq

def Value.json : Value → Text
  | .int n => pyDecimal n
  | .text t => '"' :: quoted t

/-- The characters of integers. -/
def IntChar (c : Char) : Bool := c == '-' || c.isDigit

theorem intChar_pyDecimal (n : Int) : ∀ c ∈ pyDecimal n, IntChar c = true := by
  have hdigits : ∀ m : Nat, ∀ c ∈ Nat.toDigits 10 m, IntChar c = true := by
    intro m c hc
    simp [IntChar, Nat.isDigit_of_mem_toDigits (by norm_num) (by norm_num) hc]
  intro c hc
  unfold pyDecimal at hc
  split_ifs at hc with hneg
  · rcases List.mem_cons.1 hc with rfl | hc
    · rfl
    · exact hdigits _ c hc
  · exact hdigits _ c hc

theorem takeWhile_pyDecimal (n : Int) {c : Char} (hc : IntChar c = false) (rest : Text) :
    (pyDecimal n ++ c :: rest).takeWhile IntChar = pyDecimal n := by
  rw [List.takeWhile_append_of_pos (intChar_pyDecimal n), List.takeWhile_cons_of_neg (by simp [hc]),
    List.append_nil]

/-- Two values that a comma or a bracket follows are read in one way. -/
theorem Value.json_append_inj {a b : Value} {c d : Char} {u v : Text} (hc : IntChar c = false)
    (hd : IntChar d = false) (h : a.json ++ c :: u = b.json ++ d :: v) :
    a = b ∧ c :: u = d :: v := by
  have hquote : ∀ (n : Int) (w t : Text), pyDecimal n ++ w ≠ '"' :: t := by
    intro n w t hne
    obtain ⟨e, rest, he⟩ := List.exists_cons_of_ne_nil (pyDecimal_ne_nil n)
    have hmem := intChar_pyDecimal n e (by rw [he]; exact List.mem_cons_self)
    rw [he, List.cons_append] at hne
    obtain ⟨rfl, -⟩ := List.cons.inj hne
    exact absurd hmem (by decide)
  cases a with
  | int n =>
    cases b with
    | int m =>
      have htake := congrArg (List.takeWhile IntChar) h
      simp only [Value.json] at htake h
      rw [takeWhile_pyDecimal n hc, takeWhile_pyDecimal m hd] at htake
      rw [htake] at h
      exact ⟨congrArg Value.int (pyDecimal_injective htake), List.append_cancel_left h⟩
    | text t => exact absurd h (hquote n _ _)
  | text s =>
    cases b with
    | int m => exact absurd h.symm (hquote m _ _)
    | text t =>
      obtain ⟨rfl, hrest⟩ := quoted_append_inj (List.cons.inj h).2
      exact ⟨rfl, hrest⟩

/-! ## Objects -/

def fieldJson (f : Text × Value) (rest : Text) : Text :=
  '"' :: quoted f.1 ++ ':' :: f.2.json ++ rest

/-- The fields after the first. -/
def restJson : List (Text × Value) → Text
  | [] => ['}']
  | f :: fields => ',' :: fieldJson f (restJson fields)

def sortedJson : List (Text × Value) → Text
  | [] => ['{', '}']
  | f :: fields => '{' :: fieldJson f (restJson fields)

/-- The keys are sorted. -/
def objectJson (fields : List (Text × Value)) : Text :=
  sortedJson (fields.insertionSort fun f g => textLe f.1 g.1)

theorem restJson_head (fields : List (Text × Value)) :
    ∃ c rest, restJson fields = c :: rest ∧ IntChar c = false := by
  cases fields with
  | nil => exact ⟨_, _, rfl, rfl⟩
  | cons f fields => exact ⟨_, _, rfl, rfl⟩

theorem fieldJson_inj {k : Text} {a b : Value} {u v : Text}
    (hu : ∃ c rest, u = c :: rest ∧ IntChar c = false)
    (hv : ∃ c rest, v = c :: rest ∧ IntChar c = false)
    (h : fieldJson (k, a) u = fieldJson (k, b) v) : a = b ∧ u = v := by
  obtain ⟨c, u, rfl, hc⟩ := hu
  obtain ⟨d, v, rfl, hd⟩ := hv
  simp only [fieldJson, List.cons_append, List.append_assoc] at h
  have hkey := List.append_cancel_left (List.cons.inj h).2
  exact Value.json_append_inj hc hd (List.cons.inj hkey).2

theorem restJson_inj {fields fields' : List (Text × Value)}
    (hkeys : fields.map Prod.fst = fields'.map Prod.fst)
    (h : restJson fields = restJson fields') : fields = fields' := by
  induction fields generalizing fields' with
  | nil => exact (List.map_eq_nil_iff.1 hkeys.symm).symm
  | cons f fields ih =>
    cases fields' with
    | nil => cases hkeys
    | cons g fields' =>
      obtain ⟨k, a⟩ := f
      obtain ⟨k', b⟩ := g
      rw [List.map_cons, List.map_cons] at hkeys
      obtain ⟨hk, htail⟩ := List.cons.inj hkeys
      obtain rfl : k = k' := hk
      obtain ⟨rfl, hrest⟩ :=
        fieldJson_inj (restJson_head _) (restJson_head _) (List.cons.inj h).2
      rw [ih htail hrest]

/-- **Two objects with the same keys in the same order have different texts when they differ.** -/
theorem sortedJson_inj {fields fields' : List (Text × Value)}
    (hkeys : fields.map Prod.fst = fields'.map Prod.fst)
    (h : sortedJson fields = sortedJson fields') : fields = fields' := by
  cases fields with
  | nil => exact (List.map_eq_nil_iff.1 hkeys.symm).symm
  | cons f fields =>
    cases fields' with
    | nil => cases hkeys
    | cons g fields' =>
      refine restJson_inj hkeys ?_
      exact congrArg (List.cons ',') (List.cons.inj h).2

/-! ## Bytes -/

/-- `str.encode("utf-8")` tells texts apart. -/
theorem encodeUtf8_injective {s t : Text} (h : encodeUtf8 s = encodeUtf8 t) : s = t := by
  have hbyte : Function.Injective fun b : UInt8 => Fin.ofNat 256 b.toNat := by
    intro a b hab
    have hval := congrArg Fin.val hab
    simp only [Fin.val_ofNat] at hval
    rw [Nat.mod_eq_of_lt (UInt8.toNat_lt a), Nat.mod_eq_of_lt (UInt8.toNat_lt b)] at hval
    exact UInt8.toNat_inj.1 hval
  have hbytes : s.flatMap String.utf8EncodeChar = t.flatMap String.utf8EncodeChar :=
    List.map_injective_iff.2 hbyte h
  have hencode : (String.ofList s).toByteArray = (String.ofList t).toByteArray := by
    rw [String.toByteArray_ofList, String.toByteArray_ofList, List.utf8Encode, List.utf8Encode,
      hbytes]
  exact String.ofList_injective (String.toByteArray_inj.1 hencode)

end Bytes.CanonicalJson
