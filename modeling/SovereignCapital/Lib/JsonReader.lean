import SovereignCapital.Lib.Dict
import SovereignCapital.Lib.JsonTree

/-! # Writing and reading JSON

`json.dumps(v, separators=(",", ":"), ensure_ascii=False)` and `json.loads` of nested values, and
the UTF-8 of a text. What was written is read back. A number is the text that spells it; a lone
surrogate, which no text here holds, is not read.
-/

namespace Bytes.JsonTree

open Bytes CanonicalJson

/-! ## Writing -/

/-- A string, characters outside ASCII as they are. -/
def rawString (t : Text) : Text := '"' :: quoted t

mutual

/-- `json.dumps` of a value without escapes outside ASCII, and what follows it. -/
def print : JsonTree → Text → Text
  | .word w, rest => w.text ++ rest
  | .text t, rest => rawString t ++ rest
  | .array [], rest => '[' :: ']' :: rest
  | .array (j :: items), rest => '[' :: j.print (printItems items (']' :: rest))
  | .object [], rest => '\x7b' :: '\x7d' :: rest
  | .object (f :: fields), rest =>
    '\x7b' :: (rawString f.1 ++ ':' :: f.2.print (printFields fields ('\x7d' :: rest)))

def printItems : List JsonTree → Text → Text
  | [], rest => rest
  | j :: items, rest => ',' :: j.print (printItems items rest)

def printFields : List (Text × JsonTree) → Text → Text
  | [], rest => rest
  | f :: fields, rest => ',' :: (rawString f.1 ++ ':' :: f.2.print (printFields fields rest))

end

/-- `json.dumps(v, separators=(",", ":"), ensure_ascii=False)`. -/
def rawDumps (j : JsonTree) : Text := j.print []

/-! ## Words -/

def digitsOnly (t : Text) : Bool := t != [] && t.all Char.isDigit

def isExponent : Text → Bool
  | [] => true
  | e :: '+' :: digits => (e == 'e' || e == 'E') && digitsOnly digits
  | e :: '-' :: digits => (e == 'e' || e == 'E') && digitsOnly digits
  | e :: digits => (e == 'e' || e == 'E') && digitsOnly digits

/-- What follows the whole part of a number. -/
def isFraction : Text → Bool
  | '.' :: rest =>
    rest.takeWhile Char.isDigit != [] && isExponent (rest.dropWhile Char.isDigit)
  | rest => isExponent rest

/-- A number without its sign; an integer has 4300 digits at most. -/
def isUnsigned (t : Text) : Bool :=
  let whole := t.takeWhile Char.isDigit
  let rest := t.dropWhile Char.isDigit
  whole != [] && (whole.length == 1 || whole.head? != some '0') && isFraction rest
    && (rest != [] || decide (whole.length ≤ 4300))

/-- The words `json.loads` knows. -/
def isJsonWord : Text → Bool
  | '-' :: t => isUnsigned t || t == "Infinity".toList
  | t => isUnsigned t || t == "null".toList || t == "true".toList || t == "false".toList
      || t == "NaN".toList || t == "Infinity".toList

/-! ## Reading -/

/-- White space between tokens. -/
def isJsonSpace (c : Char) : Bool := c == ' ' || c == '\t' || c == '\n' || c == '\r'

def skipSpace (t : Text) : Text := t.dropWhile isJsonSpace

/-- The characters of a `\u` escape. -/
def readUnicode (a b c d : Char) (rest : Text) : Option (Char × Text) := do
  let high ← fourDigits a b c d
  if 0xD800 ≤ high ∧ high ≤ 0xDFFF then
    match rest with
    | '\\' :: 'u' :: a :: b :: c :: d :: rest => do
      let low ← fourDigits a b c d
      if high ≤ 0xDBFF ∧ 0xDC00 ≤ low ∧ low ≤ 0xDFFF then
        return (Char.ofNat (0x10000 + (high - 0xD800) * 0x400 + (low - 0xDC00)), rest)
      else none
    | _ => none
  else return (Char.ofNat high, rest)

/-- One character of a string, as `json.loads` reads it: no control characters, and only the
escapes of the standard. -/
def readEscaped : Text → Option (Char × Text)
  | '\\' :: 'u' :: a :: b :: c :: d :: rest => readUnicode a b c d rest
  | '\\' :: '"' :: rest => some ('"', rest)
  | '\\' :: '\\' :: rest => some ('\\', rest)
  | '\\' :: '/' :: rest => some ('/', rest)
  | '\\' :: 'b' :: rest => some (Char.ofNat 8, rest)
  | '\\' :: 'f' :: rest => some (Char.ofNat 12, rest)
  | '\\' :: 'n' :: rest => some (Char.ofNat 10, rest)
  | '\\' :: 'r' :: rest => some (Char.ofNat 13, rest)
  | '\\' :: 't' :: rest => some (Char.ofNat 9, rest)
  | '\\' :: _ => none
  | c :: rest => if c.toNat < 32 then none else some (c, rest)
  | [] => none

/-- A string after its opening quote. -/
def readQuoted : ℕ → Text → Option (Text × Text)
  | 0, _ => none
  | fuel + 1, t =>
    match t with
    | '"' :: rest => some ([], rest)
    | t => do
      let (c, rest) ← readEscaped t
      let (cs, rest) ← readQuoted fuel rest
      return (c :: cs, rest)

/-- A number or a constant: what word characters there are must spell one. -/
def readWord (t : Text) : Option (JsonTree × Text) :=
  let word := t.takeWhile WordChar
  if h : isJsonWord word = true ∧ word ≠ [] then
    some (.word ⟨word, h.2, fun _ hc => (List.mem_takeWhile_imp hc)⟩, t.dropWhile WordChar)
  else none

/-- The fields of a dictionary: of a key that stands twice the last value counts. -/
def distinct (fields : List (Text × JsonTree)) : List (Text × JsonTree) :=
  fields.foldl (fun acc f => Dict.assign f.1 f.2 acc) []

mutual

def readValue : ℕ → Text → Option (JsonTree × Text)
  | 0, _ => none
  | fuel + 1, t =>
    match t with
    | '"' :: rest => (readQuoted (rest.length + 1) rest).map fun r => (.text r.1, r.2)
    | '[' :: rest =>
      match skipSpace rest with
      | ']' :: rest => some (.array [], rest)
      | rest => (readItems fuel rest).map fun r => (.array r.1, r.2)
    | '\x7b' :: rest =>
      match skipSpace rest with
      | '\x7d' :: rest => some (.object [], rest)
      | rest => (readFields fuel rest).map fun r => (.object (distinct r.1), r.2)
    | t => readWord t

/-- The items of an array after its opening bracket. -/
def readItems : ℕ → Text → Option (List JsonTree × Text)
  | 0, _ => none
  | fuel + 1, t => do
    let (j, rest) ← readValue fuel t
    match skipSpace rest with
    | ']' :: rest => return ([j], rest)
    | ',' :: rest => do
      let (items, rest) ← readItems fuel (skipSpace rest)
      return (j :: items, rest)
    | _ => none

/-- The fields of an object after its opening bracket. -/
def readFields : ℕ → Text → Option (List (Text × JsonTree) × Text)
  | 0, _ => none
  | fuel + 1, t =>
    match t with
    | '"' :: t => do
      let (key, rest) ← readQuoted (t.length + 1) t
      match skipSpace rest with
      | ':' :: rest => do
        let (j, rest) ← readValue fuel (skipSpace rest)
        match skipSpace rest with
        | '\x7d' :: rest => return ([(key, j)], rest)
        | ',' :: rest => do
          let (fields, rest) ← readFields fuel (skipSpace rest)
          return ((key, j) :: fields, rest)
        | _ => none
      | _ => none
    | _ => none

end

/-- `json.loads` of a text; nothing where it raises. -/
def loads (t : Text) : Option JsonTree :=
  if t.head? = some (Char.ofNat 0xFEFF) then none
  else
    match readValue (t.length + 1) (skipSpace t) with
    | some (j, rest) => if skipSpace rest = [] then some j else none
    | none => none

/-! ## Values that are read back -/

mutual

/-- The words are words of JSON, and no key of an object stands twice. -/
def Readable : JsonTree → Prop
  | .word w => isJsonWord w.text = true
  | .text _ => True
  | .array items => ReadableItems items
  | .object fields => (fields.map Prod.fst).Nodup ∧ ReadableFields fields

def ReadableItems : List JsonTree → Prop
  | [] => True
  | j :: items => j.Readable ∧ ReadableItems items

def ReadableFields : List (Text × JsonTree) → Prop
  | [] => True
  | f :: fields => f.2.Readable ∧ ReadableFields fields

end

/-! ## Strings -/

theorem readEscaped_control : ∀ n, n < 32 → ∀ rest : Text,
    readEscaped (escape (Char.ofNat n) ++ rest) = some (Char.ofNat n, rest) := by
  intro n hn rest
  interval_cases n <;> rfl

variable {c : Char} {fuel : ℕ} {u t : Text} {fields : List (Text × JsonTree)} {j : JsonTree}

theorem readEscaped_self (hslash : c ≠ '\\') (hcontrol : ¬ c.toNat < 32) (rest : Text) :
    readEscaped (c :: rest) = some (c, rest) := by
  unfold readEscaped
  split
  all_goals first
    | exact absurd rfl hslash
    | simp_all

theorem readEscaped_escape (c : Char) (rest : Text) :
    readEscaped (escape c ++ rest) = some (c, rest) :=
  reads_escape readEscaped_control (fun _ => rfl) (fun _ => rfl)
    (fun _ hslash hcontrol => readEscaped_self hslash hcontrol) c rest

theorem readQuoted_of_ne {d : Char} (hd : d ≠ '"') (fuel : ℕ) (rest : Text) :
    readQuoted (fuel + 1) (d :: rest)
      = (readEscaped (d :: rest)).bind fun r =>
          (readQuoted fuel r.2).map fun s => (r.1 :: s.1, s.2) := by
  have hread : readQuoted (fuel + 1) (d :: rest) = (do
      let (c, rest) ← readEscaped (d :: rest)
      let (cs, rest) ← readQuoted fuel rest
      return (c :: cs, rest)) :=
    readQuoted.eq_3 (d :: rest) fuel fun tail h => hd (List.cons.inj h).1
  rw [hread]
  cases readEscaped (d :: rest) with
  | none => rfl
  | some r =>
    show (readQuoted fuel r.2).bind _ = (readQuoted fuel r.2).map fun s => (r.1 :: s.1, s.2)
    cases readQuoted fuel r.2 <;> rfl

/-- **A string is read back.** -/
theorem readQuoted_quoted (t rest : Text) (h : (quoted t).length ≤ fuel) :
    readQuoted fuel (quoted t ++ rest) = some (t, rest) := by
  induction t generalizing fuel with
  | nil =>
    cases fuel with
    | zero => simp [quoted] at h
    | succ fuel => rfl
  | cons c t ih =>
    obtain ⟨d, tail, hhead, hd⟩ := escape_head c
    have hquoted : quoted (c :: t) = escape c ++ quoted t := by simp [quoted]
    rw [hquoted, List.length_append, hhead, List.length_cons] at h
    cases fuel with
    | zero => omega
    | succ fuel =>
      have hread := readEscaped_escape c (quoted t ++ rest)
      rw [hhead, List.cons_append] at hread
      rw [hquoted, List.append_assoc, hhead, List.cons_append, readQuoted_of_ne hd, hread,
        Option.bind_some, ih (by omega), Option.map_some]

/-! ## Words -/

theorem dropWhile_word (w : Word) (hu : Closed u) : (w.text ++ u).dropWhile WordChar = u := by
  have hsplit := List.takeWhile_append_dropWhile (p := WordChar) (l := w.text ++ u)
  rw [takeWhile_word w hu] at hsplit
  exact List.append_cancel_left hsplit

theorem readWord_word {w : Word} (hw : isJsonWord w.text = true) (hu : Closed u) :
    readWord (w.text ++ u) = some (.word w, u) := by
  have htake := takeWhile_word w hu
  unfold readWord
  dsimp only
  rw [dif_pos (by rw [htake]; exact ⟨hw, w.nonempty⟩)]
  congr 2
  · congr 1
    exact Word.ext_text htake
  · exact dropWhile_word w hu

/-! ## Values -/

theorem skipSpace_of_ne (hc : isJsonSpace c = false) (t : Text) : skipSpace (c :: t) = c :: t := by
  simp [skipSpace, hc]

theorem isJsonSpace_of_wordChar (h : WordChar c = true) : isJsonSpace c = false := by
  by_contra hspace
  rw [Bool.not_eq_false] at hspace
  simp only [isJsonSpace, Bool.or_eq_true, beq_iff_eq] at hspace
  rcases hspace with ((rfl | rfl) | rfl) | rfl
  all_goals exact absurd h (by decide)

theorem exists_print_begins (j : JsonTree) (u : Text) :
    ∃ c t, j.print u = c :: t ∧ j.Begins c := by
  cases j with
  | word w =>
    obtain ⟨c, t, hw⟩ := List.exists_cons_of_ne_nil w.nonempty
    refine ⟨c, t ++ u, by rw [print, hw, List.cons_append], ?_⟩
    exact w.chars c (by rw [hw]; exact List.mem_cons_self)
  | text t => exact ⟨'"', _, by rw [print]; rfl, rfl⟩
  | array items =>
    cases items with
    | nil => exact ⟨'[', _, by rw [print], rfl⟩
    | cons j items => exact ⟨'[', _, by rw [print], rfl⟩
  | object fields =>
    cases fields with
    | nil => exact ⟨'\x7b', _, by rw [print], rfl⟩
    | cons f fields => exact ⟨'\x7b', _, by rw [print], rfl⟩

/-- A value begins with no white space, and not as the rest of an array does. -/
theorem begins_spec {j : JsonTree} {c : Char} (h : j.Begins c) :
    isJsonSpace c = false ∧ c ≠ ']' := by
  cases j with
  | word w =>
    refine ⟨isJsonSpace_of_wordChar h, ?_⟩
    rintro rfl
    have hword : WordChar ']' = true := h
    exact absurd hword (by decide)
  | text t => cases h; decide
  | array items => cases h; decide
  | object fields => cases h; decide

theorem skipSpace_print (j : JsonTree) (u : Text) : skipSpace (j.print u) = j.print u := by
  obtain ⟨c, t, heq, hbegins⟩ := exists_print_begins j u
  rw [heq, skipSpace_of_ne (begins_spec hbegins).1]

theorem closed_printItems (items : List JsonTree) (u : Text) :
    Closed (printItems items (']' :: u)) := by
  cases items with
  | nil =>
    rw [printItems]
    exact closed_cons (by decide) u
  | cons j items =>
    rw [printItems]
    exact closed_cons (by decide) _

theorem closed_printFields (fields : List (Text × JsonTree)) (u : Text) :
    Closed (printFields fields ('\x7d' :: u)) := by
  cases fields with
  | nil =>
    rw [printFields]
    exact closed_cons (by decide) u
  | cons f fields =>
    rw [printFields]
    exact closed_cons (by decide) _

/-- A dictionary without repeated keys stays as it is. -/
theorem distinct_eq_self (h : (fields.map Prod.fst).Nodup) : distinct fields = fields := by
  have hstep : ∀ acc : List (Text × JsonTree), ((acc ++ fields).map Prod.fst).Nodup →
      fields.foldl (fun acc f => Dict.assign f.1 f.2 acc) acc = acc ++ fields := by
    clear h
    induction fields with
    | nil => intro acc _; rw [List.foldl_nil, List.append_nil]
    | cons f fields ih =>
      intro acc hnodup
      have hfresh : f.1 ∉ acc.map Prod.fst := by
        rw [List.map_append, List.nodup_append] at hnodup
        exact fun hmem => hnodup.2.2 f.1 hmem f.1 (List.mem_map_of_mem List.mem_cons_self) rfl
      rw [List.foldl_cons, Dict.assign_of_notMem hfresh, ih _ (by simpa using hnodup)]
      simp
  exact hstep [] h

/-- What stands between the opening bracket of an array and what follows it. -/
def itemsText : List JsonTree → Text → Text
  | [], u => ']' :: u
  | j :: items, u => j.print (printItems items (']' :: u))

def fieldsText : List (Text × JsonTree) → Text → Text
  | [], u => '\x7d' :: u
  | f :: fields, u => rawString f.1 ++ ':' :: f.2.print (printFields fields ('\x7d' :: u))

theorem printItems_eq (items : List JsonTree) (u : Text) :
    printItems items (']' :: u) = if items = [] then ']' :: u else ',' :: itemsText items u := by
  cases items with
  | nil => rw [printItems, if_pos rfl]
  | cons j items => rw [printItems, if_neg (List.cons_ne_nil _ _), itemsText]

theorem printFields_eq (fields : List (Text × JsonTree)) (u : Text) :
    printFields fields ('\x7d' :: u)
      = if fields = [] then '\x7d' :: u else ',' :: fieldsText fields u := by
  cases fields with
  | nil => rw [printFields, if_pos rfl]
  | cons f fields => rw [printFields, if_neg (List.cons_ne_nil _ _), fieldsText]

theorem print_array (items : List JsonTree) (u : Text) :
    (array items).print u = '[' :: itemsText items u := by
  cases items with
  | nil => rw [print, itemsText]
  | cons j items => rw [print, itemsText]

theorem print_object (fields : List (Text × JsonTree)) (u : Text) :
    (object fields).print u = '\x7b' :: fieldsText fields u := by
  cases fields with
  | nil => rw [print, fieldsText]
  | cons f fields => rw [print, fieldsText]

/-! ## Lengths -/

mutual

/-- A value is written with a character at least. -/
theorem lt_length_print : ∀ (j : JsonTree) (u : Text), u.length < (j.print u).length
  | .word w, u => by
    have hpos := List.length_pos_of_ne_nil w.nonempty
    rw [print, List.length_append]
    omega
  | .text t, u => by
    rw [print, List.length_append, rawString, List.length_cons]
    omega
  | .array [], u => by
    rw [print, List.length_cons, List.length_cons]
    omega
  | .array (j :: items), u => by
    have hvalue := lt_length_print j (printItems items (']' :: u))
    have hitems := le_length_printItems items (']' :: u)
    rw [List.length_cons] at hitems
    rw [print, List.length_cons]
    omega
  | .object [], u => by
    rw [print, List.length_cons, List.length_cons]
    omega
  | .object ((k, j) :: fields), u => by
    have hvalue := lt_length_print j (printFields fields ('\x7d' :: u))
    have hfields := le_length_printFields fields ('\x7d' :: u)
    rw [List.length_cons] at hfields
    rw [print]
    simp only [List.length_cons, List.length_append]
    omega

theorem le_length_printItems : ∀ (items : List JsonTree) (u : Text),
    u.length ≤ (printItems items u).length
  | [], u => by rw [printItems]
  | j :: items, u => by
    have hvalue := lt_length_print j (printItems items u)
    have hitems := le_length_printItems items u
    rw [printItems, List.length_cons]
    omega

theorem le_length_printFields : ∀ (fields : List (Text × JsonTree)) (u : Text),
    u.length ≤ (printFields fields u).length
  | [], u => by rw [printFields]
  | (k, j) :: fields, u => by
    have hvalue := lt_length_print j (printFields fields u)
    have hfields := le_length_printFields fields u
    rw [printFields]
    simp only [List.length_cons, List.length_append]
    omega

end

/-! ## Steps of the reader -/

theorem readValue_array {fuel : ℕ} {t : Text} {items : List JsonTree} {u : Text}
    (hne : ∀ rest, skipSpace t ≠ ']' :: rest) (hspace : skipSpace t = t)
    (h : readItems fuel t = some (items, u)) :
    readValue (fuel + 1) ('[' :: t) = some (.array items, u) := by
  rw [readValue]
  split
  · rename_i rest heq
    exact absurd heq (hne rest)
  · rw [hspace, h]
    rfl

example : (loads "[]".toList).isSome = true := by decide +kernel

theorem readItems_last {fuel : ℕ} {t : Text} {j : JsonTree} {u : Text}
    (h : readValue fuel t = some (j, ']' :: u)) :
    readItems (fuel + 1) t = some ([j], u) := by
  rw [readItems, h]
  rfl

theorem readItems_next {rest : Text} {items : List JsonTree}
    (h : readValue fuel t = some (j, ',' :: rest)) (hspace : skipSpace rest = rest)
    (hrest : readItems fuel rest = some (items, u)) :
    readItems (fuel + 1) t = some (j :: items, u) := by
  rw [readItems, h]
  show (readItems fuel (skipSpace rest)).bind _ = _
  rw [hspace, hrest]
  rfl

theorem readValue_object (hne : ∀ rest, skipSpace t ≠ '\x7d' :: rest) (hspace : skipSpace t = t)
    (h : readFields fuel t = some (fields, u)) (hnodup : (fields.map Prod.fst).Nodup) :
    readValue (fuel + 1) ('\x7b' :: t) = some (.object fields, u) := by
  rw [readValue]
  split
  · rename_i rest heq
    exact absurd heq (hne rest)
  · rw [hspace, h, Option.map_some, distinct_eq_self hnodup]

theorem readFields_last {k : Text} (hspace : skipSpace t = t)
    (h : readValue fuel t = some (j, '\x7d' :: u)) :
    readFields (fuel + 1) (rawString k ++ ':' :: t) = some ([(k, j)], u) := by
  have hkey : readQuoted ((quoted k ++ ':' :: t).length + 1) (quoted k ++ ':' :: t)
      = some (k, ':' :: t) := readQuoted_quoted k _ (by rw [List.length_append]; omega)
  show (readQuoted ((quoted k ++ ':' :: t).length + 1) (quoted k ++ ':' :: t)).bind _ = _
  rw [hkey]
  show (readValue fuel (skipSpace t)).bind _ = _
  rw [hspace, h]
  rfl

theorem readFields_next {k rest : Text} (hspace : skipSpace t = t)
    (h : readValue fuel t = some (j, ',' :: rest)) (hrestSpace : skipSpace rest = rest)
    (hrest : readFields fuel rest = some (fields, u)) :
    readFields (fuel + 1) (rawString k ++ ':' :: t) = some ((k, j) :: fields, u) := by
  have hkey : readQuoted ((quoted k ++ ':' :: t).length + 1) (quoted k ++ ':' :: t)
      = some (k, ':' :: t) := readQuoted_quoted k _ (by rw [List.length_append]; omega)
  show (readQuoted ((quoted k ++ ':' :: t).length + 1) (quoted k ++ ':' :: t)).bind _ = _
  rw [hkey]
  show (readValue fuel (skipSpace t)).bind _ = _
  rw [hspace, h]
  show (readFields fuel (skipSpace rest)).bind _ = _
  rw [hrestSpace, hrest]
  rfl

/-! ## What was written is read back -/

mutual

/-- A value that something closed follows is read back. The fuel covers what is read. -/
theorem readValue_print : ∀ (j : JsonTree) {u : Text} {fuel : ℕ}, j.Readable → Closed u →
    (j.print u).length ≤ fuel + u.length → readValue fuel (j.print u) = some (j, u)
  | j, u, 0, _, _, hfuel => by
    have hlt := lt_length_print j u
    omega
  | .word w, u, fuel + 1, hw, hu, _ => by
    obtain ⟨c, t, hhead⟩ := List.exists_cons_of_ne_nil w.nonempty
    have hc : WordChar c = true := w.chars c (by rw [hhead]; exact List.mem_cons_self)
    have hread : readValue (fuel + 1) (w.text ++ u) = readWord (w.text ++ u) := by
      rw [hhead, List.cons_append]
      refine readValue.eq_5 _ fuel ?_ ?_ ?_
      all_goals
        intro rest heq
        rw [(List.cons.inj heq).1] at hc
        exact absurd hc (by decide)
    rw [Readable] at hw
    rw [print, hread, readWord_word hw hu]
  | .text t, u, fuel + 1, _, _, _ => by
    have hquoted : readQuoted ((quoted t ++ u).length + 1) (quoted t ++ u) = some (t, u) :=
      readQuoted_quoted t u (by rw [List.length_append]; omega)
    rw [print]
    show (readQuoted ((quoted t ++ u).length + 1) (quoted t ++ u)).map _ = _
    rw [hquoted]
    rfl
  | .array [], u, fuel + 1, _, _, _ => by
    rw [print]
    rfl
  | .array (j :: items), u, fuel + 1, hr, _, hfuel => by
    rw [print_array, List.length_cons] at hfuel
    rw [print_array]
    rw [Readable] at hr
    obtain ⟨c, t, hhead, hbegins⟩ := exists_print_begins j (printItems items (']' :: u))
    have hread := readItems_print (j :: items) (List.cons_ne_nil _ _) hr
      (by omega : (itemsText (j :: items) u).length ≤ fuel + u.length)
    refine readValue_array (fun rest heq => ?_) (skipSpace_print j _) hread
    rw [itemsText, skipSpace_print, hhead] at heq
    exact (begins_spec hbegins).2 (List.cons.inj heq).1
  | .object [], u, fuel + 1, _, _, _ => by
    rw [print]
    rfl
  | .object ((k, j) :: fields), u, fuel + 1, hr, _, hfuel => by
    rw [print_object, List.length_cons] at hfuel
    rw [print_object]
    rw [Readable] at hr
    have hread := readFields_print ((k, j) :: fields) (List.cons_ne_nil _ _) hr.2
      (by omega : (fieldsText ((k, j) :: fields) u).length ≤ fuel + u.length)
    refine readValue_object (fun rest heq => ?_) rfl hread hr.1
    have hquote : skipSpace (fieldsText ((k, j) :: fields) u)
        = fieldsText ((k, j) :: fields) u := rfl
    rw [hquote] at heq
    exact absurd (List.cons.inj heq).1 (by decide)

theorem readItems_print : ∀ (items : List JsonTree) {u : Text} {fuel : ℕ}, items ≠ [] →
    ReadableItems items → (itemsText items u).length ≤ fuel + u.length →
      readItems fuel (itemsText items u) = some (items, u)
  | [], _, _, hne, _, _ => absurd rfl hne
  | j :: items, u, 0, _, _, hfuel => by
    have hlt := lt_length_print j (printItems items (']' :: u))
    have hle := le_length_printItems items (']' :: u)
    rw [itemsText] at hfuel
    rw [List.length_cons] at hle
    omega
  | j :: items, u, fuel + 1, _, hr, hfuel => by
    have hlt := lt_length_print j (printItems items (']' :: u))
    have hle := le_length_printItems items (']' :: u)
    rw [List.length_cons] at hle
    rw [itemsText] at hfuel ⊢
    rw [ReadableItems] at hr
    have hvalue := readValue_print j hr.1 (closed_printItems items u)
      (by omega : (j.print (printItems items (']' :: u))).length
        ≤ fuel + (printItems items (']' :: u)).length)
    cases items with
    | nil =>
      rw [printItems] at hvalue ⊢
      exact readItems_last hvalue
    | cons j' items =>
      have htext : printItems (j' :: items) (']' :: u) = ',' :: itemsText (j' :: items) u := by
        rw [printItems_eq, if_neg (List.cons_ne_nil _ _)]
      rw [htext] at hvalue hfuel hlt ⊢
      rw [List.length_cons] at hlt
      have hrest := readItems_print (j' :: items) (List.cons_ne_nil _ _) hr.2
        (by omega : (itemsText (j' :: items) u).length ≤ fuel + u.length)
      exact readItems_next hvalue (skipSpace_print j' _) hrest

theorem readFields_print : ∀ (fields : List (Text × JsonTree)) {u : Text} {fuel : ℕ},
    fields ≠ [] → ReadableFields fields → (fieldsText fields u).length ≤ fuel + u.length →
      readFields fuel (fieldsText fields u) = some (fields, u)
  | [], _, _, hne, _, _ => absurd rfl hne
  | (k, j) :: fields, u, 0, _, _, hfuel => by
    have hlt := lt_length_print j (printFields fields ('\x7d' :: u))
    have hle := le_length_printFields fields ('\x7d' :: u)
    rw [fieldsText, List.length_append] at hfuel
    simp only [List.length_cons] at hle hfuel
    omega
  | (k, j) :: fields, u, fuel + 1, _, hr, hfuel => by
    have hlt := lt_length_print j (printFields fields ('\x7d' :: u))
    have hle := le_length_printFields fields ('\x7d' :: u)
    rw [fieldsText, List.length_append] at hfuel
    simp only [List.length_cons] at hle hfuel
    rw [fieldsText]
    rw [ReadableFields] at hr
    have hvalue := readValue_print j hr.1 (closed_printFields fields u)
      (by omega : (j.print (printFields fields ('\x7d' :: u))).length
        ≤ fuel + (printFields fields ('\x7d' :: u)).length)
    cases fields with
    | nil =>
      rw [printFields] at hvalue
      dsimp only
      rw [printFields]
      exact readFields_last (skipSpace_print j _) hvalue
    | cons f fields =>
      have htext : printFields (f :: fields) ('\x7d' :: u)
          = ',' :: fieldsText (f :: fields) u := by
        rw [printFields_eq, if_neg (List.cons_ne_nil _ _)]
      dsimp only
      rw [htext] at hvalue hfuel hlt ⊢
      rw [List.length_cons] at hlt
      have hrest := readFields_print (f :: fields) (List.cons_ne_nil _ _) hr.2
        (by omega : (fieldsText (f :: fields) u).length ≤ fuel + u.length)
      exact readFields_next (skipSpace_print j _) hvalue rfl hrest

end

/-- **`json.loads` reads what `json.dumps` wrote.** -/
theorem loads_rawDumps (h : j.Readable) : loads j.rawDumps = some j := by
  have hbom : j.rawDumps.head? ≠ some (Char.ofNat 0xFEFF) := by
    obtain ⟨c, t, heq, hbegins⟩ := exists_print_begins j []
    rw [rawDumps, heq, List.head?_cons]
    intro hc
    rw [Option.some.inj hc] at hbegins
    cases j with
    | word w =>
      have hword : WordChar (Char.ofNat 0xFEFF) = true := hbegins
      exact absurd hword (by decide)
    | text t =>
      have hquote : Char.ofNat 0xFEFF = '"' := hbegins
      exact absurd hquote (by decide)
    | array items =>
      have hbracket : Char.ofNat 0xFEFF = '[' := hbegins
      exact absurd hbracket (by decide)
    | object fields =>
      have hbrace : Char.ofNat 0xFEFF = '\x7b' := hbegins
      exact absurd hbrace (by decide)
  have hread : readValue (j.rawDumps.length + 1) (skipSpace j.rawDumps) = some (j, []) := by
    rw [rawDumps, skipSpace_print]
    exact readValue_print j h closed_nil (by simp)
  rw [loads, if_neg hbom, hread]
  rfl

/-! ## No line ends inside a value -/

theorem escape_ge (c : Char) : ∀ d ∈ escape c, 32 ≤ d.toNat := by
  by_cases hcontrol : c.toNat < 32
  · have hall : ∀ n, n < 32 →
        (escape (Char.ofNat n)).all (fun d => decide (32 ≤ d.toNat)) = true := by
      intro n hn
      interval_cases n <;> rfl
    have h := hall c.toNat hcontrol
    rw [Char.ofNat_toNat] at h
    exact fun d hd => of_decide_eq_true (List.all_eq_true.1 h d hd)
  · unfold escape
    split_ifs
    all_goals
      intro d hd
      simp only [List.mem_cons, List.not_mem_nil, or_false] at hd
    all_goals first
      | omega
      | (rcases hd with rfl | rfl <;> decide)
      | (subst hd; omega)

theorem rawString_ge (t : Text) : ∀ d ∈ rawString t, 32 ≤ d.toNat := by
  intro d hd
  rw [rawString, quoted, List.mem_cons, List.mem_append, List.mem_flatMap] at hd
  rcases hd with rfl | ⟨c, -, hd⟩ | hd
  · decide
  · exact escape_ge c d hd
  · rw [List.mem_singleton.1 hd]
    decide

theorem wordChar_ge (h : WordChar c = true) : 32 ≤ c.toNat := by
  by_contra hlt
  have hall : ∀ n, n < 32 → WordChar (Char.ofNat n) = false := by decide
  have hno := hall c.toNat (not_le.1 hlt)
  rw [Char.ofNat_toNat, h] at hno
  cases hno

mutual

/-- A value is written without control characters. -/
theorem print_ge : ∀ (j : JsonTree) {u : Text}, (∀ d ∈ u, 32 ≤ d.toNat) →
    ∀ d ∈ j.print u, 32 ≤ d.toNat
  | .word w, u, hu => by
    rw [print]
    exact List.forall_mem_append.2 ⟨fun c hc => wordChar_ge (w.chars c hc), hu⟩
  | .text t, u, hu => by
    rw [print]
    exact List.forall_mem_append.2 ⟨rawString_ge t, hu⟩
  | .array [], u, hu => by
    rw [print]
    exact List.forall_mem_cons.2 ⟨by decide, List.forall_mem_cons.2 ⟨by decide, hu⟩⟩
  | .array (j :: items), u, hu => by
    have hclose : ∀ d ∈ ']' :: u, 32 ≤ d.toNat := List.forall_mem_cons.2 ⟨by decide, hu⟩
    rw [print]
    exact List.forall_mem_cons.2 ⟨by decide, print_ge j (printItems_ge items hclose)⟩
  | .object [], u, hu => by
    rw [print]
    exact List.forall_mem_cons.2 ⟨by decide, List.forall_mem_cons.2 ⟨by decide, hu⟩⟩
  | .object ((k, j) :: fields), u, hu => by
    have hclose : ∀ d ∈ '\x7d' :: u, 32 ≤ d.toNat := List.forall_mem_cons.2 ⟨by decide, hu⟩
    have hvalue := print_ge j (printFields_ge fields hclose)
    rw [print]
    refine List.forall_mem_cons.2 ⟨by decide, List.forall_mem_append.2 ⟨rawString_ge k, ?_⟩⟩
    exact List.forall_mem_cons.2 ⟨by decide, hvalue⟩

theorem printItems_ge : ∀ (items : List JsonTree) {u : Text}, (∀ d ∈ u, 32 ≤ d.toNat) →
    ∀ d ∈ printItems items u, 32 ≤ d.toNat
  | [], u, hu => by
    rw [printItems]
    exact hu
  | j :: items, u, hu => by
    rw [printItems]
    exact List.forall_mem_cons.2 ⟨by decide, print_ge j (printItems_ge items hu)⟩

theorem printFields_ge : ∀ (fields : List (Text × JsonTree)) {u : Text},
    (∀ d ∈ u, 32 ≤ d.toNat) → ∀ d ∈ printFields fields u, 32 ≤ d.toNat
  | [], u, hu => by
    rw [printFields]
    exact hu
  | (k, j) :: fields, u, hu => by
    have hvalue := print_ge j (printFields_ge fields hu)
    rw [printFields]
    refine List.forall_mem_cons.2 ⟨by decide, List.forall_mem_append.2 ⟨rawString_ge k, ?_⟩⟩
    exact List.forall_mem_cons.2 ⟨by decide, hvalue⟩

end

/-! ## UTF-8 -/

/-- `bytes.decode("utf-8")`; nothing where it raises. -/
def decodeUtf8 (bs : List Byte) : Option Text :=
  (bs.map fun b => UInt8.ofNat b.val).toByteArray.utf8Decode?.map Array.toList

/-- **A text is read back from its bytes.** -/
theorem decodeUtf8_encodeUtf8 (t : Text) : decodeUtf8 (encodeUtf8 t) = some t := by
  have hbyte : ∀ b : UInt8, UInt8.ofNat (Fin.ofNat 256 b.toNat).val = b := by
    intro b
    rw [Fin.val_ofNat, Nat.mod_eq_of_lt (UInt8.toNat_lt b)]
    exact UInt8.ofNat_toNat
  have hbytes : (encodeUtf8 t).map (fun b => UInt8.ofNat b.val)
      = t.flatMap String.utf8EncodeChar := by
    rw [encodeUtf8, List.map_map]
    refine (List.map_congr_left fun b _ => hbyte b).trans (List.map_id _)
  have hdecode : (t.flatMap String.utf8EncodeChar).toByteArray.utf8Decode? = some t.toArray :=
    List.utf8Decode?_utf8Encode
  rw [decodeUtf8, hbytes, hdecode]
  rfl

/-- Bytes below 32 come from characters below 32. -/
theorem encodeUtf8_ge (h : ∀ c ∈ t, 32 ≤ c.toNat) : ∀ b ∈ encodeUtf8 t, 32 ≤ b.val := by
  intro b hb
  obtain ⟨byte, hbyte, rfl⟩ := List.mem_map.1 hb
  obtain ⟨c, hc, hmem⟩ := List.mem_flatMap.1 hbyte
  have hge : 32 ≤ c.val.toNat := h c hc
  unfold String.utf8EncodeChar at hmem
  dsimp only at hmem
  have hval : 32 ≤ byte.toNat := by
    split_ifs at hmem
    all_goals
      simp only [List.mem_cons, List.not_mem_nil, or_false] at hmem
    · subst hmem
      rw [UInt8.toNat_ofNat']
      omega
    · rcases hmem with rfl | rfl <;> rw [UInt8.toNat_ofNat'] <;> omega
    · rcases hmem with rfl | rfl | rfl <;> rw [UInt8.toNat_ofNat'] <;> omega
    · rcases hmem with rfl | rfl | rfl | rfl <;> rw [UInt8.toNat_ofNat'] <;> omega
  have hlt := UInt8.toNat_lt byte
  show 32 ≤ (Fin.ofNat 256 byte.toNat).val
  rw [Fin.val_ofNat, Nat.mod_eq_of_lt hlt]
  exact hval

end Bytes.JsonTree
