import SovereignCapital.Lib.PyTree

/-! # Decimal numbers of a text

`Decimal(t)`. Where `float` and `int` read a text, `Decimal` reads the number they round or take,
unless its exponent is beyond the limits of the module.
-/

namespace PyDecimal

open Bytes

/-! ## Reading -/

def maxEmax : ℤ := 999999999999999999

def minEtiny : ℤ := -1999999999999999997

/-- The exponent of the last digit of a number without its sign. -/
def lastExponent (t : Text) : ℤ :=
  let fraction := ((t.takeWhile fun c => c != 'e').dropWhile fun c => c != '.').tail
  (pyInt 10 (t.dropWhile fun c => c != 'e').tail).getD 0 - fraction.length

/-- A number is read as it stands, or not at all. -/
def representable (x : ℚ) (last : ℤ) : Bool :=
  minEtiny ≤ last ∧ (if x = 0 then last else Int.log 10 |x|) ≤ maxEmax

/-- `nan` or `snan`, with digits behind it. -/
def isNan (t : Text) : Bool :=
  match t with
  | 's' :: 'n' :: 'a' :: 'n' :: payload => payload.all Char.isDigit
  | 'n' :: 'a' :: 'n' :: payload => payload.all Char.isDigit
  | _ => false

/-- A number without its sign and without underscores. -/
def unsigned (t : Text) : Option PyNumber :=
  if isNan (pyLower t) then some .special
  else
    match PyNumber.unsigned t with
    | some (.finite x) =>
      if representable x (lastExponent (pyLower t)) then some (.finite x) else none
    | number => number

def plain (t : Text) : Text := t.filter fun c => c != '_'

/-- `Decimal(t)`; nothing where it raises. Underscores may stand anywhere. -/
def ofText (t : Text) : Option PyNumber :=
  match plain (pyStrip t) with
  | '-' :: rest => (unsigned rest).map PyNumber.neg
  | '+' :: rest => unsigned rest
  | t => unsigned t

/-! ## Underscores -/

variable {n : ℕ} {t : Text} {c : Char} {q : Char → Bool} {x y : ℚ}

theorem digitsValue_plain {base acc : ℕ} {afterDigit : Bool}
    (h : digitsValue base acc afterDigit t = some n) {afterDigit' : Bool}
    (hafter : afterDigit = true → afterDigit' = true) :
    digitsValue base acc afterDigit' (plain t) = some n := by
  induction t generalizing acc afterDigit afterDigit' with
  | nil =>
    unfold digitsValue at h
    split at h
    · rename_i hdigit
      rw [plain, List.filter_nil, digitsValue, if_pos (hafter hdigit)]
      exact h
    · cases h
  | cons c rest ih =>
    unfold digitsValue at h
    by_cases hc : c = '_'
    · rw [if_pos hc] at h
      split at h
      · have hskip : plain (c :: rest) = plain rest := by rw [plain, hc]; rfl
        rw [hskip]
        exact ih h fun hfalse => by cases hfalse
      · cases h
    · rw [if_neg hc] at h
      have hkeep : plain (c :: rest) = c :: plain rest :=
        List.filter_cons_of_pos (by simpa using hc)
      rw [hkeep, digitsValue, if_neg hc]
      cases hv : hexVal c with
      | none =>
        rw [hv] at h
        cases h
      | some d =>
        rw [hv] at h
        dsimp only at h ⊢
        split at h
        · rename_i hd
          rw [if_pos hd]
          exact ih h fun htrue => htrue
        · cases h

theorem plain_cons (hc : c ≠ '_') (t : Text) : plain (c :: t) = c :: plain t :=
  List.filter_cons_of_pos (by simpa using hc)

theorem plain_underscore (t : Text) : plain ('_' :: t) = plain t := rfl

theorem takeWhile_plain (hq : q '_' = true) (t : Text) :
    (plain t).takeWhile q = plain (t.takeWhile q) := by
  induction t with
  | nil => rfl
  | cons c rest ih =>
    by_cases hc : c = '_'
    · rw [hc, plain_underscore, List.takeWhile_cons_of_pos hq, plain_underscore, ih]
    · rw [plain_cons hc]
      by_cases hqc : q c = true
      · rw [List.takeWhile_cons_of_pos hqc, List.takeWhile_cons_of_pos hqc, plain_cons hc, ih]
      · rw [List.takeWhile_cons_of_neg hqc, List.takeWhile_cons_of_neg hqc]
        rfl

theorem dropWhile_plain (hq : q '_' = true) (t : Text) :
    (plain t).dropWhile q = plain (t.dropWhile q) := by
  induction t with
  | nil => rfl
  | cons c rest ih =>
    by_cases hc : c = '_'
    · rw [hc, plain_underscore, List.dropWhile_cons_of_pos hq, ih]
    · rw [plain_cons hc]
      by_cases hqc : q c = true
      · rw [List.dropWhile_cons_of_pos hqc, List.dropWhile_cons_of_pos hqc, ih]
      · rw [List.dropWhile_cons_of_neg hqc, List.dropWhile_cons_of_neg hqc, plain_cons hc]

theorem pyLower_plain (t : Text) : pyLower (plain t) = plain (pyLower t) := by
  have hcase : ∀ c : Char, (c.toLower != '_') = (c != '_') := fun c =>
    apply_toLower (fun c => c != '_') (fun n _ _ => by interval_cases n <;> decide) c
  unfold pyLower plain
  rw [List.filter_map]
  exact congrArg _ (List.filter_congr fun c _ => (hcase c).symm)

def part (t : Text) : Option ℕ := if t = [] then some 0 else digitsValue 10 0 false t

theorem part_plain (h : part t = some n) : part (plain t) = some n ∧ (plain t = [] ↔ t = []) := by
  unfold part at h ⊢
  by_cases hnil : t = []
  · rw [if_pos hnil] at h
    rw [hnil]
    exact ⟨h, Iff.rfl⟩
  · rw [if_neg hnil] at h
    have hplain : digitsValue 10 0 false (plain t) = some n := digitsValue_plain h id
    have hne : plain t ≠ [] := by
      intro hempty
      rw [hempty] at hplain
      cases hplain
    rw [if_neg hne]
    exact ⟨hplain, iff_of_false hne hnil⟩

theorem pointed_of_whole (h : (t.dropWhile fun c => c != '.') = []) :
    PyNumber.pointed t = (digitsValue 10 0 false t).map fun n : ℕ => (n : ℚ) := by
  unfold PyNumber.pointed
  rw [h]
  cases digitsValue 10 0 false t <;> rfl

theorem pointed_of_point {fraction : Text} (h : (t.dropWhile fun c => c != '.') = c :: fraction) :
    PyNumber.pointed t
      = if (t.takeWhile fun c => c != '.') = [] ∧ fraction = [] then none
        else (part (t.takeWhile fun c => c != '.')).bind fun n : ℕ =>
          (part fraction).map fun m : ℕ => (n : ℚ) + m / 10 ^ (plain fraction).length := by
  unfold PyNumber.pointed part plain
  rw [h]
  dsimp only
  by_cases hwhole : (t.takeWhile fun c => c != '.') = []
  · by_cases hfraction : fraction = []
    · simp [hwhole, hfraction]
    · simp only [hwhole, hfraction, and_false, if_false, if_true]
      cases digitsValue 10 0 false fraction <;> rfl
  · by_cases hfraction : fraction = []
    · simp only [hwhole, hfraction, false_and, if_false, if_true]
      cases digitsValue 10 0 false (t.takeWhile fun c => c != '.') <;> rfl
    · simp only [hwhole, hfraction, false_and, if_false]
      cases digitsValue 10 0 false (t.takeWhile fun c => c != '.') with
      | none => rfl
      | some n => cases digitsValue 10 0 false fraction <;> rfl

theorem ne_underscore_of_dropWhile (hq : q '_' = true) {rest : Text}
    (h : t.dropWhile q = c :: rest) :
    c ≠ '_' := by
  intro hc
  have hhead := List.head_dropWhile_not q (l := t) (by rw [h]; exact List.cons_ne_nil c rest)
  simp only [h, List.head_cons, hc, hq] at hhead
  cases hhead

/-- A number that is read with its underscores is read without them. -/
theorem pointed_plain (h : PyNumber.pointed t = some x) : PyNumber.pointed (plain t) = some x := by
  cases hdrop : t.dropWhile fun c => c != '.' with
  | nil =>
    have hdrop' : ((plain t).dropWhile fun c => c != '.') = [] := by
      rw [dropWhile_plain (by decide), hdrop]
      rfl
    rw [pointed_of_whole hdrop] at h
    obtain ⟨n, hn, rfl⟩ := Option.map_eq_some_iff.1 h
    rw [pointed_of_whole hdrop', digitsValue_plain hn id]
    rfl
  | cons c fraction =>
    have hdrop' : ((plain t).dropWhile fun c => c != '.') = c :: plain fraction := by
      rw [dropWhile_plain (by decide), hdrop,
        plain_cons (ne_underscore_of_dropWhile (by decide) hdrop)]
    rw [pointed_of_point hdrop] at h
    obtain ⟨hsides, hvalue⟩ := Option.ite_none_left_eq_some.1 h
    obtain ⟨n, hn, hrest⟩ := Option.bind_eq_some_iff.1 hvalue
    obtain ⟨m, hm, rfl⟩ := Option.map_eq_some_iff.1 hrest
    obtain ⟨hwhole, hwholeNil⟩ := part_plain hn
    obtain ⟨hfraction, hfractionNil⟩ := part_plain hm
    have hlength : plain (plain fraction) = plain fraction := by
      unfold plain
      rw [List.filter_filter]
      simp only [Bool.and_self]
    rw [pointed_of_point hdrop', takeWhile_plain (by decide)]
    simp only [hwholeNil, hfractionNil, if_neg hsides, hwhole, hfraction, hlength,
      Option.bind_some, Option.map_some]

theorem exponent_of_unsigned (hminus : ∀ rest, t ≠ '-' :: rest) (hplus : ∀ rest, t ≠ '+' :: rest) :
    PyNumber.exponent t = (digitsValue 10 0 false t).map fun n : ℕ => (10 : ℚ) ^ n := by
  unfold PyNumber.exponent
  split
  · exact absurd rfl (hminus _)
  · exact absurd rfl (hplus _)
  · rfl

theorem exponent_plain (h : PyNumber.exponent t = some x) :
    PyNumber.exponent (plain t) = some x := by
  have hdigits : ∀ {f : ℕ → ℚ} {t : Text}, (digitsValue 10 0 false t).map f = some x →
      (digitsValue 10 0 false (plain t)).map f = some x := by
    intro f t hmap
    obtain ⟨n, hn, hx⟩ := Option.map_eq_some_iff.1 hmap
    rw [digitsValue_plain hn id, Option.map_some, hx]
  cases t with
  | nil => cases h
  | cons c rest =>
    by_cases hminus : c = '-'
    · subst hminus
      rw [plain_cons (by decide)]
      exact hdigits h
    by_cases hplus : c = '+'
    · subst hplus
      rw [plain_cons (by decide)]
      exact hdigits h
    have hhead : ∀ {d : Char} {s : Text}, c ≠ d → ∀ rest', c :: s ≠ d :: rest' := by
      intro d s hne rest' heq
      exact hne (List.cons.inj heq).1
    rw [exponent_of_unsigned (hhead hminus) (hhead hplus)] at h
    have hunderscore : c ≠ '_' := by
      rintro rfl
      cases h
    rw [plain_cons hunderscore, exponent_of_unsigned (hhead hminus) (hhead hplus)]
    have hplain := hdigits h
    rwa [plain_cons hunderscore] at hplain

/-- What `float` reads without a sign. -/
theorem unsigned_eq_finite (h : PyNumber.unsigned t = some (.finite x)) :
    (((pyLower t).dropWhile fun c => c != 'e') = [] ∧ PyNumber.pointed (pyLower t) = some x)
    ∨ ∃ e power mantissa scale, ((pyLower t).dropWhile fun c => c != 'e') = e :: power
      ∧ PyNumber.pointed ((pyLower t).takeWhile fun c => c != 'e') = some mantissa
      ∧ PyNumber.exponent power = some scale ∧ x = mantissa * scale := by
  unfold PyNumber.unsigned at h
  dsimp only at h
  split at h
  · cases h
  · split at h
    · rename_i hdrop
      obtain ⟨y, hy, hx⟩ := Option.map_eq_some_iff.1 h
      cases hx
      exact Or.inl ⟨hdrop, hy⟩
    · rename_i e power hdrop
      obtain ⟨mantissa, hmantissa, hrest⟩ := Option.bind_eq_some_iff.1 h
      obtain ⟨scale, hscale, hx⟩ := Option.bind_eq_some_iff.1 hrest
      cases hx
      exact Or.inr ⟨e, power, mantissa, scale, hdrop, hmantissa, hscale, rfl⟩

/-- The names of the floats that are no numbers have no digits and no exponent. -/
theorem special_unreadable (h : t = "inf".toList ∨ t = "infinity".toList ∨ t = "nan".toList) :
    (t.dropWhile fun c => c != 'e') = [] ∧ PyNumber.pointed t = none := by
  rcases h with rfl | rfl | rfl
  · exact ⟨by decide, by decide⟩
  · exact ⟨by decide, by decide⟩
  · exact ⟨by decide, by decide⟩

theorem unsigned_plain (h : PyNumber.unsigned t = some (.finite x)) :
    PyNumber.unsigned (plain t) = some (.finite x) := by
  unfold PyNumber.unsigned
  dsimp only
  rw [pyLower_plain]
  rcases unsigned_eq_finite h with ⟨hdrop, hpointed⟩ |
    ⟨e, power, mantissa, scale, hdrop, hmantissa, hscale, rfl⟩
  · have hplain := pointed_plain hpointed
    have hdrop' : ((plain (pyLower t)).dropWhile fun c => c != 'e') = [] := by
      rw [dropWhile_plain (by decide), hdrop]
      rfl
    have hnumber : ¬ (plain (pyLower t) = "inf".toList ∨ plain (pyLower t) = "infinity".toList
        ∨ plain (pyLower t) = "nan".toList) := by
      intro hspecial
      rw [(special_unreadable hspecial).2] at hplain
      cases hplain
    rw [if_neg hnumber, hdrop']
    dsimp only
    rw [hplain]
    rfl
  · have hdrop' : ((plain (pyLower t)).dropWhile fun c => c != 'e') = e :: plain power := by
      rw [dropWhile_plain (by decide), hdrop,
        plain_cons (ne_underscore_of_dropWhile (by decide) hdrop)]
    have hnumber : ¬ (plain (pyLower t) = "inf".toList ∨ plain (pyLower t) = "infinity".toList
        ∨ plain (pyLower t) = "nan".toList) := by
      intro hspecial
      rw [(special_unreadable hspecial).1] at hdrop'
      cases hdrop'
    rw [if_neg hnumber, hdrop']
    dsimp only
    rw [takeWhile_plain (by decide), pointed_plain hmantissa, exponent_plain hscale]
    rfl

/-- What `Decimal` reads without a sign. -/
theorem unsigned_eq_some (h : unsigned t = some (.finite x)) :
    PyNumber.unsigned t = some (.finite x) := by
  unfold unsigned at h
  split at h
  · cases h
  · cases hread : PyNumber.unsigned t with
    | none =>
      rw [hread] at h
      cases h
    | some number =>
      rw [hread] at h
      cases number with
      | special => cases h
      | finite y =>
        dsimp only at h
        split at h
        · exact h
        · cases h

/-! ## Agreement with the other readers -/

theorem float_unsigned_eq (h : PyFloat.unsigned t = some (.finite y)) :
    ∃ x, PyNumber.unsigned t = some (.finite x) ∧ y = Double.nearest x := by
  have hround : ∀ x, PyFloat.ofRat x = .finite y → y = Double.nearest x := by
    intro x hx
    unfold PyFloat.ofRat at hx
    split at hx
    · cases hx
      rfl
    · cases hx
  unfold PyFloat.unsigned at h
  unfold PyNumber.unsigned
  dsimp only at h ⊢
  split at h
  · cases h
  · split at h
    · cases h
    · rename_i hinf hnan
      rw [if_neg (by tauto)]
      cases hdrop : (pyLower t).dropWhile fun c => c != 'e' with
      | nil =>
        rw [hdrop] at h
        obtain ⟨x, hx, hy⟩ := Option.map_eq_some_iff.1 h
        refine ⟨x, ?_, hround x hy⟩
        dsimp only
        rw [hx]
        rfl
      | cons e power =>
        rw [hdrop] at h
        obtain ⟨mantissa, hmantissa, hrest⟩ := Option.bind_eq_some_iff.1 h
        obtain ⟨scale, hscale, hy⟩ := Option.bind_eq_some_iff.1 hrest
        refine ⟨mantissa * scale, ?_, hround _ (Option.some.inj hy)⟩
        dsimp only
        rw [hmantissa, hscale]
        rfl

theorem pointed_eq_none (hpoint : c ≠ '.')
    (hdigit : ∀ rest, digitsValue 10 0 false (c :: rest) = none) (rest : Text) :
    PyNumber.pointed (c :: rest) = none := by
  have hc : (c != '.') = true := by simpa using hpoint
  cases hdrop : (c :: rest).dropWhile fun c => c != '.' with
  | nil =>
    rw [pointed_of_whole hdrop, hdigit]
    rfl
  | cons d fraction =>
    have htake : ((c :: rest).takeWhile fun c => c != '.')
        = c :: rest.takeWhile fun c => c != '.' := List.takeWhile_cons_of_pos hc
    rw [pointed_of_point hdrop, htake, if_neg fun hnil => List.cons_ne_nil _ _ hnil.1]
    unfold part
    rw [if_neg (List.cons_ne_nil _ _), hdigit]
    rfl

/-- Neither a sign nor an underscore is the first character of a number without its sign. -/
theorem unsigned_head {rest : Text} (h : PyNumber.unsigned (c :: rest) = some (.finite x)) :
    c ≠ '_' ∧ c ≠ '-' ∧ c ≠ '+' := by
  have hbad : c.toLower ≠ '.' → c.toLower ≠ 'e' →
      (∀ rest, digitsValue 10 0 false (c.toLower :: rest) = none) → False := by
    intro hpoint hexponent hdigit
    have he : (c.toLower != 'e') = true := by simpa using hexponent
    have hnone := pointed_eq_none hpoint hdigit
    rcases unsigned_eq_finite h with ⟨-, hpointed⟩ | ⟨_, _, _, _, -, hmantissa, -, -⟩
    · rw [pyLower, List.map_cons, hnone] at hpointed
      cases hpointed
    · have htake : ((c.toLower :: rest.map Char.toLower).takeWhile fun c => c != 'e')
          = c.toLower :: (rest.map Char.toLower).takeWhile fun c => c != 'e' :=
        List.takeWhile_cons_of_pos he
      rw [pyLower, List.map_cons, htake, hnone] at hmantissa
      cases hmantissa
  refine ⟨?_, ?_, ?_⟩
  · rintro rfl
    exact hbad (by decide) (by decide) fun _ => rfl
  · rintro rfl
    exact hbad (by decide) (by decide) fun _ => rfl
  · rintro rfl
    exact hbad (by decide) (by decide) fun _ => rfl

/-- What both read without a sign is the same number. -/
theorem unsigned_plain_eq {x' : ℚ} (h : PyNumber.unsigned t = some (.finite x))
    (h' : unsigned (plain t) = some (.finite x')) : x' = x := by
  have hread := unsigned_eq_some h'
  rw [unsigned_plain h] at hread
  cases hread
  rfl

theorem ofText_of_unsigned (hread : PyNumber.unsigned (pyStrip t) = some (.finite x)) :
    ofText t = unsigned (plain (pyStrip t)) := by
  unfold ofText
  cases hstrip : pyStrip t with
  | nil => rfl
  | cons c rest =>
    rw [hstrip] at hread
    obtain ⟨hunderscore, hminus, hplus⟩ := unsigned_head hread
    rw [plain_cons hunderscore]
    split
    · rename_i heq
      exact absurd (List.cons.inj heq).1 hminus
    · rename_i heq
      exact absurd (List.cons.inj heq).1 hplus
    · rfl

theorem neg_eq_finite {number : Option PyNumber} (h : number.map PyNumber.neg = some (.finite x)) :
    number = some (.finite (-x)) := by
  obtain ⟨v, rfl, hv⟩ := Option.map_eq_some_iff.1 h
  cases v with
  | special => cases hv
  | finite y =>
    cases hv
    rw [neg_neg]

theorem float_neg_eq_finite {number : Option PyFloat}
    (h : number.map PyFloat.neg = some (.finite y)) : number = some (.finite (-y)) := by
  obtain ⟨v, rfl, hv⟩ := Option.map_eq_some_iff.1 h
  cases v with
  | inf negative => cases hv
  | nan => cases hv
  | finite y =>
    cases hv
    rw [neg_neg]

/-- **A float is the decimal number rounded.** -/
theorem nearest_of_float (hfloat : PyFloat.ofText t = some (.finite y))
    (hdecimal : ofText t = some (.finite x)) : y = Double.nearest x := by
  unfold PyFloat.ofText at hfloat
  split at hfloat
  · rename_i rest hstrip
    unfold ofText at hdecimal
    rw [hstrip, plain_cons (by decide)] at hdecimal
    obtain ⟨x', hread, hy⟩ := float_unsigned_eq (float_neg_eq_finite hfloat)
    have hx := unsigned_plain_eq hread (neg_eq_finite hdecimal)
    rw [← hx, Double.nearest_neg] at hy
    exact neg_injective hy
  · rename_i rest hstrip
    unfold ofText at hdecimal
    rw [hstrip, plain_cons (by decide)] at hdecimal
    obtain ⟨x', hread, hy⟩ := float_unsigned_eq hfloat
    rw [hy, unsigned_plain_eq hread hdecimal]
  · obtain ⟨x', hread, hy⟩ := float_unsigned_eq hfloat
    rw [ofText_of_unsigned hread] at hdecimal
    rw [hy, unsigned_plain_eq hread hdecimal]

theorem digit_of_hexVal {d : ℕ} (h : hexVal c = some d) (hd : d < 10) :
    48 ≤ c.toNat ∧ c.toNat ≤ 57 := by
  have hle : ∀ a b : Char, a ≤ b ↔ a.toNat ≤ b.toNat := fun a b => UInt32.le_iff_toNat_le
  unfold hexVal at h
  split at h
  · rename_i hdigit
    rw [hle, hle] at hdigit
    exact hdigit
  · split at h
    · rename_i hletter
      have hlow : 97 ≤ c.toNat := (hle _ _).1 hletter.1
      have heq : c.toNat - 87 = d := Option.some.inj h
      omega
    · split at h
      · rename_i hletter
        have hlow : 65 ≤ c.toNat := (hle _ _).1 hletter.1
        have heq : c.toNat - 55 = d := Option.some.inj h
        omega
      · cases h

/-- The characters of an integer. -/
theorem mem_of_digitsValue {acc : ℕ} {afterDigit : Bool}
    (h : digitsValue 10 acc afterDigit t = some n) :
    ∀ c ∈ t, c = '_' ∨ 48 ≤ c.toNat ∧ c.toNat ≤ 57 := by
  induction t generalizing acc afterDigit with
  | nil => intro c hc; cases hc
  | cons first rest ih =>
    unfold digitsValue at h
    by_cases hfirst : first = '_'
    · rw [if_pos hfirst] at h
      split at h
      · intro c hc
        rcases List.mem_cons.1 hc with rfl | hc
        · exact Or.inl hfirst
        · exact ih h c hc
      · cases h
    · rw [if_neg hfirst] at h
      cases hv : hexVal first with
      | none =>
        rw [hv] at h
        cases h
      | some d =>
        rw [hv] at h
        dsimp only at h
        split at h
        · rename_i hd
          have hdigit := digit_of_hexVal hv hd
          intro c hc
          rcases List.mem_cons.1 hc with rfl | hc
          · exact Or.inr hdigit
          · exact ih h c hc
        · cases h

theorem unsigned_of_digits (h : digitsValue 10 0 false t = some n) :
    PyNumber.unsigned t = some (.finite n) := by
  have hchars := mem_of_digitsValue h
  have hself : ∀ c ∈ t, c.toLower = c := by
    intro c hc
    rcases hchars c hc with rfl | hdigit
    · decide
    · refine dif_neg fun hletter => ?_
      have hlow : 65 ≤ c.toNat := UInt32.le_iff_toNat_le.1 hletter.1
      omega
  have hlower : pyLower t = t := by
    calc pyLower t = t.map id := List.map_congr_left hself
      _ = t := List.map_id t
  have hexponent : (t.dropWhile fun c => c != 'e') = [] := by
    rw [List.dropWhile_eq_nil_iff]
    intro c hc
    rcases hchars c hc with rfl | hdigit
    · decide
    · rw [bne_iff_ne]
      rintro rfl
      exact absurd hdigit (by decide)
  have hpoint : (t.dropWhile fun c => c != '.') = [] := by
    rw [List.dropWhile_eq_nil_iff]
    intro c hc
    rcases hchars c hc with rfl | hdigit
    · decide
    · rw [bne_iff_ne]
      rintro rfl
      exact absurd hdigit (by decide)
  have hpointed : PyNumber.pointed t = some n := by
    rw [pointed_of_whole hpoint, h]
    rfl
  have hnumber : ¬ (t = "inf".toList ∨ t = "infinity".toList ∨ t = "nan".toList) := by
    intro hspecial
    rw [(special_unreadable hspecial).2] at hpointed
    cases hpointed
  unfold PyNumber.unsigned
  dsimp only
  rw [hlower, if_neg hnumber, hexponent]
  dsimp only
  rw [hpointed]
  rfl

theorem unsignedValue_lifted {k : ℤ} (h : (do let n ← unsignedValue 10 t; pure (n : ℤ)) = some k) :
    ∃ n : ℕ, PyNumber.unsigned t = some (.finite n) ∧ k = n := by
  obtain ⟨n, hn, hk⟩ := Option.bind_eq_some_iff.1 h
  exact ⟨n, unsigned_of_digits hn, (Option.some.inj hk).symm⟩

/-- **An integer is the decimal number.** -/
theorem eq_of_int {n : ℤ} (hint : pyInt 10 t = some n) (hdecimal : ofText t = some (.finite x)) :
    x = n := by
  unfold pyInt at hint
  split at hint
  · rename_i rest hstrip
    unfold ofText at hdecimal
    rw [hstrip, plain_cons (by decide)] at hdecimal
    obtain ⟨k, hk, rfl⟩ := Option.map_eq_some_iff.1 hint
    obtain ⟨m, hread, rfl⟩ := unsignedValue_lifted hk
    have hx := unsigned_plain_eq hread (neg_eq_finite hdecimal)
    push_cast
    rw [← hx, neg_neg]
  · rename_i rest hstrip
    unfold ofText at hdecimal
    rw [hstrip, plain_cons (by decide)] at hdecimal
    obtain ⟨k, hk, rfl⟩ := Option.map_eq_some_iff.1 hint
    obtain ⟨m, hread, rfl⟩ := unsignedValue_lifted hk
    exact_mod_cast unsigned_plain_eq hread hdecimal
  · obtain ⟨k, hk, rfl⟩ := Option.map_eq_some_iff.1 hint
    obtain ⟨m, hread, rfl⟩ := unsignedValue_lifted hk
    rw [ofText_of_unsigned hread] at hdecimal
    exact_mod_cast unsigned_plain_eq hread hdecimal

end PyDecimal
