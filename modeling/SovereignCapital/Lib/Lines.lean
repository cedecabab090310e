import Mathlib.Data.List.Infix
import SovereignCapital.Lib.Bytes

/-! # Files of lines

A file is written line by line, each with a line feed at its end. A suffix of the file begins
anywhere in a line: behind its first line feed only whole lines stand, and the lines it splits into
end with the last lines of the file.
-/

namespace Lines

open Bytes

/-! ## Splitting -/

/-- `bytes.splitlines`, with the line read so far; a line feed belongs to the carriage return before
it. -/
def splitFrom : Bool → List Byte → List Byte → List (List Byte)
  | _, line, [] => if line = [] then [] else [line]
  | afterReturn, line, b :: rest =>
    if b = 10 then
      if afterReturn then splitFrom false line rest else line :: splitFrom false [] rest
    else if b = 13 then line :: splitFrom true [] rest
    else splitFrom false (line ++ [b]) rest

def splitLines (bs : List Byte) : List (List Byte) := splitFrom false [] bs

/-- `data[i + 1:]` behind the first line feed, `data` without one. -/
def behindFirst (bs : List Byte) : List Byte :=
  match bs.dropWhile fun b => b != 10 with
  | [] => bs
  | _ :: rest => rest

/-- `l[-n:]`. -/
def lastN {α : Type} (n : ℕ) (l : List α) : List α := l.drop (l.length - n)

/-! ## Files -/

def IsLine (line : List Byte) : Prop := ∀ b ∈ line, b ≠ 10 ∧ b ≠ 13

def join (lines : List (List Byte)) : List Byte := lines.flatMap fun line => line ++ [10]

@[simp] theorem join_nil : join [] = [] := rfl

theorem join_cons (line : List Byte) (lines : List (List Byte)) :
    join (line :: lines) = line ++ 10 :: join lines := by
  simp [join]

theorem join_append (lines lines' : List (List Byte)) :
    join (lines ++ lines') = join lines ++ join lines' := by
  simp [join]

variable {lines : List (List Byte)} {line : List Byte} {n : ℕ}

theorem join_eq_nil (h : join lines = []) : lines = [] := by
  cases lines with
  | nil => rfl
  | cons line lines =>
    rw [join_cons] at h
    simp at h

theorem count_join (h : ∀ line ∈ lines, IsLine line) : (join lines).count 10 = lines.length := by
  induction lines with
  | nil => rfl
  | cons line lines ih =>
    have hnone : line.count 10 = 0 :=
      List.count_eq_zero.2 fun hmem => (h line List.mem_cons_self 10 hmem).1 rfl
    rw [join_cons, List.count_append, List.count_cons_self, hnone,
      ih fun l hl => h l (List.mem_cons_of_mem _ hl), List.length_cons, Nat.zero_add]

def Ended (bs : List Byte) : Prop := bs = [] ∨ ∃ front, bs = front ++ [10]

theorem ended_join (lines : List (List Byte)) : Ended (join lines) := by
  rcases List.eq_nil_or_concat' lines with rfl | ⟨front, last, rfl⟩
  · exact .inl rfl
  · refine .inr ⟨join front ++ last, ?_⟩
    rw [join_append]
    simp [join]

theorem Ended.drop {bs : List Byte} (h : Ended bs) (n : ℕ) : Ended (bs.drop n) := by
  rcases h with rfl | ⟨front, rfl⟩
  · exact .inl List.drop_nil
  · by_cases hn : n ≤ front.length
    · exact .inr ⟨front.drop n, List.drop_append_of_le_length hn⟩
    · refine .inl (List.drop_eq_nil_of_le ?_)
      rw [List.length_append, List.length_singleton]
      omega

/-! ## Lines of a file -/

/-- A line feed ends the line it stands in; behind a carriage return no line is begun. -/
theorem splitFrom_append {afterReturn : Bool} (h : afterReturn = true → line = [])
    (front rest : List Byte) :
    splitFrom afterReturn line (front ++ 10 :: rest)
      = splitFrom afterReturn line (front ++ [10]) ++ splitLines rest := by
  induction front generalizing afterReturn line with
  | nil =>
    cases afterReturn with
    | false => rfl
    | true =>
      rw [h rfl]
      rfl
  | cons b front ih =>
    rw [List.cons_append, List.cons_append, splitFrom, splitFrom]
    split_ifs
    · exact ih (by simp)
    · rw [ih (by simp), List.cons_append]
    · rw [ih fun _ => rfl, List.cons_append]
    · exact ih (by simp)

theorem splitLines_append {front : List Byte} (h : Ended front) (rest : List Byte) :
    splitLines (front ++ rest) = splitLines front ++ splitLines rest := by
  rcases h with rfl | ⟨front, rfl⟩
  · rfl
  · rw [List.append_assoc, splitLines, splitLines]
    exact splitFrom_append (by simp) front rest

theorem splitFrom_line (h : IsLine line) (begun rest : List Byte) :
    splitFrom false begun (line ++ 10 :: rest) = (begun ++ line) :: splitLines rest := by
  induction line generalizing begun with
  | nil =>
    rw [List.append_nil]
    rfl
  | cons b line ih =>
    obtain ⟨hfeed, hreturn⟩ := h b List.mem_cons_self
    rw [List.cons_append, splitFrom, if_neg hfeed, if_neg hreturn,
      ih fun c hc => h c (List.mem_cons_of_mem _ hc)]
    simp

/-- **A file splits into its lines.** -/
theorem splitLines_join (h : ∀ line ∈ lines, IsLine line) : splitLines (join lines) = lines := by
  induction lines with
  | nil => rfl
  | cons line lines ih =>
    rw [join_cons, splitLines, splitFrom_line (h line List.mem_cons_self), List.nil_append,
      ih fun l hl => h l (List.mem_cons_of_mem _ hl)]

/-! ## Suffixes of a file -/

theorem behindFirst_line (h : 10 ∉ line) (rest : List Byte) :
    behindFirst (line ++ 10 :: rest) = rest := by
  have hdrop : (line ++ 10 :: rest).dropWhile (fun b => b != 10) = 10 :: rest := by
    rw [List.dropWhile_append_of_pos fun b hb => by simpa using fun heq : b = 10 => h (heq ▸ hb)]
    rfl
  rw [behindFirst, hdrop]

theorem notMem_of_isLine (h : IsLine line) : 10 ∉ line :=
  fun hmem => (h 10 hmem).1 rfl

/-- **Behind the first line feed of a suffix only whole lines stand.** -/
theorem exists_behindFirst (h : ∀ line ∈ lines, IsLine line) (hn : n < (join lines).length) :
    ∃ kept, kept <:+ lines ∧
      ∀ rest, behindFirst ((join lines).drop n ++ rest) = join kept ++ rest := by
  induction lines generalizing n with
  | nil => cases hn
  | cons line lines ih =>
    have hline := notMem_of_isLine (h line List.mem_cons_self)
    rw [join_cons] at hn ⊢
    by_cases hin : n ≤ line.length
    · refine ⟨lines, List.suffix_cons line lines, fun rest => ?_⟩
      rw [List.drop_append_of_le_length hin, List.append_assoc, List.cons_append]
      exact behindFirst_line (fun hmem => hline (List.mem_of_mem_drop hmem)) _
    · have hpast : (line ++ 10 :: join lines).drop n
          = (join lines).drop (n - (line.length + 1)) := by
        have hnext : n - line.length = n - (line.length + 1) + 1 := by omega
        rw [List.drop_append, List.drop_eq_nil_of_le (by omega), List.nil_append, hnext,
          List.drop_succ_cons]
      rw [List.length_append, List.length_cons] at hn
      obtain ⟨kept, hkept, hbehind⟩ := ih (fun l hl => h l (List.mem_cons_of_mem _ hl))
        (show n - (line.length + 1) < (join lines).length by omega)
      refine ⟨kept, hkept.trans (List.suffix_cons line lines), ?_⟩
      rw [hpast]
      exact hbehind

/-- A suffix that begins in the last line holds no other line feed. -/
theorem behindFirst_last (h : 10 ∉ line) (n : ℕ) : behindFirst ((line ++ [10]).drop n) = [] := by
  by_cases hn : n ≤ line.length
  · rw [List.drop_append_of_le_length hn]
    exact behindFirst_line (fun hmem => h (List.mem_of_mem_drop hmem)) []
  · rw [List.drop_eq_nil_of_le (by rw [List.length_append, List.length_singleton]; omega)]
    rfl

theorem lastN_of_length_le {α : Type} {l : List α} (h : l.length ≤ n) : lastN n l = l := by
  rw [lastN, Nat.sub_eq_zero_of_le h, List.drop_zero]

theorem lastN_append {α : Type} (front : List α) {l : List α} (h : l.length = n) :
    lastN n (front ++ l) = l := by
  rw [lastN, List.length_append, h, Nat.add_sub_cancel, List.drop_left]

/-- **A suffix that is long enough splits into the last lines of the file** and, before them, what
is left of others. -/
theorem exists_splitLines_drop (h : ∀ line ∈ lines, IsLine line) {m : ℕ}
    (hn : n ≤ (join lines).length)
    (hlong : (join (lastN m lines)).length ≤ ((join lines).drop n).length) :
    ∃ front, splitLines ((join lines).drop n) = front ++ lastN m lines ∧
      (lines.length ≤ m → front = []) := by
  have hsplit : join lines = join (lines.take (lines.length - m)) ++ join (lastN m lines) := by
    rw [← join_append, lastN, List.take_append_drop]
  have hlen := congrArg List.length hsplit
  rw [List.length_append] at hlen
  rw [List.length_drop] at hlong
  have hin : n ≤ (join (lines.take (lines.length - m))).length := by omega
  have hlast : ∀ line ∈ lastN m lines, IsLine line := fun line hline =>
    h line (List.mem_of_mem_drop hline)
  refine ⟨splitLines ((join (lines.take (lines.length - m))).drop n), ?_, fun hle => ?_⟩
  · rw [hsplit, List.drop_append_of_le_length hin,
      splitLines_append ((ended_join _).drop n), splitLines_join hlast]
  · rw [Nat.sub_eq_zero_of_le hle, List.take_zero, join_nil, List.drop_nil]
    rfl

end Lines
