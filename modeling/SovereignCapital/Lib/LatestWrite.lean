import Mathlib.Data.Prod.Lex
import Mathlib.Data.List.Infix

/-! # Registers and the order of writes

Writes belong to a block and have an index in it. A register that takes every write as it arrives
holds `current`; the order of the blocks and indices says which value is `Latest`.
`takes_latest_iff` tells when the two agree after a write.
-/

namespace LatestWrite

structure Write (β ι α : Type) where
  block : β
  index : ι
  value : α

variable {β ι α : Type} [LinearOrder β] [LinearOrder ι]

def Write.key (w : Write β ι α) : β ×ₗ ι := toLex (w.block, w.index)

theorem Write.block_le {w w' : Write β ι α} (h : w.key ≤ w'.key) : w.block ≤ w'.block := by
  rcases Prod.Lex.toLex_le_toLex.1 h with hlt | ⟨heq, -⟩
  · exact le_of_lt hlt
  · exact le_of_eq heq

/-- The value of a write that no other stands behind. -/
def Latest (ws : List (Write β ι α)) (v : α) : Prop :=
  ∃ w ∈ ws, w.value = v ∧ ∀ w' ∈ ws, w'.key ≤ w.key

/-- What a register with the value `v` holds after the writes have arrived. -/
def current (v : α) (ws : List (Write β ι α)) : α := ws.foldl (fun _ w => w.value) v

omit [LinearOrder β] [LinearOrder ι] in
theorem current_append (v : α) (ws : List (Write β ι α)) (w : Write β ι α) :
    current v (ws ++ [w]) = w.value := by
  simp [current]

/-- No write that has arrived stands behind this one. -/
def InTurn (ws : List (Write β ι α)) (w : Write β ι α) : Prop := ∀ e ∈ ws, e.key ≤ w.key

/-- The write comes late and repeats a latest value: the one the register holds, or one of its own
block. -/
def Repeats (v : α) (ws : List (Write β ι α)) (w : Write β ι α) : Prop :=
  Latest ws w.value ∧ (w.value = current v ws ∨ ∀ e ∈ ws, e.block ≤ w.block)

/-- **A register takes a write as it should**, holding the latest value after it and replacing
nothing by what is of an older block, exactly when the write comes in turn or repeats. -/
theorem takes_latest_iff (v : α) (ws : List (Write β ι α)) (w : Write β ι α) :
    (Latest (ws ++ [w]) (current v (ws ++ [w]))
        ∧ ((∃ e ∈ ws, w.block < e.block) → current v (ws ++ [w]) = current v ws))
      ↔ InTurn ws w ∨ Repeats v ws w := by
  rw [current_append]
  constructor
  · rintro ⟨⟨m, hm, hvalue, hmax⟩, hkept⟩
    rcases List.mem_append.1 hm with hm | hm
    · refine .inr ⟨⟨m, hm, hvalue, fun e he => hmax e (List.mem_append_left _ he)⟩, ?_⟩
      by_cases holder : ∃ e ∈ ws, w.block < e.block
      · exact .inl (hkept holder)
      · exact .inr fun e he => not_lt.1 fun hlt => holder ⟨e, he, hlt⟩
    · rw [List.mem_singleton.1 hm] at hmax
      exact .inl fun e he => hmax e (List.mem_append_left _ he)
  · rintro (hturn | ⟨⟨m, hm, hvalue, hmax⟩, hheld⟩)
    · refine ⟨⟨w, List.mem_append_right _ (List.mem_singleton_self w), rfl, fun e he => ?_⟩, ?_⟩
      · rcases List.mem_append.1 he with he | he
        · exact hturn e he
        · exact le_of_eq (congrArg Write.key (List.mem_singleton.1 he))
      · rintro ⟨e, he, hlt⟩
        exact absurd (Write.block_le (hturn e he)) (not_le.2 hlt)
    · constructor
      · rcases le_total w.key m.key with hle | hle
        · refine ⟨m, List.mem_append_left _ hm, hvalue, fun e he => ?_⟩
          rcases List.mem_append.1 he with he | he
          · exact hmax e he
          · rw [List.mem_singleton.1 he]
            exact hle
        · refine ⟨w, List.mem_append_right _ (List.mem_singleton_self w), rfl, fun e he => ?_⟩
          rcases List.mem_append.1 he with he | he
          · exact le_trans (hmax e he) hle
          · exact le_of_eq (congrArg Write.key (List.mem_singleton.1 he))
      · rintro ⟨e, he, hlt⟩
        rcases hheld with hheld | hblocks
        · exact hheld
        · exact absurd (hblocks e he) (not_le.2 hlt)

end LatestWrite
