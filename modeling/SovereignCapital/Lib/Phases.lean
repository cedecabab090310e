import Mathlib.Data.List.Dedup
import Mathlib.Data.List.Perm.Subperm

/-! # Selection in phases

Phases share one cap and select from one list, and no two selected elements have one key. A phase
takes the elements that are new to it: one of every tag, or in the last phase any.
-/

namespace Phases

variable {α κ τ : Type} [DecidableEq κ] [DecidableEq τ]

/-- What is selected after one phase; `picked` is what the phase has selected so far. -/
def addPhase (cap : ℕ) (key : α → κ) (fresh : List α → α → Bool) (selected : List α) :
    List α → List α → List α
  | picked, [] => selected ++ picked
  | picked, a :: rest =>
    if key a ∈ (selected ++ picked).map key ∨ cap ≤ (selected ++ picked).length then
      addPhase cap key fresh selected picked rest
    else if fresh picked a then addPhase cap key fresh selected (picked ++ [a]) rest
    else addPhase cap key fresh selected picked rest

/-- The element has a tag that is not picked yet. -/
def novel (tag : α → Option τ) (picked : List α) (a : α) : Bool :=
  (tag a).isSome && decide (tag a ∉ picked.map tag)

/-- The tags of the elements whose key is not selected. -/
def openTags (key : α → κ) (tag : α → Option τ) (selected all : List α) : List τ :=
  ((all.filter fun a => key a ∉ selected.map key).filterMap tag).dedup

variable {cap : ℕ} {key : α → κ} {tag : α → Option τ} {selected picked all : List α} {a : α}

/-- What a phase has picked keeps the keys and the tags apart and within the cap. -/
structure Sound (cap : ℕ) (key : α → κ) (tag : α → Option τ) (selected picked : List α) :
    Prop where
  known : ∀ b ∈ picked, tag b ≠ none
  tags : (picked.map tag).Nodup
  keys : ((selected ++ picked).map key).Nodup
  length : (selected ++ picked).length ≤ cap

omit [DecidableEq κ] [DecidableEq τ] in
theorem sound_start (hkeys : (selected.map key).Nodup) (hlength : selected.length ≤ cap) :
    Sound cap key tag selected [] := by
  refine ⟨fun b hb => absurd hb List.not_mem_nil, List.nodup_nil, ?_, ?_⟩
  · rwa [List.append_nil]
  · rwa [List.append_nil]

omit [DecidableEq κ] in
theorem Sound.pick (h : Sound cap key tag selected picked)
    (hkey : key a ∉ (selected ++ picked).map key) (hroom : (selected ++ picked).length < cap)
    (hnovel : novel tag picked a = true) : Sound cap key tag selected (picked ++ [a]) := by
  obtain ⟨hknown, htag⟩ := Bool.and_eq_true_iff.1 hnovel
  refine ⟨fun b hb => ?_, ?_, ?_, ?_⟩
  · rcases List.mem_append.1 hb with hb | hb
    · exact h.known b hb
    · rw [List.mem_singleton.1 hb]
      exact Option.isSome_iff_ne_none.1 hknown
  · rw [List.map_append, List.map_singleton, ← List.concat_eq_append]
    exact h.tags.concat (of_decide_eq_true htag)
  · rw [← List.append_assoc, List.map_append, List.map_singleton, ← List.concat_eq_append]
    exact h.keys.concat hkey
  · rw [← List.append_assoc, List.length_append, List.length_singleton]
    exact hroom

/-- An element that is not selected has no tag, or its tag is picked, or the cap is reached. -/
theorem addPhase_spec (rest : List α) (h : Sound cap key tag selected picked) :
    ∃ new, addPhase cap key (novel tag) selected picked rest = selected ++ (picked ++ new)
      ∧ Sound cap key tag selected (picked ++ new) ∧ (∀ b ∈ new, b ∈ rest)
      ∧ ∀ b ∈ rest, key b ∈ (selected ++ (picked ++ new)).map key ∨ tag b = none
        ∨ tag b ∈ (picked ++ new).map tag ∨ cap ≤ (selected ++ (picked ++ new)).length := by
  induction rest generalizing picked with
  | nil =>
    refine ⟨[], ?_, ?_, fun b hb => hb, fun b hb => absurd hb List.not_mem_nil⟩
    · rw [addPhase, List.append_nil]
    · rwa [List.append_nil]
  | cons a rest ih =>
    rw [addPhase]
    split
    · rename_i hskip
      obtain ⟨new, heq, hsound, hmem, hrest⟩ := ih h
      refine ⟨new, heq, hsound, fun b hb => List.mem_cons_of_mem a (hmem b hb), fun b hb => ?_⟩
      rcases List.mem_cons.1 hb with rfl | hb
      · rw [← List.append_assoc]
        rcases hskip with hkey | hcap
        · rw [List.map_append]
          exact .inl (List.mem_append_left _ hkey)
        · rw [List.length_append]
          exact .inr (.inr (.inr (by omega)))
      · exact hrest b hb
    · rename_i hopen
      obtain ⟨hkey, hroom⟩ := not_or.1 hopen
      split
      · rename_i hnovel
        obtain ⟨new, heq, hsound, hmem, hrest⟩ := ih (h.pick hkey (Nat.not_le.1 hroom) hnovel)
        rw [List.append_assoc, List.singleton_append] at heq hsound hrest
        refine ⟨a :: new, heq, hsound, fun b hb => ?_, fun b hb => ?_⟩
        · rcases List.mem_cons.1 hb with rfl | hb
          · exact List.mem_cons_self
          · exact List.mem_cons_of_mem a (hmem b hb)
        · rcases List.mem_cons.1 hb with rfl | hb
          · exact .inl (List.mem_map_of_mem (by simp))
          · exact hrest b hb
      · rename_i hold
        obtain ⟨new, heq, hsound, hmem, hrest⟩ := ih h
        refine ⟨new, heq, hsound, fun b hb => List.mem_cons_of_mem a (hmem b hb), fun b hb => ?_⟩
        rcases List.mem_cons.1 hb with rfl | hb
        · by_cases hnone : tag b = none
          · exact .inr (.inl hnone)
          · have htag : tag b ∈ picked.map tag := by
              simpa [novel, Option.isSome_iff_ne_none, hnone] using hold
            exact .inr (.inr (.inl (List.map_append ▸ List.mem_append_left _ htag)))
        · exact hrest b hb

theorem mem_openTags {t : τ} : t ∈ openTags key tag selected all
    ↔ ∃ b ∈ all, key b ∉ selected.map key ∧ tag b = some t := by
  rw [openTags, List.mem_dedup, List.mem_filterMap]
  simp only [List.mem_filter, decide_eq_true_eq, and_assoc]

/-- The picked tags are open ones. -/
theorem Sound.tags_subset (h : Sound cap key tag selected picked) (hmem : ∀ b ∈ picked, b ∈ all) :
    picked.map tag ⊆ (openTags key tag selected all).map some := by
  intro t ht
  obtain ⟨b, hb, rfl⟩ := List.mem_map.1 ht
  obtain ⟨t, htag⟩ := Option.ne_none_iff_exists'.1 (h.known b hb)
  have hkeys := h.keys
  rw [List.map_append, List.nodup_append] at hkeys
  rw [htag, List.mem_map]
  exact ⟨t, mem_openTags.2 ⟨b, hmem b hb, fun hkey =>
    hkeys.2.2 _ hkey _ (List.mem_map_of_mem hb) rfl, htag⟩, rfl⟩

/-- A phase from the start: it adds at most one element for each open tag, and where there is room
for all of them no tag is left out. -/
theorem addPhase_covers (all : List α) (hkeys : (selected.map key).Nodup)
    (hlength : selected.length ≤ cap) :
    ∃ new, addPhase cap key (novel tag) selected [] all = selected ++ new
      ∧ Sound cap key tag selected new ∧ (∀ b ∈ new, b ∈ all)
      ∧ new.length ≤ (openTags key tag selected all).length
      ∧ (selected.length + (openTags key tag selected all).length ≤ cap →
        ∀ b ∈ all, tag b ≠ none →
          key b ∈ (selected ++ new).map key ∨ tag b ∈ (selected ++ new).map tag)
      ∧ ∀ b ∈ all, key b ∈ (selected ++ new).map key ∨ tag b = none ∨ tag b ∈ new.map tag
        ∨ cap ≤ (selected ++ new).length := by
  obtain ⟨new, heq, hsound, hmem, hrest⟩ := addPhase_spec all
    (@sound_start _ _ _ _ _ tag _ hkeys hlength)
  rw [List.nil_append] at heq hsound hrest
  have hsubset := hsound.tags_subset hmem
  have hle := (hsound.tags.subperm hsubset).length_le
  rw [List.length_map, List.length_map] at hle
  refine ⟨new, heq, hsound, hmem, hle, fun hroom b hb hknown => ?_, hrest⟩
  by_contra hnot
  obtain ⟨hkey, htag⟩ := not_or.1 hnot
  rw [List.map_append, List.mem_append, not_or] at hkey htag
  have hfull : cap ≤ (selected ++ new).length := by
    rcases hrest b hb with h | h | h | h
    · rw [List.map_append, List.mem_append] at h
      exact absurd h (not_or.2 hkey)
    · exact absurd h hknown
    · exact absurd h htag.2
    · exact h
  -- the tag would be one more than the picked ones
  obtain ⟨t, ht⟩ := Option.ne_none_iff_exists'.1 hknown
  have hmore : (tag b :: new.map tag).length
      ≤ ((openTags key tag selected all).map some).length := by
    refine ((List.nodup_cons.2 ⟨htag.2, hsound.tags⟩).subperm fun t' ht' => ?_).length_le
    rcases List.mem_cons.1 ht' with rfl | ht'
    · rw [ht]
      exact List.mem_map_of_mem (mem_openTags.2 ⟨b, hb, hkey.1, ht⟩)
    · exact hsubset ht'
  rw [List.length_cons, List.length_map, List.length_map] at hmore
  rw [List.length_append] at hfull
  omega

/-- The first phase takes the first element. -/
theorem addPhase_first {rest : List α} (hcap : 0 < cap) (htag : tag a ≠ none) :
    a ∈ addPhase cap key (novel tag) [] [] (a :: rest) := by
  have hnovel : novel tag [] a = true := by
    rw [novel, Option.isSome_iff_ne_none.2 htag]
    rfl
  have hpick : Sound cap key tag [] [a] :=
    (@sound_start _ _ _ _ _ _ [] List.nodup_nil (Nat.le_of_lt hcap)).pick List.not_mem_nil hcap
      hnovel
  obtain ⟨new, heq, -⟩ := addPhase_spec rest hpick
  have hopen : ¬(key a ∈ (([] : List α) ++ []).map key ∨ cap ≤ (([] : List α) ++ []).length) :=
    not_or.2 ⟨List.not_mem_nil, Nat.not_le.2 hcap⟩
  rw [addPhase, if_neg hopen, if_pos hnovel, List.nil_append, heq]
  exact List.mem_cons_self

/-- The last phase is one by the keys. -/
theorem addPhase_any (picked rest : List α) :
    addPhase cap key (fun _ _ => true) selected picked rest
      = addPhase cap key (novel fun b => some (key b)) selected picked rest := by
  induction rest generalizing picked with
  | nil => rfl
  | cons a rest ih =>
    rw [addPhase, addPhase, ih, ih]
    split
    · rfl
    · rename_i hopen
      have hkey : some (key a) ∉ picked.map fun b => some (key b) := by
        intro h
        obtain ⟨b, hb, heq⟩ := List.mem_map.1 h
        refine hopen (.inl ?_)
        rw [← Option.some.inj heq]
        exact List.mem_map_of_mem (List.mem_append_right _ hb)
      rw [novel, decide_eq_true hkey]
      rfl

end Phases
