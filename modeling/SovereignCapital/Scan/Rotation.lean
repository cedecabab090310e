import SovereignCapital.Lib.Decimal
import SovereignCapital.Lib.Rotation

/-! # Rotating scans of the graph

A tick scans the graph in chunks that start one further each block, and one window of it at one
alternative notional. Edges are counted by their position in the graph.

* `covers_iff` : the windows of the blocks reach every edge, at every notional, exactly when the
  centred window of rotation zero is aligned to the edge cap and the two cycles are coprime.
-/

namespace SovereignCapital.Scan

open Decimal Rotation

/-! ## One tick -/

def seedLadder (seedAmounts : List Int) : List Int :=
  seedAmounts.foldl (fun ladder amount =>
    if 0 < amount ∧ amount ∉ ladder then ladder ++ [amount] else ladder) []

/-- `_selected_provider_frontier_seed_for_block`. -/
def frontierSeedForBlock (seedAmounts : List Int) (currentBlock : ℕ) : List Int × ℕ :=
  let ladder := seedLadder seedAmounts
  let rotationIndex := currentBlock % ladder.length
  match ladder[rotationIndex]? with
  | none => ([], 0)
  | some amount => ([amount], rotationIndex)

def sliceCount (graphEdgeCount size : ℕ) : ℕ := max 1 ((graphEdgeCount + size - 1) / size)

/-- `_selected_provider_full_scan_chunk_order`. -/
def fullScanChunkOrder (graphEdgeCount chunkSize rotationIndex : ℕ) : List ℕ :=
  cycle (sliceCount graphEdgeCount (max 1 chunkSize)) rotationIndex

/-- `_selected_provider_frontier_slice_offset`. -/
def frontierSliceOffset (graphEdgeCount edgeCap seedIndex seedCount rotationIndex : ℕ) : ℕ :=
  let cap := max 1 edgeCap
  let count := max 1 seedCount
  let maxOffset := graphEdgeCount - cap
  let baseOffset :=
    if count = 1 then maxOffset / 2
    else
      (roundHalfEven ((maxOffset : ℚ) * (min seedIndex (count - 1) : ℕ) / ((count : ℚ) - 1))).toNat
  if rotationIndex = 0 ∨ maxOffset = 0 then baseOffset
  else
    let chunkCount := sliceCount graphEdgeCount cap
    let baseChunk := min (chunkCount - 1) (baseOffset / cap)
    min maxOffset ((baseChunk + rotationIndex) % chunkCount * cap)

/-- The frontier scans of a block: each notional with the edges of its window. -/
def frontierScans (graphEdgeCount frontierEdgeCap : ℕ) (seedAmounts : List Int)
    (currentBlock : ℕ) : List (Int × List ℕ) :=
  let amounts := (frontierSeedForBlock seedAmounts currentBlock).1
  let rotationIndex := currentBlock % sliceCount graphEdgeCount frontierEdgeCap
  amounts.zipIdx.map fun seed =>
    (seed.1, slice (List.range graphEdgeCount)
      (frontierSliceOffset graphEdgeCount frontierEdgeCap seed.2 amounts.length rotationIndex)
      frontierEdgeCap)

/-- Everything is reached: every chunk, every edge, and every edge at every notional, in as many
blocks as there are chunks, windows, and windows for each notional. -/
structure Covers (n chunkSize cap : ℕ) (amounts : List Int) : Prop where
  order : ∀ block, (fullScanChunkOrder n chunkSize block).Perm (List.range (sliceCount n chunkSize))
  partition : ((List.range (sliceCount n chunkSize)).flatMap fun chunk =>
    slice (List.range n) (chunk * chunkSize) chunkSize) = List.range n
  first : ∀ start chunk, chunk < sliceCount n chunkSize → ∃! k, k < sliceCount n chunkSize
    ∧ (fullScanChunkOrder n chunkSize (start + k)).head? = some chunk
  windows : ∀ start edge, edge < n → ∃ k < sliceCount n cap,
    ∃ scan ∈ frontierScans n cap amounts (start + k), edge ∈ scan.2
  notionals : ∀ start edge, edge < n → ∀ amount ∈ amounts,
    ∃ k < amounts.length * sliceCount n cap,
      ∃ scan ∈ frontierScans n cap amounts (start + k), scan.1 = amount ∧ edge ∈ scan.2

/-! ## Chunks -/

variable {n cap size chunkSize edge rotation block : ℕ} {amounts : List Int}

theorem sliceCount_spec (hn : 1 ≤ n) (hsize : 1 ≤ size) :
    1 ≤ sliceCount n size ∧ n ≤ sliceCount n size * size ∧ (sliceCount n size - 1) * size < n := by
  obtain ⟨m, rfl⟩ : ∃ m, n = m + 1 := ⟨n - 1, by omega⟩
  have hcount : sliceCount (m + 1) size = m / size + 1 := by
    rw [sliceCount, show m + 1 + size - 1 = m + size by omega, Nat.add_div_right _ hsize]
    exact max_eq_right (Nat.succ_pos _)
  have hdiv := Nat.div_add_mod' m size
  have hmod := Nat.mod_lt m hsize
  rw [hcount]
  refine ⟨Nat.succ_pos _, ?_, ?_⟩
  · rw [Nat.add_mul]
    omega
  · rw [Nat.add_sub_cancel]
    omega

theorem fullScanChunkOrder_perm (n chunkSize block : ℕ) (hsize : 1 ≤ chunkSize) :
    (fullScanChunkOrder n chunkSize block).Perm (List.range (sliceCount n chunkSize)) := by
  rw [fullScanChunkOrder, max_eq_right hsize]
  exact cycle_perm _ _

theorem chunks_partition (hn : 1 ≤ n) (hsize : 1 ≤ chunkSize) :
    ((List.range (sliceCount n chunkSize)).flatMap fun chunk =>
      slice (List.range n) (chunk * chunkSize) chunkSize) = List.range n :=
  flatMap_slice chunkSize _ (by rw [List.length_range]; exact (sliceCount_spec hn hsize).2.1)

theorem first_once (hn : 1 ≤ n) (hsize : 1 ≤ chunkSize) (start : ℕ) {chunk : ℕ}
    (hchunk : chunk < sliceCount n chunkSize) :
    ∃! k, k < sliceCount n chunkSize
      ∧ (fullScanChunkOrder n chunkSize (start + k)).head? = some chunk := by
  have hhead : ∀ k, (fullScanChunkOrder n chunkSize (start + k)).head?
      = some ((start + k) % sliceCount n chunkSize) := fun k => by
    rw [fullScanChunkOrder, max_eq_right hsize, head?_cycle (sliceCount_spec hn hsize).1]
  obtain ⟨k, hk, hmod⟩ := exists_add_mod_eq start hchunk
  refine ⟨k, ⟨hk, by rw [hhead, hmod]⟩, fun k' hk' => ?_⟩
  have hmod' := Option.some.inj ((hhead k').symm.trans hk'.2)
  exact add_mod_inj hk'.1 hk (hmod'.trans hmod.symm)

/-! ## Windows -/

theorem seedLadder_eq (hdistinct : amounts.Nodup) (hpos : ∀ a ∈ amounts, 0 < a) :
    seedLadder amounts = amounts := by
  have hgeneral : ∀ ladder : List Int, (ladder ++ amounts).Nodup →
      amounts.foldl (fun ladder amount =>
        if 0 < amount ∧ amount ∉ ladder then ladder ++ [amount] else ladder) ladder
      = ladder ++ amounts := by
    clear hdistinct
    induction amounts with
    | nil => simp
    | cons a amounts ih =>
      intro ladder hnodup
      have hnot : a ∉ ladder := fun hmem =>
        List.disjoint_of_nodup_append hnodup hmem List.mem_cons_self
      rw [List.foldl_cons, if_pos ⟨hpos a List.mem_cons_self, hnot⟩,
        ih (fun b hb => hpos b (List.mem_cons_of_mem a hb)) _ (by simpa using hnodup),
        List.append_assoc, List.singleton_append]
  exact hgeneral [] hdistinct

/-- The window of a rotation begins here: one notional is scanned at a time. -/
def windowOffset (n cap rotation : ℕ) : ℕ :=
  if rotation = 0 ∨ n - cap = 0 then (n - cap) / 2
  else min (n - cap) ((min (sliceCount n cap - 1) ((n - cap) / 2 / cap) + rotation)
    % sliceCount n cap * cap)

theorem mem_frontierScans (hcap : 1 ≤ cap) (hdistinct : amounts.Nodup)
    (hpos : ∀ a ∈ amounts, 0 < a) (hne : amounts ≠ []) (scan : Int × List ℕ) :
    scan ∈ frontierScans n cap amounts block
      ↔ amounts[block % amounts.length]? = some scan.1
        ∧ scan.2 = slice (List.range n) (windowOffset n cap (block % sliceCount n cap)) cap := by
  have hlt : block % amounts.length < amounts.length :=
    Nat.mod_lt _ (List.length_pos_iff.2 hne)
  have hsome := List.getElem?_eq_getElem hlt
  have hseed : frontierSeedForBlock amounts block
      = ([amounts[block % amounts.length]], block % amounts.length) := by
    simp only [frontierSeedForBlock, seedLadder_eq hdistinct hpos, hsome]
  have hcap' : max 1 cap = cap := max_eq_right hcap
  simp only [frontierScans, hseed, List.zipIdx_cons, List.zipIdx_nil, List.map_cons, List.map_nil,
    List.mem_singleton, List.length_singleton, hsome, Option.some.injEq]
  simp only [frontierSliceOffset, windowOffset, hcap', max_self, if_true]
  constructor
  · rintro rfl
    exact ⟨rfl, rfl⟩
  · rintro ⟨hamount, hwindow⟩
    exact Prod.ext hamount.symm hwindow

def Reaches (n cap rotation edge : ℕ) : Prop :=
  windowOffset n cap rotation ≤ edge ∧ edge < windowOffset n cap rotation + cap

def slotOf (n cap rotation : ℕ) : ℕ := ((n - cap) / 2 / cap + rotation) % sliceCount n cap

theorem baseSlot_lt (hn : 1 ≤ n) (hcap : 1 ≤ cap) : (n - cap) / 2 / cap < sliceCount n cap := by
  obtain ⟨hone, hcount, -⟩ := sliceCount_spec hn hcap
  have hmul : (n - cap) / 2 / cap * cap ≤ (n - cap) / 2 := Nat.div_mul_le_self _ _
  by_contra hge
  have hle := Nat.mul_le_mul_right cap (not_lt.1 hge)
  omega

theorem windowOffset_of_ne (hn : 1 ≤ n) (hcap : 1 ≤ cap) (h : rotation ≠ 0) (hlong : n - cap ≠ 0) :
    windowOffset n cap rotation = min (n - cap) (slotOf n cap rotation * cap) := by
  have hbase := baseSlot_lt hn hcap
  rw [windowOffset, if_neg (not_or.2 ⟨h, hlong⟩),
    min_eq_right (Nat.le_sub_one_of_lt hbase), slotOf]

theorem windowOffset_zero (hn : 1 ≤ n) (hcap : 1 ≤ cap) (halign : cap ∣ (n - cap) / 2) :
    windowOffset n cap 0 = min (n - cap) (slotOf n cap 0 * cap) := by
  rw [windowOffset, if_pos (Or.inl rfl), slotOf, Nat.add_zero,
    Nat.mod_eq_of_lt (baseSlot_lt hn hcap), Nat.div_mul_cancel halign]
  omega

theorem windowOffset_aligned (hn : 1 ≤ n) (hcap : 1 ≤ cap) (halign : cap ∣ (n - cap) / 2) :
    windowOffset n cap rotation = min (n - cap) (slotOf n cap rotation * cap) := by
  by_cases h : rotation = 0
  · rw [h, windowOffset_zero hn hcap halign]
  by_cases hlong : n - cap = 0
  · rw [windowOffset, if_pos (Or.inr hlong), hlong, Nat.zero_min]
  · exact windowOffset_of_ne hn hcap h hlong

theorem reaches_of_slot (hn : 1 ≤ n) (hcap : 1 ≤ cap) (halign : cap ∣ (n - cap) / 2)
    (hedge : edge < n) (hslot : slotOf n cap rotation = edge / cap) :
    Reaches n cap rotation edge := by
  have hdiv := Nat.div_add_mod' edge cap
  have hmod := Nat.mod_lt edge hcap
  rw [Reaches, windowOffset_aligned hn hcap halign, hslot]
  omega

theorem edge_slot_lt (hn : 1 ≤ n) (hcap : 1 ≤ cap) (hedge : edge < n) :
    edge / cap < sliceCount n cap :=
  (Nat.div_lt_iff_lt_mul hcap).2 (hedge.trans_le (sliceCount_spec hn hcap).2.1)

theorem exists_owned (hn : 1 ≤ n) (hcap : 1 ≤ cap) (halign : cap ∣ (n - cap) / 2) {slot : ℕ}
    (hslot : slot < sliceCount n cap) :
    ∃ edge < n, ∀ rotation, Reaches n cap rotation edge → slotOf n cap rotation = slot := by
  obtain ⟨hone, hcount, hlast⟩ := sliceCount_spec hn hcap
  obtain ⟨last, hcountEq⟩ : ∃ last, sliceCount n cap = last + 1 :=
    ⟨sliceCount n cap - 1, by omega⟩
  rw [hcountEq] at hslot hcount hlast
  rw [Nat.add_mul, Nat.one_mul] at hcount
  rw [Nat.add_sub_cancel] at hlast
  have hbefore : ∀ a b, a < b → a * cap + cap ≤ b * cap := fun a b h => by
    have := Nat.mul_le_mul_right cap (Nat.succ_le_of_lt h)
    rwa [Nat.succ_mul] at this
  have hupto : ∀ rotation, slotOf n cap rotation ≤ last := fun rotation => by
    rw [slotOf, hcountEq]
    exact Nat.le_of_lt_succ (Nat.mod_lt _ (Nat.succ_pos last))
  by_cases hend : slot = last
  · -- the last edge is left to the last window
    refine ⟨n - 1, by omega, fun rotation ⟨_, hhigh⟩ => ?_⟩
    rw [windowOffset_aligned hn hcap halign] at hhigh
    by_contra hne
    have hlt := hbefore _ last (lt_of_le_of_ne (hupto rotation) (hend ▸ hne))
    omega
  · have hlt : slot < last := by omega
    have hroom := hbefore _ _ hlt
    refine ⟨slot * cap, by omega, fun rotation ⟨hlow, hhigh⟩ => ?_⟩
    rw [windowOffset_aligned hn hcap halign] at hlow hhigh
    rcases lt_trichotomy (slotOf n cap rotation) slot with h | h | h
    · have := hbefore _ _ h
      omega
    · exact h
    · have := hbefore _ _ h
      omega

/-- Where the centred window is not aligned, the first edge of its slot is in no window. -/
theorem not_reaches_of_not_aligned (hn : 1 ≤ n) (hcap : 1 ≤ cap) (halign : ¬ cap ∣ (n - cap) / 2)
    (hrotation : rotation < sliceCount n cap) :
    ¬ Reaches n cap rotation ((n - cap) / 2 / cap * cap) := by
  have hdiv := Nat.div_add_mod' ((n - cap) / 2) cap
  have hpos : 0 < (n - cap) / 2 % cap :=
    Nat.pos_of_ne_zero fun h => halign (Nat.dvd_of_mod_eq_zero h)
  rintro ⟨hlow, hhigh⟩
  by_cases h : rotation = 0
  · rw [windowOffset, if_pos (Or.inl h)] at hlow
    omega
  · rw [windowOffset_of_ne hn hcap h (by omega)] at hlow hhigh
    have hbase := baseSlot_lt hn hcap
    have hne : slotOf n cap rotation ≠ (n - cap) / 2 / cap := by
      intro heq
      exact h (add_mod_inj hrotation (by omega) (heq.trans (Nat.mod_eq_of_lt hbase).symm))
    rcases lt_or_gt_of_ne hne with hlt | hgt
    · have := Nat.mul_le_mul_right cap (Nat.succ_le_of_lt hlt)
      rw [Nat.succ_mul] at this
      omega
    · have := Nat.mul_le_mul_right cap (Nat.succ_le_of_lt hgt)
      rw [Nat.succ_mul] at this
      omega

/-! ## Coverage -/

theorem windows_of_aligned (hn : 1 ≤ n) (hcap : 1 ≤ cap) (halign : cap ∣ (n - cap) / 2)
    (start : ℕ) (hedge : edge < n) :
    ∃ k < sliceCount n cap, Reaches n cap ((start + k) % sliceCount n cap) edge := by
  obtain ⟨k, hk, hmod⟩ := exists_add_mod_eq ((n - cap) / 2 / cap + start)
    (edge_slot_lt hn hcap hedge)
  refine ⟨k, hk, reaches_of_slot hn hcap halign hedge ?_⟩
  rw [slotOf, Nat.add_mod_mod, ← Nat.add_assoc, hmod]

theorem notionals_of_coprime (hn : 1 ≤ n) (hcap : 1 ≤ cap) (halign : cap ∣ (n - cap) / 2)
    {count : ℕ} (hcoprime : Nat.Coprime count (sliceCount n cap)) (start : ℕ) {index : ℕ}
    (hindex : index < count) (hedge : edge < n) :
    ∃ k < count * sliceCount n cap, (start + k) % count = index
      ∧ Reaches n cap ((start + k) % sliceCount n cap) edge := by
  obtain ⟨slot, hslot, hmod⟩ := exists_add_mod_eq ((n - cap) / 2 / cap)
    (edge_slot_lt hn hcap hedge)
  obtain ⟨k, hk, hkindex, hkslot⟩ := exists_add_mod_mod_eq hcoprime start hindex hslot
  refine ⟨k, hk, hkindex, reaches_of_slot hn hcap halign hedge ?_⟩
  rw [hkslot, slotOf, hmod]

/-- Cycles with a common divisor leave a slot out at the first notional. -/
theorem not_notionals_of_not_coprime (hn : 1 ≤ n) (hcap : 1 ≤ cap)
    (halign : cap ∣ (n - cap) / 2) {count : ℕ}
    (hcoprime : ¬ Nat.Coprime count (sliceCount n cap)) :
    ∃ edge < n, ∀ k, k % count = 0 → ¬ Reaches n cap (k % sliceCount n cap) edge := by
  have hone : 1 < sliceCount n cap ∨ sliceCount n cap = 1 := by
    have := (sliceCount_spec hn hcap).1
    omega
  have hcount : 1 < sliceCount n cap :=
    hone.resolve_right fun h => hcoprime (h ▸ Nat.coprime_one_right count)
  obtain ⟨edge, hedge, howned⟩ := exists_owned hn hcap halign
    (Nat.mod_lt ((n - cap) / 2 / cap + 1) (by omega : 0 < sliceCount n cap))
  refine ⟨edge, hedge, fun k hk hreaches => hcoprime ?_⟩
  -- only the rotation one is for that slot, and the blocks of the notional have other rotations
  have hrotation : k % sliceCount n cap = 1 :=
    add_mod_inj (Nat.mod_lt _ (by omega)) hcount (howned _ hreaches)
  have hdvd : Nat.gcd count (sliceCount n cap) ∣ k :=
    (Nat.gcd_dvd_left _ _).trans (Nat.dvd_of_mod_eq_zero hk)
  have hdvdOne := (Nat.dvd_mod_iff (Nat.gcd_dvd_right count (sliceCount n cap))).2 hdvd
  rw [hrotation, Nat.dvd_one] at hdvdOne
  exact hdvdOne

theorem exists_frontierScan_iff (hcap : 1 ≤ cap) (hdistinct : amounts.Nodup)
    (hpos : ∀ a ∈ amounts, 0 < a) (hne : amounts ≠ []) (hedge : edge < n) (P : Int → Prop) :
    (∃ scan ∈ frontierScans n cap amounts block, P scan.1 ∧ edge ∈ scan.2)
      ↔ (∃ amount, amounts[block % amounts.length]? = some amount ∧ P amount)
        ∧ Reaches n cap (block % sliceCount n cap) edge := by
  simp only [mem_frontierScans hcap hdistinct hpos hne]
  constructor
  · rintro ⟨⟨amount, window⟩, ⟨hamount, rfl⟩, hP, hmem⟩
    exact ⟨⟨amount, hamount, hP⟩, (mem_slice_range.1 hmem).1, (mem_slice_range.1 hmem).2.1⟩
  · rintro ⟨⟨amount, hamount, hP⟩, hlow, hhigh⟩
    exact ⟨⟨amount, _⟩, ⟨hamount, rfl⟩, hP, mem_slice_range.2 ⟨hlow, hhigh, hedge⟩⟩

/-- The scans cover the graph exactly when the centred window is aligned to the slots and the cycle
of the notionals is coprime to that of the windows. -/
theorem covers_iff (n chunkSize cap : ℕ) (amounts : List Int) (hn : 1 ≤ n)
    (hsize : 1 ≤ chunkSize) (hcap : 1 ≤ cap) (hdistinct : amounts.Nodup)
    (hpos : ∀ a ∈ amounts, 0 < a) (hne : amounts ≠ []) :
    Covers n chunkSize cap amounts
      ↔ cap ∣ (n - cap) / 2 ∧ Nat.Coprime amounts.length (sliceCount n cap) := by
  have hlength : 0 < amounts.length := List.length_pos_iff.2 hne
  have hscan := fun block edge (hedge : edge < n) P =>
    @exists_frontierScan_iff n cap edge block amounts hcap hdistinct hpos hne hedge P
  constructor
  · intro hcovers
    have halign : cap ∣ (n - cap) / 2 := by
      by_contra halign
      have hedge : (n - cap) / 2 / cap * cap < n := by
        have := Nat.div_mul_le_self ((n - cap) / 2) cap
        omega
      obtain ⟨k, -, scan, hmem, hin⟩ := hcovers.windows 0 _ hedge
      have hreaches := ((hscan _ _ hedge fun _ => True).1 ⟨scan, hmem, trivial, hin⟩).2
      exact not_reaches_of_not_aligned hn hcap halign
        (Nat.mod_lt _ (sliceCount_spec hn hcap).1) hreaches
    refine ⟨halign, ?_⟩
    by_contra hcoprime
    obtain ⟨edge, hedge, hnone⟩ := not_notionals_of_not_coprime hn hcap halign hcoprime
    obtain ⟨k, -, scan, hmem, hfirst, hin⟩ :=
      hcovers.notionals 0 edge hedge amounts[0] (List.getElem_mem hlength)
    obtain ⟨⟨amount, hamount, heq⟩, hreaches⟩ :=
      (hscan _ _ hedge (· = amounts[0])).1 ⟨scan, hmem, hfirst, hin⟩
    rw [Nat.zero_add] at hamount hreaches
    refine hnone k ?_ hreaches
    rw [heq, ← List.getElem?_eq_getElem hlength] at hamount
    exact (List.getElem?_inj (Nat.mod_lt k hlength) hdistinct).1 hamount
  · rintro ⟨halign, hcoprime⟩
    refine ⟨fun block => fullScanChunkOrder_perm n chunkSize block hsize,
      chunks_partition hn hsize, fun start _ => first_once hn hsize start,
      fun start edge hedge => ?_, fun start edge hedge amount hamount => ?_⟩
    · obtain ⟨k, hk, hreaches⟩ := windows_of_aligned hn hcap halign start hedge
      obtain ⟨scan, hmem, -, hin⟩ := (hscan (start + k) edge hedge fun _ => True).2
        ⟨⟨_, List.getElem?_eq_getElem (Nat.mod_lt _ hlength), trivial⟩, hreaches⟩
      exact ⟨k, hk, scan, hmem, hin⟩
    · obtain ⟨index, hindex, rfl⟩ := List.mem_iff_getElem.1 hamount
      obtain ⟨k, hk, hkindex, hreaches⟩ :=
        notionals_of_coprime hn hcap halign hcoprime start hindex hedge
      refine ⟨k, hk, (hscan (start + k) edge hedge (· = amounts[index])).2 ⟨⟨_, ?_, rfl⟩, hreaches⟩⟩
      rw [hkindex, List.getElem?_eq_getElem hindex]

/-- Five windows of thirty-two edges and two notionals. -/
theorem covers_of_aligned : Covers 160 8 32 [5, 7] :=
  (covers_iff 160 8 32 [5, 7] (by decide) (by decide) (by decide) (by decide) (by decide)
    (by decide)).2 ⟨by decide, by decide⟩

/-- With sixty-five edges the windows begin at sixteen, thirty-two and thirty-three. -/
theorem not_covers_of_centred : ¬ Covers 65 8 32 [5] := by
  intro hcovers
  obtain ⟨k, hk, scan, hmem, hin⟩ := hcovers.windows 0 0 (by decide)
  have hthree : sliceCount 65 32 = 3 := by decide
  rw [hthree] at hk
  have hwindows : ∀ k < 3, ∀ scan ∈ frontierScans 65 32 [5] (0 + k), 0 ∉ scan.2 := by decide
  exact hwindows k hk scan hmem hin

end SovereignCapital.Scan
