import SovereignCapital.Prime.Conservation
import SovereignCapital.Prime.Faultless

/-! # The two commit paths

The direct path changes the memory, the coordinator adopts a payload that was rounded. For
each kind of transition there is an exact condition on the memory under which both leave the
same book; it says that the rounding loses nothing and that the few checks the two paths make
in another way come out alike.
-/

namespace SovereignCapital.Prime

open Decimal

/-- Two books a decision and a reader cannot tell apart: the same active loans and the same
numbers. -/
structure SameBook (b b' : Book) : Prop where
  loans : ∀ loanId, (b.loans.get? loanId).filter Loan.active
    = (b'.loans.get? loanId).filter Loan.active
  borrowedUsd : b.borrowedUsd = b'.borrowedUsd
  capacityUsd : b.capacityUsd = b'.capacityUsd
  familyExposure : ∀ family, b.familyExposure.get? family = b'.familyExposure.get? family
  utilization : b.utilization = b'.utilization
  inventory : ∀ asset, b.inventory.get? asset = b'.inventory.get? asset

theorem SameBook.refl (b : Book) : SameBook b b :=
  ⟨fun _ => rfl, rfl, rfl, fun _ => rfl, rfl, fun _ => rfl⟩

/-! ## Roundings that lose nothing -/

theorem pyRound_two_eight_iff {x : ℚ} : pyRound 2 (pyRound 8 x) = x ↔ Dec 2 x := by
  constructor
  · intro h
    rw [← h]
    exact dec_pyRound 2 _
  · intro h
    rw [(h.of_le (by norm_num)).pyRound_eq, h.pyRound_eq]

theorem pyRound_eight_eight_iff {x : ℚ} : pyRound 8 (pyRound 8 x) = x ↔ Dec 8 x := by
  rw [(dec_pyRound 8 x).pyRound_eq]
  exact pyRound_eq_self_iff

/-- The values of a dictionary survive a rounding when each of them does. -/
theorem get?_round_iff {d : Dict String ℚ} {round : ℚ → ℚ} {p : ℚ → Prop}
    (hround : ∀ x, round x = x ↔ p x) :
    (∀ key, d.get? key = (d.get? key).map round) ↔ ∀ key v, d.get? key = some v → p v := by
  constructor
  · intro h key v hkey
    have heq := h key
    rw [hkey, Option.map_some, Option.some.injEq] at heq
    exact (hround v).1 heq.symm
  · intro h key
    cases hkey : d.get? key with
    | none => rfl
    | some v => rw [Option.map_some, (hround v).2 (h key v hkey)]

/-- The conditions on an assigned dictionary, for its key and for the others. -/
theorem forall_get?_set {d : Dict String ℚ} {k : String} {v : ℚ} {p : ℚ → Prop} :
    (∀ key w, (d.set k v).get? key = some w → p w)
      ↔ p v ∧ ∀ key w, key ≠ k → d.get? key = some w → p w := by
  constructor
  · intro h
    refine ⟨h k v (Dict.get?_set_self d k v), ?_⟩
    intro key w hne hkey
    exact h key w (by rw [Dict.get?_set_of_ne d v hne, hkey])
  · rintro ⟨hv, hrest⟩ key w hkey
    rw [Dict.get?_set] at hkey
    split at hkey
    · cases hkey
      exact hv
    · rename_i hne
      exact hrest key w hne hkey

/-- The capacity a payload brings back. -/
def adoptedCapacity (raw : Option Usd) : Option Usd :=
  parseCapacityUsd ((parseCapacityUsd raw).map (pyRound 2))

theorem adoptedCapacity_round_iff {capacity : Option Usd} :
    capacity = adoptedCapacity (capacity.map (pyRound 8))
      ↔ ∀ c, capacity = some c → 0 < c ∧ Dec 2 c := by
  cases capacity with
  | none => simp [adoptedCapacity, parseCapacityUsd]
  | some c =>
    simp only [Option.map_some, Option.some.injEq, forall_eq']
    constructor
    · intro h
      have hpos : 0 < c := parseCapacityUsd_pos h.symm
      refine ⟨hpos, ?_⟩
      rcases (pyRound_nonneg 8 hpos.le).eq_or_lt with hzero | hround
      · rw [← hzero] at h
        cases h
      · simp only [adoptedCapacity, parseCapacityUsd_of_pos hround, Option.map_some] at h
        rcases (pyRound_nonneg 2 hround.le).eq_or_lt with hzero | hround'
        · rw [← hzero] at h
          cases h
        · rw [parseCapacityUsd_of_pos hround'] at h
          exact pyRound_two_eight_iff.1 (Option.some.inj h).symm
    · rintro ⟨hpos, hdec⟩
      have height : pyRound 8 c = c := (hdec.of_le (by norm_num)).pyRound_eq
      simp only [adoptedCapacity, height, parseCapacityUsd_of_pos hpos, Option.map_some,
        hdec.pyRound_eq]

theorem capacityLimit_none_of_pos {b : Book} (h : 0 < b.capacityLimit none) :
    b.capacityUsd = some (b.capacityLimit none) := by
  unfold Book.capacityLimit at h ⊢
  simp only [Option.bind_none] at h ⊢
  cases hcapacity : b.capacityUsd with
  | none =>
    rw [hcapacity] at h
    exact absurd h (lt_irrefl 0)
  | some c =>
    rw [hcapacity] at h
    rcases lt_or_ge 0 c with hpos | hneg
    · rw [parseCapacityUsd_of_pos hpos]
      rfl
    · have hnone : parseCapacityUsd (some c) = none := if_pos hneg
      rw [hnone] at h
      exact absurd h (lt_irrefl 0)

/-! ## Adopting a payload -/

/-- The book a payload made from raw numbers brings back. -/
def RawPayload.adopted (raw : RawPayload) : Book :=
  (adoptStatePayload (stateSnapshotPayloadFromRaw raw)).toBook

/-- A book whose utilization follows from its total and its capacity agrees with an adopted
payload of its loans when the numbers do. -/
theorem sameBook_adopted_iff {b : Book} {raw : RawPayload} (hloans : b.loans = raw.loans)
    {total : Usd} (htotal : raw.borrowedUsd = pyRound 8 total) (hborrowed : b.borrowedUsd = total) :
    SameBook b raw.adopted
      ↔ Dec 2 total ∧ b.capacityUsd = adoptedCapacity raw.capacityUsd
        ∧ (∀ family, b.familyExposure.get? family
            = (raw.familyExposure.get? family).map (pyRound 2))
        ∧ b.utilization = utilizationAt b.borrowedUsd (b.capacityUsd.getD 0)
        ∧ ∀ asset, b.inventory.get? asset = (raw.inventory.get? asset).map (pyRound 8) := by
  have hexposure : ∀ family, raw.adopted.familyExposure.get? family
      = (raw.familyExposure.get? family).map (pyRound 2) := fun family => Dict.get?_mapVal _ _ _
  have hinventory : ∀ asset, raw.adopted.inventory.get? asset
      = (raw.inventory.get? asset).map (pyRound 8) := fun asset => Dict.get?_mapVal _ _ _
  have htwo : raw.adopted.borrowedUsd = pyRound 2 (pyRound 8 total) := by
    rw [← htotal]
    rfl
  have hutilization : raw.adopted.utilization
      = utilizationAt raw.adopted.borrowedUsd (raw.adopted.capacityUsd.getD 0) := rfl
  constructor
  · intro h
    refine ⟨?_, h.capacityUsd, fun family => ?_, ?_, fun asset => ?_⟩
    · apply pyRound_two_eight_iff.1
      rw [← htwo, ← h.borrowedUsd, hborrowed]
    · rw [h.familyExposure, hexposure]
    · rw [h.utilization, hutilization, h.borrowedUsd, h.capacityUsd]
    · rw [h.inventory, hinventory]
  · rintro ⟨hdec, hcapacity, hfamilies, hutil, hassets⟩
    have hsame : b.borrowedUsd = raw.adopted.borrowedUsd := by
      rw [htwo, pyRound_two_eight_iff.2 hdec, hborrowed]
    have hcapacity' : b.capacityUsd = raw.adopted.capacityUsd := hcapacity
    refine ⟨fun loanId => ?_, hsame, hcapacity', fun family => ?_, ?_, fun asset => ?_⟩
    · rw [hloans]
      rfl
    · rw [hfamilies, hexposure]
    · rw [hutil, hutilization, ← hsame, ← hcapacity']
    · rw [hassets, hinventory]

theorem get?_exposure_iff {d : Dict String Usd} :
    (∀ family, d.get? family = ((d.mapVal (pyRound 8)).get? family).map (pyRound 2))
      ↔ ∀ family v, d.get? family = some v → Dec 2 v := by
  have hround := @get?_round_iff d (fun x => pyRound 2 (pyRound 8 x)) (Dec 2)
    (fun _ => pyRound_two_eight_iff)
  rw [← hround]
  refine forall_congr' fun family => ?_
  rw [Dict.get?_mapVal, Option.map_map]
  rfl

theorem get?_pool_iff {d : Dict String Usd} :
    (∀ asset, d.get? asset = ((d.mapVal (pyRound 8)).get? asset).map (pyRound 8))
      ↔ ∀ asset v, d.get? asset = some v → Dec 8 v := by
  have hround := @get?_round_iff d (fun x => pyRound 8 (pyRound 8 x)) (Dec 8)
    (fun _ => pyRound_eight_eight_iff)
  rw [← hround]
  refine forall_congr' fun asset => ?_
  rw [Dict.get?_mapVal, Option.map_map]
  rfl

theorem get?_pool_set_iff {d : Dict String Usd} {asset : String} {v w : Usd} :
    (∀ key, (d.set asset v).get? key
        = (((d.mapVal (pyRound 8)).set asset (pyRound 8 w)).get? key).map (pyRound 8))
      ↔ pyRound 8 w = v ∧ ∀ key x, key ≠ asset → d.get? key = some x → Dec 8 x := by
  constructor
  · intro h
    constructor
    · have hkey := h asset
      rw [Dict.get?_set_self, Dict.get?_set_self, Option.map_some, Option.some.injEq,
        (dec_pyRound 8 w).pyRound_eq] at hkey
      exact hkey.symm
    · intro key x hne hx
      have hkey := h key
      rw [Dict.get?_set_of_ne d _ hne, Dict.get?_set_of_ne _ _ hne, Dict.get?_mapVal, hx,
        Option.map_some, Option.map_some, Option.some.injEq] at hkey
      exact pyRound_eight_eight_iff.1 hkey.symm
  · rintro ⟨hv, hrest⟩ key
    by_cases hne : key = asset
    · rw [hne, Dict.get?_set_self, Dict.get?_set_self, Option.map_some,
        (dec_pyRound 8 w).pyRound_eq, hv]
    · rw [Dict.get?_set_of_ne d _ hne, Dict.get?_set_of_ne _ _ hne, Dict.get?_mapVal]
      cases hx : d.get? key with
      | none => rfl
      | some x =>
        rw [Option.map_some, Option.map_some, pyRound_eight_eight_iff.2 (hrest key x hne hx)]

/-! ## Opening -/

/-- The numbers of the memory after the open are whole cents, and the pool has eight
decimals. -/
structure OpenExact (s : PrimeState) (policy : StagePolicy) (loan : Loan) : Prop where
  borrowed : Dec 2 (s.borrowedUsd + loan.notionalUsd)
  capacity : Dec 2 (s.capacityLimit (some policy))
  family : Dec 2 (s.familyExposure.getD loan.family 0 + loan.notionalUsd)
  families : ∀ family v, family ≠ loan.family → s.familyExposure.get? family = some v → Dec 2 v
  asset : pyRound 8 (pyRound 8 (s.inventory.getD loan.asset 0) - loan.reserved)
    = s.inventory.getD loan.asset 0 - loan.reserved
  assets : ∀ asset v, asset ≠ loan.asset → s.inventory.get? asset = some v → Dec 8 v

theorem sameBook_open_iff {s : PrimeState} {policy : StagePolicy} {loan : Loan}
    {inventory : Inventory} (hcapacity : 0 < s.capacityLimit (some policy))
    (htracked : s.inventory.contains loan.asset = true)
    (hreserved : loan.reserved = loan.collateralReservedUsd)
    (hreserve : s.inventory.reserve loan.asset loan.reserved = some inventory) :
    SameBook (s.toBook.opened loan (s.capacityLimit (some policy)) inventory)
        (s.openRaw policy loan).adopted
      ↔ OpenExact s policy loan := by
  have hcontains : s.inventory.snapshot.contains loan.asset = true := by
    simpa [Inventory.snapshot, Dict.contains] using htracked
  have hpool : (s.openRaw policy loan).inventory = (s.inventory.mapVal (pyRound 8)).set loan.asset
      (pyRound 8 (pyRound 8 (s.inventory.getD loan.asset 0) - loan.reserved)) := by
    rw [PrimeState.openRaw, if_pos hcontains, hreserved]
    simp only [Inventory.snapshot, getD_round]
  have hinventory : inventory = s.inventory.set loan.asset
      (s.inventory.getD loan.asset 0 - loan.reserved) := (reserve_eq_some hreserve).2
  have hcap := @adoptedCapacity_round_iff (some (s.capacityLimit (some policy)))
  rw [@sameBook_adopted_iff _ (s.openRaw policy loan) rfl (s.borrowedUsd + loan.notionalUsd) rfl rfl,
    hpool]
  show (_ ∧ some (s.capacityLimit (some policy))
      = adoptedCapacity ((some (s.capacityLimit (some policy))).map (pyRound 8))
    ∧ (∀ family, (s.familyExposure.set loan.family
        (s.familyExposure.getD loan.family 0 + loan.notionalUsd)).get? family
      = (((s.familyExposure.set loan.family (s.familyExposure.getD loan.family 0
        + loan.notionalUsd)).mapVal (pyRound 8)).get? family).map (pyRound 2))
    ∧ _ ∧ ∀ asset, inventory.get? asset = _) ↔ _
  rw [hcap, get?_exposure_iff, forall_get?_set, hinventory, get?_pool_set_iff]
  constructor
  · rintro ⟨hborrowed, hcents, ⟨hfamily, hfamilies⟩, -, hasset, hassets⟩
    exact ⟨hborrowed, (hcents _ rfl).2, hfamily, hfamilies, hasset, hassets⟩
  · rintro ⟨hborrowed, hcents, hfamily, hfamilies, hasset, hassets⟩
    refine ⟨hborrowed, ?_, ⟨hfamily, hfamilies⟩, rfl, hasset, hassets⟩
    intro c hc
    cases hc
    exact ⟨hcapacity, hcents⟩

/-! ## Settling -/

/-- The numbers of the memory after the settlement are whole cents, its family is not down to
nothing, and the pool has eight decimals. -/
structure SettleExact (s : PrimeState) (loan : Loan) : Prop where
  borrowed : Dec 2 (max 0 (s.borrowedUsd - loan.notionalUsd))
  capacity : Dec 2 (s.capacityLimit none)
  remains : 1 / 10 ^ 9 < max 0 (s.familyExposure.getD loan.family 0 - loan.notionalUsd)
  family : Dec 2 (max 0 (s.familyExposure.getD loan.family 0 - loan.notionalUsd))
  families : ∀ family v, family ≠ loan.family → s.familyExposure.get? family = some v → Dec 2 v
  asset : loan.asset ≠ "" → pyRound 8 (pyRound 8 (s.inventory.getD loan.asset 0) + loan.reserved)
    = s.inventory.getD loan.asset 0 + loan.reserved
  assets : ∀ asset v, loan.asset = "" ∨ asset ≠ loan.asset → s.inventory.get? asset = some v →
    Dec 8 v

/-- The exposure a prepared settlement leaves is that of the direct one when the family keeps
some and the numbers are whole cents. -/
theorem exposureAfter_iff {b : Book} {loan : Loan} :
    (∀ family, (b.familyExposure.set loan.family
          (max 0 (b.familyExposure.getD loan.family 0 - loan.notionalUsd))).get? family
        = (((b.exposureAfter loan).mapVal (pyRound 8)).get? family).map (pyRound 2))
      ↔ 1 / 10 ^ 9 < max 0 (b.familyExposure.getD loan.family 0 - loan.notionalUsd)
        ∧ Dec 2 (max 0 (b.familyExposure.getD loan.family 0 - loan.notionalUsd))
        ∧ ∀ family v, family ≠ loan.family → b.familyExposure.get? family = some v → Dec 2 v := by
  by_cases hsmall : max 0 (b.familyExposure.getD loan.family 0 - loan.notionalUsd) ≤ 1 / 10 ^ 9
  · constructor
    · -- The direct path keeps the family, the prepared one drops it.
      intro h
      have hfamily := h loan.family
      rw [Dict.get?_set_self, Book.exposureAfter, if_pos hsmall, Dict.get?_mapVal, Dict.get?_erase,
        if_pos rfl] at hfamily
      cases hfamily
    · rintro ⟨hremains, -⟩
      exact absurd hsmall (not_le.2 hremains)
  · rw [Book.exposureAfter, if_neg hsmall, get?_exposure_iff, forall_get?_set]
    constructor
    · rintro ⟨hfamily, hfamilies⟩
      exact ⟨not_le.1 hsmall, hfamily, hfamilies⟩
    · rintro ⟨-, hfamily, hfamilies⟩
      exact ⟨hfamily, hfamilies⟩

theorem sameBook_settle_iff {s : PrimeState} {loanId : String} {loan : Loan} (now : Int)
    (hcapacity : 0 < s.capacityLimit none) :
    SameBook (s.toBook.settled loanId loan now (s.toBook.releaseFor loan))
        (s.settledRaw loanId loan now).adopted
      ↔ SettleExact s loan := by
  have hcap := @adoptedCapacity_round_iff (some (s.capacityLimit none))
  rw [@sameBook_adopted_iff _ (s.settledRaw loanId loan now) rfl
    (max 0 (s.borrowedUsd - loan.notionalUsd)) rfl rfl]
  have hutilization : (s.toBook.settled loanId loan now (s.toBook.releaseFor loan)).utilization
      = utilizationAt (max 0 (s.borrowedUsd - loan.notionalUsd)) (s.capacityUsd.getD 0) := by
    rw [capacityLimit_none_of_pos hcapacity]
    rfl
  show (_ ∧ s.capacityUsd = adoptedCapacity ((some (s.capacityLimit none)).map (pyRound 8))
    ∧ (∀ family, (s.familyExposure.set loan.family
        (max 0 (s.familyExposure.getD loan.family 0 - loan.notionalUsd))).get? family
      = (((s.toBook.exposureAfter loan).mapVal (pyRound 8)).get? family).map (pyRound 2))
    ∧ _ ∧ ∀ asset, (s.toBook.releaseFor loan).get? asset
      = ((s.settledRaw loanId loan now).inventory.get? asset).map (pyRound 8)) ↔ _
  rw [capacityLimit_none_of_pos hcapacity, hcap, exposureAfter_iff]
  -- The pool is touched only when the loan has an asset.
  have hpool : (∀ asset, (s.toBook.releaseFor loan).get? asset
        = ((s.settledRaw loanId loan now).inventory.get? asset).map (pyRound 8))
      ↔ (loan.asset ≠ "" → pyRound 8 (pyRound 8 (s.inventory.getD loan.asset 0) + loan.reserved)
          = s.inventory.getD loan.asset 0 + loan.reserved)
        ∧ ∀ asset v, loan.asset = "" ∨ asset ≠ loan.asset → s.inventory.get? asset = some v →
          Dec 8 v := by
    by_cases hasset : loan.asset = ""
    · rw [Book.releaseFor, if_neg (not_not.2 hasset), PrimeState.settledRaw]
      simp only [if_neg (not_not.2 hasset)]
      rw [Inventory.snapshot, get?_pool_iff]
      constructor
      · intro h
        exact ⟨fun hne => absurd hasset hne, fun asset v _ => h asset v⟩
      · rintro ⟨-, h⟩ asset v
        exact h asset v (Or.inl hasset)
    · rw [Book.releaseFor, if_pos hasset, PrimeState.settledRaw]
      simp only [if_pos hasset]
      rw [Inventory.release, Inventory.snapshot, getD_round, get?_pool_set_iff]
      constructor
      · rintro ⟨hsum, hassets⟩
        exact ⟨fun _ => hsum, fun asset v hne => hassets asset v (hne.resolve_left hasset)⟩
      · rintro ⟨hsum, hassets⟩
        exact ⟨hsum hasset, fun asset v hne => hassets asset v (Or.inr hne)⟩
  rw [hpool]
  constructor
  · rintro ⟨hborrowed, hcents, ⟨hremains, hfamily, hfamilies⟩, -, hasset, hassets⟩
    exact ⟨hborrowed, (hcents _ rfl).2, hremains, hfamily, hfamilies, hasset, hassets⟩
  · rintro ⟨hborrowed, hcents, hremains, hfamily, hfamilies, hasset, hassets⟩
    refine ⟨hborrowed, ?_, ⟨hremains, hfamily, hfamilies⟩, hutilization, hasset, hassets⟩
    intro c hc
    cases hc
    exact ⟨hcapacity, hcents⟩

/-! ## Payloads of an unchanged book -/

/-- The numbers of the book are whole cents, the pool has eight decimals, and the utilization
is that of the total and the capacity. -/
structure BookExact (b : Book) : Prop where
  borrowed : Dec 2 b.borrowedUsd
  capacity : ∀ c, b.capacityUsd = some c → 0 < c ∧ Dec 2 c
  families : ∀ family v, b.familyExposure.get? family = some v → Dec 2 v
  utilization : b.utilization = utilizationAt b.borrowedUsd (b.capacityUsd.getD 0)
  assets : ∀ asset v, b.inventory.get? asset = some v → Dec 8 v

theorem sameBook_round_iff {b : Book} {raw : RawPayload} (hloans : b.loans = raw.loans)
    (hborrowed : raw.borrowedUsd = pyRound 8 b.borrowedUsd)
    (hcapacity : raw.capacityUsd = b.capacityUsd.map (pyRound 8))
    (hexposure : raw.familyExposure = b.familyExposure.mapVal (pyRound 8))
    (hinventory : raw.inventory = b.inventory.snapshot) :
    SameBook b raw.adopted ↔ BookExact b := by
  rw [sameBook_adopted_iff hloans hborrowed rfl, hcapacity, hexposure, hinventory,
    adoptedCapacity_round_iff, get?_exposure_iff, Inventory.snapshot, get?_pool_iff]
  constructor
  · rintro ⟨hdec, hcents, hfamilies, hutilization, hassets⟩
    exact ⟨hdec, hcents, hfamilies, hutilization, hassets⟩
  · rintro ⟨hdec, hcents, hfamilies, hutilization, hassets⟩
    exact ⟨hdec, hcents, hfamilies, hutilization, hassets⟩

/-- Nothing was ever booked, as in the payload of a missing snapshot. -/
structure BookBlank (b : Book) : Prop where
  loans : ∀ loanId loan, b.loans.get? loanId = some loan → loan.active = false
  borrowed : b.borrowedUsd = 0
  capacity : b.capacityUsd = none
  families : ∀ family, b.familyExposure.get? family = none
  utilization : b.utilization = 0
  assets : ∀ asset, b.inventory.get? asset = none

theorem sameBook_bare_iff {b : Book} (now : Int) :
    SameBook b (adoptStatePayload (StatePayload.bare now)).toBook ↔ BookBlank b := by
  constructor
  · intro h
    refine ⟨?_, h.borrowedUsd, h.capacityUsd, h.familyExposure, h.utilization, h.inventory⟩
    intro loanId loan hfound
    have hnone : (b.loans.get? loanId).filter Loan.active = none := h.loans loanId
    rw [hfound] at hnone
    simpa [Option.filter] using hnone
  · intro h
    refine ⟨?_, h.borrowed, h.capacity, h.families, h.utilization, h.assets⟩
    intro loanId
    show _ = none
    cases hfound : b.loans.get? loanId with
    | none => rfl
    | some loan => simp [Option.filter, h.loans loanId loan hfound]

/-! ## The paths side by side -/

/-- A direct and a coordinated `allocate` decide alike and leave the same book. -/
structure OpenPathsAgree (clock : Clock) (w : World) (req : PrimeBorrowRequest)
    (policy : StagePolicy) : Prop where
  decision : (allocate false .none clock w req policy).2.isGranted
    = (allocate true .none clock w req policy).2.isGranted
  book : SameBook (allocate false .none clock w req policy).1.prime.toBook
    (allocate true .none clock w req policy).1.prime.toBook

/-- A direct and a coordinated settlement decide alike and leave the same book. -/
structure SettlePathsAgree (clock : Clock) (w : World) (loanId : String) (realizedPnlUsd : Usd)
    (receiptId : String) : Prop where
  decision : (settle .none clock w loanId realizedPnlUsd).2.isSettled
    = (prepareSettlementTransition w.prime loanId realizedPnlUsd receiptId clock).ok
  book : SameBook (settle .none clock w loanId realizedPnlUsd).1.prime.toBook
    (commitPrimeSettlement .none w
      (prepareSettlementTransition w.prime loanId realizedPnlUsd receiptId clock)
      clock.now).1.prime.toBook

/-- When the request is granted, the exact pool covers the reservation and the numbers after
the open are exact. -/
def OpenAlike (clock : Clock) (w : World) (req : PrimeBorrowRequest) (policy : StagePolicy) : Prop :=
  ∀ loan transition, grantedLoan w.prime.toBook req policy clock = some loan →
    prepareOpenTransition w.prime policy loan clock = .ok transition →
      loan.reserved ≤ w.prime.inventory.getD loan.asset 0 ∧ OpenExact w.prime policy loan

/-- A settled loan leaves exact numbers, a disputed one finds exact numbers under a capacity,
and a settlement that is rejected finds a blank book. -/
structure SettleAlike (s : PrimeState) (loanId : String) : Prop where
  settled : ∀ loan, s.settlingLoan loanId = some loan → SettleExact s loan
  disputed : ∀ loan, s.stateReady = true → FindsUntracked s loanId loan →
    0 < s.capacityLimit none ∧ BookExact s.toBook
  rejected : s.settlingLoan loanId = none →
    (s.stateReady = false ∨ ∀ loan, ¬ FindsUntracked s loanId loan) → BookBlank s.toBook

theorem commitPrimeSettlement_none_book (w : World) (t : SettlementTransition) (now : Int) :
    (commitPrimeSettlement .none w t now).1.prime.toBook
      = (adoptStatePayload (t.stateSnapshot.getD (StatePayload.bare now))).toBook := rfl

theorem openPathsAgree_iff (clock : Clock) (w : World) (req : PrimeBorrowRequest)
    (policy : StagePolicy) : OpenPathsAgree clock w req policy ↔ OpenAlike clock w req policy := by
  by_cases hgranted : ∃ loan transition, grantedLoan w.prime.toBook req policy clock = some loan
      ∧ prepareOpenTransition w.prime policy loan clock = .ok transition
  · obtain ⟨loan, transition, hgrant, hprepared⟩ := hgranted
    obtain ⟨hready, hcapacity, hsnapshot, -⟩ := prepareOpenTransition_ok hprepared
    have htracked := grantedLoan_tracked hgrant
    obtain ⟨hdirect, hcoordinated⟩ := allocate_prepared hready hgrant hprepared
    have hbook : (allocate true .none clock w req policy).1.prime.toBook
        = (w.prime.openRaw policy loan).adopted := by
      rw [hcoordinated, RawPayload.adopted, ← hsnapshot]
      rfl
    have halike : OpenAlike clock w req policy
        ↔ loan.reserved ≤ w.prime.inventory.getD loan.asset 0 ∧ OpenExact w.prime policy loan := by
      constructor
      · intro h
        exact h loan transition hgrant hprepared
      · intro h loan' transition' hgrant' _
        rw [hgrant] at hgrant'
        cases hgrant'
        exact h
    rw [halike]
    cases hreserve : w.prime.inventory.reserve loan.asset loan.reserved with
    | none =>
      -- The direct path finds the pool short after all.
      have hshort : ¬ loan.reserved ≤ w.prime.inventory.getD loan.asset 0 := by
        intro hcovered
        rw [Inventory.reserve, if_neg (not_lt.2 hcovered)] at hreserve
        cases hreserve
      constructor
      · intro h
        have hdecision := h.decision
        rw [hdirect, hcoordinated, (allocateDirect_none_none htracked hreserve).2.2.2] at hdecision
        cases hdecision
      · rintro ⟨hcovered, -⟩
        exact absurd hcovered hshort
    | some inventory =>
      have hcovered := (reserve_eq_some hreserve).1
      have hsame := sameBook_open_iff hcapacity htracked (grantedLoan_sound hgrant).reserved_eq
        hreserve
      have hdirectBook : (allocate false .none clock w req policy).1.prime.toBook
          = w.prime.toBook.opened loan (w.prime.capacityLimit (some policy)) inventory := by
        rw [hdirect, allocateDirect_none_some htracked hreserve]
        rfl
      constructor
      · intro h
        have hbooks := h.book
        rw [hdirectBook, hbook] at hbooks
        exact ⟨hcovered, hsame.1 hbooks⟩
      · rintro ⟨-, hexact⟩
        constructor
        · rw [hdirect, hcoordinated, allocateDirect_none_some htracked hreserve]
          rfl
        · rw [hdirectBook, hbook]
          exact hsame.2 hexact
  · -- Without a prepared open the two paths are the same.
    have hsame : allocate false .none clock w req policy = allocate true .none clock w req policy :=
      allocate_unprepared .none clock fun loan transition hgrant hprepared =>
        hgranted ⟨loan, transition, hgrant, hprepared⟩
    constructor
    · intro _ loan transition hgrant hprepared
      exact absurd ⟨loan, transition, hgrant, hprepared⟩ hgranted
    · intro _
      constructor
      · rw [hsame]
      · rw [hsame]
        exact SameBook.refl _

section SettlePaths

variable {clock : Clock} {w : World} {loanId : String} {realizedPnlUsd : Usd} {receiptId : String}
  {loan : Loan}

/-- Both paths settle: they agree when the numbers are exact. -/
theorem settlePathsAgree_of_settling (hsettling : w.prime.settlingLoan loanId = some loan)
    (hresult : (prepareSettlementTransition w.prime loanId realizedPnlUsd receiptId clock).ok = true)
    (hsnapshot : (prepareSettlementTransition w.prime loanId realizedPnlUsd receiptId
        clock).stateSnapshot
      = some (stateSnapshotPayloadFromRaw (w.prime.settledRaw loanId loan clock.now))) :
    SettlePathsAgree clock w loanId realizedPnlUsd receiptId ↔ SettleExact w.prime loan := by
  obtain ⟨-, -, -, -, hcapacity⟩ := settlingLoan_eq_some_iff.1 hsettling
  have hbook : (settle .none clock w loanId realizedPnlUsd).1.prime.toBook
      = w.prime.toBook.settled loanId loan clock.now (w.prime.toBook.releaseFor loan) := by
    rw [settle_of_settling hsettling, settleDirect_none]
    rfl
  have hadopted : (commitPrimeSettlement .none w (prepareSettlementTransition w.prime loanId
        realizedPnlUsd receiptId clock) clock.now).1.prime.toBook
      = (w.prime.settledRaw loanId loan clock.now).adopted := by
    rw [commitPrimeSettlement_none_book, hsnapshot]
    rfl
  rw [← @sameBook_settle_iff w.prime loanId loan clock.now hcapacity, ← hbook, ← hadopted]
  constructor
  · intro h
    exact h.book
  · intro h
    refine ⟨?_, h⟩
    rw [settle_of_settling hsettling, settleDirect_none, hresult]
    rfl

/-- Both paths dispute: they agree when the numbers are exact. -/
theorem settlePathsAgree_of_disputed (hready : w.prime.stateReady = true)
    (hfinds : FindsUntracked w.prime loanId loan)
    (hresult : (prepareSettlementTransition w.prime loanId realizedPnlUsd receiptId clock).ok
      = false)
    (hsnapshot : (prepareSettlementTransition w.prime loanId realizedPnlUsd receiptId
        clock).stateSnapshot
      = some (stateSnapshotPayloadFromRaw (w.prime.disputedRaw loanId loan clock.now))) :
    SettlePathsAgree clock w loanId realizedPnlUsd receiptId ↔ BookExact w.prime.toBook := by
  have hbook : (settle .none clock w loanId realizedPnlUsd).1.prime.toBook
      = { w.prime.toBook with loans := w.prime.loans.set loanId (loan.dispute clock.now) } := by
    rw [settle_of_untracked hready hfinds, disputeLoan_none]
    rfl
  have hadopted : (commitPrimeSettlement .none w (prepareSettlementTransition w.prime loanId
        realizedPnlUsd receiptId clock) clock.now).1.prime.toBook
      = (w.prime.disputedRaw loanId loan clock.now).adopted := by
    rw [commitPrimeSettlement_none_book, hsnapshot]
    rfl
  -- The exactness does not look at the loans.
  have hexact : BookExact
        { w.prime.toBook with loans := w.prime.loans.set loanId (loan.dispute clock.now) }
      ↔ BookExact w.prime.toBook :=
    ⟨fun h => ⟨h.borrowed, h.capacity, h.families, h.utilization, h.assets⟩,
      fun h => ⟨h.borrowed, h.capacity, h.families, h.utilization, h.assets⟩⟩
  have hsame := @sameBook_round_iff
    { w.prime.toBook with loans := w.prime.loans.set loanId (loan.dispute clock.now) }
    (w.prime.disputedRaw loanId loan clock.now) rfl rfl rfl rfl rfl
  rw [← hexact, ← hsame, ← hbook, ← hadopted]
  constructor
  · intro h
    exact h.book
  · intro h
    refine ⟨?_, h⟩
    rw [settle_of_untracked hready hfinds, disputeLoan_none, hresult]
    rfl

/-- The coordinator has no payload to adopt: the paths agree when the direct one rejects the
settlement over a blank book. -/
theorem settlePathsAgree_of_rejected (hsettling : w.prime.settlingLoan loanId = none)
    (hresult : (prepareSettlementTransition w.prime loanId realizedPnlUsd receiptId clock).ok
      = false)
    (hsnapshot : (prepareSettlementTransition w.prime loanId realizedPnlUsd receiptId
      clock).stateSnapshot = none) :
    SettlePathsAgree clock w loanId realizedPnlUsd receiptId
      ↔ (w.prime.stateReady = false ∨ ∀ loan, ¬ FindsUntracked w.prime loanId loan)
        ∧ BookBlank w.prime.toBook := by
  have hadopted : (commitPrimeSettlement .none w (prepareSettlementTransition w.prime loanId
        realizedPnlUsd receiptId clock) clock.now).1.prime.toBook
      = (adoptStatePayload (StatePayload.bare clock.now)).toBook := by
    rw [commitPrimeSettlement_none_book, hsnapshot]
    rfl
  by_cases hcause : w.prime.stateReady = false ∨ ∀ loan, ¬ FindsUntracked w.prime loanId loan
  · obtain ⟨found, reason, hsettle⟩ :=
      @settle_of_rejected .none clock w loanId realizedPnlUsd hsettling hcause
    rw [rejectedPayload_none] at hsettle
    have hbook : (settle .none clock w loanId realizedPnlUsd).1.prime.toBook = w.prime.toBook := by
      rw [hsettle]
    rw [← @sameBook_bare_iff w.prime.toBook clock.now, ← hadopted]
    constructor
    · intro h
      have hbooks := h.book
      rw [hbook] at hbooks
      exact ⟨hcause, hbooks⟩
    · rintro ⟨-, h⟩
      constructor
      · rw [hsettle, hresult]
        rfl
      · rw [hbook]
        exact h
  · -- The direct path disputes the loan, which stays active.
    obtain ⟨hready, hfinds⟩ := not_or.1 hcause
    obtain ⟨loan, hfinds⟩ := not_forall_not.1 hfinds
    have hready : w.prime.stateReady = true := by simpa using hready
    constructor
    · intro h
      have hloans := h.book.loans loanId
      rw [settle_of_untracked hready hfinds, disputeLoan_none, hadopted] at hloans
      have hdisputed : ((w.prime.loans.set loanId (loan.dispute clock.now)).get? loanId).filter
          Loan.active = none := hloans
      rw [Dict.get?_set_self] at hdisputed
      cases hdisputed
    · rintro ⟨hcause', -⟩
      exact absurd hcause' hcause

theorem settlePathsAgree_iff :
    SettlePathsAgree clock w loanId realizedPnlUsd receiptId ↔ SettleAlike w.prime loanId := by
  cases prepareSettlementTransition_cases w.prime loanId realizedPnlUsd receiptId clock with
  | settled loan settling result snapshot =>
    rw [settlePathsAgree_of_settling settling result snapshot]
    constructor
    · intro h
      refine ⟨?_, fun loan' _ finds => absurd settling (finds.not_settling loan), ?_⟩
      · intro loan' settling'
        rw [settling] at settling'
        cases settling'
        exact h
      · intro hnone _
        rw [settling] at hnone
        cases hnone
    · intro h
      exact h.settled loan settling
  | disputed loan ready capacity finds result snapshot =>
    rw [settlePathsAgree_of_disputed ready finds result snapshot]
    constructor
    · intro h
      refine ⟨fun loan' settling => absurd settling (finds.not_settling loan'),
        fun _ _ _ => ⟨capacity, h⟩, ?_⟩
      rintro - (hnot | hnone)
      · rw [ready] at hnot
        cases hnot
      · exact absurd finds (hnone loan)
    · intro h
      exact (h.disputed loan ready finds).2
  | rejected result snapshot settling cause =>
    rw [settlePathsAgree_of_rejected settling result snapshot]
    constructor
    · rintro ⟨hcause, hblank⟩
      refine ⟨?_, ?_, fun _ _ => hblank⟩
      · intro loan' settling'
        rw [settling] at settling'
        cases settling'
      · intro loan' ready finds
        rcases hcause with hnot | hnone
        · rw [ready] at hnot
          cases hnot
        · exact absurd finds (hnone loan')
    · intro h
      have hcause : w.prime.stateReady = false
          ∨ ∀ loan, ¬ FindsUntracked w.prime loanId loan := by
        rcases cause with hnot | hcapacity | hnone
        · exact Or.inl hnot
        · cases hready : w.prime.stateReady with
          | false => exact Or.inl rfl
          | true =>
            -- A dispute would need a capacity.
            refine Or.inr fun loan finds => ?_
            exact absurd (h.disputed loan hready finds).1 (not_lt.2 hcapacity)
        · exact Or.inr hnone
      exact ⟨hcause, h.rejected settling hcause⟩

end SettlePaths

/-- Persisting the memory and adopting the payload gives the book back exactly when its
numbers are exact. -/
theorem adopt_persisted_iff (s : PrimeState) :
    SameBook s.toBook (adoptStatePayload (stateSnapshotPayloadFromRaw s.rawStatePayload)).toBook
      ↔ BookExact s.toBook :=
  @sameBook_round_iff s.toBook s.rawStatePayload rfl rfl rfl rfl rfl

/-- **When the two commit paths agree**, for every memory and every request: on an open, on a
settlement, and on a payload that is persisted and adopted back. -/
theorem commit_paths_iff (clock : Clock) (w : World) :
    (∀ req policy, OpenPathsAgree clock w req policy ↔ OpenAlike clock w req policy)
      ∧ (∀ loanId realizedPnlUsd receiptId,
        SettlePathsAgree clock w loanId realizedPnlUsd receiptId ↔ SettleAlike w.prime loanId)
      ∧ (SameBook w.prime.toBook
          (adoptStatePayload (stateSnapshotPayloadFromRaw w.prime.rawStatePayload)).toBook
        ↔ BookExact w.prime.toBook) :=
  ⟨fun req policy => openPathsAgree_iff clock w req policy, fun _ _ _ => settlePathsAgree_iff,
    adopt_persisted_iff w.prime⟩

/-- A loan of 10.005 is booked as 10 by the coordinator, and the settlement of an unknown loan,
rejected by both, leaves the coordinator without its pool. -/
theorem commit_paths_differ :
    ¬ OpenPathsAgree (smallClock 1 "t1") smallWorld (smallRequest "l1" (2001 / 200)) smallPolicy
      ∧ ¬ SettlePathsAgree (smallClock 1 "t1") smallWorld "l9" 0 "r1" := by
  constructor
  · intro h
    have hborrowed : (allocate false .none (smallClock 1 "t1") smallWorld
          (smallRequest "l1" (2001 / 200)) smallPolicy).1.prime.borrowedUsd
        ≠ (allocate true .none (smallClock 1 "t1") smallWorld
          (smallRequest "l1" (2001 / 200)) smallPolicy).1.prime.borrowedUsd := by
      decide +kernel
    exact hborrowed h.book.borrowedUsd
  · intro h
    have hpool : (settle .none (smallClock 1 "t1") smallWorld "l9" 0).1.prime.inventory.get? "USDC"
        ≠ (commitPrimeSettlement .none smallWorld (prepareSettlementTransition smallWorld.prime "l9"
          0 "r1" (smallClock 1 "t1")) 1).1.prime.inventory.get? "USDC" := by
      decide +kernel
    exact hpool (h.book.inventory "USDC")

end SovereignCapital.Prime
