import SovereignCapital.Prime.Replay

/-! # The reconciliation is ok

Two sides of a comparison: what the replay derives from the journal, and what the snapshot
says. When the replayed entries are the active loans of the snapshot, every total, count and
row of one side is that of the other.
-/

namespace SovereignCapital.Prime

open Decimal Runs KeyedReplay

/-! ## Loans of a snapshot -/

variable {loan : Loan} {M : Type} {txs : List JournalTx}

section Snapshot

variable {loans : Dict String Loan}

/-- One loan of a list in `stateActivePrimeLoans`. -/
def addActive (status : LoanStatus) (active : Dict String ReconLoan) (loan : Loan) :
    Dict String ReconLoan :=
  if loan.loanId = "" then active else active.set loan.loanId (normalizedLoan loan status)

theorem addActive_of_absent (status : LoanStatus) {l : List Loan} {loanId : String}
    (h : ∀ loan ∈ l, loan.loanId ≠ loanId) (active : Dict String ReconLoan) :
    (l.foldl (addActive status) active).get? loanId = active.get? loanId := by
  induction l generalizing active with
  | nil => rfl
  | cons loan l ih =>
    have hne := h loan (List.mem_cons_self ..)
    rw [List.foldl_cons, ih fun loan' hmem => h loan' (List.mem_cons_of_mem _ hmem)]
    unfold addActive
    split
    · rfl
    · exact Dict.get?_set_of_ne active _ hne.symm

theorem addActive_of_mem (status : LoanStatus) {l : List Loan} (hmem : loan ∈ l)
    (hid : loan.loanId ≠ "") (honly : ∀ other ∈ l, other.loanId = loan.loanId → other = loan)
    (active : Dict String ReconLoan) :
    (l.foldl (addActive status) active).get? loan.loanId = some (normalizedLoan loan status) := by
  induction l generalizing active with
  | nil => cases hmem
  | cons first l ih =>
    have hrest : ∀ other ∈ l, other.loanId = loan.loanId → other = loan :=
      fun other h => honly other (List.mem_cons_of_mem _ h)
    rw [List.foldl_cons]
    by_cases hlater : loan ∈ l
    · exact ih hlater hrest _
    · -- The last row of the id is the first of the list.
      have hfirst : loan = first := (List.mem_cons.1 hmem).resolve_right hlater
      subst hfirst
      rw [addActive_of_absent status fun other h heq => hlater (hrest other h heq ▸ h)]
      rw [addActive, if_neg hid, Dict.get?_set_self]

theorem mem_openLoans : loan ∈ openLoans loans ↔ loan ∈ loans.values ∧ loan.status = .opened := by
  simp [openLoans]

theorem mem_disputedLoans :
    loan ∈ disputedLoans loans ↔ loan ∈ loans.values ∧ loan.status = .disputed := by
  simp [disputedLoans]

/-- **The rows of a snapshot are those of its active loans.** -/
theorem stateActivePrimeLoans_get? {p : StatePayload} (hopen : p.openLoans = openLoans p.loans)
    (hdisputed : p.disputedLoans = disputedLoans p.loans)
    (hsound : ∀ loanId loan, p.loans.get? loanId = some loan → ReconSound loanId loan)
    (loanId : String) :
    (stateActivePrimeLoans (some p)).get? loanId = activeEntry p.loans loanId := by
  have hvalue : ∀ loan ∈ p.loans.values, p.loans.get? loan.loanId = some loan := by
    intro loan hmem
    obtain ⟨id, hget⟩ := (Dict.mem_values_iff p.loans).1 hmem
    rw [(hsound id loan hget).id_eq]
    exact hget
  have hsame : ∀ loan ∈ p.loans.values, ∀ other ∈ p.loans.values,
      other.loanId = loan.loanId → other = loan := by
    intro loan hmem other hother hid
    have hget := hvalue other hother
    rw [hid, hvalue loan hmem] at hget
    exact (Option.some.inj hget).symm
  show ((p.disputedLoans.foldl (addActive .disputed)
    (p.openLoans.foldl (addActive .opened) Dict.empty))).get? loanId = _
  rw [hopen, hdisputed]
  cases hget : p.loans.get? loanId with
  | none =>
    have habsent : ∀ loan ∈ p.loans.values, loan.loanId ≠ loanId := by
      intro loan hmem hid
      have hfound := hvalue loan hmem
      rw [hid, hget] at hfound
      cases hfound
    rw [addActive_of_absent _ fun loan h => habsent loan (mem_disputedLoans.1 h).1,
      addActive_of_absent _ fun loan h => habsent loan (mem_openLoans.1 h).1,
      activeEntry, hget]
    rfl
  | some loan =>
    have hloan := hsound loanId loan hget
    have hid := hloan.id_eq
    have hne : loan.loanId ≠ "" := by
      rw [hid]
      exact hloan.id_ne
    have hmem : loan ∈ p.loans.values := (Dict.mem_values_iff p.loans).2 ⟨loanId, hget⟩
    have hnotDisputed : loan.status ≠ .disputed →
        ∀ other ∈ disputedLoans p.loans, other.loanId ≠ loanId := by
      intro hstatus other h hother
      obtain ⟨hvalues, hdisputed⟩ := mem_disputedLoans.1 h
      rw [hsame loan hmem other hvalues (hother.trans hid.symm)] at hdisputed
      exact hstatus hdisputed
    cases hstatus : loan.status with
    | opened =>
      have hactive : loan.active = true := by
        rw [Loan.active, hstatus]
        rfl
      rw [addActive_of_absent _ (hnotDisputed (by simp [hstatus])), ← hid,
        addActive_of_mem _ (mem_openLoans.2 ⟨hmem, hstatus⟩) hne
          (fun other h => hsame loan hmem other (mem_openLoans.1 h).1),
        hid, activeEntry_of_active hget hactive, hstatus]
    | disputed =>
      have hactive : loan.active = true := by
        rw [Loan.active, hstatus]
        rfl
      rw [← hid, addActive_of_mem _ (mem_disputedLoans.2 ⟨hmem, hstatus⟩) hne
          (fun other h => hsame loan hmem other (mem_disputedLoans.1 h).1),
        hid, activeEntry_of_active hget hactive, hstatus]
    | settled =>
      have hinactive : loan.active = false := by
        rw [Loan.active, hstatus]
        rfl
      have hnotOpen : ∀ other ∈ openLoans p.loans, other.loanId ≠ loanId := by
        intro other h hother
        obtain ⟨hvalues, hopened⟩ := mem_openLoans.1 h
        rw [hsame loan hmem other hvalues (hother.trans hid.symm), hstatus] at hopened
        cases hopened
      rw [addActive_of_absent _ (hnotDisputed (by simp [hstatus])),
        addActive_of_absent _ hnotOpen]
      have hnone : activeEntry p.loans loanId = none := by
        apply activeEntry_of_inactive
        intro old hold
        rw [hget] at hold
        cases hold
        exact hinactive
      rw [hnone]
      rfl

end Snapshot

/-! ## Totals -/

theorem sum_map_filter {α : Type} [AddCommMonoid M] (p : α → Bool) (f : α → M) (l : List α) :
    ((l.filter p).map f).sum = (l.map fun a => if p a then f a else 0).sum := by
  rw [List.sum_map_ite]
  simp

theorem sum_openOrDisputed [AddCommMonoid M] (f : Loan → M) (loans : Dict String Loan) :
    ((openLoans loans ++ disputedLoans loans).map f).sum
      = Dict.sumBy (fun _ loan => if loan.active then f loan else 0) loans := by
  have hvalues : Dict.sumBy (fun _ loan => if loan.active then f loan else 0) loans
      = (loans.values.map fun loan => if loan.active then f loan else 0).sum := by
    simp [Dict.values, Dict.sumBy, Function.comp_def]
  rw [hvalues, List.map_append, List.sum_append, openLoans, disputedLoans, sum_map_filter,
    sum_map_filter, ← List.sum_map_add]
  congr 1
  apply List.map_congr_left
  intro loan _
  cases hstatus : loan.status <;> simp [Loan.active, hstatus]

section Totals

variable {active : Dict String ReconLoan} {loans : Dict String Loan}
  (hentries : ∀ loanId, active.get? loanId = activeEntry loans loanId)
include hentries

theorem sum_entries [AddCommMonoid M] {f : ReconLoan → M} {g : String → Loan → M}
    (hg : ∀ loanId loan, loans.get? loanId = some loan →
      g loanId loan = if loan.active then f (normalizedLoan loan loan.status) else 0) :
    (active.values.map f).sum = Dict.sumBy g loans := by
  have hvalues : (active.values.map f).sum = Dict.sumBy (fun _ row => f row) active := by
    simp [Dict.values, Dict.sumBy, Function.comp_def]
  rw [hvalues]
  apply Dict.sumBy_eq_of_weightAt
  intro loanId
  simp only [Dict.weightAt, hentries, activeEntry]
  cases hget : loans.get? loanId with
  | none => rfl
  | some loan =>
    have hweight := hg loanId loan hget
    cases hactive : loan.active with
    | false =>
      rw [hactive, if_neg Bool.false_ne_true] at hweight
      simpa [Option.filter, hactive] using hweight.symm
    | true =>
      rw [hactive, if_pos rfl] at hweight
      simpa [Option.filter, hactive] using hweight.symm

variable (hsound : ∀ loanId loan, loans.get? loanId = some loan → ReconSound loanId loan)
include hsound

theorem sum_notional :
    (active.values.map ReconLoan.notionalUsd).sum = activeTotal loans := by
  apply sum_entries hentries
  intro loanId loan hget
  have hround : pyRound 8 loan.notionalUsd = loan.notionalUsd :=
    ((hsound loanId loan hget).cents.of_le (by norm_num)).pyRound_eq
  simp only [activeAmount, Bool.and_true]
  rw [← hround]
  rfl

theorem sum_family (family : String) :
    ((active.values.filter fun row => row.family == family).map ReconLoan.notionalUsd).sum
      = activeFamilyTotal family loans := by
  rw [sum_map_filter]
  apply sum_entries hentries
  intro loanId loan hget
  have hround : pyRound 8 loan.notionalUsd = loan.notionalUsd :=
    ((hsound loanId loan hget).cents.of_le (by norm_num)).pyRound_eq
  simp only [activeAmount, Bool.and_eq_true]
  rw [← hround]
  cases loan.active <;> simp [normalizedLoan]

theorem sum_collateral :
    (active.values.map ReconLoan.collateralReservedUsd).sum
      = ((openLoans loans ++ disputedLoans loans).map Loan.reserved).sum := by
  rw [sum_openOrDisputed]
  apply sum_entries hentries
  intro loanId loan hget
  have hloan := hsound loanId loan hget
  rw [hloan.reserved_eq, show (normalizedLoan loan loan.status).collateralReservedUsd
    = pyRound 8 loan.collateralReservedUsd from rfl, hloan.collateral.pyRound_eq]

omit hsound in
theorem count_active :
    active.entries.length = (openLoans loans ++ disputedLoans loans).length := by
  have hleft : active.entries.length = (active.values.map fun _ => 1).sum := by
    simp [Dict.values, Function.comp_def]
  have hright : (openLoans loans ++ disputedLoans loans).length
      = ((openLoans loans ++ disputedLoans loans).map fun _ => 1).sum := by
    simp
  rw [hleft, hright, sum_openOrDisputed]
  exact sum_entries hentries fun _ _ _ => rfl

omit hsound in
theorem count_disputed :
    (active.values.filter fun row => row.status == .disputed).length
      = (disputedLoans loans).length := by
  have hlength : ∀ {α : Type} (p : α → Bool) (l : List α),
      (l.filter p).length = (l.map fun a => if p a then 1 else 0).sum := by
    intro α p l
    rw [← sum_map_filter]
    simp
  have hvalues : (loans.values.map fun loan => if loan.status == .disputed then 1 else 0).sum
      = Dict.sumBy (fun _ loan => if loan.status == .disputed then 1 else 0) loans := by
    simp [Dict.values, Dict.sumBy, Function.comp_def]
  rw [disputedLoans, hlength, hlength, hvalues]
  apply sum_entries hentries
  intro loanId loan _
  cases hstatus : loan.status <;> simp [Loan.active, normalizedLoan, hstatus]

end Totals

/-! ## The family exposure -/

/-- One loan of `derivedFamilyExposure`. -/
def addExposure (exposure : Dict String Usd) (row : ReconLoan) : Dict String Usd :=
  exposure.set row.family (pyRound 8 (exposure.getD row.family 0 + row.notionalUsd))

theorem contains_foldl_addExposure (rows : List ReconLoan) (exposure : Dict String Usd)
    (family : String) :
    (rows.foldl addExposure exposure).contains family
      = (exposure.contains family || rows.any fun row => row.family == family) := by
  induction rows generalizing exposure with
  | nil => simp
  | cons row rows ih =>
    rw [List.foldl_cons, ih, List.any_cons]
    have hset : (addExposure exposure row).contains family
        = (exposure.contains family || row.family == family) := by
      unfold Dict.contains addExposure
      rw [Dict.get?_set]
      by_cases hfamily : family = row.family
      · simp [hfamily]
      · simp [hfamily, Ne.symm hfamily]
    rw [hset, Bool.or_assoc]

theorem getD_foldl_addExposure {rows : List ReconLoan}
    (hrows : ∀ row ∈ rows, Dec 8 row.notionalUsd) {exposure : Dict String Usd}
    (hexposure : ∀ family, Dec 8 (exposure.getD family 0)) (family : String) :
    (rows.foldl addExposure exposure).getD family 0
      = exposure.getD family 0
        + ((rows.filter fun row => row.family == family).map ReconLoan.notionalUsd).sum := by
  induction rows generalizing exposure with
  | nil => simp
  | cons row rows ih =>
    have hrow := (hexposure row.family).add (hrows row (List.mem_cons_self ..))
    have hset : ∀ other, (addExposure exposure row).getD other 0
        = exposure.getD other 0 + if row.family == other then row.notionalUsd else 0 := by
      intro other
      unfold addExposure
      rw [Dict.getD_set, hrow.pyRound_eq]
      by_cases hother : other = row.family
      · simp [hother]
      · simp [hother, Ne.symm hother]
    have hdec : ∀ other, Dec 8 ((addExposure exposure row).getD other 0) := by
      intro other
      rw [hset]
      split
      · exact (hexposure other).add (hrows row (List.mem_cons_self ..))
      · simpa using hexposure other
    rw [List.foldl_cons, ih (fun r h => hrows r (List.mem_cons_of_mem _ h)) hdec, hset]
    by_cases hfamily : row.family = family
    · simp [hfamily, add_assoc]
    · simp [hfamily]

theorem derivedFamilyExposure_get? {rows : List ReconLoan}
    (hrows : ∀ row ∈ rows, Dec 8 row.notionalUsd) (family : String) :
    (derivedFamilyExposure rows).get? family
      = if rows.any (fun row => row.family == family) then
          some ((rows.filter fun row => row.family == family).map ReconLoan.notionalUsd).sum
        else none := by
  have hcontains := contains_foldl_addExposure rows Dict.empty family
  have hgetD := @getD_foldl_addExposure rows hrows Dict.empty (fun _ => dec_zero 8) family
  rw [show rows.foldl addExposure Dict.empty = derivedFamilyExposure rows from rfl] at hcontains hgetD
  unfold Dict.contains at hcontains
  unfold Dict.getD at hgetD
  cases hget : (derivedFamilyExposure rows).get? family with
  | none =>
    rw [hget] at hcontains
    rw [if_neg]
    simpa using hcontains
  | some total =>
    rw [hget] at hcontains hgetD
    rw [if_pos (by simpa using hcontains.symm)]
    simpa using hgetD

theorem observedFamilyExposure_get? {exposure : Dict String Usd} {family : String}
    (hcents : Dec 2 (exposure.getD family 0)) (hnonneg : 0 ≤ exposure.getD family 0) :
    ((exposure.filterVal fun v => decide (1 / 10 ^ 6 < |v|)).mapVal (pyRound 8)).get? family
      = if 0 < exposure.getD family 0 then some (exposure.getD family 0) else none := by
  rw [Dict.get?_mapVal, Dict.get?_filterVal]
  unfold Dict.getD at hcents hnonneg ⊢
  cases hget : exposure.get? family with
  | none => simp
  | some v =>
    rw [hget] at hcents hnonneg
    simp only [Option.getD_some] at hcents hnonneg ⊢
    by_cases hpos : 0 < v
    · have hcent := hcents.one_le_of_pos hpos
      have hlarge : (1 : ℚ) / 10 ^ 6 < |v| := by
        rw [abs_of_pos hpos]
        norm_num at hcent ⊢
        linarith
      rw [if_pos hpos, Option.filter, if_pos (by simpa using hlarge), Option.map_some,
        (hcents.of_le (by norm_num)).pyRound_eq]
    · have hzero : v = 0 := le_antisymm (not_lt.1 hpos) hnonneg
      rw [if_neg hpos, hzero]
      simp [Option.filter]

/-! ## Both sides -/

section Sides

variable {active : Dict String ReconLoan} {raw : RawPayload}
  (hentries : ∀ loanId, active.get? loanId = activeEntry raw.loans loanId)
  (hsound : ∀ loanId loan, raw.loans.get? loanId = some loan → ReconSound loanId loan)
include hentries hsound

theorem row_notional {row : ReconLoan} (hmem : row ∈ active.values) :
    0 < row.notionalUsd ∧ Dec 8 row.notionalUsd := by
  obtain ⟨loanId, hget⟩ := (Dict.mem_values_iff active).1 hmem
  rw [hentries, activeEntry, Option.map_eq_some_iff] at hget
  obtain ⟨loan, hloan, rfl⟩ := hget
  have hfound := hsound loanId loan (Option.filter_eq_some_iff.1 hloan).1
  show 0 < pyRound 8 loan.notionalUsd ∧ Dec 8 (pyRound 8 loan.notionalUsd)
  rw [(hfound.cents.of_le (by norm_num : 2 ≤ 8)).pyRound_eq]
  exact ⟨hfound.positive, hfound.cents.of_le (by norm_num)⟩

theorem family_positive (family : String) :
    (active.values.any fun row => row.family == family) = true
      ↔ 0 < activeFamilyTotal family raw.loans := by
  rw [← sum_family hentries hsound]
  constructor
  · intro hany
    obtain ⟨row, hmem, hfamily⟩ := List.any_eq_true.1 hany
    apply List.sum_pos
    · intro x hx
      obtain ⟨found, hfound, rfl⟩ := List.mem_map.1 hx
      exact (row_notional hentries hsound (List.mem_filter.1 hfound).1).1
    · intro hempty
      have hrow : row ∈ active.values.filter fun row => row.family == family :=
        List.mem_filter.2 ⟨hmem, hfamily⟩
      rw [List.map_eq_nil_iff.1 hempty] at hrow
      cases hrow
  · intro hpos
    by_contra hany
    have hnone : (active.values.filter fun row => row.family == family) = [] := by
      rw [List.filter_eq_nil_iff]
      intro row hmem hfamily
      exact hany (List.any_eq_true.2 ⟨row, hmem, hfamily⟩)
    rw [hnone] at hpos
    exact lt_irrefl 0 hpos

theorem familyExposure_same (hagrees : PayloadAgrees (stateSnapshotPayloadFromRaw raw)) :
    (derivedSide active).familyExposure.same
      (observedSide (some (stateSnapshotPayloadFromRaw raw))).familyExposure = true := by
  apply Dict.same_of_get?
  intro family
  have htotal : (stateSnapshotPayloadFromRaw raw).familyExposure.getD family 0
      = activeFamilyTotal family raw.loans := by
    have hcents := (cents_of_sound hsound).families family
    rw [hagrees.families, show (stateSnapshotPayloadFromRaw raw).loans = raw.loans from rfl,
      (hcents.of_le (by norm_num)).pyRound_eq, hcents.pyRound_eq]
  have hnonneg : 0 ≤ activeFamilyTotal family raw.loans :=
    activeSum_nonneg fun loanId loan h => (hsound loanId loan h).positive.le
  have hderived := derivedFamilyExposure_get?
    (fun row h => (row_notional hentries hsound h).2) family
  have hobserved := @observedFamilyExposure_get? (stateSnapshotPayloadFromRaw raw).familyExposure
    family (by rw [htotal]; exact (cents_of_sound hsound).families family)
    (by rw [htotal]; exact hnonneg)
  rw [htotal] at hobserved
  rw [sum_family hentries hsound] at hderived
  show (derivedFamilyExposure active.values).get? family = _
  rw [hderived, observedSide, hobserved]
  by_cases hany : (active.values.any fun row => row.family == family) = true
  · rw [if_pos hany, if_pos ((family_positive hentries hsound family).1 hany)]
  · rw [if_neg hany, if_neg fun hpos => hany ((family_positive hentries hsound family).2 hpos)]

end Sides

/-! ## The comparison -/

theorem countOr_self (count : Nat) : countOr count count = count := ite_self count

theorem idsWhere_nil {rows : Dict String ReconLoan} {test : String → ReconLoan → Bool}
    (h : ∀ loanId row, rows.get? loanId = some row → test loanId row = false) :
    idsWhere rows test = [] := by
  have hnone : (rows.entries.filter fun e => test e.1 e.2) = [] := by
    rw [List.filter_eq_nil_iff]
    rintro ⟨loanId, row⟩ hmem
    rw [h loanId row ((Dict.mem_entries_iff rows).1 hmem)]
    exact Bool.false_ne_true
  rw [idsWhere, hnone]
  simp [sortedIds]

theorem metadataMismatch_self (row : ReconLoan) : metadataMismatch row row = false := by
  simp [metadataMismatch]

theorem loanDeltas_same {observed derived : Dict String ReconLoan}
    (h : ∀ loanId, observed.get? loanId = derived.get? loanId) :
    loanDeltas observed derived = ⟨[], [], [], []⟩ := by
  unfold loanDeltas
  congr 1
  · apply idsWhere_nil
    intro loanId row hrow
    simp [Dict.contains, ← h, hrow]
  · apply idsWhere_nil
    intro loanId row hrow
    simp [Dict.contains, h, hrow]
  · apply idsWhere_nil
    intro loanId row hrow
    rw [← h, hrow]
    simp
  · apply idsWhere_nil
    intro loanId row hrow
    rw [← h, hrow]
    exact metadataMismatch_self row

/-- **A snapshot whose active loans the journal replays is reconciled.** -/
theorem reconcile_snapshot {raw : RawPayload}
    (hsound : ∀ loanId loan, raw.loans.get? loanId = some loan → ReconSound loanId loan)
    (hagrees : PayloadAgrees (stateSnapshotPayloadFromRaw raw))
    (hentries : ∀ loanId,
      (journalActivePrimeLoans txs).active.get? loanId = activeEntry raw.loans loanId)
    (hcounts : (journalActivePrimeLoans txs).counts = ⟨0, 0, 0, 0⟩) :
    (reconcileInternalPrimeJournal (some (stateSnapshotPayloadFromRaw raw)) txs).ok = true := by
  have hborrowed : (derivedSide (journalActivePrimeLoans txs).active).borrowedUsd
      = (observedSide (some (stateSnapshotPayloadFromRaw raw))).borrowedUsd := by
    have hcents := (cents_of_sound hsound).total
    show pyRound 8 _ = (stateSnapshotPayloadFromRaw raw).borrowedUsd
    rw [sum_notional hentries hsound, hagrees.total,
      show (stateSnapshotPayloadFromRaw raw).loans = raw.loans from rfl,
      (hcents.of_le (by norm_num)).pyRound_eq, hcents.pyRound_eq]
  have hopen : (derivedSide (journalActivePrimeLoans txs).active).openLoanCount
      = (observedSide (some (stateSnapshotPayloadFromRaw raw))).openLoanCount := by
    show (journalActivePrimeLoans txs).active.entries.length
      = countOr (openLoans raw.loans ++ disputedLoans raw.loans).length
        ((openLoans raw.loans).length + (disputedLoans raw.loans).length)
    rw [count_active hentries, List.length_append, countOr_self]
  have hdisputed : (derivedSide (journalActivePrimeLoans txs).active).disputedLoanCount
      = (observedSide (some (stateSnapshotPayloadFromRaw raw))).disputedLoanCount := by
    show _ = countOr (disputedLoans raw.loans).length (disputedLoans raw.loans).length
    rw [countOr_self]
    exact count_disputed hentries
  have hreserved : (derivedSide (journalActivePrimeLoans txs).active).reservedCollateralUsd
      = (observedSide (some (stateSnapshotPayloadFromRaw raw))).reservedCollateralUsd := by
    show pyRound 8 _ = pyRound 8 (pyRound 8
      ((openLoans raw.loans ++ disputedLoans raw.loans).map Loan.reserved).sum)
    rw [sum_collateral hentries hsound, (dec_pyRound 8 _).pyRound_eq]
  have hfamilies := familyExposure_same hentries hsound hagrees
  have hactive : ∀ loanId,
      (observedSide (some (stateSnapshotPayloadFromRaw raw))).activeLoans.get? loanId
        = (derivedSide (journalActivePrimeLoans txs).active).activeLoans.get? loanId := by
    intro loanId
    have hstate := stateActivePrimeLoans_get? (p := stateSnapshotPayloadFromRaw raw) rfl rfl
      hsound loanId
    exact hstate.trans (hentries loanId).symm
  simp only [Reconciliation.ok, reconcileInternalPrimeJournal, hcounts, hborrowed, hopen, hdisputed,
    hreserved, hfamilies, loanDeltas_same hactive]
  simp

/-- Before the first snapshot nothing is active on either side. -/
theorem reconcile_unsaved
    (hentries : ∀ loanId, (journalActivePrimeLoans txs).active.get? loanId = none)
    (hcounts : (journalActivePrimeLoans txs).counts = ⟨0, 0, 0, 0⟩) :
    (reconcileInternalPrimeJournal none txs).ok = true := by
  have hempty : (journalActivePrimeLoans txs).active = Dict.empty := by
    have hperm : (journalActivePrimeLoans txs).active.entries.Perm
        (Dict.empty : Dict String ReconLoan).entries := Dict.perm_of_get? hentries
    exact Dict.ext_entries hperm.eq_nil
  simp only [Reconciliation.ok, reconcileInternalPrimeJournal, hcounts, hempty]
  decide +kernel

example : (reconcileInternalPrimeJournal none []).ok = true := by decide +kernel

/-- What every call keeps makes the reconciliation ok. -/
theorem ReplayInv.reconciles {w : World} (h : ReplayInv w) (hperm : txs.Perm w.store.journal) :
    (reconcileInternalPrimeJournal w.store.snapshots.getLast? txs).ok = true := by
  obtain ⟨hentries, hcounts⟩ := h.journal.handed_over hperm
  rcases h.saved with ⟨hnone, hempty⟩ | ⟨raw, hlast, hloans⟩
  · rw [hnone]
    rw [hempty] at hentries
    exact reconcile_unsaved hentries hcounts
  · have hsound := h.loans
    rw [← hloans] at hentries hsound
    rw [hlast]
    exact reconcile_snapshot hsound
      (h.books.history _ (List.mem_of_getLast? hlast)) hentries hcounts

/-- **The reconciliation of the saved snapshot and the journal is ok in every state a run
reaches, whatever order the journal is handed over in.** -/
theorem journal_reconciles {inventory : Inventory} {now : Int} {calls reached : List ReconCall}
    (hok : AllSteps reconStep ReconOk ⟨PrimeState.fresh inventory now, ⟨[], [], []⟩⟩ calls)
    (hreached : reached <+: calls) {txs : List JournalTx}
    (hperm : txs.Perm (run reconStep ⟨PrimeState.fresh inventory now, ⟨[], [], []⟩⟩
      reached).store.journal) :
    (reconcileInternalPrimeJournal (run reconStep ⟨PrimeState.fresh inventory now, ⟨[], [], []⟩⟩
      reached).store.snapshots.getLast? txs).ok = true :=
  (reached_invariant reconStep_inv (replayInv_fresh inventory now) hok hreached).reconciles hperm

/-- A loan is opened and settled in one millisecond, under two transaction ids. -/
def openThenSettle (openId settleId : String) : List ReconCall :=
  [.allocate false (smallClock 1 openId) (smallRequest "l1" 10) smallPolicy,
    .settle (smallClock 1 settleId) "l1" 0]

/-- The ids are in order: the reconciliation is ok, for the reversed journal too. -/
theorem journal_reconciles_openThenSettle :
    (reconcileInternalPrimeJournal
      (run reconStep smallWorld (openThenSettle "t1" "t2")).store.snapshots.getLast?
      (run reconStep smallWorld (openThenSettle "t1" "t2")).store.journal.reverse).ok = true := by
  have hten : ∀ loan ∈ grantedLoan smallWorld.prime.toBook (smallRequest "l1" 10) smallPolicy
      (smallClock 1 "t1"), loan.notionalUsd = 10 := by
    decide +kernel
  have hok : AllSteps reconStep ReconOk smallWorld (openThenSettle "t1" "t2") := by
    refine ⟨?_, ⟨by decide, ?_, ?_⟩, trivial⟩
    · intro loan hgrant
      refine ⟨?_, ?_, ?_⟩
      · rw [hten loan hgrant]
        exact ⟨by norm_num, by exact_mod_cast dec_intCast 2 10⟩
      · intro old hold
        cases hold
      · intro row hrow
        cases hrow
    · unfold StampAfter
      decide +kernel
    · unfold StampAfter
      decide +kernel
  exact journal_reconciles hok (List.prefix_refl _) (List.reverse_perm _)

theorem not_ok_of_unmatchedSettlement {state : Option StatePayload}
    (h : 0 < (journalActivePrimeLoans txs).counts.unmatchedSettlement) :
    (reconcileInternalPrimeJournal state txs).ok = false := by
  simp [Reconciliation.ok, reconcileInternalPrimeJournal, h]

/-- The loan of `openThenSettle`. -/
def tenLoan : Loan where
  loanId := "l1"
  family := "carry"
  asset := "USDC"
  notionalUsd := 10
  borrowCostUsd := 0
  openedTsMs := 1
  collateralReservedUsd := 10
  collateralRatio := 1
  collateralHaircutPct := 0
  collateralEfficiency := 1
  status := .opened
  settledTsMs := 0
  disputedTsMs := 0
  disputeReasonCode := none
  strategyId := "s1"

/-- The id of the settlement is the smaller one: in the tie the replay puts the settlement
before the opening. -/
theorem journal_tie_broken_by_id :
    (run reconStep smallWorld (openThenSettle "t2" "t1")).store.journal
        = [openTransaction ⟨"t2", 1⟩ tenLoan,
          settlementTransaction ⟨"t1", 1⟩ (tenLoan.settle 1) 0 ""]
      ∧ (reconcileInternalPrimeJournal
        (run reconStep smallWorld (openThenSettle "t2" "t1")).store.snapshots.getLast?
        (run reconStep smallWorld (openThenSettle "t2" "t1")).store.journal).ok = false := by
  have hjournal : (run reconStep smallWorld (openThenSettle "t2" "t1")).store.journal
      = [openTransaction ⟨"t2", 1⟩ tenLoan,
        settlementTransaction ⟨"t1", 1⟩ (tenLoan.settle 1) 0 ""] := by
    decide +kernel
  refine ⟨hjournal, ?_⟩
  apply not_ok_of_unmatchedSettlement
  have hle : journalLe (openTransaction ⟨"t2", 1⟩ tenLoan, 0)
      (settlementTransaction ⟨"t1", 1⟩ (tenLoan.settle 1) 0 "", 1) = false := by
    decide +kernel
  have hsorted : journalSorted (run reconStep smallWorld (openThenSettle "t2" "t1")).store.journal
      = [settlementTransaction ⟨"t1", 1⟩ (tenLoan.settle 1) 0 "",
        openTransaction ⟨"t2", 1⟩ tenLoan] := by
    rw [hjournal]
    simp [journalSorted, List.mergeSort, hle]
  rw [journalActivePrimeLoans, hsorted]
  decide +kernel

end SovereignCapital.Prime
