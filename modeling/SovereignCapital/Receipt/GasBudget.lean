import SovereignCapital.Receipt.Loop

/-! # The daily gas budget

A submission reserves its gas estimate and its receipt releases it, so that the reservation is
the sum over the pending map. The reset of the day sets the reservation to zero while the
pending map stays: what is in flight over midnight is forgotten, and the remaining budget is
too high. `gas_reserved_iff` says when the reservation is exact in every state of a run.
-/

namespace SovereignCapital.Receipt

open Runs

/-! ## What is in flight and what was spent -/

def gasEst (_ : String) (pending : PyDict) : Int := (pendingFields pending).gasEstWei

def pendingGas (s : LoopState) : Int := s.pending.sumBy gasEst

def gasOf (s : LoopState) (txHash : String) : Int := Dict.weightAt gasEst s.pending txHash

def spentOn (s : LoopState) (day : Nat) : Int :=
  ((s.gasLog.filter fun entry => entry.1 = day).map Prod.snd).sum

/-- The reservation is what is in flight. -/
def Reserved (s : LoopState) : Prop := s.pendingGasEstWei = pendingGas s

/-- A positive budget is not promised beyond what is neither spent nor in flight. -/
def NotOverPromised (config : LoopConfig) (s : LoopState) (day : Nat) : Prop :=
  0 < config.dailyBudget → (gasBudgetRemainingWei config day s).2
    ≤ max 0 (config.dailyBudget - (spentOn s day + pendingGas s))

/-- The estimates are not negative, and the clock does not go back. -/
def Lawful (s : LoopState) : LoopEvent → Prop
  | .record e => 0 ≤ e.input.gasEstimate.safeInt
  | .finish pass => s.budgetDay ≤ pass.day
  | .remaining day => s.budgetDay ≤ day
  | _ => True

/-- The event keeps the reservation exact: a stored hash is not pending with gas already; where
a new day begins nothing else is in flight; and without a receipt service nothing with gas is
popped. -/
def StepReserves (config : LoopConfig) (s : LoopState) : LoopEvent → Prop
  | .record e => e.stored.isSome → gasOf s e.txHash = 0
  | .finish pass => ∀ txHash, s.processing = some txHash →
      ∀ status decoded, awaitReceipt pass = .received status decoded →
        if config.service = false then gasOf s txHash = 0
        else pass.day ≠ s.budgetDay → pendingGas s = gasOf s txHash
  | .remaining day => day ≠ s.budgetDay → pendingGas s = 0
  | _ => True

/-! ## The invariant -/

/-- What the pending map and the books of the day are between events. -/
structure GasInv (s : LoopState) : Prop where
  reserved : Reserved s
  spent : s.gasSpentTodayWei = spentOn s s.budgetDay
  log : ∀ entry ∈ s.gasLog, entry.1 ≤ s.budgetDay
  estimates : ∀ txHash pending, s.pending.get? txHash = some pending → 0 ≤ gasEst txHash pending
  submissions : ∀ txHash pending, s.pending.get? txHash = some pending → submitTsS pending = 0

structure SameGas (s s' : LoopState) : Prop where
  pendingGasEstWei : s'.pendingGasEstWei = s.pendingGasEstWei
  gasSpentTodayWei : s'.gasSpentTodayWei = s.gasSpentTodayWei
  budgetDay : s'.budgetDay = s.budgetDay
  gasLog : s'.gasLog = s.gasLog
  pendingGas : pendingGas s' = pendingGas s
  records : ∀ txHash pending', s'.pending.get? txHash = some pending' →
    ∃ pending, s.pending.get? txHash = some pending ∧ SameSubmission pending pending'

theorem SameSubmission.refl (pending : PyDict) : SameSubmission pending pending := ⟨rfl, rfl⟩

theorem SameGas.refl (s : LoopState) : SameGas s s :=
  ⟨rfl, rfl, rfl, rfl, rfl, fun _ pending h => ⟨pending, h, .refl pending⟩⟩

variable {s s' : LoopState} {day : Nat}

theorem SameGas.trans {s'' : LoopState} (h : SameGas s s') (h' : SameGas s' s'') :
    SameGas s s'' where
  pendingGasEstWei := h'.pendingGasEstWei.trans h.pendingGasEstWei
  gasSpentTodayWei := h'.gasSpentTodayWei.trans h.gasSpentTodayWei
  budgetDay := h'.budgetDay.trans h.budgetDay
  gasLog := h'.gasLog.trans h.gasLog
  pendingGas := h'.pendingGas.trans h.pendingGas
  records txHash pending'' hpending'' := by
    obtain ⟨pending', hpending', hsame'⟩ := h'.records txHash pending'' hpending''
    obtain ⟨pending, hpending, hsame⟩ := h.records txHash pending' hpending'
    exact ⟨pending, hpending, hsame.trans hsame'⟩

theorem SameGas.of_eq (hpending : s'.pending = s.pending)
    (hreserved : s'.pendingGasEstWei = s.pendingGasEstWei)
    (hspent : s'.gasSpentTodayWei = s.gasSpentTodayWei) (hday : s'.budgetDay = s.budgetDay)
    (hlog : s'.gasLog = s.gasLog) : SameGas s s' := by
  refine ⟨hreserved, hspent, hday, hlog, ?_, ?_⟩
  · rw [Receipt.pendingGas, Receipt.pendingGas, hpending]
  · intro txHash pending h
    rw [hpending] at h
    exact ⟨pending, h, .refl pending⟩

theorem SameGas.reserved_iff (h : SameGas s s') : Reserved s' ↔ Reserved s := by
  rw [Reserved, Reserved, h.pendingGasEstWei, h.pendingGas]

theorem SameGas.inv (h : SameGas s s') (hinv : GasInv s) : GasInv s' := by
  constructor
  · exact h.reserved_iff.2 hinv.reserved
  · rw [h.gasSpentTodayWei, h.budgetDay, spentOn, h.gasLog]
    exact hinv.spent
  · rw [h.gasLog, h.budgetDay]
    exact hinv.log
  · intro txHash pending' hpending'
    obtain ⟨pending, hpending, hsame⟩ := h.records txHash pending' hpending'
    rw [gasEst, hsame.gasEstWei]
    exact hinv.estimates txHash pending hpending
  · intro txHash pending' hpending'
    obtain ⟨pending, hpending, hsame⟩ := h.records txHash pending' hpending'
    rw [hsame.ts]
    exact hinv.submissions txHash pending hpending

/-! ## A pass -/

theorem pendingGas_set (s : LoopState) (txHash : String) (pending : PyDict) :
    (s.pending.set txHash pending).sumBy gasEst + gasOf s txHash
      = pendingGas s + gasEst txHash pending :=
  Dict.sumBy_set gasEst s.pending txHash pending

theorem gasOf_of_get? {txHash : String} {pending : PyDict}
    (h : s.pending.get? txHash = some pending) : gasOf s txHash = gasEst txHash pending :=
  Dict.weightAt_of_get? h

theorem handle_sameGas (config : LoopConfig) (nowMs : Int) (txHash error : String)
    (receiptSeen pendingPopped : Bool) (s : LoopState) :
    SameGas s (handleReceiptLoopFailure config nowMs txHash error receiptSeen pendingPopped s) := by
  cases pendingPopped with
  | true => exact .refl s
  | false =>
    cases hpending : s.pending.get? txHash with
    | none =>
      have hsame : handleReceiptLoopFailure config nowMs txHash error receiptSeen false s
          = s := by
        unfold handleReceiptLoopFailure
        simp [hpending]
      rw [hsame]
      exact .refl s
    | some pending =>
      obtain ⟨pending', hmarked, heq⟩ :=
        @handleReceiptLoopFailure_eq config _ _ _ hpending nowMs error receiptSeen
      rw [heq]
      refine ⟨rfl, rfl, rfl, rfl, ?_, ?_⟩
      · have hset := pendingGas_set s txHash pending'
        have hsame : gasEst txHash pending' = gasEst txHash pending := hmarked.same.gasEstWei
        rw [gasOf_of_get? hpending, hsame] at hset
        exact add_right_cancel hset
      · intro tx p hp
        by_cases htx : tx = txHash
        · subst htx
          cases (Dict.get?_set_self _ _ _).symm.trans hp
          exact ⟨pending, hpending, hmarked.same⟩
        · have hold := (Dict.get?_set_of_ne _ _ htx).symm.trans hp
          exact ⟨p, hold, .refl p⟩

theorem afterRaise_sameGas (config : LoopConfig) (pass : Pass) (txHash : String)
    (receiptSeen pendingPopped : Bool) (raised : Option Raised) (s : LoopState) :
    SameGas s (afterRaise config pass txHash receiptSeen pendingPopped raised s) := by
  match raised with
  | none => exact .refl s
  | some (.safe text) => exact handle_sameGas config pass.nowMs txHash text _ _ s
  | some .other => exact .of_eq rfl rfl rfl rfl rfl

theorem finalizeReceipt_sameGas (pass : Pass) (truthOk : Bool) (txHash : String)
    (s : LoopState) : SameGas s (finalizeReceipt pass truthOk txHash s).1 := by
  unfold finalizeReceipt
  by_cases hreplay : pass.replay = some .other
  · rw [if_pos hreplay]
    exact .refl s
  rw [if_neg hreplay]
  by_cases hhealth : pass.truthHealth = some .other
  · rw [if_pos hhealth]
    exact .refl s
  rw [if_neg hhealth]
  by_cases hsettle : (if truthOk then pass.settlement else pass.truthGap) = some .other
  · rw [if_pos hsettle]
    exact .refl s
  · rw [if_neg hsettle]
    exact .of_eq rfl rfl rfl rfl rfl

def popped (s : LoopState) (txHash : String) : LoopState :=
  { s with pending := s.pending.erase txHash }

theorem pendingGas_popped (s : LoopState) (txHash : String) :
    pendingGas (popped s txHash) = pendingGas s - gasOf s txHash := by
  have herase := Dict.sumBy_erase gasEst s.pending txHash
  show (s.pending.erase txHash).sumBy gasEst = s.pending.sumBy gasEst - _
  rw [← herase]
  exact (add_sub_cancel_right _ _).symm

theorem settlePending_sameGas (config : LoopConfig) (pass : Pass) {txHash : String}
    (decoded : PyDict) {s : LoopState} (hinv : GasInv s) :
    SameGas
      (if config.service = false then popped s txHash
        else updateRealizedGasBudget pass.day (gasOf s txHash) decoded (popped s txHash))
      (settlePending config pass txHash decoded s).1 := by
  -- The estimate that is read back is that of the popped record.
  have hest : (pendingFields ((s.pending.get? txHash).getD Dict.empty)).gasEstWei
      = gasOf s txHash := by
    cases hpending : s.pending.get? txHash with
    | none =>
      rw [gasOf, Dict.weightAt, hpending]
      rfl
    | some pending => exact (gasOf_of_get? hpending).symm
  have hts : submitTsS ((s.pending.get? txHash).getD Dict.empty) = 0 := by
    cases hpending : s.pending.get? txHash with
    | none => rfl
    | some pending => exact hinv.submissions txHash pending hpending
  unfold settlePending
  simp only [hts, lt_irrefl, false_and, if_false, hest]
  split
  · exact .refl _
  · split
    · exact .refl _
    · exact .refl _
    · exact finalizeReceipt_sameGas pass _ txHash _

/-! ## Booking -/

theorem spentOn_of_lt (hinv : GasInv s) (hday : s.budgetDay < day) : spentOn s day = 0 := by
  have hnone : (s.gasLog.filter fun entry => entry.1 = day) = [] := by
    rw [List.filter_eq_nil_iff]
    intro entry hentry
    have := hinv.log entry hentry
    simp only [decide_eq_true_eq]
    omega
  rw [spentOn, hnone]
  rfl

theorem resetBudgetDayIfNeeded_books (hinv : GasInv s) (hday : s.budgetDay ≤ day) :
    (resetBudgetDayIfNeeded day s).gasSpentTodayWei = spentOn s day
      ∧ (resetBudgetDayIfNeeded day s).pendingGasEstWei
        = (if day = s.budgetDay then pendingGas s else 0) := by
  unfold resetBudgetDayIfNeeded
  by_cases hsame : day = s.budgetDay
  · rw [if_neg (not_not_intro hsame), if_pos hsame, hsame]
    exact ⟨hinv.spent, hinv.reserved⟩
  · rw [if_pos hsame, if_neg hsame, spentOn_of_lt hinv (by omega)]
    exact ⟨rfl, rfl⟩

theorem popped_estimates (hinv : GasInv s) (txHash : String) :
    0 ≤ gasOf s txHash ∧ 0 ≤ pendingGas (popped s txHash) := by
  constructor
  · cases hpending : s.pending.get? txHash with
    | none =>
      rw [gasOf, Dict.weightAt, hpending]
      exact le_refl _
    | some pending =>
      rw [gasOf_of_get? hpending]
      exact hinv.estimates txHash pending hpending
  · apply List.sum_nonneg
    intro n hn
    obtain ⟨⟨tx, pending⟩, hmem, rfl⟩ := List.mem_map.1 hn
    have hget := (Dict.mem_entries_iff _).1 hmem
    rw [popped, Dict.get?_erase] at hget
    split at hget
    · cases hget
    · exact hinv.estimates tx pending hget

/-- What `update_realized_gas_budget` does after the reset: it releases the estimate and books
the gas of the receipt, if there is any. -/
theorem updateRealizedGasBudget_books (day : Nat) (gasEstWei : Int) (decoded : PyDict)
    (s : LoopState) :
    ∃ booked : List Int, updateRealizedGasBudget day gasEstWei decoded s
      = (resetBudgetDayIfNeeded day s).withBudget
          (max 0 ((resetBudgetDayIfNeeded day s).pendingGasEstWei - gasEstWei))
          ((resetBudgetDayIfNeeded day s).gasSpentTodayWei + booked.sum) day
          (s.gasLog ++ booked.map fun gas => (day, gas)) := by
  obtain ⟨reserved, spent, hreset⟩ := resetBudgetDayIfNeeded_eq day s
  unfold updateRealizedGasBudget
  simp only [hreset]
  cases realizedGas decoded with
  | none => exact ⟨[], by simp [LoopState.withBudget]⟩
  | some realGas =>
    by_cases hpos : 0 < realGas
    · exact ⟨[realGas], by simp [LoopState.withBudget, hpos]⟩
    · exact ⟨[], by simp [LoopState.withBudget, hpos]⟩

theorem spentOn_append (s : LoopState) (day : Nat) (booked : List Int) (reserved spent : Int) :
    spentOn (s.withBudget reserved spent day (s.gasLog ++ booked.map fun gas => (day, gas))) day
      = spentOn s day + booked.sum := by
  simp [spentOn, LoopState.withBudget, List.filter_map, Function.comp_def]

theorem GasInv.withBudget {s s' : LoopState} (hinv : GasInv s) {day : Nat}
    (hday : s.budgetDay ≤ day) (hrecords : ∀ txHash pending,
      s'.pending.get? txHash = some pending → s.pending.get? txHash = some pending)
    (hlog : s'.gasLog = s.gasLog) (booked : List Int) {reserved spent : Int}
    (hreserved : reserved = pendingGas s') (hspent : spent = spentOn s day + booked.sum) :
    GasInv (s'.withBudget reserved spent day
      (s'.gasLog ++ booked.map fun gas => (day, gas))) := by
  constructor
  · exact hreserved
  · show spent = _
    rw [hspent]
    show _ = spentOn _ day
    rw [spentOn_append, spentOn, spentOn, hlog]
  · intro entry hentry
    rcases List.mem_append.1 hentry with hold | hnew
    · exact (hinv.log entry (hlog ▸ hold)).trans hday
    · obtain ⟨gas, _, rfl⟩ := List.mem_map.1 hnew
      exact le_refl day
  · exact fun txHash pending h => hinv.estimates txHash pending (hrecords txHash pending h)
  · exact fun txHash pending h => hinv.submissions txHash pending (hrecords txHash pending h)

theorem book_gas (hinv : GasInv s) (txHash : String) (decoded : PyDict) (hday : s.budgetDay ≤ day) :
    (Reserved (updateRealizedGasBudget day (gasOf s txHash) decoded (popped s txHash))
        ↔ (day ≠ s.budgetDay → pendingGas s = gasOf s txHash))
      ∧ (Reserved (updateRealizedGasBudget day (gasOf s txHash) decoded (popped s txHash)) →
        GasInv (updateRealizedGasBudget day (gasOf s txHash) decoded (popped s txHash))) := by
  obtain ⟨hest, hrest⟩ := popped_estimates hinv txHash
  obtain ⟨hspent, hreserved⟩ := resetBudgetDayIfNeeded_books hinv hday
  have hcommute : resetBudgetDayIfNeeded day (popped s txHash)
      = popped (resetBudgetDayIfNeeded day s) txHash := by
    unfold resetBudgetDayIfNeeded popped
    split <;> rfl
  obtain ⟨booked, hbooks⟩ :=
    updateRealizedGasBudget_books day (gasOf s txHash) decoded (popped s txHash)
  have hstate : updateRealizedGasBudget day (gasOf s txHash) decoded (popped s txHash)
      = (popped s txHash).withBudget
          (max 0 ((if day = s.budgetDay then pendingGas s else 0) - gasOf s txHash))
          (spentOn s day + booked.sum) day
          ((popped s txHash).gasLog ++ booked.map fun gas => (day, gas)) := by
    rw [hbooks, hcommute, ← hreserved, ← hspent]
    obtain ⟨reserved, spent, hreset⟩ := resetBudgetDayIfNeeded_eq day s
    rw [hreset]
    rfl
  have hiff : Reserved (updateRealizedGasBudget day (gasOf s txHash) decoded (popped s txHash))
      ↔ (day ≠ s.budgetDay → pendingGas s = gasOf s txHash) := by
    rw [hstate]
    show max 0 _ = pendingGas (popped s txHash) ↔ _
    rw [pendingGas_popped] at hrest ⊢
    by_cases hsame : day = s.budgetDay
    · rw [if_pos hsame]
      constructor
      · intro _ hother
        exact absurd hsame hother
      · intro _
        omega
    · -- The reservation is zero on the new day, so that nothing else may be in flight.
      rw [if_neg hsame]
      constructor
      · intro hexact _
        omega
      · intro hnothing
        have := hnothing hsame
        omega
  refine ⟨hiff, fun hexact => ?_⟩
  rw [hstate] at hexact ⊢
  refine @GasInv.withBudget s (popped s txHash) hinv day hday ?_ rfl booked _ _ hexact rfl
  intro tx pending hpending
  rw [popped, Dict.get?_erase] at hpending
  split at hpending
  · cases hpending
  · exact hpending

/-! ## One event -/

theorem store_gas (hinv : GasInv s) {e : Execution} {pending : PyDict} (hrecord : Stored e pending)
    (hest : 0 ≤ e.input.gasEstimate.safeInt) (added : List String) :
    (Reserved (storedState s e.txHash pending (s.pendingGasEstWei + reservedGas pending) added)
        ↔ gasOf s e.txHash = 0)
      ∧ (gasOf s e.txHash = 0 → GasInv (storedState s e.txHash pending
          (s.pendingGasEstWei + reservedGas pending) added)) := by
  have hgas : gasEst e.txHash pending = e.input.gasEstimate.safeInt := hrecord.gasEstWei
  have hset := pendingGas_set s e.txHash pending
  have hiff : Reserved (storedState s e.txHash pending
      (s.pendingGasEstWei + reservedGas pending) added) ↔ gasOf s e.txHash = 0 := by
    show s.pendingGasEstWei + reservedGas pending
      = (s.pending.set e.txHash pending).sumBy gasEst ↔ _
    rw [hinv.reserved, hrecord.reserved, ← hgas]
    omega
  refine ⟨hiff, fun hzero => ?_⟩
  have hrecords : ∀ tx p, (s.pending.set e.txHash pending).get? tx = some p →
      0 ≤ gasEst tx p ∧ submitTsS p = 0 := by
    intro tx p hp
    rw [Dict.get?_set] at hp
    split at hp
    · cases hp
      exact ⟨le_of_le_of_eq hest hgas.symm, hrecord.ts⟩
    · exact ⟨hinv.estimates tx p hp, hinv.submissions tx p hp⟩
  exact ⟨hiff.2 hzero, hinv.spent, hinv.log, fun tx p hp => (hrecords tx p hp).1,
    fun tx p hp => (hrecords tx p hp).2⟩

theorem remaining_gas {config : LoopConfig} {s : LoopState} (hinv : GasInv s) {day : Nat}
    (hday : s.budgetDay ≤ day) :
    (Reserved (gasBudgetRemainingWei config day s).1 ↔ (day ≠ s.budgetDay → pendingGas s = 0))
      ∧ ((day ≠ s.budgetDay → pendingGas s = 0) →
        GasInv (gasBudgetRemainingWei config day s).1 ∧ NotOverPromised config s day) := by
  obtain ⟨hspent, hreserved⟩ := resetBudgetDayIfNeeded_books hinv hday
  have hstate : (gasBudgetRemainingWei config day s).1 = resetBudgetDayIfNeeded day s := by
    unfold gasBudgetRemainingWei
    dsimp only
    split <;> rfl
  have hbooks : resetBudgetDayIfNeeded day s
      = s.withBudget (if day = s.budgetDay then pendingGas s else 0) (spentOn s day) day
          s.gasLog := by
    rw [← hreserved, ← hspent]
    obtain ⟨reserved, spent, hreset⟩ := resetBudgetDayIfNeeded_eq day s
    rw [hreset]
    rfl
  have hexact : (if day = s.budgetDay then pendingGas s else 0) = pendingGas s
      ↔ (day ≠ s.budgetDay → pendingGas s = 0) := by
    by_cases hsame : day = s.budgetDay
    · simp [hsame]
    · simp [hsame, eq_comm]
  refine ⟨?_, fun hnothing => ⟨?_, ?_⟩⟩
  · rw [hstate, hbooks]
    exact hexact
  · rw [hstate, hbooks, hexact.2 hnothing]
    have hbooked := @GasInv.withBudget s s hinv day hday (fun _ _ h => h) rfl [] _ (spentOn s day)
      rfl (by simp)
    simpa using hbooked
  · intro hbudget
    unfold gasBudgetRemainingWei
    rw [hbooks, hexact.2 hnothing]
    dsimp only [LoopState.withBudget]
    rw [if_neg (by omega)]

theorem popped_gas (hinv : GasInv s) (txHash : String) :
    (Reserved (popped s txHash) ↔ gasOf s txHash = 0)
      ∧ (gasOf s txHash = 0 → GasInv (popped s txHash)) := by
  have hiff : Reserved (popped s txHash) ↔ gasOf s txHash = 0 := by
    rw [Reserved, pendingGas_popped]
    show s.pendingGasEstWei = _ ↔ _
    rw [hinv.reserved]
    omega
  refine ⟨hiff, fun hzero => ⟨hiff.2 hzero, hinv.spent, hinv.log, ?_, ?_⟩⟩
  all_goals
    intro tx pending hpending
    rw [popped, Dict.get?_erase] at hpending
    split at hpending
    · cases hpending
  · exact hinv.estimates tx pending hpending
  · exact hinv.submissions tx pending hpending

/-- A pass keeps the reservation exact unless it pops its record on a new day or without a
receipt service. -/
theorem finishPass_gas {config : LoopConfig} {s : LoopState} (hinv : GasInv s) (pass : Pass)
    (txHash : String) (hday : s.budgetDay ≤ pass.day) :
    ((∀ status decoded, awaitReceipt pass = .received status decoded →
        if config.service = false then gasOf s txHash = 0
        else pass.day ≠ s.budgetDay → pendingGas s = gasOf s txHash) →
      GasInv (finishPass config pass txHash s))
      ∧ (Reserved (finishPass config pass txHash s) →
        ∀ status decoded, awaitReceipt pass = .received status decoded →
          if config.service = false then gasOf s txHash = 0
          else pass.day ≠ s.budgetDay → pendingGas s = gasOf s txHash) := by
  have hstart : SameGas s { s with processing := none } := .of_eq rfl rfl rfl rfl rfl
  unfold finishPass
  cases hawait : awaitReceipt pass with
  | noEndpoint => exact ⟨fun _ => hstart.inv hinv, fun _ _ _ h => by cases h⟩
  | unavailable =>
    have hsame := (hstart.trans (handle_sameGas config pass.nowMs txHash "receipt_unavailable"
      false false _)).trans (afterRaise_sameGas config pass txHash false false pass.closing _)
    exact ⟨fun _ => hsame.inv hinv, fun _ _ _ h => by cases h⟩
  | raised e receiptSeen =>
    have hsame := hstart.trans (afterRaise_sameGas config pass txHash receiptSeen false (some e) _)
    exact ⟨fun _ => hsame.inv hinv, fun _ _ _ h => by cases h⟩
  | received status decoded =>
    have hinv₀ := hstart.inv hinv
    have hsame := (@settlePending_sameGas config pass txHash decoded _ hinv₀).trans
      (afterRaise_sameGas config pass txHash true true
        (settlePending config pass txHash decoded { s with processing := none }).2 _)
    by_cases hservice : config.service = false
    · rw [if_pos hservice] at hsame
      obtain ⟨hiff, hkeep⟩ := popped_gas hinv₀ txHash
      constructor
      · intro hneeds
        have hzero := hneeds status decoded rfl
        rw [if_pos hservice] at hzero
        exact hsame.inv (hkeep hzero)
      · intro hexact _ _ _
        rw [if_pos hservice]
        exact hiff.1 (hsame.reserved_iff.1 hexact)
    · rw [if_neg hservice] at hsame
      obtain ⟨hiff, hkeep⟩ := book_gas hinv₀ txHash decoded hday
      constructor
      · intro hneeds
        have hnothing := hneeds status decoded rfl
        rw [if_neg hservice] at hnothing
        exact hsame.inv (hkeep (hiff.2 hnothing))
      · intro hexact _ _ _
        rw [if_neg hservice]
        exact hiff.1 (hsame.reserved_iff.1 hexact)

/-- **One event** keeps the reservation exact if and only if it meets its condition. -/
theorem loopStep_reserves {config : LoopConfig} (hinv : GasInv s) (event : LoopEvent)
    (hlawful : Lawful s event) :
    (StepReserves config s event → GasInv (loopStep config s event))
      ∧ (Reserved (loopStep config s event) → StepReserves config s event) := by
  cases event with
  | record e =>
    show (_ → GasInv (recordExecution config e s)) ∧ (Reserved (recordExecution config e s) → _)
    cases hstored : e.stored with
    | none =>
      rw [recordExecution_of_none config s hstored]
      have hsame : SameGas s (if e.submits then { s with
          submitted := s.submitted ++ [e.txHash] } else s) := by
        split
        · exact .of_eq rfl rfl rfl rfl rfl
        · exact .refl s
      refine ⟨fun _ => hsame.inv hinv, fun _ hsome => ?_⟩
      rw [hstored] at hsome
      cases hsome
    | some pending =>
      rw [recordExecution_of_some config s hstored]
      obtain ⟨hiff, hkeep⟩ := store_gas hinv (e.stored_eq_some hstored).2 hlawful
        (if s.hasRoom config then [e.txHash] else [])
      constructor
      · intro hreserves
        exact hkeep (hreserves (by rw [hstored]; rfl))
      · intro hexact _
        exact hiff.1 hexact
  | take =>
    refine ⟨fun _ => ?_, fun _ => trivial⟩
    refine SameGas.inv ?_ hinv
    simp only [loopStep]
    split
    · exact .of_eq rfl rfl rfl rfl rfl
    · exact .refl s
  | finish pass =>
    simp only [loopStep, StepReserves]
    cases hworker : s.processing with
    | none => exact ⟨fun _ => hinv, fun _ txHash htx => by cases htx⟩
    | some txHash =>
      obtain ⟨hkeep, hneeds⟩ := @finishPass_gas config _ hinv pass txHash hlawful
      constructor
      · intro hreserves
        exact hkeep (hreserves txHash rfl)
      · intro hexact tx htx
        cases htx
        exact hneeds hexact
  | start =>
    refine ⟨fun _ => ?_, fun _ => trivial⟩
    have hsame : SameGas s { s with alive := true } := .of_eq rfl rfl rfl rfl rfl
    exact hsame.inv hinv
  | remaining day =>
    obtain ⟨hiff, hkeep⟩ := @remaining_gas config _ hinv _ hlawful
    exact ⟨fun hnothing => (hkeep hnothing).1, hiff.1⟩

/-! ## Runs -/

theorem initial_gasInv (day : Nat) : GasInv (LoopState.initial day) where
  reserved := rfl
  spent := rfl
  log _ h := absurd h List.not_mem_nil
  estimates _ _ h := by cases h
  submissions _ _ h := by cases h

/-- **When the gas budget is kept**: in a run whose estimates are not negative and whose clock
does not go back, the reservation is the sum over the pending map in every state and no reading
promises too much, if and only if every event keeps the reservation exact. -/
theorem gas_reserved_iff (config : LoopConfig) (day : Nat) {events : List LoopEvent}
    (hlawful : AllSteps (loopStep config) Lawful (LoopState.initial day) events) :
    ((∀ reached, reached <+: events →
        Reserved (run (loopStep config) (LoopState.initial day) reached))
      ∧ ∀ before after readDay, events = before ++ .remaining readDay :: after →
        NotOverPromised config (run (loopStep config) (LoopState.initial day) before) readDay)
      ↔ AllSteps (loopStep config) (StepReserves config) (LoopState.initial day) events := by
  have hreached := @reached_iff _ _ (loopStep config) Lawful (StepReserves config) GasInv Reserved
    (fun _ hinv => hinv.reserved)
    (fun _ event hinv hevent => (loopStep_reserves hinv event hevent).1)
    (fun _ event hinv hevent => (loopStep_reserves hinv event hevent).2)
    _ (initial_gasInv day) _ hlawful
  constructor
  · rintro ⟨hreserved, _⟩
    exact hreached.1 hreserved
  · intro hall
    refine ⟨hreached.2 hall, ?_⟩
    rintro before after readDay rfl
    have hinv : GasInv (run (loopStep config) (LoopState.initial day) before) :=
      @run_invariant _ _ _ _ GasInv
        (fun _ event hinv hevent => (loopStep_reserves hinv event hevent.1).1 hevent.2)
        _ (initial_gasInv day) _ (hlawful.and hall).of_append.1
    exact ((remaining_gas hinv hlawful.call).2 hall.call).2

/-- A trade of 21000 wei is pending at midnight: the reading of the next day forgets it and
promises the whole budget. -/
theorem midnight_forgets :
    ¬ Reserved (run (loopStep sampleLoop) (LoopState.initial 0)
        [.record sampleExecution, .remaining 1])
      ∧ ¬ NotOverPromised sampleLoop
        (run (loopStep sampleLoop) (LoopState.initial 0) [.record sampleExecution]) 1 := by
  constructor
  · intro hreserved
    exact absurd hreserved (by unfold Reserved; decide +kernel)
  · intro hpromise
    exact absurd (hpromise (by decide +kernel)) (by decide +kernel)

/-- The trade is recorded, its receipt settles on the same day and the budget is read. -/
def settledTrade : List LoopEvent :=
  [.record sampleExecution, .take,
    .finish { passWithoutEndpoint with
      readUrl := .ok "http://localhost:8545"
      answer := .ok (.receipt (PyDict.literal [("status", .text "0x1")]))
      updateReceipt := .ok (PyDict.literal [("realized_gas_cost_wei", .text "20000")]) },
    .remaining 0]

theorem gas_reserved_iff_settledTrade :
    (∀ reached, reached <+: settledTrade →
        Reserved (run (loopStep sampleLoop) (LoopState.initial 0) reached))
      ∧ ∀ before after readDay, settledTrade = before ++ .remaining readDay :: after →
        NotOverPromised sampleLoop (run (loopStep sampleLoop) (LoopState.initial 0) before)
          readDay := by
  refine (gas_reserved_iff sampleLoop 0 ?_).2 ?_
  · refine ⟨?_, trivial, ?_, ?_, trivial⟩
    · show (0 : Int) ≤ sampleSubmission.gasEstimate.safeInt
      decide +kernel
    · exact Nat.zero_le _
    · exact Nat.le_of_eq (by decide +kernel)
  · refine ⟨fun _ => rfl, trivial, ?_, ?_, trivial⟩
    · intro _ _ _ _ _ hday
      exact absurd (by decide +kernel) hday
    · intro hday
      exact absurd (by decide +kernel) hday

end SovereignCapital.Receipt
