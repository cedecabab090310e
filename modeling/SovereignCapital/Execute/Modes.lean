import SovereignCapital.Execute.Dispatch

/-! # The modes after an attempt

The overrides of one trade are written to the shared configuration. What is restored is what
`apply_operator_overrides` found, after the superstructure and the decision have written; and
an attempt that ends between the first override and the run restores nothing.
-/

namespace SovereignCapital.Execute

/-! ## Overrides in sequence -/

def lastOverride (valid requests : List String) : Option String :=
  requests.reverse.find? (· ∈ valid)

theorem lastOverride_append (valid requests : List String) (r : String) :
    lastOverride valid (requests ++ [r])
      = if r ∈ valid then some r else lastOverride valid requests := by
  rw [lastOverride, List.reverse_append, List.reverse_singleton, List.singleton_append,
    List.find?_cons]
  by_cases h : r ∈ valid
  · simp only [h, decide_true, if_true]
  · simp only [h, decide_false, if_false]
    rfl

variable {valid requests : List String} {m : Modes} {a : Attempt}

theorem lastOverride_mem {r : String} (h : lastOverride valid requests = some r) : r ∈ valid := by
  simpa using List.find?_some h

/-- The requests leave a mode as it is: the last one that names a mode names this one. -/
def Leaves (valid requests : List String) (mode : String) : Prop :=
  ∀ r, lastOverride valid requests = some r → r = mode

theorem getD_lastOverride_eq {mode : String} :
    (lastOverride valid requests).getD mode = mode ↔ Leaves valid requests mode := by
  unfold Leaves
  cases lastOverride valid requests with
  | none => simp
  | some r => simp

def Modes.after (m : Modes) (gas send : List String) : Modes where
  cfgGas := (lastOverride gasModes gas).getD m.cfgGas
  cfgSend := (lastOverride sendModes send).getD m.cfgSend
  metricsGas := (lastOverride gasModes gas).getD m.metricsGas
  metricsSend := (lastOverride sendModes send).getD m.metricsSend

theorem Modes.after_writeGas (m : Modes) (gas send : List String) (r : String) :
    (m.after gas send).writeGas r = m.after (gas ++ [r]) send := by
  unfold Modes.writeGas Modes.after
  rw [lastOverride_append]
  split <;> rfl

theorem Modes.after_writeSend (m : Modes) (gas send : List String) (r : String) :
    (m.after gas send).writeSend r = m.after gas (send ++ [r]) := by
  unfold Modes.writeSend Modes.after
  rw [lastOverride_append]
  split <;> rfl

/-- The requests leave the configuration and the metrics as they are. -/
def Modes.Unchanged (m : Modes) (gas send : List String) : Prop :=
  (Leaves gasModes gas m.cfgGas ∧ Leaves gasModes gas m.metricsGas)
    ∧ Leaves sendModes send m.cfgSend ∧ Leaves sendModes send m.metricsSend

theorem Modes.after_eq_iff {gas send : List String} :
    m.after gas send = m ↔ m.Unchanged gas send := by
  cases m with
  | mk cfgGas cfgSend metricsGas metricsSend =>
    simp only [Modes.after, Modes.Unchanged, Modes.mk.injEq, getD_lastOverride_eq]
    tauto

/-! ## The requests of an attempt -/

/-- The gas modes the superstructure and the decision ask for. -/
def Admitted.gas (admitted : Admitted) : List String :=
  if admitted.super.enabled then [admitted.super.gasMode]
  else [admitted.super.gasMode, (admitted.decision.map Decision.gasMode).getD ""]

def Admitted.send (admitted : Admitted) : List String := [admitted.super.sendMode]

theorem Modes.plan_eq (m : Modes) (admitted : Admitted) :
    m.plan admitted = m.after admitted.gas admitted.send := by
  have hstart : m = m.after [] [] := rfl
  unfold Modes.plan Admitted.gas Admitted.send
  rw [hstart, Modes.after_writeGas, Modes.after_writeSend]
  cases admitted.super.enabled with
  | true => rfl
  | false => exact Modes.after_writeGas _ _ _ _

def forcedGas (controls : Option Controls) : List String :=
  (controls.map fun c => normalizedMode c.forceGasMode).toList

def forcedSend (controls : Option Controls) : List String :=
  (controls.map fun c => normalizedMode c.forceSendMode).toList

theorem Modes.force_eq (m : Modes) (gas send : List String) (controls : Option Controls) :
    (m.after gas send).force controls
      = m.after (gas ++ forcedGas controls) (send ++ forcedSend controls) := by
  cases controls with
  | none => simp [Modes.force, forcedGas, forcedSend]
  | some c =>
    show ((m.after gas send).writeGas _).writeSend _ = _
    rw [Modes.after_writeGas, Modes.after_writeSend]
    rfl

/-! ## What an attempt leaves -/

/-- The controls that force modes: those of an attempt with an execution service. -/
def Attempt.forcing (a : Attempt) : Option Controls := if a.service.isSome then a.controls else none

def Attempt.forced (a : Attempt) (m : Modes) (admitted : Admitted) : Modes :=
  m.after (admitted.gas ++ forcedGas a.forcing) (admitted.send ++ forcedSend a.forcing)

/-- The run begins: there are endpoints and the governance gate does not block. -/
def Attempt.Runs (a : Attempt) (m : Modes) (admitted : Admitted) : Prop :=
  ∃ opp, selectAndGovern a (a.forced m admitted) admitted.super.opportunity = .ok opp

/-- The modes that are restored: those before the decision's override without an execution
service, and those after the superstructure's and the decision's with one. -/
def Attempt.restored (a : Attempt) (m : Modes) (admitted : Admitted) : Modes :=
  let planned := m.after admitted.gas admitted.send
  if a.service.isSome then
    .restore (orDefault planned.cfgGas "standard") (orDefault planned.cfgSend "public")
  else .restore m.cfgGas m.cfgSend

def Attempt.SignalsRaise (a : Attempt) : Prop :=
  ∃ service e, a.service = some service ∧ service.signals = .error e

theorem operatorOverrides_eq_error (m : Modes) (h : a.SignalsRaise) :
    operatorOverrides a m = .error .raised := by
  obtain ⟨service, e, hservice, hsignals⟩ := h
  simp only [operatorOverrides, hservice, hsignals]

theorem operatorOverrides_eq_ok (m : Modes) (admitted : Admitted) (h : ¬ a.SignalsRaise) :
    ∃ gas send, operatorOverrides a (m.after admitted.gas admitted.send)
        = .ok (a.forced m admitted, gas, send)
      ∧ (if a.service.isSome then Modes.restore gas send else .restore m.cfgGas m.cfgSend)
        = a.restored m admitted := by
  unfold operatorOverrides Attempt.forced Attempt.restored Attempt.forcing
  cases hservice : a.service with
  | none =>
    refine ⟨(m.after admitted.gas admitted.send).cfgGas,
      (m.after admitted.gas admitted.send).cfgSend, ?_, rfl⟩
    simp only [Option.isSome_none, Bool.false_eq_true, if_false, forcedGas, forcedSend,
      Option.map_none, Option.toList_none, List.append_nil]
  | some service =>
    cases hsignals : service.signals with
    | error e => exact absurd ⟨service, e, hservice, hsignals⟩ h
    | ok _ =>
      refine ⟨_, _, ?_, rfl⟩
      simp only [Option.isSome_some, if_true, hsignals]
      rw [Modes.force_eq]

/-- The modes an attempt leaves, by the stage at which it ends. -/
theorem executeAuto_modes {admitted : Admitted} (hgate : entryGate a = .ok admitted) :
    (a.SignalsRaise → (executeAuto a m).modes = m.after admitted.gas admitted.send)
      ∧ (¬ a.SignalsRaise → ¬ a.Runs m admitted → (executeAuto a m).modes = a.forced m admitted)
      ∧ (¬ a.SignalsRaise → a.Runs m admitted →
        (executeAuto a m).modes = a.restored m admitted) := by
  unfold executeAuto
  rw [hgate]
  dsimp only
  rw [Modes.plan_eq]
  refine ⟨fun hraise => ?_, fun hraise hruns => ?_, ?_⟩
  · rw [operatorOverrides_eq_error _ hraise]
  · obtain ⟨gas, send, hok, -⟩ := operatorOverrides_eq_ok m admitted hraise
    rw [hok]
    dsimp only
    cases hselect : selectAndGovern a (a.forced m admitted) admitted.super.opportunity with
    | error halt => rfl
    | ok opp => exact absurd ⟨opp, hselect⟩ hruns
  · rintro hraise ⟨opp, hselect⟩
    obtain ⟨gas, send, hok, hrestored⟩ := operatorOverrides_eq_ok m admitted hraise
    rw [hok, ← hrestored]
    dsimp only
    rw [hselect]
    dsimp only
    cases a.service.isSome <;> split <;> rfl

structure Modes.InStep (m : Modes) : Prop where
  gas : m.metricsGas = m.cfgGas
  send : m.metricsSend = m.cfgSend

theorem restore_eq_iff {gas send : String} :
    Modes.restore gas send = m ↔ m.InStep ∧ gas = m.cfgGas ∧ send = m.cfgSend := by
  cases m with
  | mk cfgGas cfgSend metricsGas metricsSend =>
    simp only [Modes.restore, Modes.mk.injEq]
    constructor
    · rintro ⟨rfl, rfl, rfl, rfl⟩
      exact ⟨⟨rfl, rfl⟩, rfl, rfl⟩
    · rintro ⟨⟨hgas, hsend⟩, rfl, rfl⟩
      exact ⟨rfl, rfl, hgas.symm, hsend.symm⟩

/-- A mode with its default is the mode itself: nothing overrides it and it is set. -/
theorem orDefault_eq_iff {mode default : String} (hdefault : default ≠ "") (hvalid : "" ∉ valid) :
    orDefault ((lastOverride valid requests).getD mode) default = mode
      ↔ Leaves valid requests mode ∧ mode ≠ "" := by
  rw [← getD_lastOverride_eq]
  cases hlast : lastOverride valid requests with
  | none =>
    show (if mode = "" then default else mode) = mode ↔ mode = mode ∧ mode ≠ ""
    split
    · rename_i hempty
      simp [hempty, hdefault]
    · rename_i hne
      simp [hne]
  | some r =>
    have hr : r ≠ "" := by
      rintro rfl
      exact hvalid (lastOverride_mem hlast)
    show (if r = "" then default else r) = mode ↔ r = mode ∧ mode ≠ ""
    rw [if_neg hr]
    constructor
    · rintro rfl
      exact ⟨rfl, hr⟩
    · exact fun h => h.1

/-- The attempt leaves no override: it ends before the first one; or it ends before the run and
the overrides so far name the modes there are; or it runs, configuration and metrics are in step,
and with an execution service the superstructure's and the decision's overrides name the modes
there are, which are set. -/
def Attempt.Restores (a : Attempt) (m : Modes) : Prop :=
  ∀ admitted, entryGate a = .ok admitted →
    (a.SignalsRaise → m.Unchanged admitted.gas admitted.send)
      ∧ (¬ a.SignalsRaise → ¬ a.Runs m admitted →
        m.Unchanged (admitted.gas ++ forcedGas a.forcing) (admitted.send ++ forcedSend a.forcing))
      ∧ (¬ a.SignalsRaise → a.Runs m admitted →
        m.InStep ∧ (a.service.isSome →
          (Leaves gasModes admitted.gas m.cfgGas ∧ m.cfgGas ≠ "")
            ∧ Leaves sendModes admitted.send m.cfgSend ∧ m.cfgSend ≠ ""))

/-- **The overrides of a trade do not leak exactly when** the attempt ends before them, or they
name the modes there are. -/
theorem modes_restored_iff (a : Attempt) (m : Modes) :
    (executeAuto a m).modes = m ↔ a.Restores m := by
  unfold Attempt.Restores
  cases hgate : entryGate a with
  | error halt =>
    simp only [executeAuto, hgate, reduceCtorEq, IsEmpty.forall_iff, implies_true]
  | ok admitted =>
    have hrestored : a.restored m admitted = m ↔ m.InStep ∧ (a.service.isSome →
        (Leaves gasModes admitted.gas m.cfgGas ∧ m.cfgGas ≠ "")
          ∧ Leaves sendModes admitted.send m.cfgSend ∧ m.cfgSend ≠ "") := by
      unfold Attempt.restored
      cases a.service.isSome with
      | false => simp [restore_eq_iff]
      | true =>
        rw [if_pos rfl, restore_eq_iff]
        show m.InStep ∧ orDefault ((lastOverride gasModes _).getD _) _ = _
          ∧ orDefault ((lastOverride sendModes _).getD _) _ = _ ↔ _
        rw [orDefault_eq_iff (by decide) (by decide), orDefault_eq_iff (by decide) (by decide)]
        simp only [forall_true_left]
    obtain ⟨hsignals, hends, hruns⟩ := executeAuto_modes (m := m) hgate
    by_cases hraise : a.SignalsRaise
    · rw [hsignals hraise, Modes.after_eq_iff]
      simp [hraise]
    · by_cases hrun : a.Runs m admitted
      · rw [hruns hraise hrun, hrestored]
        simp [hraise, hrun]
      · rw [hends hraise hrun, Attempt.forced, Modes.after_eq_iff]
        simp [hraise, hrun]

/-- A decision that asks for another gas mode. -/
def instantDecision : Decision where
  multipliers := ⟨some 1, some 1⟩
  gasMode := "instant"
  sendMode := ""
  settable := true
  routePlan := none
  providerHint := ""

/-- The decision's gas mode stays after a trade that is sent, and after one without an endpoint. -/
theorem decision_gas_mode_leaks :
    (executeAuto { sampleAttempt with decision := some instantDecision } sampleModes).modes
        ≠ sampleModes
      ∧ (executeAuto { sampleAttempt with decision := some instantDecision, bestRead := "" }
        sampleModes).modes ≠ sampleModes := by
  decide +kernel

end SovereignCapital.Execute
