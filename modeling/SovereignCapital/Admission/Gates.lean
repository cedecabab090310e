import SovereignCapital.Admission.Opportunity
import SovereignCapital.Governance.KillSwitch
import SovereignCapital.Risk.Drawdown

/-! # The gates before an execution

`AdmissionService`: the controls of the operator, the drawdown gate and the kill switch, and the
budget of a family. Handlers around the gates go on with the opportunity as it is when something in
its metadata cannot be read, or when it cannot be scaled.
-/

namespace SovereignCapital.Admission

open Bytes PyRaise

/-! ## The runtime -/

/-- The controls of the command centre that the gates read. -/
structure Controls where
  paused : Bool
  sandboxOnly : Bool
  defensiveMode : Bool
  reduceExposureHalf : Bool

def Controls.halves (c : Controls) : Bool := c.defensiveMode || c.reduceExposureHalf

/-- The capital limit of a family, as it is resolved; the target is a number. -/
structure FamilyLimit where
  targetKnown : Bool
  familyTarget : PyFloat
  target_ne : familyTarget ≠ .nan

structure Runtime where
  controls : Controls
  limits : Risk.Limits
  drawdown : Risk.State
  killSwitch : Governance.KillSwitchStore
  chain : Text
  dryRun : Bool
  now : Int
  /-- `resolve_family_capital_limit`, in the state of the capital engine. -/
  familyLimit : Text → Except PyError FamilyLimit

/-- `ExecResult`, as far as a rejection fills it. -/
structure Rejection where
  dryRun : Bool
  reason : Text

/-! ## Reading the metadata -/

structure GateRequest where
  family : Text
  routeFamily : Text
  venue : Text
  pressure : PyFloat

/-- `opp.meta or {}`. -/
def orEmpty (v : PyTree) : PyTree := v.orElse emptyDict

/-- `((meta or {}).get("capture") or {}).get("metadata") or {}`. -/
def captureMetadata (metadata : PyTree) : Except PyError PyTree := do
  let capture ← get (orEmpty metadata) "capture"
  let inner ← get (orEmpty capture) "metadata"
  return orEmpty inner

def readRouteFamily (metadata : PyTree) : Except PyError Text :=
  if metadata.isMapping then do
    let inner ← captureMetadata metadata
    let envelope ← getOr inner "envelope" emptyDict
    let family ← get envelope "route_family"
    if family.str = "" then return (PyMap.get metadata.mapping "route_family").str.toList
    else return family.str.toList
  else .ok []

def readStrategyFamily (metadata : PyTree) : Text :=
  if metadata.isMapping then (PyMap.get metadata.mapping "strategy_family").str.toList
  else "flashloan_atomic".toList

def Opportunity.venue (opp : Opportunity) : Text := ((opp.legs.head?.map RouteLeg.venue).getD [])

def readPressure (metadata : PyTree) : Except PyError PyFloat :=
  if metadata.isMapping then do
    let inner ← captureMetadata metadata
    let selection ← getOr inner "endpoint_selection" emptyDict
    let pressure ← getOr selection "pressure" (.leaf (.int 0))
    PyRaise.float pressure
  else .ok (.finite 0)

def readRequest (opp : Opportunity) : Except PyError GateRequest := do
  let routeFamily ← readRouteFamily opp.metadata
  let pressure ← readPressure opp.metadata
  return ⟨readStrategyFamily opp.metadata, routeFamily, opp.venue, pressure⟩

/-! ## `apply_control_and_risk_gates` -/

/-- What the gates leave in the metadata of the decision. Beside an answer stands what was asked. -/
structure GateMetadata where
  defensiveClamp : Bool
  drawdownGate : Option (Text × Risk.Gate)
  killSwitch : Option (GateRequest × Governance.Evaluation)

structure GateResult where
  opportunity : Opportunity
  forceDryRun : Bool
  rejection : Option Rejection
  metadata : GateMetadata

def Runtime.drawdownGate (rt : Runtime) (family : Text) : Risk.Gate :=
  rt.drawdown.gate rt.limits rt.now family

/-- A number that is at or above the limit of the kill switch exactly when the float is. -/
def pressureLevel : PyFloat → ℚ
  | .finite x => x
  | .inf negative => if negative then 0 else 1
  | .nan => 0

/-- The kill switch for a request that the drawdown gate has let through. -/
def Runtime.evaluate (rt : Runtime) (q : GateRequest) : Governance.Evaluation :=
  rt.killSwitch.evaluate {
    family := q.family
    routeFamily := q.routeFamily
    venue := q.venue
    chain := rt.chain
    drawdownGate :=
      some ⟨(rt.drawdownGate q.family).allowed, (rt.drawdownGate q.family).reasonCodes⟩
    endpointPressure := pressureLevel q.pressure }

/-- `','.join(codes)` after the name of the gate. -/
def gateReason (gate : String) (codes : List Text) : Text :=
  gate.toList ++ ':' :: [','].intercalate codes

/-- `float(gate["aggressiveness_cap"])`. -/
def capOf (gate : Risk.Gate) : ℚ := Double.nearest gate.aggressivenessCap

/-- The cap is below `0.999`. -/
def Caps (gate : Risk.Gate) : Prop := capOf gate < Double.nearest (999 / 1000)

instance (gate : Risk.Gate) : Decidable (Caps gate) := by unfold Caps; infer_instance

def capped (gate : Risk.Gate) (opp : Opportunity) : Except PyError Opportunity :=
  if Caps gate then scaleOpportunity opp (.finite (capOf gate)) else .ok opp

def clamped (c : Controls) (opp : Opportunity) : Except PyError (Opportunity × Bool) :=
  if c.halves then
    recover safeExceptions (opp, false)
      ((scaleOpportunity opp (.finite (1 / 2))).map fun out => (out, true))
  else .ok (opp, false)

def killSwitchGate (rt : Runtime) (opp : Opportunity) (force clamp : Bool) (q : GateRequest) :
    GateResult where
  opportunity := opp
  forceDryRun := force
  rejection :=
    if (rt.evaluate q).allowed then none
    else some ⟨rt.dryRun || force, gateReason "kill_switch" (rt.evaluate q).reasonCodes⟩
  metadata := ⟨clamp, some (q.family, rt.drawdownGate q.family), some (q, rt.evaluate q)⟩

/-- Nothing more is asked. -/
def letThrough (opp : Opportunity) (force : Bool) (metadata : GateMetadata) : GateResult :=
  ⟨opp, force, none, metadata⟩

/-- The drawdown gate and the kill switch. -/
def riskGates (rt : Runtime) (opp : Opportunity) (force clamp : Bool) :
    Except PyError GateResult :=
  match readRequest opp with
  | .error e =>
    recover safeExceptions (letThrough opp force ⟨clamp, none, none⟩) (.error e)
  | .ok q =>
    let gate := rt.drawdownGate q.family
    if gate.allowed then
      recover safeExceptions (letThrough opp force ⟨clamp, some (q.family, gate), none⟩)
        ((capped gate opp).map fun out => killSwitchGate rt out force clamp q)
    else
      .ok {
        opportunity := opp
        forceDryRun := force
        rejection := some ⟨rt.dryRun || force, gateReason "drawdown_gate" gate.reasonCodes⟩
        metadata := ⟨clamp, some (q.family, gate), none⟩ }

def applyControlAndRiskGates (rt : Runtime) (opp : Opportunity) (force : Bool) :
    Except PyError GateResult :=
  if rt.controls.paused then
    .ok ⟨opp, force, some ⟨true, "cc_paused".toList⟩, ⟨false, none, none⟩⟩
  else do
    let (out, clamp) ← clamped rt.controls opp
    riskGates rt out (force || rt.controls.sandboxOnly) clamp

/-! ## What the gates guarantee -/

/-- The metadata of the capture decision, as far as it can be read. -/
def innerOf (metadata : PyTree) : PyMap :=
  (PyMap.get (PyMap.get metadata.mapping "capture").mapping "metadata").mapping

/-- The family of an opportunity, and the one it has without a name. -/
def strategyFamilyOf (metadata : PyTree) : Text :=
  ((PyMap.get metadata.mapping "strategy_family").orElse
    (textValue "flashloan_atomic".toList)).str.toList

/-- The route family: that of the envelope, or else that of the opportunity. -/
def routeFamilyOf (metadata : PyTree) : Text :=
  ((PyMap.get (PyMap.get (innerOf metadata) "envelope").mapping "route_family").orElse
    ((PyMap.get metadata.mapping "route_family").orElse (textValue []))).str.toList

def pressureOf (metadata : PyTree) : PyFloat :=
  match ((PyMap.get? (PyMap.get (innerOf metadata) "endpoint_selection").mapping "pressure").getD
      (.leaf (.int 0))).float with
  | .ok x => x
  | .error _ => .finite 0

/-- What an opportunity is to be judged by, whatever else its metadata hold. -/
def ownRequest (opp : Opportunity) : GateRequest where
  family := strategyFamilyOf opp.metadata
  routeFamily := routeFamilyOf opp.metadata
  venue := opp.venue
  pressure := pressureOf opp.metadata

def share (amount : Int) (factor : ℚ) : Int := max 1 ⌊amount * factor⌋

/-- What the controls and the drawdown gate leave of an exposure. -/
def exposure (rt : Runtime) (opp : Opportunity) : ℚ :=
  (if rt.controls.halves then 1 / 2 else 1) * capOf (rt.drawdownGate (ownRequest opp).family)

/-- The gates are closed to what they refuse, and none of them is left out. -/
structure Closed (rt : Runtime) (opp : Opportunity) (res : GateResult) : Prop where
  paused : rt.controls.paused = true → res.rejection ≠ none
  drawdown : (rt.drawdownGate (ownRequest opp).family).allowed = false → res.rejection ≠ none
  killSwitch : (rt.evaluate (ownRequest opp)).allowed = false → res.rejection ≠ none
  sandbox : rt.controls.sandboxOnly = true → res.forceDryRun = true
  amount : res.rejection = none → ∀ a, opp.amountIn = some a →
    ∃ a', res.opportunity.amountIn = some a' ∧ a' ≤ share a (exposure rt opp)
  clamped : rt.controls.paused = false → rt.controls.halves = true →
    res.metadata.defensiveClamp = true
  asked : rt.controls.paused = false →
    res.metadata.drawdownGate.map Prod.fst = some (ownRequest opp).family
  evaluated : rt.controls.paused = false →
    (rt.drawdownGate (ownRequest opp).family).allowed = true →
    res.metadata.killSwitch.map Prod.fst = some (ownRequest opp)

def FailClosed (rt : Runtime) (opp : Opportunity) (force : Bool) : Prop :=
  ∃ res, applyControlAndRiskGates rt opp force = .ok res ∧ Closed rt opp res

/-- What the two products in double precision leave of an amount. -/
def leftOf (rt : Runtime) (opp : Opportunity) (amount : Int) : Int :=
  let halved := if rt.controls.halves then shrunk amount (1 / 2) else amount
  let gate := rt.drawdownGate (ownRequest opp).family
  if Caps gate then shrunk halved (capOf gate) else halved

structure GatesOpen (rt : Runtime) (opp : Opportunity) : Prop where
  /-- The metadata are read, and as what is meant. -/
  reads : ∃ q, readRequest opp = .ok q ∧ q.family = (ownRequest opp).family
    ∧ ((rt.drawdownGate (ownRequest opp).family).allowed = true → q = ownRequest opp)
  /-- Where the exposure is to be reduced, `scale_opportunity` does not raise; and the products are
  not rounded up above the exact ones. -/
  scales : ∃ out,
    (if rt.controls.halves then scaleOpportunity opp (.finite (1 / 2)) = .ok out else out = opp)
    ∧ ((rt.drawdownGate (ownRequest opp).family).allowed = true →
      (∃ out', capped (rt.drawdownGate (ownRequest opp).family) out = .ok out')
      ∧ ((rt.evaluate (ownRequest opp)).allowed = true →
        ∀ a, opp.amountIn = some a → leftOf rt opp a ≤ share a (exposure rt opp)))

/-- The condition of the gates. -/
def GatesOk (rt : Runtime) (opp : Opportunity) (force : Bool) : Prop :=
  if rt.controls.paused then rt.controls.sandboxOnly = true → force = true else GatesOpen rt opp

/-! ## The caps -/

theorem capOf_cases (rt : Runtime) (family : Text) :
    capOf (rt.drawdownGate family) = Double.nearest (35 / 100)
      ∨ capOf (rt.drawdownGate family) = Double.nearest (70 / 100)
      ∨ capOf (rt.drawdownGate family) = Double.nearest 1 := by
  unfold capOf Runtime.drawdownGate Risk.State.gate
  simp only
  split_ifs
  all_goals first
    | exact .inl rfl
    | exact .inr (.inl rfl)
    | exact .inr (.inr rfl)

/-- A cap that scales is between zero and one; any other one is one. -/
theorem capOf_spec (rt : Runtime) (family : Text) :
    (Caps (rt.drawdownGate family) → 0 < capOf (rt.drawdownGate family)
        ∧ capOf (rt.drawdownGate family) < 1)
      ∧ (¬ Caps (rt.drawdownGate family) → capOf (rt.drawdownGate family) = 1) := by
  have hvalues : (0 < Double.nearest (35 / 100) ∧ Double.nearest (35 / 100) < 1)
      ∧ (0 < Double.nearest (70 / 100) ∧ Double.nearest (70 / 100) < 1) ∧ Double.nearest 1 = 1 := by
    decide +kernel
  have hbelow : Double.nearest (35 / 100) < Double.nearest (999 / 1000)
      ∧ Double.nearest (70 / 100) < Double.nearest (999 / 1000)
      ∧ ¬ (1 : ℚ) < Double.nearest (999 / 1000) := by
    decide +kernel
  unfold Caps
  rcases capOf_cases rt family with h | h | h
  · rw [h]
    exact ⟨fun _ => hvalues.1, fun hnot => absurd hbelow.1 hnot⟩
  · rw [h]
    exact ⟨fun _ => hvalues.2.1, fun hnot => absurd hbelow.2.1 hnot⟩
  · rw [h, hvalues.2.2]
    exact ⟨fun hlt => absurd hlt hbelow.2.2, fun _ => rfl⟩

/-! ## Reading a scaled opportunity -/

variable {v : PyTree} {opp out : Opportunity} {rt : Runtime} {c : Controls} {force : Bool}

theorem get_of_sameBut {w : PyTree} (h : SameBut scaledItems v w) {k : String}
    (hk : k ∉ scaledItems) : PyMap.get w.mapping k = PyMap.get v.mapping k := by
  unfold PyMap.get
  rw [h.items k hk]

theorem captureMetadata_of_isMapping (h : v.isMapping = true) :
    captureMetadata v = do
      let inner ← get (orEmpty (PyMap.get v.mapping "capture")) "metadata"
      return orEmpty inner := by
  cases v with
  | dict items repr =>
    have hget : get (orEmpty (.dict items repr)) "capture" = .ok (PyMap.get items "capture") := by
      cases items with
      | nil => rfl
      | cons item items => rfl
    unfold captureMetadata
    rw [hget]
    rfl
  | leaf v => cases h
  | inf negative => cases h
  | nan => cases h
  | list items repr => cases h

theorem captureMetadata_congr {w : PyTree} (h : SameBut scaledItems v w) (hv : v.isMapping = true) :
    captureMetadata w = captureMetadata v := by
  have hw : w.isMapping = true := h.isMapping.trans hv
  rw [captureMetadata_of_isMapping hv, captureMetadata_of_isMapping hw,
    get_of_sameBut h (by decide)]

theorem readRequest_congr (h : SameRequest opp out) : readRequest out = readRequest opp := by
  have hvenue : out.venue = opp.venue := by
    unfold Opportunity.venue
    rw [h.venue]
  cases hmapping : opp.metadata.isMapping with
  | false =>
    have hsame : out.metadata = opp.metadata := h.metadata.other hmapping
    unfold readRequest
    rw [hsame, hvenue]
  | true =>
    have hout : out.metadata.isMapping = true := h.metadata.isMapping.trans hmapping
    have hcapture := captureMetadata_congr h.metadata hmapping
    unfold readRequest readRouteFamily readStrategyFamily readPressure
    rw [hcapture, hvenue, if_pos hmapping, if_pos hout, if_pos hmapping, if_pos hout,
      if_pos hmapping, if_pos hout, get_of_sameBut h.metadata (by decide),
      get_of_sameBut h.metadata (by decide)]

/-! ## When the gates are closed -/

theorem scaleOpportunity_between {sm : ℚ} (h₀ : 0 < sm) (h₁ : sm < 1) :
    scaleOpportunity opp (.finite sm) = scaled opp sm := by
  unfold scaleOpportunity
  simp only
  rw [if_neg]
  rintro (h | h)
  · exact absurd h₁ (not_lt.2 h)
  · exact absurd h₀ (not_lt.2 h)

theorem scaleOpportunity_spec {sm : ℚ} (h₀ : 0 < sm) (h₁ : sm < 1)
    (h : scaleOpportunity opp (.finite sm) = .ok out) :
    SameRequest opp out ∧ out.amountIn = opp.amountIn.map fun amount => shrunk amount sm := by
  rw [scaleOpportunity_between h₀ h₁] at h
  exact scaled_eq_ok h

theorem capped_spec {family : Text} (h : capped (rt.drawdownGate family) opp = .ok out) :
    out.amountIn = opp.amountIn.map fun amount =>
      if Caps (rt.drawdownGate family) then shrunk amount (capOf (rt.drawdownGate family))
      else amount := by
  unfold capped at h
  split at h
  · rename_i hcaps
    obtain ⟨h₀, h₁⟩ := (capOf_spec rt family).1 hcaps
    simp only [hcaps, if_true]
    exact (scaleOpportunity_spec h₀ h₁ h).2
  · rename_i hcaps
    cases h
    simp only [hcaps, if_false]
    exact Option.map_id'.symm

theorem clamp_spec
    (h : if c.halves then scaleOpportunity opp (.finite (1 / 2)) = .ok out else out = opp) :
    SameRequest opp out ∧ out.amountIn = opp.amountIn.map fun amount =>
      if c.halves then shrunk amount (1 / 2) else amount := by
  cases hhalves : c.halves with
  | true =>
    rw [hhalves, if_pos rfl] at h
    exact scaleOpportunity_spec (by norm_num) (by norm_num) h
  | false =>
    rw [hhalves, if_neg Bool.false_ne_true] at h
    rw [h]
    exact ⟨⟨rfl, SameBut.refl _ _⟩, Option.map_id'.symm⟩

theorem clamped_eq
    (h : if c.halves then scaleOpportunity opp (.finite (1 / 2)) = .ok out else out = opp) :
    clamped c opp = .ok (out, c.halves) := by
  unfold clamped
  cases hhalves : c.halves with
  | true =>
    rw [hhalves, if_pos rfl] at h
    rw [if_pos rfl, h]
    rfl
  | false =>
    rw [hhalves, if_neg Bool.false_ne_true] at h
    rw [if_neg Bool.false_ne_true, h]

theorem clamped_inv {clamp : Bool} (h : clamped c opp = .ok (out, clamp))
    (hclamp : c.halves = true → clamp = true) :
    if c.halves then scaleOpportunity opp (.finite (1 / 2)) = .ok out else out = opp := by
  unfold clamped at h
  cases hhalves : c.halves with
  | false =>
    rw [hhalves, if_neg Bool.false_ne_true] at h
    rw [if_neg Bool.false_ne_true]
    exact (Prod.mk.inj (Except.ok.inj h)).1.symm
  | true =>
    rw [hhalves, if_pos rfl] at h
    rw [if_pos rfl]
    have htrue : clamp = true := hclamp hhalves
    cases hscale : scaleOpportunity opp (.finite (1 / 2)) with
    | ok out' =>
      rw [hscale] at h
      rw [(Prod.mk.inj (Except.ok.inj h)).1]
    | error e =>
      rw [hscale] at h
      by_cases hsafe : e ∈ safeExceptions
      · have hrecover := (recover_caught hsafe (opp, false)).symm.trans h
        have hfalse := (Prod.mk.inj (Except.ok.inj hrecover)).2
        rw [htrue] at hfalse
        cases hfalse
      · have hrecover := (recover_raised hsafe (opp, false)).symm.trans h
        cases hrecover

/-- The risk gates ask what they should when they read what they should and can scale. -/
theorem riskGates_eq {q : GateRequest} (force clamp : Bool) (hread : readRequest opp = .ok q) :
    riskGates rt opp force clamp =
      if (rt.drawdownGate q.family).allowed then
        recover safeExceptions
          (letThrough opp force ⟨clamp, some (q.family, rt.drawdownGate q.family), none⟩)
          ((capped (rt.drawdownGate q.family) opp).map fun out =>
            killSwitchGate rt out force clamp q)
      else .ok {
        opportunity := opp
        forceDryRun := force
        rejection := some
          ⟨rt.dryRun || force, gateReason "drawdown_gate" (rt.drawdownGate q.family).reasonCodes⟩
        metadata := ⟨clamp, some (q.family, rt.drawdownGate q.family), none⟩ } := by
  unfold riskGates
  rw [hread]

theorem failClosed_of_open (force : Bool) (hpaused : rt.controls.paused = false)
    (h : GatesOpen rt opp) : FailClosed rt opp force := by
  obtain ⟨⟨q, hreads, hfamily, hown⟩, out, hclamp, hallowed⟩ := h
  obtain ⟨hsame, hamount⟩ := clamp_spec hclamp
  have hread : readRequest out = .ok q := (readRequest_congr hsame).trans hreads
  have hgates : applyControlAndRiskGates rt opp force
      = riskGates rt out (force || rt.controls.sandboxOnly) rt.controls.halves := by
    unfold applyControlAndRiskGates
    rw [hpaused, if_neg Bool.false_ne_true, clamped_eq hclamp]
    rfl
  have hsandbox : rt.controls.sandboxOnly = true → (force || rt.controls.sandboxOnly) = true := by
    intro h
    rw [h, Bool.or_true]
  have hnot : rt.controls.paused = true → False := by
    intro h
    rw [hpaused] at h
    cases h
  unfold FailClosed
  rw [hgates, riskGates_eq _ _ hread, hfamily]
  cases hgate : (rt.drawdownGate (ownRequest opp).family).allowed with
  | false =>
    rw [if_neg Bool.false_ne_true]
    refine ⟨_, rfl, ?_⟩
    exact {
      paused := fun h => (hnot h).elim
      drawdown := fun _ => Option.some_ne_none _
      killSwitch := fun _ => Option.some_ne_none _
      sandbox := hsandbox
      amount := fun hnone => absurd hnone (Option.some_ne_none _)
      clamped := fun _ hhalves => hhalves
      asked := fun _ => rfl
      evaluated := fun _ hallow => by rw [hgate] at hallow; cases hallow }
  | true =>
    obtain rfl := hown hgate
    obtain ⟨⟨out', hcapped⟩, hround⟩ := hallowed hgate
    rw [if_pos rfl, hcapped]
    refine ⟨_, rfl, ?_⟩
    exact {
      paused := fun h => (hnot h).elim
      drawdown := fun hrefused => by rw [hgate] at hrefused; cases hrefused
      killSwitch := fun hrefused => by
        show (if (rt.evaluate (ownRequest opp)).allowed then none else _) ≠ none
        rw [hrefused, if_neg Bool.false_ne_true]
        exact Option.some_ne_none _
      sandbox := hsandbox
      amount := by
        intro hnone a ha
        have hallow : (rt.evaluate (ownRequest opp)).allowed = true := by
          by_contra hrefused
          have hfalse := Bool.eq_false_of_not_eq_true hrefused
          have hsome : (if (rt.evaluate (ownRequest opp)).allowed then none
              else some _) = none := hnone
          rw [hfalse, if_neg Bool.false_ne_true] at hsome
          cases hsome
        refine ⟨leftOf rt opp a, ?_, hround hallow a ha⟩
        show out'.amountIn = _
        rw [capped_spec hcapped, hamount, ha]
        rfl
      clamped := fun _ hhalves => hhalves
      asked := fun _ => rfl
      evaluated := fun _ _ => rfl }

/-- What the risk gates hand back: nothing was asked, or the drawdown gate refused, or the cap could
not be applied, or the kill switch was asked. -/
theorem riskGates_inv {clamp : Bool} {res : GateResult}
    (h : riskGates rt opp force clamp = .ok res) :
    (res = letThrough opp force ⟨clamp, none, none⟩)
      ∨ ∃ q, readRequest opp = .ok q
        ∧ (res.metadata = ⟨clamp, some (q.family, rt.drawdownGate q.family), none⟩
          ∨ ((rt.drawdownGate q.family).allowed = true
            ∧ ∃ out, capped (rt.drawdownGate q.family) opp = .ok out
              ∧ res = killSwitchGate rt out force clamp q)) := by
  cases hread : readRequest opp with
  | error e =>
    unfold riskGates at h
    rw [hread] at h
    by_cases hsafe : e ∈ safeExceptions
    · exact .inl (Except.ok.inj ((recover_caught hsafe _).symm.trans h)).symm
    · cases (recover_raised hsafe _).symm.trans h
  | ok q =>
    rw [riskGates_eq _ _ hread] at h
    refine .inr ⟨q, rfl, ?_⟩
    cases hgate : (rt.drawdownGate q.family).allowed with
    | false =>
      rw [hgate, if_neg Bool.false_ne_true] at h
      cases h
      exact .inl rfl
    | true =>
      rw [hgate, if_pos rfl] at h
      cases hcapped : capped (rt.drawdownGate q.family) opp with
      | ok out =>
        rw [hcapped] at h
        exact .inr ⟨rfl, out, rfl, (Except.ok.inj h).symm⟩
      | error e =>
        rw [hcapped] at h
        by_cases hsafe : e ∈ safeExceptions
        · cases (recover_caught hsafe _).symm.trans h
          exact .inl rfl
        · cases (recover_raised hsafe _).symm.trans h

/-- And back: what is closed was read and scaled. -/
theorem open_of_failClosed (hpaused : rt.controls.paused = false) (h : FailClosed rt opp force) :
    GatesOpen rt opp := by
  obtain ⟨res, hres, hclosed⟩ := h
  unfold applyControlAndRiskGates at hres
  rw [hpaused, if_neg Bool.false_ne_true] at hres
  obtain ⟨⟨out, clamp⟩, hclamped, hrisk⟩ := Guarded.bind_ok_iff.1 hres
  have hinv := riskGates_inv hrisk
  -- the flag of the clamp is handed on by every branch
  have hflag : res.metadata.defensiveClamp = clamp := by
    rcases hinv with rfl | ⟨q, -, hmeta | ⟨-, out', -, rfl⟩⟩
    · rfl
    · rw [hmeta]
    · rfl
  have hclamp := clamped_inv hclamped fun hhalves =>
    hflag.symm.trans (hclosed.clamped hpaused hhalves)
  obtain ⟨hsame, hamount⟩ := clamp_spec hclamp
  have hasked := hclosed.asked hpaused
  have hevaluated := hclosed.evaluated hpaused
  rcases hinv with rfl | ⟨q, hread, hmeta | ⟨hallowed, out', hcapped, rfl⟩⟩
  · cases hasked
  · rw [readRequest_congr hsame] at hread
    rw [hmeta] at hasked hevaluated
    have hfamily : q.family = (ownRequest opp).family := Option.some.inj hasked
    have hrefused : ¬ (rt.drawdownGate (ownRequest opp).family).allowed = true := by
      intro hallowed
      cases hevaluated hallowed
    exact {
      reads := ⟨q, hread, hfamily, fun hallowed => absurd hallowed hrefused⟩
      scales := ⟨out, hclamp, fun hallowed => absurd hallowed hrefused⟩ }
  · rw [readRequest_congr hsame] at hread
    have hfamily : q.family = (ownRequest opp).family := Option.some.inj hasked
    rw [hfamily] at hallowed
    obtain rfl : q = ownRequest opp := Option.some.inj (hevaluated hallowed)
    refine ⟨⟨_, hread, rfl, fun _ => rfl⟩, out, hclamp, fun _ => ⟨⟨out', hcapped⟩, ?_⟩⟩
    intro hswitch a ha
    have hnone : (killSwitchGate rt out' (force || rt.controls.sandboxOnly) clamp
        (ownRequest opp)).rejection = none := by
      unfold killSwitchGate
      rw [hswitch]
      rfl
    obtain ⟨a', ha', hle⟩ := hclosed.amount hnone a ha
    have hleft : out'.amountIn = some (leftOf rt opp a) := by
      rw [capped_spec hcapped, hamount, ha]
      rfl
    have heq : some (leftOf rt opp a) = some a' := hleft.symm.trans ha'
    rw [Option.some.inj heq]
    exact hle

theorem failClosed_iff_gatesOk : FailClosed rt opp force ↔ GatesOk rt opp force := by
  unfold GatesOk
  cases hpaused : rt.controls.paused with
  | false =>
    rw [if_neg Bool.false_ne_true]
    exact ⟨open_of_failClosed hpaused, failClosed_of_open force hpaused⟩
  | true =>
    rw [if_pos rfl]
    have hgates : applyControlAndRiskGates rt opp force
        = .ok ⟨opp, force, some ⟨true, "cc_paused".toList⟩, ⟨false, none, none⟩⟩ := by
      unfold applyControlAndRiskGates
      rw [hpaused, if_pos rfl]
    have hnot : rt.controls.paused = false → False := by
      intro h
      rw [hpaused] at h
      cases h
    unfold FailClosed
    rw [hgates]
    constructor
    · rintro ⟨res, hres, hclosed⟩
      cases hres
      exact hclosed.sandbox
    · intro hsandbox
      refine ⟨_, rfl, ?_⟩
      exact {
        paused := fun _ => Option.some_ne_none _
        drawdown := fun _ => Option.some_ne_none _
        killSwitch := fun _ => Option.some_ne_none _
        sandbox := hsandbox
        amount := fun h => absurd h (Option.some_ne_none _)
        clamped := fun h => (hnot h).elim
        asked := fun h => (hnot h).elim
        evaluated := fun h => (hnot h).elim }

end SovereignCapital.Admission
