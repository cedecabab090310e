import SovereignCapital.Lib.PyNumber

/-! # Capital demand

`capital_demand_from_mapping`: the three amounts are read through their aliases and clamped, and
the record can be read again. Amounts are in millionths of a dollar.

* `settled_iff` : the deployed amount is clamped by the authorized one as it was read, before that
  is clamped itself; when this does no harm.
-/

namespace SovereignCapital.Capital

/-! ## The mapping -/

def fieldsOf (mapping : Option PyDict) : PyDict := mapping.getD Dict.empty

/-- `details`. What is no mapping is among the fields. -/
structure DemandDetails where
  fields : PyDict
  internalPrimePreview : Option PyDict

/-- `capitalAdmission`. -/
structure DemandAdmission where
  fields : PyDict
  details : Option DemandDetails

structure DemandMapping where
  fields : PyDict
  capitalAdmission : Option DemandAdmission
  capital_admission : Option DemandAdmission
  details : Option DemandDetails
  capitalAuthority : Option PyDict
  wealth_goal : Option PyDict
  wealthGoal : Option PyDict

/-- `{}`, read as a mapping of details. -/
def DemandDetails.blank : DemandDetails := ⟨Dict.empty, none⟩

def DemandDetails.isEmpty (details : DemandDetails) : Bool :=
  details.fields.entries.isEmpty && details.internalPrimePreview.isNone

/-- `{}`, read as an admission. -/
def DemandAdmission.blank : DemandAdmission := ⟨Dict.empty, none⟩

def DemandAdmission.isEmpty (admission : DemandAdmission) : Bool :=
  admission.fields.entries.isEmpty && admission.details.isNone

namespace DemandMapping

def admission (root : DemandMapping) : DemandAdmission :=
  let admission := root.capitalAdmission.getD .blank
  if admission.isEmpty then root.capital_admission.getD .blank else admission

def detailsRead (root : DemandMapping) : DemandDetails :=
  let details := root.admission.details.getD .blank
  if details.isEmpty then root.details.getD .blank else details

def preview (root : DemandMapping) : PyDict := fieldsOf root.detailsRead.internalPrimePreview

def goal (root : DemandMapping) : PyDict :=
  let goal := fieldsOf root.wealth_goal
  if goal.entries.isEmpty then fieldsOf root.wealthGoal else goal

end DemandMapping

/-! ## Amounts -/

/-- `max(0, int(x))`, zero where it raises. -/
def truncated : PyNumber → Int
  | .finite x => max 0 (Double.trunc x)
  | .special => 0

def safeInt (value : PyValue) : Int := ((value.orElse (.int 0)).float?.map truncated).getD 0

/-- `_safe_int(float(value or 0) * 1_000_000)`; nothing where it raises. -/
def safeMicro (value : PyValue) : Option Int :=
  (value.orElse (.int 0)).float?.map fun x => truncated (x.scale 1000000)

/-- `value not in (None, "")`. -/
def given : PyValue → Bool
  | .none => false
  | .text s => s != ""
  | _ => true

/-- `_usd_micro`; nothing where it raises. The second loop looks for what the first has not found
again. -/
def usdMicro (mapping : PyDict) (keys : List String) : Option Int :=
  match keys.find? fun key => given (mapping.get key) with
  | some key => some (safeInt (mapping.get key))
  | none =>
    match (keys.filter fun key => !key.endsWith "_usd_micro").find? fun key =>
        given (mapping.get key) with
    | some key => safeMicro (mapping.get key)
    | none => some 0

def orRead (amount : Int) (next : Option Int) : Option Int :=
  if amount = 0 then next else some amount

def requestedRead (root : DemandMapping) : Option Int := do
  let requested ← usdMicro root.fields
    ["requested_usd_micro", "requestedUsdMicro", "requestedNotionalUsdMicro"]
  let requested ← orRead requested <| usdMicro root.admission.fields
    ["requested_usd_micro", "requestedUsdMicro", "requested_notional_usd_micro"]
  orRead requested <| safeMicro (root.detailsRead.fields.get "requestedNotionalUsd")

def authorizedRead (root : DemandMapping) (requested : Int) : Option Int := do
  let authorized ← usdMicro root.fields
    ["authorized_usd_micro", "authorizedUsdMicro", "authorizedNotionalUsdMicro"]
  let authorized ← orRead authorized <| usdMicro root.admission.fields
    ["authorized_usd_micro", "authorizedUsdMicro", "authorized_notional_usd_micro"]
  let authorized :=
    if authorized = 0 ∧ (root.admission.fields.get "allowed").truthy = true then requested
    else authorized
  orRead authorized <| safeMicro (root.preview.get "authorizedNotionalUsd")

def deployedRead (root : DemandMapping) : Option Int := do
  let deployed ← usdMicro root.fields
    ["deployed_usd_micro", "deployedUsdMicro", "deployedNotionalUsdMicro",
      "actual_deployed_usd_micro"]
  orRead deployed <| safeMicro (root.fields.get "deployedNotionalUsd")

/-! ## The record -/

structure CapitalDemand where
  requestedUsdMicro : Int
  authorizedUsdMicro : Int
  deployedUsdMicro : Int
  authoritySource : String
  capitalSource : String
  goalPosture : String
  authorizationReason : String

/-- `str(a or b or … or "")`. -/
def firstText (values : List PyValue) : String :=
  (values.foldr PyValue.orElse (.text "")).str

/-- `capital_demand_from_mapping`; nothing where it raises. -/
def capitalDemandFromMapping (root : DemandMapping) : Option CapitalDemand := do
  let requested ← requestedRead root
  let authorized ← authorizedRead root requested
  let deployed ← deployedRead root
  return {
    requestedUsdMicro := requested
    authorizedUsdMicro := if requested ≠ 0 then min authorized requested else authorized
    deployedUsdMicro := if authorized ≠ 0 then min deployed authorized else deployed
    authoritySource := firstText
      [root.fields.get "authority_source", root.fields.get "authoritySource",
        (fieldsOf root.capitalAuthority).get "source",
        (fieldsOf root.capitalAuthority).get "authority_source"]
    capitalSource := firstText
      [root.fields.get "capital_source", root.fields.get "capitalSource",
        root.admission.fields.get "capital_source", root.admission.fields.get "capitalSource"]
    goalPosture := firstText
      [root.fields.get "goal_posture", root.fields.get "goalPosture",
        root.goal.get "risk_tolerance", root.goal.get "riskTolerance"]
    authorizationReason := firstText
      [root.fields.get "authorization_reason", root.fields.get "authorizationReason",
        root.admission.fields.get "reason_code", root.admission.fields.get "reasonCode"] }

def CapitalDemand.toDict (d : CapitalDemand) : DemandMapping where
  fields := PyDict.literal
    [("requested_usd_micro", .int d.requestedUsdMicro),
      ("authorized_usd_micro", .int d.authorizedUsdMicro),
      ("deployed_usd_micro", .int d.deployedUsdMicro),
      ("authority_source", .text d.authoritySource), ("capital_source", .text d.capitalSource),
      ("goal_posture", .text d.goalPosture),
      ("authorization_reason", .text d.authorizationReason)]
  capitalAdmission := none
  capital_admission := none
  details := none
  capitalAuthority := none
  wealth_goal := none
  wealthGoal := none

/-! ## Readings -/

theorem truncated_nonneg (x : PyNumber) : 0 ≤ truncated x := by
  cases x with
  | finite x => exact le_max_left _ _
  | special => exact le_rfl

theorem safeInt_nonneg (value : PyValue) : 0 ≤ safeInt value := by
  unfold safeInt
  cases (value.orElse (.int 0)).float? with
  | none => exact le_rfl
  | some x => exact truncated_nonneg x

/-- An amount that was read is read as itself. -/
theorem safeInt_int {n : Int} (h : 0 ≤ n) : safeInt (.int n) = n := by
  have hread : (PyValue.int n).orElse (.int 0) = .int n := by
    by_cases hn : n = 0
    · rw [hn]
      rfl
    · exact PyValue.orElse_of_truthy _ (bne_iff_ne.2 hn)
  rw [safeInt, hread, PyValue.float?_int, Option.map_some, Option.getD_some, truncated,
    Double.trunc, if_pos (Int.cast_nonneg h), Int.floor_intCast, max_eq_right h]

/-- The second loop finds nothing. -/
theorem usdMicro_eq (mapping : PyDict) (keys : List String) :
    usdMicro mapping keys
      = some (((keys.find? fun key => given (mapping.get key)).map fun key =>
          safeInt (mapping.get key)).getD 0) := by
  unfold usdMicro
  cases hfind : keys.find? fun key => given (mapping.get key) with
  | some key => rfl
  | none =>
    have hnone : (keys.filter fun key => !key.endsWith "_usd_micro").find? (fun key =>
        given (mapping.get key)) = none := by
      rw [List.find?_eq_none] at hfind ⊢
      exact fun key hkey => hfind key (List.mem_of_mem_filter hkey)
    rw [hnone]
    rfl

theorem usdMicro_nonneg {mapping : PyDict} {keys : List String} {n : Int}
    (h : usdMicro mapping keys = some n) : 0 ≤ n := by
  rw [usdMicro_eq, Option.some.injEq] at h
  rw [← h]
  cases keys.find? fun key => given (mapping.get key) with
  | none => exact le_rfl
  | some key => exact safeInt_nonneg _

/-- The value, or nothing, is a number. -/
def Numeric (value : PyValue) : Prop := ((value.orElse (.int 0)).float?).isSome = true

theorem safeMicro_of_numeric {value : PyValue} (h : Numeric value) :
    ∃ n, safeMicro value = some n ∧ 0 ≤ n := by
  obtain ⟨x, hx⟩ := Option.isSome_iff_exists.1 h
  exact ⟨_, by rw [safeMicro, hx]; rfl, truncated_nonneg _⟩

theorem orRead_some {amount : Int} (h : 0 ≤ amount) {next : Option Int}
    (hnext : ∃ n, next = some n ∧ 0 ≤ n) : ∃ n, orRead amount next = some n ∧ 0 ≤ n := by
  unfold orRead
  split
  · exact hnext
  · exact ⟨amount, rfl, h⟩

theorem usdMicro_some (mapping : PyDict) (keys : List String) :
    ∃ n, usdMicro mapping keys = some n ∧ 0 ≤ n :=
  ⟨_, usdMicro_eq mapping keys, usdMicro_nonneg (usdMicro_eq mapping keys)⟩

/-- The amounts that are read outside of a `try` are numbers, or missing. -/
structure NumericMapping (root : DemandMapping) : Prop where
  requested : Numeric (root.detailsRead.fields.get "requestedNotionalUsd")
  authorized : Numeric (root.preview.get "authorizedNotionalUsd")
  deployed : Numeric (root.fields.get "deployedNotionalUsd")

theorem requestedRead_some {root : DemandMapping} (h : NumericMapping root) :
    ∃ n, requestedRead root = some n ∧ 0 ≤ n := by
  obtain ⟨first, hfirst, hfirst0⟩ := usdMicro_some root.fields
    ["requested_usd_micro", "requestedUsdMicro", "requestedNotionalUsdMicro"]
  obtain ⟨second, hsecond, hsecond0⟩ := orRead_some hfirst0 (usdMicro_some root.admission.fields
    ["requested_usd_micro", "requestedUsdMicro", "requested_notional_usd_micro"])
  obtain ⟨n, hn, hn0⟩ := orRead_some hsecond0 (safeMicro_of_numeric h.requested)
  refine ⟨n, ?_, hn0⟩
  rw [requestedRead, hfirst, Option.bind_eq_bind, Option.bind_some, hsecond,
    Option.bind_some, hn]

theorem authorizedRead_some {root : DemandMapping} (h : NumericMapping root) {requested : Int}
    (hrequested : 0 ≤ requested) : ∃ n, authorizedRead root requested = some n ∧ 0 ≤ n := by
  obtain ⟨first, hfirst, hfirst0⟩ := usdMicro_some root.fields
    ["authorized_usd_micro", "authorizedUsdMicro", "authorizedNotionalUsdMicro"]
  obtain ⟨second, hsecond, hsecond0⟩ := orRead_some hfirst0 (usdMicro_some root.admission.fields
    ["authorized_usd_micro", "authorizedUsdMicro", "authorized_notional_usd_micro"])
  have hthird : 0 ≤ if second = 0 ∧ (root.admission.fields.get "allowed").truthy = true
      then requested else second := by
    split
    · exact hrequested
    · exact hsecond0
  obtain ⟨n, hn, hn0⟩ := orRead_some hthird (safeMicro_of_numeric h.authorized)
  refine ⟨n, ?_, hn0⟩
  rw [authorizedRead, hfirst, Option.bind_eq_bind, Option.bind_some, hsecond,
    Option.bind_some, hn]

theorem deployedRead_some {root : DemandMapping} (h : NumericMapping root) :
    ∃ n, deployedRead root = some n ∧ 0 ≤ n := by
  obtain ⟨first, hfirst, hfirst0⟩ := usdMicro_some root.fields
    ["deployed_usd_micro", "deployedUsdMicro", "deployedNotionalUsdMicro",
      "actual_deployed_usd_micro"]
  obtain ⟨n, hn, hn0⟩ := orRead_some hfirst0 (safeMicro_of_numeric h.deployed)
  refine ⟨n, ?_, hn0⟩
  rw [deployedRead, hfirst, Option.bind_eq_bind, Option.bind_some, hn]

/-! ## Reading a record -/

theorem usdMicro_first {mapping : PyDict} {key : String} {n : Int}
    (hget : mapping.get key = .int n) (hn : 0 ≤ n) (keys : List String) :
    usdMicro mapping (key :: keys) = some n := by
  have hfind : (key :: keys).find? (fun key => given (mapping.get key)) = some key :=
    List.find?_cons_of_pos (by rw [hget]; rfl)
  rw [usdMicro_eq, hfind, Option.map_some, Option.getD_some, hget, safeInt_int hn]

theorem usdMicro_empty (keys : List String) : usdMicro Dict.empty keys = some 0 := by
  have hfind : keys.find? (fun key => given (PyDict.get Dict.empty key)) = none :=
    List.find?_eq_none.2 fun _ _ => Bool.false_ne_true
  rw [usdMicro_eq, hfind]
  rfl

theorem orRead_zero (n : Int) : orRead n (some 0) = some n := by
  unfold orRead
  split
  · rename_i hn
    rw [hn]
  · rfl

theorem firstText_single (s : String) (rest : List PyValue)
    (hrest : ∀ value ∈ rest, value = .none) : firstText (.text s :: rest) = s := by
  have hnone : rest.foldr PyValue.orElse (.text "") = .text "" := by
    induction rest with
    | nil => rfl
    | cons value rest ih =>
      rw [List.foldr_cons, hrest value List.mem_cons_self,
        ih fun value hvalue => hrest value (List.mem_cons_of_mem _ hvalue)]
      rfl
  rw [firstText, List.foldr_cons, hnone]
  by_cases hs : s = ""
  · rw [hs]
    rfl
  · have htruthy : (PyValue.text s).truthy = true := bne_iff_ne.2 hs
    rw [PyValue.orElse_of_truthy _ htruthy]
    rfl

namespace CapitalDemand

variable (d : CapitalDemand)

theorem get_requested : d.toDict.fields.get "requested_usd_micro" = .int d.requestedUsdMicro := by
  simp [toDict, PyDict.literal, PyDict.get, Dict.getD, Dict.get?_set]

theorem get_authorized :
    d.toDict.fields.get "authorized_usd_micro" = .int d.authorizedUsdMicro := by
  simp [toDict, PyDict.literal, PyDict.get, Dict.getD, Dict.get?_set]

theorem get_deployed : d.toDict.fields.get "deployed_usd_micro" = .int d.deployedUsdMicro := by
  simp [toDict, PyDict.literal, PyDict.get, Dict.getD, Dict.get?_set]

theorem get_deployedNotional : d.toDict.fields.get "deployedNotionalUsd" = .none := by
  simp [toDict, PyDict.literal, PyDict.get, Dict.getD, Dict.get?_set]

theorem firstText_toDict :
    firstText [d.toDict.fields.get "authority_source", d.toDict.fields.get "authoritySource",
        (fieldsOf d.toDict.capitalAuthority).get "source",
        (fieldsOf d.toDict.capitalAuthority).get "authority_source"] = d.authoritySource
      ∧ firstText [d.toDict.fields.get "capital_source", d.toDict.fields.get "capitalSource",
          d.toDict.admission.fields.get "capital_source",
          d.toDict.admission.fields.get "capitalSource"] = d.capitalSource
      ∧ firstText [d.toDict.fields.get "goal_posture", d.toDict.fields.get "goalPosture",
          d.toDict.goal.get "risk_tolerance", d.toDict.goal.get "riskTolerance"] = d.goalPosture
      ∧ firstText [d.toDict.fields.get "authorization_reason",
          d.toDict.fields.get "authorizationReason", d.toDict.admission.fields.get "reason_code",
          d.toDict.admission.fields.get "reasonCode"] = d.authorizationReason := by
  have hnone : ∀ key, PyDict.get Dict.empty key = .none := fun _ => rfl
  have hadmission : d.toDict.admission.fields = Dict.empty := rfl
  have hgoal : d.toDict.goal = Dict.empty := rfl
  have hauthority : fieldsOf d.toDict.capitalAuthority = Dict.empty := rfl
  simp only [hadmission, hgoal, hauthority, hnone]
  refine ⟨?_, ?_, ?_, ?_⟩ <;>
    simp [toDict, PyDict.literal, PyDict.get, Dict.getD, Dict.get?_set, firstText_single]

end CapitalDemand

/-- A record is read as it is, and then clamped once more. -/
theorem capitalDemandFromMapping_toDict {d : CapitalDemand} (hrequested : 0 ≤ d.requestedUsdMicro)
    (hauthorized : 0 ≤ d.authorizedUsdMicro) (hdeployed : 0 ≤ d.deployedUsdMicro) :
    capitalDemandFromMapping d.toDict =
      some { d with
        authorizedUsdMicro :=
          if d.requestedUsdMicro ≠ 0 then min d.authorizedUsdMicro d.requestedUsdMicro
          else d.authorizedUsdMicro
        deployedUsdMicro :=
          if d.authorizedUsdMicro ≠ 0 then min d.deployedUsdMicro d.authorizedUsdMicro
          else d.deployedUsdMicro } := by
  have hadmission : d.toDict.admission = DemandAdmission.blank := rfl
  have hempty : ∀ keys, usdMicro DemandAdmission.blank.fields keys = some 0 := usdMicro_empty
  have hnone : safeMicro .none = some 0 := by decide +kernel
  have hrequestedRead : requestedRead d.toDict = some d.requestedUsdMicro := by
    rw [requestedRead, usdMicro_first (d.get_requested) hrequested, hadmission, hempty,
      Option.bind_eq_bind, Option.bind_some, orRead_zero, Option.bind_some]
    exact (congrArg (orRead _) hnone).trans (orRead_zero _)
  have hauthorizedRead : authorizedRead d.toDict d.requestedUsdMicro
      = some d.authorizedUsdMicro := by
    have hallowed : ¬(d.authorizedUsdMicro = 0
        ∧ (DemandAdmission.blank.fields.get "allowed").truthy = true) :=
      fun h => Bool.false_ne_true h.2
    rw [authorizedRead, usdMicro_first (d.get_authorized) hauthorized, hadmission, hempty,
      Option.bind_eq_bind, Option.bind_some, orRead_zero, Option.bind_some, if_neg hallowed]
    exact (congrArg (orRead _) hnone).trans (orRead_zero _)
  have hdeployedRead : deployedRead d.toDict = some d.deployedUsdMicro := by
    rw [deployedRead, usdMicro_first (d.get_deployed) hdeployed, d.get_deployedNotional, hnone,
      Option.bind_eq_bind, Option.bind_some, orRead_zero]
  obtain ⟨hsource, hcapital, hposture, hreason⟩ := d.firstText_toDict
  rw [capitalDemandFromMapping, hrequestedRead, Option.bind_eq_bind, Option.bind_some,
    hauthorizedRead, Option.bind_some, hdeployedRead, Option.bind_some]
  simp only [hsource, hcapital, hposture, hreason]
  rfl

/-! ## When a demand is settled -/

/-- **A record is settled**: each amount is at most the one above it, none is negative, and reading
the record again changes nothing. -/
structure Settled (d : CapitalDemand) : Prop where
  deployed : d.authorizedUsdMicro ≠ 0 → d.deployedUsdMicro ≤ d.authorizedUsdMicro
  authorized : d.requestedUsdMicro ≠ 0 → d.authorizedUsdMicro ≤ d.requestedUsdMicro
  nonneg : 0 ≤ d.requestedUsdMicro ∧ 0 ≤ d.authorizedUsdMicro ∧ 0 ≤ d.deployedUsdMicro
  idempotent : capitalDemandFromMapping d.toDict = some d

/-- Not both the authorized and the deployed amount, as they are read, exceed what is requested. -/
def WithinRequest (root : DemandMapping) : Prop :=
  ∀ requested authorized deployed, requestedRead root = some requested →
    authorizedRead root requested = some authorized → deployedRead root = some deployed →
    requested = 0 ∨ authorized ≤ requested ∨ deployed ≤ requested

/-- A record whose amounts are in order is read as itself. -/
theorem settled_of_ordered {d : CapitalDemand}
    (hdeployed : d.authorizedUsdMicro ≠ 0 → d.deployedUsdMicro ≤ d.authorizedUsdMicro)
    (hauthorized : d.requestedUsdMicro ≠ 0 → d.authorizedUsdMicro ≤ d.requestedUsdMicro)
    (hnonneg : 0 ≤ d.requestedUsdMicro ∧ 0 ≤ d.authorizedUsdMicro ∧ 0 ≤ d.deployedUsdMicro) :
    Settled d := by
  refine ⟨hdeployed, hauthorized, hnonneg, ?_⟩
  rw [capitalDemandFromMapping_toDict hnonneg.1 hnonneg.2.1 hnonneg.2.2]
  have hauthorized' : (if d.requestedUsdMicro ≠ 0 then
      min d.authorizedUsdMicro d.requestedUsdMicro else d.authorizedUsdMicro)
      = d.authorizedUsdMicro := by
    split
    · rename_i hne
      exact min_eq_left (hauthorized hne)
    · rfl
  have hdeployed' : (if d.authorizedUsdMicro ≠ 0 then
      min d.deployedUsdMicro d.authorizedUsdMicro else d.deployedUsdMicro)
      = d.deployedUsdMicro := by
    split
    · rename_i hne
      exact min_eq_left (hdeployed hne)
    · rfl
  rw [hauthorized', hdeployed']

/-- **When a demand is settled.** The deployed amount is clamped by the authorized one before that
is clamped by the requested one, which matters only where both exceed it. -/
theorem settled_iff (root : DemandMapping) (h : NumericMapping root) :
    (∃ d, capitalDemandFromMapping root = some d ∧ Settled d) ↔ WithinRequest root := by
  obtain ⟨requested, hrequested, hrequested0⟩ := requestedRead_some h
  obtain ⟨authorized, hauthorized, hauthorized0⟩ := authorizedRead_some h hrequested0
  obtain ⟨deployed, hdeployed, hdeployed0⟩ := deployedRead_some h
  have hwithin : WithinRequest root
      ↔ requested = 0 ∨ authorized ≤ requested ∨ deployed ≤ requested := by
    constructor
    · exact fun hall => hall requested authorized deployed hrequested hauthorized hdeployed
    · rintro hamounts r a d hr ha hd
      obtain rfl := Option.some.inj (hrequested.symm.trans hr)
      obtain rfl := Option.some.inj (hauthorized.symm.trans ha)
      obtain rfl := Option.some.inj (hdeployed.symm.trans hd)
      exact hamounts
  rw [hwithin, capitalDemandFromMapping, hrequested, Option.bind_eq_bind, Option.bind_some,
    hauthorized, Option.bind_some, hdeployed, Option.bind_some]
  constructor
  · rintro ⟨d, hd, hsettled⟩
    have hclamped := hsettled.deployed
    cases hd
    -- the amounts of the record are those that were read, clamped
    simp only at hclamped
    by_contra hbeyond
    split_ifs at hclamped with hr ha <;> omega
  · intro hamounts
    refine ⟨_, rfl, settled_of_ordered ?_ ?_ ?_⟩
    · dsimp only
      split_ifs <;> omega
    · dsimp only
      split_ifs <;> omega
    · dsimp only
      split_ifs <;> omega

/-! Mappings with the three amounts. -/

def sampleMapping (requested authorized deployed : Int) : DemandMapping where
  fields := PyDict.literal
    [("requested_usd_micro", .int requested), ("authorized_usd_micro", .int authorized),
      ("deployed_usd_micro", .int deployed)]
  capitalAdmission := none
  capital_admission := none
  details := none
  capitalAuthority := none
  wealth_goal := none
  wealthGoal := none

theorem numeric_sample (requested authorized deployed : Int) :
    NumericMapping (sampleMapping requested authorized deployed) := by
  have hnone : Numeric .none := rfl
  refine ⟨hnone, hnone, ?_⟩
  have hget : (sampleMapping requested authorized deployed).fields.get "deployedNotionalUsd"
      = .none := by
    simp [sampleMapping, PyDict.literal, PyDict.get, Dict.getD, Dict.get?_set]
  rw [hget]
  exact hnone

theorem settled_sample :
    ∃ d, capitalDemandFromMapping (sampleMapping 100 80 60) = some d ∧ Settled d := by
  refine (settled_iff (sampleMapping 100 80 60) (numeric_sample 100 80 60)).2 ?_
  intro requested authorized deployed hrequested hauthorized _
  have hr : requestedRead (sampleMapping 100 80 60) = some 100 := by decide +kernel
  have ha : authorizedRead (sampleMapping 100 80 60) 100 = some 80 := by decide +kernel
  obtain rfl := Option.some.inj (hr.symm.trans hrequested)
  obtain rfl := Option.some.inj (ha.symm.trans hauthorized)
  exact .inr (.inl (by decide))

/-- Of 100 requested, 200 authorized and 150 deployed the record has 100, 100 and 150. -/
theorem deployed_beyond_authorized :
    ¬∀ root : DemandMapping, NumericMapping root →
      ∃ d, capitalDemandFromMapping root = some d ∧ Settled d := by
  intro h
  obtain ⟨d, hd, hsettled⟩ := h (sampleMapping 100 200 150) (numeric_sample 100 200 150)
  have hamounts : (capitalDemandFromMapping (sampleMapping 100 200 150)).map
      (fun d => (d.authorizedUsdMicro, d.deployedUsdMicro)) = some (100, 150) := by
    decide +kernel
  rw [hd, Option.map_some, Option.some.injEq, Prod.mk.injEq] at hamounts
  have hle := hsettled.deployed (by omega)
  omega

end SovereignCapital.Capital
