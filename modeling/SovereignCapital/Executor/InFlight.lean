import SovereignCapital.Executor.CallTree

/-! # The in-flight guard

The guard is set in `execute` and cleared at the end of the callback, after the legs. While a leg
program runs it is still set, so that the provider can be made to call back again with the same
user data. Apart from that the callbacks are authorised in every call tree.
-/

namespace SovereignCapital.Executor

open Bytes Abi CallStack Runs

variable {Ω : Type} {d : Deployment}

/-! ## Counting leg programs -/

theorem runsOf_cons (r : LegRun) (runs : List LegRun) (id : Nat) :
    runsOf (r :: runs) id
      = runsOf runs id + if r.execution.map Prod.fst = some id then 1 else 0 := by
  simp only [runsOf, List.countP_cons, decide_eq_true_eq]

theorem mem_of_innermost {calls : List Call} {id : Nat} {p : Params}
    (h : innermost calls = some (id, p)) : .execute id p ∈ calls := by
  induction calls with
  | nil => cases h
  | cons call calls ih =>
    cases call with
    | outside => exact List.mem_cons_of_mem _ (ih h)
    | execute id' p' =>
      cases h
      exact List.mem_cons_self
    | callback waiting => exact List.mem_cons_of_mem _ (ih h)

/-- A running leg program is that of a callback above the innermost `execute` call. -/
theorem exists_callback_of_running {calls : List Call} (h : running calls = true) :
    ∃ waiting rest, Call.callback waiting :: rest <:+ calls ∧ innermost rest = innermost calls := by
  induction calls with
  | nil => cases h
  | cons call calls ih =>
    cases call with
    | outside =>
      obtain ⟨waiting, rest, hsuffix, hsame⟩ := ih h
      exact ⟨waiting, rest, hsuffix.trans (List.suffix_cons _ _), hsame⟩
    | execute id p => cases h
    | callback waiting => exact ⟨waiting, calls, List.suffix_refl _, rfl⟩

/-! ## The invariant -/

/-- The guard is that of the innermost `execute` call, which has no leg program unless it is
running; each callback on the stack has one; numbers are fresh. -/
structure Inv (l : Layer Ω) (calls : List Call) : Prop where
  guard : l.world.inFlight = true → ∃ id p, innermost calls = some (id, p)
    ∧ l.world.inFlightHash = Keccak.keccak256 p.encode
    ∧ (running calls = false → runsOf l.runs id = 0)
  logged : ∀ waiting rest, Call.callback waiting :: rest <:+ calls →
    ∃ id p, innermost rest = some (id, p) ∧ 1 ≤ runsOf l.runs id
  fresh : ∀ id, l.nextId ≤ id → runsOf l.runs id = 0
  numbered : ∀ id p, Call.execute id p ∈ calls → id < l.nextId
  once : ∀ id, runsOf l.runs id ≤ 1
  committed : ∀ r ∈ l.runs, r.Committed

namespace Inv

variable {l : Layer Ω} {calls : List Call}

theorem withWorld (h : Inv l calls) {w : World Ω}
    (hguard : w.guard = l.world.guard ∨ w.inFlight = false) : Inv (l.withWorld w) calls :=
  { h with
    guard := by
      intro hset
      rcases hguard with hsame | hclear
      · obtain ⟨hflight, hrest⟩ := Prod.mk.inj hsame
        obtain ⟨-, hhash⟩ := Prod.mk.inj hrest
        obtain ⟨id, p, hinner, hcommitted, hnone⟩ := h.guard (hflight ▸ hset)
        exact ⟨id, p, hinner, hhash.trans hcommitted, hnone⟩
      · rw [show (l.withWorld w).world.inFlight = false from hclear] at hset
        cases hset }

theorem outside (h : Inv l calls) : Inv l (.outside :: calls) :=
  { h with
    logged := by
      intro waiting rest hsuffix
      rcases List.suffix_cons_iff.1 hsuffix with heq | hsuffix
      · cases heq
      · exact h.logged waiting rest hsuffix
    numbered := by
      intro id p hmem
      rcases List.mem_cons.1 hmem with heq | hmem
      · cases heq
      · exact h.numbered id p hmem }

/-- The call on top is over: outside code returns, or the guard is clear. -/
theorem tail {call : Call} (h : Inv l (call :: calls))
    (hover : call = .outside ∨ l.world.inFlight = false) : Inv l calls :=
  { h with
    guard := by
      intro hset
      rcases hover with rfl | hclear
      · exact h.guard hset
      · rw [hclear] at hset
        cases hset
    logged := fun waiting rest hsuffix =>
      h.logged waiting rest (hsuffix.trans (List.suffix_cons _ _))
    numbered := fun id p hmem => h.numbered id p (List.mem_cons_of_mem _ hmem) }

theorem replaceWaiting {waiting : Waiting} (h : Inv l (.callback waiting :: calls))
    (waiting' : Waiting) : Inv l (.callback waiting' :: calls) :=
  { h with
    guard := by
      intro hset
      obtain ⟨id, p, hinner, hhash, -⟩ := h.guard hset
      exact ⟨id, p, hinner, hhash, nofun⟩
    logged := by
      intro waiting₀ rest hsuffix
      rcases List.suffix_cons_iff.1 hsuffix with heq | hsuffix
      · cases heq
        exact h.logged waiting calls (List.suffix_refl _)
      · exact h.logged waiting₀ rest (hsuffix.trans (List.suffix_cons _ _))
    numbered := by
      intro id p hmem
      rcases List.mem_cons.1 hmem with heq | hmem
      · cases heq
      · exact h.numbered id p (List.mem_cons_of_mem _ hmem) }

theorem enterExecute (h : Inv l calls) {w : World Ω} {p : Params} (hw : w.inFlightHash
      = Keccak.keccak256 p.encode) :
    Inv { l with world := w, nextId := l.nextId + 1 } (.execute l.nextId p :: calls) where
  guard _ := ⟨l.nextId, p, rfl, hw, fun _ => h.fresh _ (le_refl _)⟩
  logged := by
    intro waiting rest hsuffix
    rcases List.suffix_cons_iff.1 hsuffix with heq | hsuffix
    · cases heq
    · exact h.logged waiting rest hsuffix
  fresh id hid := h.fresh id (Nat.le_of_succ_le hid)
  numbered := by
    intro id p' hmem
    rcases List.mem_cons.1 hmem with heq | hmem
    · cases heq
      exact Nat.lt_succ_self _
    · exact Nat.lt_succ_of_lt (h.numbered id p' hmem)
  once := h.once
  committed := h.committed

/-- A leg program is run for the innermost `execute` call, which had none; the callback is over
with the guard clear, or waits. -/
theorem log (h : Inv l calls) (hset : l.world.inFlight = true) (hidle : running calls = false)
    {userData : List Byte} {params : Params}
    (hhash : Keccak.keccak256 userData = l.world.inFlightHash)
    (hdecode : decode userData = some params)
    (hsame : ∀ id p, innermost calls = some (id, p) →
      Keccak.keccak256 userData = Keccak.keccak256 p.encode → userData = p.encode)
    {w : World Ω} {calls' : List Call}
    (hcalls : (calls' = calls ∧ w.inFlight = false)
      ∨ ∃ waiting, calls' = .callback waiting :: calls ∧ w.guard = l.world.guard) :
    Inv (l.log w ⟨innermost calls, userData, params⟩) calls' := by
  obtain ⟨id, p, hinner, hcommitted, hnone⟩ := h.guard hset
  have hnumber := h.numbered id p (mem_of_innermost hinner)
  have hruns (id' : Nat) : runsOf (l.log w ⟨innermost calls, userData, params⟩).runs id'
      = runsOf l.runs id' + if id = id' then 1 else 0 := by
    simp only [Layer.log, runsOf_cons, hinner, Option.map_some, Option.some.injEq]
  have hlogged : ∀ waiting rest, Call.callback waiting :: rest <:+ calls →
      ∃ id p, innermost rest = some (id, p)
        ∧ 1 ≤ runsOf (l.log w ⟨innermost calls, userData, params⟩).runs id := by
    intro waiting rest hsuffix
    obtain ⟨id', p', hrest, hrun⟩ := h.logged waiting rest hsuffix
    exact ⟨id', p', hrest, by rw [hruns]; omega⟩
  have hfresh (id' : Nat) (hid : l.nextId ≤ id') :
      runsOf (l.log w ⟨innermost calls, userData, params⟩).runs id' = 0 := by
    rw [hruns, h.fresh id' hid, if_neg (by omega)]
  have honce (id' : Nat) :
      runsOf (l.log w ⟨innermost calls, userData, params⟩).runs id' ≤ 1 := by
    rw [hruns]
    split
    · rename_i hid
      rw [← hid, hnone hidle]
    · exact h.once id'
  have hall : ∀ r ∈ (l.log w ⟨innermost calls, userData, params⟩).runs, r.Committed := by
    intro r hr
    rcases List.mem_cons.1 hr with rfl | hr
    · have hdata := hsame id p hinner (hhash.trans hcommitted)
      have hparams : params = p := by
        rw [hdata, decode_encode] at hdecode
        exact (Option.some.inj hdecode).symm
      exact ⟨id, hparams ▸ hinner, hparams ▸ hdata⟩
    · exact h.committed r hr
  rcases hcalls with ⟨rfl, hclear⟩ | ⟨waiting, rfl, hguard⟩
  · exact
      { guard := fun hset' => by
          rw [show w.inFlight = true from hset'] at hclear
          cases hclear
        logged := hlogged
        fresh := hfresh
        numbered := h.numbered
        once := honce
        committed := hall }
  · obtain ⟨-, hrest⟩ := Prod.mk.inj hguard
    obtain ⟨-, hhash'⟩ := Prod.mk.inj hrest
    exact
      { guard := fun _ => ⟨id, p, hinner, hhash'.trans hcommitted, nofun⟩
        logged := by
          intro waiting' rest hsuffix
          rcases List.suffix_cons_iff.1 hsuffix with heq | hsuffix
          · cases heq
            exact ⟨id, p, hinner, by rw [hruns, if_pos rfl]; omega⟩
          · exact hlogged waiting' rest hsuffix
        fresh := hfresh
        numbered := by
          intro id' p' hmem
          rcases List.mem_cons.1 hmem with heq | hmem
          · cases heq
          · exact h.numbered id' p' hmem
        once := honce
        committed := hall }

end Inv

/-! ## Steps -/

theorem layered_next {layer layer' entered : Layer Ω} {stack : List (Frame (Layer Ω) Call)}
    {w : World Ω} {waiting : Option Waiting} (hbelow : Layered Inv entered stack)
    (hnext : (waiting.isSome ∧ w.guard = layer.world.guard)
      ∨ (waiting = none ∧ w.inFlight = false))
    (hover : w.inFlight = false → Inv layer' (frames stack))
    (hwaits : w.guard = layer.world.guard → ∀ waiting,
      Inv layer' (.callback waiting :: frames stack)) :
    Layered Inv (System.next layer' entered stack waiting).layer
      (System.next layer' entered stack waiting).stack := by
  rcases hnext with ⟨hsome, hguard⟩ | ⟨rfl, hclear⟩
  · obtain ⟨waiting, rfl⟩ := Option.isSome_iff_exists.1 hsome
    exact ⟨hwaits hguard waiting, hbelow⟩
  · exact hbelow.update (hover hclear)

/-- **The step lemma**: what meets the condition keeps the invariant, in every layer. -/
theorem inv_step {s : System Ω} (h : Layered Inv s.layer s.stack) (event : Event Ω)
    (hmeets : Meets d s event) : Layered Inv (step d s event).layer (step d s event).stack := by
  cases event with
  | elsewhere w => exact h.update (h.now.withWorld (.inl rfl))
  | call => exact h.push h.now.outside
  | execute sender p =>
    simp only [step]
    cases hexecute : execute s.layer.world sender p with
    | none => exact h
    | some w =>
      apply h.push
      apply h.now.enterExecute
      simp only [execute, Option.bind_eq_bind, Option.bind_eq_some_iff, Option.pure_def,
        Option.some.injEq] at hexecute
      obtain ⟨_, -, _, -, _, -, _, -, _, -, _, -, _, -, rfl⟩ := hexecute
      rfl
  | callback sender callback userData =>
    simp only [step]
    cases hbegin : beginCallback d s.layer.world sender callback userData with
    | none => exact h
    | some next =>
      obtain ⟨loan, w, waiting⟩ := next
      obtain ⟨hset, hhash, hdecode, hnext⟩ := beginCallback_guard hbegin
      obtain ⟨hidle, hsame⟩ := hmeets (by rw [hbegin]; rfl)
      exact layered_next h hnext
        (fun hclear => h.now.log hset hidle hhash hdecode hsame (.inl ⟨rfl, hclear⟩))
        (fun hguard waiting =>
          h.now.log hset hidle hhash hdecode hsame (.inr ⟨waiting, rfl, hguard⟩))
  | returns returned =>
    simp only [step]
    obtain ⟨layer, stack⟩ := s
    cases stack with
    | nil => exact h
    | cons f stack =>
      obtain ⟨data, entered⟩ := f
      cases data with
      | outside => exact h.pop (h.now.tail (.inl rfl))
      | execute id p =>
        exact h.pop ((h.now.withWorld (.inr rfl)).tail (.inr rfl))
      | callback waiting =>
        dsimp only
        cases hresume : resume d layer.world waiting returned with
        | none => exact h.rollback
        | some next =>
          obtain ⟨w, waiting'⟩ := next
          exact layered_next h.rollback (resume_guard hresume)
            (fun hclear => (h.now.withWorld (.inr hclear)).tail (.inr hclear))
            (fun hguard waiting' =>
              (h.now.withWorld (.inl hguard)).replaceWaiting waiting')
  | reverts =>
    simp only [step]
    obtain ⟨layer, stack⟩ := s
    cases stack with
    | nil => exact h
    | cons f stack => exact h.rollback

theorem step_callback_of_clear {s : System Ω} (hclear : s.layer.world.inFlight = false)
    (sender : Address) (callback : Callback) (userData : List Byte) :
    step d s (.callback sender callback userData) = s := by
  simp only [step]
  cases hbegin : beginCallback d s.layer.world sender callback userData with
  | none => rfl
  | some next =>
    obtain ⟨loan, w, waiting⟩ := next
    obtain ⟨hset, -⟩ := beginCallback_guard hbegin
    rw [hclear] at hset
    cases hset

theorem step_execute {s : System Ω} {sender : Address} {p : Params} {w : World Ω}
    (h : execute s.layer.world sender p = some w) :
    step d s (.execute sender p)
      = { layer := { s.layer with world := w, nextId := s.layer.nextId + 1 }
          stack := ⟨.execute s.layer.nextId p, s.layer⟩ :: s.stack } := by
  simp only [step, h]

theorem step_callback_layer {s : System Ω} {sender : Address} {callback : Callback}
    {userData : List Byte} {loan : Loan} {w : World Ω} {waiting : Option Waiting}
    (hbegin : beginCallback d s.layer.world sender callback userData = some (loan, w, waiting)) :
    (step d s (.callback sender callback userData)).layer
      = s.layer.log w ⟨innermost (frames s.stack), userData, loan.params⟩ := by
  simp only [step, hbegin, System.next]
  cases waiting <;> rfl

theorem Inv.authorised {s : System Ω} (h : Inv s.layer (frames s.stack)) : Authorised d s where
  once := h.once
  committed := h.committed
  idle := by
    intro hnone
    have hclear : s.layer.world.inFlight = false := by
      by_contra hset
      obtain ⟨id, p, hinner, -⟩ := h.guard (by simpa using hset)
      rw [hnone] at hinner
      cases hinner
    exact ⟨hclear, step_callback_of_clear hclear⟩

/-- A callback that begins while a leg program is running runs a second one; one that begins with
other user data runs what was not committed to. -/
theorem meets_of_authorised {s : System Ω} (h : Inv s.layer (frames s.stack)) {event : Event Ω}
    (hgood : Authorised d (step d s event)) : Meets d s event := by
  cases event with
  | callback sender callback userData =>
    intro hsome
    obtain ⟨⟨loan, w, waiting⟩, hbegin⟩ := Option.isSome_iff_exists.1 hsome
    obtain ⟨honce, hcommitted, -⟩ := hgood
    rw [step_callback_layer hbegin] at honce hcommitted
    constructor
    · by_contra hrunning
      obtain ⟨waiting', rest, hsuffix, hsame⟩ :=
        exists_callback_of_running (by simpa using hrunning)
      obtain ⟨id, p, hrest, hrun⟩ := h.logged waiting' rest hsuffix
      have htwice := honce id
      rw [Layer.log, runsOf_cons, ← hsame, hrest, if_pos (by rw [Option.map_some])] at htwice
      omega
    · intro id p hinner _
      obtain ⟨id', hexecution, hdata⟩ := hcommitted _ List.mem_cons_self
      have hparams : p = loan.params :=
        (Prod.mk.inj (Option.some.inj (hinner.symm.trans hexecution))).2
      rw [hparams]
      exact hdata
  | _ => trivial

theorem inv_start (w : World Ω) : Inv (System.start w).layer [] where
  guard := nofun
  logged := by
    intro waiting rest hsuffix
    cases List.suffix_nil.1 hsuffix
  fresh _ _ := rfl
  numbered := nofun
  once _ := Nat.zero_le 1
  committed := nofun

/-! ## The whole run -/

/-- **The callbacks are authorised in every state of a run exactly when none begins while a leg
program of the innermost `execute` call is running** or with other user data of the same hash. -/
theorem authorised_iff (d : Deployment) (w : World Ω) (events : List (Event Ω)) :
    (∀ reached, reached <+: events → Authorised d (run (step d) (System.start w) reached))
      ↔ AllSteps (step d) (Meets d) (System.start w) events := by
  apply @reached_iff _ _ (step d) (fun _ _ => True) (Meets d)
    (fun s : System Ω => Layered Inv s.layer s.stack)
  · exact fun s h => h.now.authorised
  · exact fun s event h _ hmeets => inv_step h event hmeets
  · exact fun s event h _ hgood => meets_of_authorised h.now hgood
  · exact inv_start w
  · exact allSteps_of_forall (fun _ _ => trivial) _ _

def sampleAllowing (allowance : Address → Address → Nat) : World Unit :=
  { sampleWorld 1000 with allowance := allowance }

/-- The vault calls back with what the sample commits to. -/
def sampleEvent : Event Unit := .callback (sampleAddress 3) sampleCallback sampleParams.encode

theorem enter_allowance (w : World Ω) (allowance : Address → Address → Nat) (sender : Address)
    (callback : Callback) (userData : List Byte) :
    enter d { w with allowance := allowance } sender callback userData
      = enter d w sender callback userData := rfl

theorem begin_sample (allowance : Address → Address → Nat) : ∃ allowance' waiting,
    beginCallback sampleDeployment (sampleAllowing allowance) (sampleAddress 3) sampleCallback
      sampleParams.encode = some (sampleLoan 900, sampleAllowing allowance', some waiting) := by
  have henter : enter sampleDeployment (sampleAllowing allowance) (sampleAddress 3) sampleCallback
      sampleParams.encode = some (sampleLoan 900) := by
    rw [sampleAllowing, enter_allowance]
    exact enter_sample (by decide)
  have hadvance : ∃ allowance' waiting,
      advance sampleDeployment (sampleAllowing allowance) (sampleLoan 900) [sampleLeg] 100
        = some (sampleAllowing allowance', some waiting) := by
    have hcallee : sampleLeg.callee sampleDeployment = some (sampleAddress 4) := rfl
    have hallowed : (sampleAllowing allowance).spenderAllowed (sampleAddress 4) = true := rfl
    simp only [advance, prepareLeg, approveIfNeeded, hcallee, hallowed, guard, if_true,
      Option.bind_eq_bind, Option.bind_some]
    split
    · exact ⟨_, _, rfl⟩
    · exact ⟨_, _, rfl⟩
  obtain ⟨allowance', waiting, hadvance⟩ := hadvance
  refine ⟨allowance', waiting, ?_⟩
  rw [beginCallback, henter, Option.bind_some]
  exact congrArg (Option.map _) hadvance

/-- The sample while it runs: its `execute` call and the callbacks above it. -/
theorem step_sampleEvent {s : System Unit} {allowance : Address → Address → Nat}
    (hworld : s.layer.world = sampleAllowing allowance)
    (hinner : innermost (frames s.stack) = some (0, sampleParams)) :
    ∃ allowance',
      (step sampleDeployment s sampleEvent).layer.world = sampleAllowing allowance'
        ∧ innermost (frames (step sampleDeployment s sampleEvent).stack) = some (0, sampleParams)
        ∧ runsOf (step sampleDeployment s sampleEvent).layer.runs 0 = runsOf s.layer.runs 0 + 1 := by
  obtain ⟨allowance', waiting, hbegin⟩ := begin_sample allowance
  rw [← hworld] at hbegin
  refine ⟨allowance', ?_⟩
  simp only [step, sampleEvent, hbegin, System.next, Layer.log, runsOf_cons, hinner]
  exact ⟨trivial, hinner, rfl⟩

/-- The sample when the owner has called `execute`. -/
def sampleEntered : System Unit where
  layer := ⟨sampleWorld 1000, [], 1⟩
  stack := [⟨.execute 0 sampleParams, ⟨sampleStart 1000, [], 0⟩⟩]

theorem execute_sample :
    execute (sampleStart 1000) (sampleAddress 5) sampleParams = some (sampleWorld 1000) := by
  have howner : sampleAddress 5 = (sampleStart 1000).owner := rfl
  have htime : (sampleStart 1000).timestamp ≤ sampleParams.deadline.val := Nat.zero_le _
  have hto : (sampleStart 1000).withdrawalAllowed sampleParams.profitTo = true := rfl
  have hprovider : sampleParams.provider = 1 ∨ sampleParams.provider = 2 := .inr rfl
  have hlegs : sampleParams.legs ≠ [] := nofun
  have hconnected : Connected sampleParams.borrowToken sampleParams.legs := ⟨rfl, trivial⟩
  have hroute : computeRouteId sampleParams.legs = sampleParams.routeId := by
    rw [sampleParams]
  rw [sampleWorld]
  simp only [execute, guard, if_pos howner, if_pos htime, if_pos hto, if_pos hprovider,
    if_pos hlegs, if_pos hconnected, if_pos hroute, Option.bind_eq_bind, Option.pure_def,
    Option.bind_some]

theorem step_sampleExecute :
    step sampleDeployment (System.start (sampleStart 1000)) (.execute (sampleAddress 5) sampleParams)
      = sampleEntered := by
  have hclear : (sampleStart 1000).clear = sampleStart 1000 := rfl
  rw [System.start, hclear]
  exact step_execute execute_sample

/-- The owner calls `execute`, the vault calls back, and calls back again while the router of the
leg runs: the legs are run twice. -/
theorem legs_run_twice :
    ¬ ∀ (d : Deployment) (w : World Unit) (events : List (Event Unit)),
      Authorised d (run (step d) (System.start w) events) := by
  intro hall
  have hrun := (hall sampleDeployment (sampleStart 1000)
    [.execute (sampleAddress 5) sampleParams, sampleEvent, sampleEvent]).once 0
  rw [run_cons, step_sampleExecute, run_cons, run_cons, run_nil] at hrun
  have hworld : sampleEntered.layer.world = sampleAllowing fun _ _ => 0 := rfl
  obtain ⟨_, hworld, hinner, hfirst⟩ := step_sampleEvent hworld rfl
  obtain ⟨_, -, -, hsecond⟩ := step_sampleEvent hworld hinner
  rw [hsecond, hfirst] at hrun
  omega

/-! ## What no order of calls can change -/

/-- The user data of a leg program has the hash that an `execute` call committed to, and is read as
its legs. -/
def LegRun.HashCommitted (r : LegRun) : Prop :=
  ∃ id p, r.execution = some (id, p) ∧ Keccak.keccak256 r.userData = Keccak.keccak256 p.encode
    ∧ decode r.userData = some r.params

/-- The guard has the hash of the innermost `execute` call, and so had it for each leg program. -/
structure GuardKept (l : Layer Ω) (calls : List Call) : Prop where
  guard : l.world.inFlight = true → ∃ id p, innermost calls = some (id, p)
    ∧ l.world.inFlightHash = Keccak.keccak256 p.encode
  committed : ∀ r ∈ l.runs, r.HashCommitted

namespace GuardKept

variable {l : Layer Ω} {calls calls' : List Call}

/-- The guard is clear, or as it was under the same `execute` call. -/
theorem update (h : GuardKept l calls) {w : World Ω} (hguard : w.inFlight = false
      ∨ w.guard = l.world.guard ∧ innermost calls' = innermost calls) :
    GuardKept (l.withWorld w) calls' where
  guard := by
    intro hset
    change w.inFlight = true at hset
    rcases hguard with hclear | ⟨hsame, hinner⟩
    · rw [hclear] at hset
      cases hset
    · obtain ⟨hflight, hrest⟩ := Prod.mk.inj hsame
      obtain ⟨id, p, hp, hcommitted⟩ := h.guard (hflight ▸ hset)
      exact ⟨id, p, hinner.trans hp, (Prod.mk.inj hrest).2.trans hcommitted⟩
  committed := h.committed

/-- A callback that passes the checks runs what has the hash of the guard. -/
theorem log (h : GuardKept l calls) (hset : l.world.inFlight = true) {userData : List Byte}
    {params : Params} (hhash : Keccak.keccak256 userData = l.world.inFlightHash)
    (hdecode : decode userData = some params) :
    GuardKept (l.log l.world ⟨innermost calls, userData, params⟩) calls where
  guard := h.guard
  committed := by
    intro r hr
    rcases List.mem_cons.1 hr with rfl | hr
    · obtain ⟨id, p, hinner, hcommitted⟩ := h.guard hset
      exact ⟨id, p, hinner, hhash.trans hcommitted, hdecode⟩
    · exact h.committed r hr

end GuardKept

theorem guarded_next {layer entered : Layer Ω} {stack : List (Frame (Layer Ω) Call)}
    {calls : List Call} {w : World Ω} {waiting : Option Waiting}
    (hbelow : Layered GuardKept entered stack) (hlayer : GuardKept layer calls)
    (hinner : innermost calls = innermost (frames stack))
    (hnext : (waiting.isSome ∧ w.guard = layer.world.guard)
      ∨ (waiting = none ∧ w.inFlight = false)) :
    Layered GuardKept (System.next (layer.withWorld w) entered stack waiting).layer
      (System.next (layer.withWorld w) entered stack waiting).stack := by
  rcases hnext with ⟨hsome, hguard⟩ | ⟨rfl, hclear⟩
  · obtain ⟨waiting, rfl⟩ := Option.isSome_iff_exists.1 hsome
    exact ⟨hlayer.update (.inr ⟨hguard, hinner.symm⟩), hbelow⟩
  · exact hbelow.update (hlayer.update (.inl hclear))

/-- **Every event** keeps it, in every layer. -/
theorem guarded_step (s : System Ω) (event : Event Ω) (h : Layered GuardKept s.layer s.stack) :
    Layered GuardKept (step d s event).layer (step d s event).stack := by
  cases event with
  | elsewhere w => exact h.update (h.now.update (.inr ⟨rfl, rfl⟩))
  | call => exact h.push (h.now.update (.inr ⟨rfl, rfl⟩))
  | execute sender p =>
    simp only [step]
    cases hexecute : execute s.layer.world sender p with
    | none => exact h
    | some w =>
      refine h.push ⟨fun _ => ⟨_, p, rfl, ?_⟩, h.now.committed⟩
      simp only [execute, Option.bind_eq_bind, Option.bind_eq_some_iff, Option.pure_def,
        Option.some.injEq] at hexecute
      obtain ⟨_, -, _, -, _, -, _, -, _, -, _, -, _, -, rfl⟩ := hexecute
      rfl
  | callback sender callback userData =>
    simp only [step]
    cases hbegin : beginCallback d s.layer.world sender callback userData with
    | none => exact h
    | some next =>
      obtain ⟨loan, w, waiting⟩ := next
      obtain ⟨hset, hhash, hdecode, hnext⟩ := beginCallback_guard hbegin
      exact guarded_next h (h.now.log hset hhash hdecode) rfl hnext
  | returns returned =>
    simp only [step]
    obtain ⟨layer, stack⟩ := s
    cases stack with
    | nil => exact h
    | cons f stack =>
      obtain ⟨data, entered⟩ := f
      cases data with
      | outside => exact h.pop (h.now.update (.inr ⟨rfl, rfl⟩))
      | execute id p => exact h.pop (h.now.update (.inl rfl))
      | callback waiting =>
        dsimp only
        cases hresume : resume d layer.world waiting returned with
        | none => exact h.rollback
        | some next => exact guarded_next h.rollback h.now rfl (resume_guard hresume)
  | reverts =>
    simp only [step]
    obtain ⟨layer, stack⟩ := s
    cases stack with
    | nil => exact h
    | cons f stack => exact h.rollback

/-- **Without any condition on the calls** every leg program that was run, and not undone, ran
under an `execute` call and with user data of the hash that call committed to; and while no
`execute` call is on the stack the guard is clear and no callback does anything. -/
theorem committed_run (d : Deployment) (w : World Ω) (events : List (Event Ω)) :
    (∀ r ∈ (run (step d) (System.start w) events).layer.runs, r.HashCommitted)
      ∧ (innermost (frames (run (step d) (System.start w) events).stack) = none →
        (run (step d) (System.start w) events).layer.world.inFlight = false
          ∧ ∀ sender callback userData,
            step d (run (step d) (System.start w) events) (.callback sender callback userData)
              = run (step d) (System.start w) events) := by
  have hstart : GuardKept (System.start w).layer [] := ⟨nofun, nofun⟩
  have hguarded := (@run_invariant _ _ (step d) (fun _ _ => True)
    (fun s : System Ω => Layered GuardKept s.layer s.stack)
    (fun s event h _ => guarded_step s event h) (System.start w) hstart events
    (allSteps_of_forall (fun _ _ => trivial) _ _)).now
  refine ⟨hguarded.committed, fun hnone => ?_⟩
  have hclear : (run (step d) (System.start w) events).layer.world.inFlight = false := by
    by_contra hset
    obtain ⟨id, p, hinner, -⟩ := hguarded.guard (by simpa using hset)
    rw [hnone] at hinner
    cases hinner
  exact ⟨hclear, step_callback_of_clear hclear⟩

end SovereignCapital.Executor
