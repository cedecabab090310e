import SovereignCapital.Executor.UserData
import SovereignCapital.Lib.CallStack
import SovereignCapital.Lib.Runs

/-! # Call trees of the executor

Outside code calls the contract, and is called by it, in any nesting. A frame on the stack is a
call of outside code, an `execute` that waits for its provider, or a callback that waits for its
router; control is always outside. A call that fails undoes what was done since it was entered,
the leg programs included that ran in it.
-/

namespace SovereignCapital.Executor

open Bytes Abi CallStack

variable {Ω : Type} {d : Deployment}

/-! ## The machine -/

/-- A leg program that was run: the innermost `execute` call with its arguments, the user data
of the callback and what was read from it. -/
structure LegRun where
  execution : Option (Nat × Params)
  userData : List Byte
  params : Params

structure Layer (Ω : Type) where
  world : World Ω
  runs : List LegRun
  /-- the number of the next `execute` call -/
  nextId : Nat

structure Waiting where
  loan : Loan
  leg : Leg
  rest : List Leg
  beforeOut : Nat

inductive Call where
  | outside
  | execute (id : Nat) (p : Params)
  | callback (waiting : Waiting)

structure System (Ω : Type) where
  layer : Layer Ω
  stack : List (Frame (Layer Ω) Call)

inductive Event (Ω : Type) where
  /-- it changes anything but the guard; the other functions of the contract do no more -/
  | elsewhere (w : World Ω)
  /-- it calls other outside code -/
  | call
  | execute (sender : Address) (p : Params)
  | callback (sender : Address) (callback : Callback) (userData : List Byte)
  /-- the code on top returns, to a leg with amounts -/
  | returns (returned : List Nat)
  /-- it fails, and the call it was called by -/
  | reverts

def World.elsewhere (w w' : World Ω) : World Ω :=
  { w' with
    inFlight := w.inFlight
    inFlightProvider := w.inFlightProvider
    inFlightHash := w.inFlightHash }

/-- A callback goes on with its legs: up to the next router, or to its end. -/
def advance (d : Deployment) (w : World Ω) (loan : Loan) (legs : List Leg) (amountIn : Nat) :
    Option (World Ω × Option Waiting) :=
  match legs with
  | [] => (settle d w loan).map fun w => (w, none)
  | leg :: rest => (prepareLeg d w leg amountIn).map fun (w, beforeOut) =>
    (w, some ⟨loan, leg, rest, beforeOut⟩)

def beginCallback (d : Deployment) (w : World Ω) (sender : Address) (callback : Callback)
    (userData : List Byte) : Option (Loan × World Ω × Option Waiting) :=
  (enter d w sender callback userData).bind fun loan =>
    (advance d w loan loan.params.legs loan.params.amountBorrow.val).map fun next => (loan, next)

/-- A callback whose router returns. -/
def resume (d : Deployment) (w : World Ω) (waiting : Waiting) (returned : List Nat) :
    Option (World Ω × Option Waiting) :=
  (legOut d waiting.leg waiting.beforeOut w returned).bind fun out =>
    advance d w waiting.loan waiting.rest out

def innermost : List Call → Option (Nat × Params)
  | [] => none
  | .execute id p :: _ => some (id, p)
  | _ :: calls => innermost calls

/-- A leg program of the innermost `execute` call is running. -/
def running : List Call → Bool
  | [] => false
  | .execute _ _ :: _ => false
  | .callback _ :: _ => true
  | .outside :: calls => running calls

def Layer.withWorld (l : Layer Ω) (w : World Ω) : Layer Ω := { l with world := w }

def Layer.log (l : Layer Ω) (w : World Ω) (run : LegRun) : Layer Ω :=
  { l with world := w, runs := run :: l.runs }

/-- A callback has gone on: it waits in its frame, or it is over. -/
def System.next (layer entered : Layer Ω) (stack : List (Frame (Layer Ω) Call))
    (waiting : Option Waiting) : System Ω :=
  match waiting with
  | some waiting => ⟨layer, ⟨.callback waiting, entered⟩ :: stack⟩
  | none => ⟨layer, stack⟩

def step (d : Deployment) (s : System Ω) (event : Event Ω) : System Ω :=
  match event with
  | .elsewhere w => { s with layer := s.layer.withWorld (s.layer.world.elsewhere w) }
  | .call => { s with stack := ⟨.outside, s.layer⟩ :: s.stack }
  | .execute sender p =>
    match execute s.layer.world sender p with
    | none => s
    | some w =>
      { layer := { s.layer with world := w, nextId := s.layer.nextId + 1 }
        stack := ⟨.execute s.layer.nextId p, s.layer⟩ :: s.stack }
  | .callback sender callback userData =>
    match beginCallback d s.layer.world sender callback userData with
    | none => s
    | some (loan, w, waiting) =>
      .next (s.layer.log w ⟨innermost (frames s.stack), userData, loan.params⟩) s.layer s.stack
        waiting
  | .returns returned =>
    match s.stack with
    | [] => s
    | f :: stack =>
      match f.data with
      | .outside => { s with stack := stack }
      | .execute _ _ => ⟨s.layer.withWorld s.layer.world.clear, stack⟩
      | .callback waiting =>
        match resume d s.layer.world waiting returned with
        | none => ⟨f.entered, stack⟩
        | some (w, waiting) => .next (s.layer.withWorld w) f.entered stack waiting
  | .reverts =>
    match s.stack with
    | [] => s
    | f :: stack => ⟨f.entered, stack⟩

def System.start (w : World Ω) : System Ω := ⟨⟨w.clear, [], 0⟩, []⟩

/-! ## What must hold -/

def runsOf (runs : List LegRun) (id : Nat) : Nat :=
  runs.countP fun r => r.execution.map Prod.fst = some id

/-- The user data is what the `execute` call committed to, and is read as its arguments. -/
def LegRun.Committed (r : LegRun) : Prop :=
  ∃ id, r.execution = some (id, r.params) ∧ r.userData = r.params.encode

/-- The callbacks are authorised: a leg program is run at most once for an `execute` call and
with the user data it committed to; and when no `execute` call is on the stack the guard is clear
and every callback reverts. -/
structure Authorised (d : Deployment) (s : System Ω) : Prop where
  once : ∀ id, runsOf s.layer.runs id ≤ 1
  committed : ∀ r ∈ s.layer.runs, r.Committed
  idle : innermost (frames s.stack) = none → s.layer.world.inFlight = false
    ∧ ∀ sender callback userData, step d s (.callback sender callback userData) = s

/-- No leg program of the innermost `execute` call is running when a callback begins, and its user
data is no other with the hash of what that call committed to. -/
def Meets (d : Deployment) (s : System Ω) (event : Event Ω) : Prop :=
  match event with
  | .callback sender callback userData =>
    (beginCallback d s.layer.world sender callback userData).isSome →
      running (frames s.stack) = false
        ∧ ∀ id p, innermost (frames s.stack) = some (id, p) →
          Keccak.keccak256 userData = Keccak.keccak256 p.encode → userData = p.encode
  | _ => True

/-! ## The guard in the steps of the contract -/

def World.guard (w : World Ω) : Bool × Byte × List Byte :=
  (w.inFlight, w.inFlightProvider, w.inFlightHash)

theorem settle_inFlight {w w' : World Ω} {loan : Loan} (h : settle d w loan = some w') :
    w'.inFlight = false := by
  simp only [settle, Option.bind_eq_bind, Option.bind_eq_some_iff, Option.pure_def,
    Option.some.injEq] at h
  obtain ⟨_, -, _, -, _, -, _, -, _, -, rfl⟩ := h
  rfl

theorem prepareLeg_guard {w w' : World Ω} {leg : Leg} {amountIn beforeOut : Nat}
    (h : prepareLeg d w leg amountIn = some (w', beforeOut)) : w'.guard = w.guard := by
  simp only [prepareLeg, approveIfNeeded, Option.bind_eq_bind, Option.bind_eq_some_iff,
    Option.pure_def, Option.some.injEq, Prod.mk.injEq] at h
  obtain ⟨_, -, _, ⟨_, -, happrove⟩, rfl, -⟩ := h
  split at happrove <;> cases happrove <;> rfl

/-- A callback that goes on waits with the guard as it was, or is over with the guard clear. -/
theorem advance_guard {w w' : World Ω} {loan : Loan} {legs : List Leg} {amountIn : Nat}
    {waiting : Option Waiting} (h : advance d w loan legs amountIn = some (w', waiting)) :
    (waiting.isSome ∧ w'.guard = w.guard) ∨ (waiting = none ∧ w'.inFlight = false) := by
  unfold advance at h
  split at h
  · obtain ⟨_, hsettle, h⟩ := Option.map_eq_some_iff.1 h
    cases h
    exact .inr ⟨rfl, settle_inFlight hsettle⟩
  · obtain ⟨⟨_, beforeOut⟩, hprepare, h⟩ := Option.map_eq_some_iff.1 h
    cases h
    exact .inl ⟨rfl, prepareLeg_guard hprepare⟩

theorem resume_guard {w w' : World Ω} {waiting : Waiting} {returned : List Nat}
    {waiting' : Option Waiting} (h : resume d w waiting returned = some (w', waiting')) :
    (waiting'.isSome ∧ w'.guard = w.guard) ∨ (waiting' = none ∧ w'.inFlight = false) := by
  obtain ⟨_, -, h⟩ := Option.bind_eq_some_iff.1 h
  exact advance_guard h

theorem enter_guard {w : World Ω} {sender : Address} {callback : Callback} {userData : List Byte}
    {loan : Loan} (h : enter d w sender callback userData = some loan) :
    w.inFlight = true ∧ Keccak.keccak256 userData = w.inFlightHash
      ∧ decode userData = some loan.params := by
  have hopen : ∃ provider token amount fee,
      openLoan d w provider token amount fee userData = some loan := by
    unfold enter at h
    split at h
    · split at h
      · exact ⟨_, _, _, _, h⟩
      · cases h
    · split at h
      · exact ⟨_, _, _, _, h⟩
      · cases h
    · cases h
  obtain ⟨provider, token, amount, fee, hopen⟩ := hopen
  simp only [openLoan, Option.bind_eq_bind, Option.bind_eq_some_iff, Option.guard_eq_some',
    exists_const, Option.pure_def, Option.some.injEq] at hopen
  obtain ⟨⟨hset, -, hhash⟩, p, hdecode, -, -, -, -, rfl⟩ := hopen
  exact ⟨hset, hhash, hdecode⟩

theorem beginCallback_guard {w w' : World Ω} {sender : Address} {callback : Callback}
    {userData : List Byte} {loan : Loan} {waiting : Option Waiting}
    (h : beginCallback d w sender callback userData = some (loan, w', waiting)) :
    w.inFlight = true ∧ Keccak.keccak256 userData = w.inFlightHash
      ∧ decode userData = some loan.params
      ∧ ((waiting.isSome ∧ w'.guard = w.guard) ∨ (waiting = none ∧ w'.inFlight = false)) := by
  obtain ⟨_, henter, h⟩ := Option.bind_eq_some_iff.1 h
  obtain ⟨⟨_, _⟩, hadvance, h⟩ := Option.map_eq_some_iff.1 h
  cases h
  obtain ⟨hset, hhash, hdecode⟩ := enter_guard henter
  exact ⟨hset, hhash, hdecode, advance_guard hadvance⟩

end SovereignCapital.Executor
