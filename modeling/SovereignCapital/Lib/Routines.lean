import SovereignCapital.Lib.Runs

/-! # Routines that wait

A routine makes operations on a shared state and waits for answers in between. Several routines are
in flight at once: their operations come in any order, any of them may be cancelled where it is, and
a fatal event of the surroundings ends them all. `Keeps` says that a routine makes only operations
that are allowed, in whatever later state it comes to make them.
-/

/-- A routine; `stop` ends it together with those that called it. -/
inductive Routine (ω σ q ρ β : Type) where
  | done (b : β)
  | stop
  | act (op : ω) (next : σ → Routine ω σ q ρ β)
  | await (request : q) (resume : ρ → Routine ω σ q ρ β)

namespace Routine

variable {ω σ q ρ β γ : Type}

def bind : Routine ω σ q ρ β → (β → Routine ω σ q ρ γ) → Routine ω σ q ρ γ
  | done b, f => f b
  | stop, _ => stop
  | act op next, f => act op fun s => (next s).bind f
  | await request resume, f => await request fun a => (resume a).bind f

instance : Monad (Routine ω σ q ρ) where
  pure := done
  bind := bind

/-- An operation; what it is given is the state before it. -/
def perform (op : ω) : Routine ω σ q ρ σ := act op done

/-! ## What a routine keeps to -/

/-- A routine that is resumed in a state makes only operations that are allowed, in any later state,
and what it returns is as it should be. -/
def Keeps (apply : ω → σ → σ) (later : σ → σ → Prop) (allowed : ω → σ → Prop)
    (returns : β → σ → Prop) : Routine ω σ q ρ β → σ → Prop
  | done b, s => ∀ s', later s s' → returns b s'
  | stop, _ => True
  | act op next, s =>
    ∀ s', later s s' → allowed op s' ∧ (next s').Keeps apply later allowed returns (apply op s')
  | await _ resume, s => ∀ a, (resume a).Keeps apply later allowed returns s

section Keeps

variable {apply : ω → σ → σ} {later : σ → σ → Prop} {allowed : ω → σ → Prop}

theorem Keeps.resumed {returns : β → σ → Prop} (htrans : ∀ a b c, later a b → later b c → later a c)
    {t : Routine ω σ q ρ β} {s s' : σ} (h : t.Keeps apply later allowed returns s)
    (hlater : later s s') : t.Keeps apply later allowed returns s' := by
  induction t generalizing s s' with
  | done b => exact fun s'' h' => h s'' (htrans _ _ _ hlater h')
  | stop => trivial
  | act op next _ => exact fun s'' h' => h s'' (htrans _ _ _ hlater h')
  | await request resume ih => exact fun a => ih a (h a) hlater

/-- **The rule of sequence.** What follows starts in a later state. -/
theorem Keeps.bind {between : β → σ → Prop} {returns : γ → σ → Prop} (hrefl : ∀ s, later s s)
    (htrans : ∀ a b c, later a b → later b c → later a c) (hgrows : ∀ op s, later s (apply op s))
    {t : Routine ω σ q ρ β} {f : β → Routine ω σ q ρ γ} {s : σ}
    (ht : t.Keeps apply later allowed between s)
    (hf : ∀ b s', later s s' → between b s' → (f b).Keeps apply later allowed returns s') :
    (t.bind f).Keeps apply later allowed returns s := by
  induction t generalizing s with
  | done b => exact hf b s (hrefl s) (ht s (hrefl s))
  | stop => trivial
  | act op next ih =>
    intro s' h'
    refine ⟨(ht s' h').1, ih s' (ht s' h').2 fun b s'' h'' => ?_⟩
    have hlater : later s (apply op s') := htrans _ _ _ h' (hgrows op s')
    exact hf b s'' (htrans _ _ _ hlater h'')
  | await request resume ih => exact fun a => ih a (ht a) hf

end Keeps

end Routine

/-! ## Routines in flight -/

namespace Routines

variable {ω σ q ρ ι ε : Type}

/-- What operations and the surroundings do, and the programs of the routines. -/
structure Machine (ω σ q ρ ι ε : Type) where
  apply : ω → σ → σ
  outer : ε → σ → σ
  /-- The event ends all routines. -/
  fatal : ε → Bool
  code : ι → Routine ω σ q ρ Unit

structure Sys (ω σ q ρ : Type) where
  shared : σ
  routines : List (Routine ω σ q ρ Unit)

inductive Event (ρ ι ε : Type) where
  | start (i : ι)
  /-- The next operation of a routine. -/
  | advance (k : Nat)
  /-- The answer that a routine waits for. -/
  | answer (k : Nat) (a : ρ)
  | cancel (k : Nat)
  | outside (e : ε)

def Sys.performed (sys : Sys ω σ q ρ) : Event ρ ι ε → Option ω
  | .advance k =>
    match sys.routines[k]? with
    | some (.act op _) => some op
    | _ => none
  | _ => none

namespace Machine

variable (M : Machine ω σ q ρ ι ε)

def step (sys : Sys ω σ q ρ) : Event ρ ι ε → Sys ω σ q ρ
  | .start i => { sys with routines := sys.routines ++ [M.code i] }
  | .advance k =>
    match sys.routines[k]? with
    | some (.act op next) => ⟨M.apply op sys.shared, sys.routines.set k (next sys.shared)⟩
    | _ => sys
  | .answer k a =>
    match sys.routines[k]? with
    | some (.await _ resume) => { sys with routines := sys.routines.set k (resume a) }
    | _ => sys
  | .cancel k => { sys with routines := sys.routines.eraseIdx k }
  | .outside e =>
    { shared := M.outer e sys.shared, routines := if M.fatal e then [] else sys.routines }

/-- The routines make only operations that are allowed. `later` is what holds between the states
before and after any of them. -/
structure Lawful (later : σ → σ → Prop) (allowed : ω → σ → Prop) : Prop where
  refl : ∀ s, later s s
  trans : ∀ a b c, later a b → later b c → later a c
  grows : ∀ op s, later s (M.apply op s)
  outer : ∀ e s, M.fatal e = false → later s (M.outer e s)
  code : ∀ i s, (M.code i).Keeps M.apply later allowed (fun _ _ => True) s

/-- What is left of every routine makes only operations that are allowed. -/
def AllKeep (later : σ → σ → Prop) (allowed : ω → σ → Prop) (sys : Sys ω σ q ρ) : Prop :=
  ∀ t ∈ sys.routines, t.Keeps M.apply later allowed (fun _ _ => True) sys.shared

variable {M} {later : σ → σ → Prop} {allowed : ω → σ → Prop}

theorem Lawful.performed (h : M.Lawful later allowed) {sys : Sys ω σ q ρ}
    (hkeep : M.AllKeep later allowed sys) {event : Event ρ ι ε} {op : ω}
    (hop : sys.performed event = some op) :
    allowed op sys.shared ∧ (M.step sys event).shared = M.apply op sys.shared := by
  cases event with
  | advance k =>
    cases hroutine : sys.routines[k]? with
    | none =>
      simp only [Sys.performed, hroutine] at hop
      cases hop
    | some t =>
      cases t with
      | act op' next =>
        simp only [Sys.performed, hroutine, Option.some.injEq] at hop
        subst hop
        have hmem : Routine.act op' next ∈ sys.routines := List.mem_of_getElem? hroutine
        refine ⟨(hkeep _ hmem sys.shared (h.refl _)).1, ?_⟩
        simp only [Machine.step, hroutine]
      | done b =>
        simp only [Sys.performed, hroutine] at hop
        cases hop
      | stop =>
        simp only [Sys.performed, hroutine] at hop
        cases hop
      | await request resume =>
        simp only [Sys.performed, hroutine] at hop
        cases hop
  | start i => cases hop
  | answer k a => cases hop
  | cancel k => cases hop
  | outside e => cases hop

/-- An event that makes no operation and is not of the surroundings leaves the state. -/
theorem step_shared_of_not_performed {sys : Sys ω σ q ρ} {event : Event ρ ι ε}
    (hop : sys.performed event = none) (houter : ∀ e, event ≠ .outside e) :
    (M.step sys event).shared = sys.shared := by
  cases event with
  | start i => rfl
  | cancel k => rfl
  | outside e => exact (houter e rfl).elim
  | answer k a =>
    cases hroutine : sys.routines[k]? with
    | none => simp only [Machine.step, hroutine]
    | some t => cases t <;> simp only [Machine.step, hroutine]
  | advance k =>
    cases hroutine : sys.routines[k]? with
    | none => simp only [Machine.step, hroutine]
    | some t =>
      cases t with
      | act op next =>
        simp only [Sys.performed, hroutine] at hop
        cases hop
      | done b => simp only [Machine.step, hroutine]
      | stop => simp only [Machine.step, hroutine]
      | await request resume => simp only [Machine.step, hroutine]

/-- **The rule of steps.** Whatever happens, what is left of the routines keeps to what is
allowed. -/
theorem Lawful.step (h : M.Lawful later allowed) {sys : Sys ω σ q ρ}
    (hkeep : M.AllKeep later allowed sys) (event : Event ρ ι ε) :
    M.AllKeep later allowed (M.step sys event) := by
  -- the other routines are resumed in a later state
  have hset : ∀ (k : Nat) (t : Routine ω σ q ρ Unit) (s : σ), later sys.shared s →
      t.Keeps M.apply later allowed (fun _ _ => True) s →
      M.AllKeep later allowed ⟨s, sys.routines.set k t⟩ := by
    intro k t s hlater ht t' ht'
    rcases List.mem_or_eq_of_mem_set ht' with hold | rfl
    · exact (hkeep t' hold).resumed h.trans hlater
    · exact ht
  cases event with
  | start i =>
    intro t ht
    rcases List.mem_append.1 ht with hold | hnew
    · exact hkeep t hold
    · rw [List.mem_singleton] at hnew
      rw [hnew]
      exact h.code i _
  | advance k =>
    cases hroutine : sys.routines[k]? with
    | none => simpa only [Machine.step, hroutine] using hkeep
    | some t =>
      simp only [Machine.step, hroutine]
      cases t with
      | act op next =>
        have hmem : Routine.act op next ∈ sys.routines := List.mem_of_getElem? hroutine
        have hnext := (hkeep _ hmem sys.shared (h.refl _)).2
        exact hset k _ _ (h.grows op _) hnext
      | done b => exact hkeep
      | stop => exact hkeep
      | await request resume => exact hkeep
  | answer k a =>
    cases hroutine : sys.routines[k]? with
    | none => simpa only [Machine.step, hroutine] using hkeep
    | some t =>
      simp only [Machine.step, hroutine]
      cases t with
      | await request resume =>
        have hmem : Routine.await request resume ∈ sys.routines :=
          List.mem_of_getElem? hroutine
        exact hset k _ _ (h.refl _) (hkeep _ hmem a)
      | done b => exact hkeep
      | stop => exact hkeep
      | act op next => exact hkeep
  | cancel k =>
    intro t ht
    exact hkeep t (List.mem_of_mem_eraseIdx ht)
  | outside e =>
    cases hfatal : M.fatal e with
    | true =>
      simp only [Machine.step, hfatal, if_true]
      intro t ht
      exact (List.not_mem_nil ht).elim
    | false =>
      simp only [Machine.step, hfatal]
      intro t ht
      exact (hkeep t ht).resumed h.trans (h.outer e _ hfatal)

end Machine

end Routines
