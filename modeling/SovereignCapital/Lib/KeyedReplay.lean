import Mathlib.Data.List.Basic

/-! # Replays of events that act on one key

A replay folds events into a state. When every event acts on the entry of one key, the entry
of a key is the fold of that key's events, however the events of other keys are interleaved;
and sorting the events changes nothing for a key whose own events stand in the sorted order.
-/

namespace KeyedReplay

variable {σ ε κ α : Type} [DecidableEq κ]

def eventsOf (key : ε → Option κ) (k : κ) (events : List ε) : List ε :=
  events.filter fun e => key e == some k

theorem mem_eventsOf {key : ε → Option κ} {k : κ} {events : List ε} {e : ε} :
    e ∈ eventsOf key k events ↔ e ∈ events ∧ key e = some k := by
  simp [eventsOf]

theorem eventsOf_append (key : ε → Option κ) (k : κ) (events events' : List ε) :
    eventsOf key k (events ++ events') = eventsOf key k events ++ eventsOf key k events' :=
  List.filter_append ..

theorem eventsOf_cons_self {key : ε → Option κ} {k : κ} {e : ε} (h : key e = some k)
    (events : List ε) : eventsOf key k (e :: events) = e :: eventsOf key k events :=
  List.filter_cons_of_pos (by simp [h])

theorem eventsOf_cons_of_ne {key : ε → Option κ} {k : κ} {e : ε} (h : key e ≠ some k)
    (events : List ε) : eventsOf key k (e :: events) = eventsOf key k events :=
  List.filter_cons_of_neg (by simpa using h)

/-! ## Locality -/

/-- **The entry of a key after a replay is the fold of its own events.** -/
theorem replay_entry {get : σ → κ → Option α} {apply : σ → ε → σ} {key : ε → Option κ}
    {step : Option α → ε → Option α}
    (hlocal : ∀ s e k, get (apply s e) k = if key e = some k then step (get s k) e else get s k)
    (s : σ) (events : List ε) (k : κ) :
    get (events.foldl apply s) k = (eventsOf key k events).foldl step (get s k) := by
  induction events generalizing s with
  | nil => rfl
  | cons e events ih =>
    rw [List.foldl_cons, ih, hlocal]
    by_cases hkey : key e = some k
    · rw [if_pos hkey, eventsOf_cons_self hkey, List.foldl_cons]
    · rw [if_neg hkey, eventsOf_cons_of_ne hkey]

/-- Every event of a key meets an entry it is made for. -/
def Clean (step : Option α → ε → Option α) (fits : Option α → ε → Prop) :
    Option α → List ε → Prop
  | _, [] => True
  | entry, e :: events => fits entry e ∧ Clean step fits (step entry e) events

theorem clean_append {step : Option α → ε → Option α} {fits : Option α → ε → Prop}
    {entry : Option α} {events events' : List ε} :
    Clean step fits entry (events ++ events')
      ↔ Clean step fits entry events ∧ Clean step fits (events.foldl step entry) events' := by
  induction events generalizing entry with
  | nil => simp [Clean]
  | cons e events ih => simp only [List.cons_append, Clean, ih, List.foldl_cons, and_assoc]

theorem replay_preserves {get : σ → κ → Option α} {apply : σ → ε → σ} {key : ε → Option κ}
    {step : Option α → ε → Option α} {fits : Option α → ε → Prop} {β : Type} {value : σ → β}
    (hlocal : ∀ s e k, get (apply s e) k = if key e = some k then step (get s k) e else get s k)
    (hidle : ∀ s e, key e = none → value (apply s e) = value s)
    (hfits : ∀ s e k, key e = some k → fits (get s k) e → value (apply s e) = value s)
    {s : σ} {events : List ε}
    (hclean : ∀ k, Clean step fits (get s k) (eventsOf key k events)) :
    value (events.foldl apply s) = value s := by
  induction events generalizing s with
  | nil => rfl
  | cons e events ih =>
    have hrest : ∀ k, Clean step fits (get (apply s e) k) (eventsOf key k events) := by
      intro k
      rw [hlocal]
      by_cases hkey : key e = some k
      · have h := hclean k
        rw [eventsOf_cons_self hkey] at h
        rw [if_pos hkey]
        exact h.2
      · have h := hclean k
        rw [eventsOf_cons_of_ne hkey] at h
        rw [if_neg hkey]
        exact h
    rw [List.foldl_cons, ih hrest]
    cases hkey : key e with
    | none => exact hidle s e hkey
    | some k =>
      have h := hclean k
      rw [eventsOf_cons_self hkey] at h
      exact hfits s e k hkey h.1

/-! ## Sorting -/

/-- A sorted rearrangement keeps the events of a key in place when they stand in the order
already. -/
theorem eventsOf_eq_of_sorted {key : ε → Option κ} {k : κ} {le : ε → ε → Prop}
    {sorted events : List ε} (hperm : sorted.Perm events) (hsorted : sorted.Pairwise le)
    (hevents : (eventsOf key k events).Pairwise fun a b => le a b ∧ ¬ le b a) :
    eventsOf key k sorted = eventsOf key k events := by
  have hrefl : ∀ a ∈ eventsOf key k events, ∀ b ∈ eventsOf key k events,
      le a b → le b a → a = b := by
    intro a ha b hb hab hba
    by_contra hne
    rcases List.mem_iff_append.1 ha with ⟨before, after, hsplit⟩
    rw [hsplit] at hb hevents
    rcases List.mem_append.1 hb with hb | hb
    · have h := (List.pairwise_append.1 hevents).2.2 b hb a (List.mem_cons_self ..)
      exact h.2 hab
    · rcases List.mem_cons.1 hb with heq | hb
      · exact hne heq.symm
      · have h := (List.pairwise_cons.1 (List.pairwise_append.1 hevents).2.1).1 b hb
        exact h.2 hba
  have hperm' : (eventsOf key k sorted).Perm (eventsOf key k events) := hperm.filter _
  refine List.Perm.eq_of_pairwise ?_ (hsorted.filter _) (hevents.imp fun h => h.1) hperm'
  intro a b ha hb hab hba
  exact hrefl a (hperm'.subset ha) b hb hab hba

end KeyedReplay
