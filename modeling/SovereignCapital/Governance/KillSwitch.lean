import SovereignCapital.Lib.Dict
import SovereignCapital.Lib.Double
import SovereignCapital.Lib.KeyedReplay
import SovereignCapital.Lib.LastRows
import SovereignCapital.Lib.PyText
import SovereignCapital.Lib.Runs

/-! # The kill switch

`KillSwitchStore`: what `observe_outcome` keeps of the outcomes of a route, the suppression that
`_derive_decision` makes of it, and what `evaluate` answers. A suppression records how far it
reaches; `evaluate` looks up the one key of the request.

* `honours_iff` : when an answer follows the scopes.
* `open_sibling` : beside every suppressed route there is a venue that stays open.
-/

namespace SovereignCapital.Governance

open Bytes KeyedReplay LastRows Runs

/-! ## Keys -/

structure RouteKey where
  family : Text
  routeFamily : Text
  venue : Text
  deriving DecidableEq

/-- `str(name or "unknown")`. -/
def orUnknown (name : Text) : Text := if name = [] then "unknown".toList else name

namespace RouteKey

def key (route : RouteKey) : Text :=
  orUnknown route.family ++ '|' :: (orUnknown route.routeFamily ++ '|' :: orUnknown route.venue)

end RouteKey

/-! ## Outcomes and metrics -/

/-- The arguments of `observe_outcome`. -/
structure Outcome extends RouteKey where
  lane : Text
  ok : Bool
  expectedEdgeUsd : ℚ
  realizedEdgeUsd : ℚ
  slippageDriftBps : ℚ
  stale : Bool
  feeBurnUsd : ℚ
  rpcPressure : ℚ
  chain : Text

/-- An entry of `metrics`. -/
structure Item extends RouteKey where
  lane : Text := []
  attempts : Nat := 0
  failures : Nat := 0
  stales : Nat := 0
  feeBurnUsd : ℚ := 0
  realizedSlippageDriftBpsSum : ℚ := 0
  lossBucketUsd : ℚ := 0
  rpcPressureEma : Option ℚ := none

/-- A decimal fraction of the source, as the double it is. -/
def literal (numerator denominator : ℕ) : ℚ := Double.nearest (numerator / denominator)

/-- What an outcome makes of the metrics of its key. -/
def Item.observe (item : Item) (o : Outcome) : Item where
  toRouteKey := o.toRouteKey
  lane := o.lane
  attempts := item.attempts + 1
  failures := item.failures + if o.ok then 0 else 1
  stales := item.stales + if o.stale then 1 else 0
  feeBurnUsd := Double.nearest (item.feeBurnUsd + o.feeBurnUsd)
  realizedSlippageDriftBpsSum :=
    Double.nearest (item.realizedSlippageDriftBpsSum + o.slippageDriftBps)
  lossBucketUsd :=
    Double.nearest
      (item.lossBucketUsd + max 0 (Double.nearest (o.expectedEdgeUsd - o.realizedEdgeUsd)))
  rpcPressureEma := some <|
    match item.rpcPressureEma with
    | none => o.rpcPressure
    | some ema =>
      Double.nearest
        (Double.mul (literal 35 100) o.rpcPressure + Double.mul (literal 65 100) ema)

/-! ## Decisions -/

inductive Scope where
  | none
  | family
  | routeFamily
  deriving DecidableEq

structure Decision where
  suppressed : Bool
  reasonCodes : List Text
  scope : Scope
  chain : Text
  reviewRequired : Bool
  resetRequired : Bool

def strategyFailureMode : Text := "strategy_failure_mode".toList

def lossBucketDepletion : Text := "loss_bucket_depletion".toList

def chainRpcDegradation : Text := "chain_rpc_degradation".toList

def Item.perAttempt (item : Item) (total : ℚ) : ℚ := Double.nearest (total / max 1 item.attempts)

/-- The reasons to suppress a key, from its metrics. -/
def Item.reasonCodes (item : Item) : List Text :=
  [(decide (40 ≤ item.feeBurnUsd), "fee_burn_rate".toList),
    (decide (18 ≤ item.perAttempt item.realizedSlippageDriftBpsSum),
      "realized_slippage_drift".toList),
    (decide (literal 35 100 ≤ item.perAttempt item.stales), "stale_quote_ratio".toList),
    (decide (literal 78 100 ≤ item.rpcPressureEma.getD 0), chainRpcDegradation),
    (decide (literal 55 100 ≤ item.perAttempt item.failures), strategyFailureMode),
    (decide (35 ≤ item.lossBucketUsd), lossBucketDepletion)].filterMap fun reason =>
      if reason.1 then some reason.2 else none

def deriveDecision (item : Item) (chain : Text) : Decision :=
  let reasons := item.reasonCodes
  { suppressed := reasons != []
    reasonCodes := reasons
    scope :=
      if reasons = [] then .none
      else if strategyFailureMode ∈ reasons ∨ lossBucketDepletion ∈ reasons then .family
      else .routeFamily
    chain := chain
    reviewRequired := reasons != []
    resetRequired := reasons != [] }

/-! ## The store -/

structure KillSwitchStore where
  metrics : Dict Text Item
  suppressions : Dict Text Decision
  history : List (Text × Decision)

namespace KillSwitchStore

def blank : KillSwitchStore := ⟨Dict.empty, Dict.empty, []⟩

def observeOutcome (store : KillSwitchStore) (o : Outcome) : KillSwitchStore :=
  let item := (store.metrics.getD o.key { toRouteKey := o.toRouteKey }).observe o
  let decision := deriveDecision item o.chain
  { metrics := store.metrics.set o.key item
    suppressions :=
      if decision.suppressed then store.suppressions.set o.key decision
      else store.suppressions.erase o.key
    history := lastRows 200 (store.history ++ [(o.key, decision)]) }

end KillSwitchStore

/-- `drawdown_gate`, as far as it is read. -/
structure DrawdownGate where
  allowed : Bool
  reasonCodes : List Text

/-- The arguments of `evaluate`. -/
structure Request extends RouteKey where
  chain : Text
  drawdownGate : Option DrawdownGate
  endpointPressure : ℚ

structure Evaluation where
  allowed : Bool
  reasonCodes : List Text
  scope : Scope
  reviewRequired : Bool
  resetRequired : Bool

def Request.objections (request : Request) : List Text :=
  (if literal 85 100 ≤ request.endpointPressure then [chainRpcDegradation] else [])
    ++ match request.drawdownGate with
      | some gate => if gate.allowed then [] else gate.reasonCodes
      | none => []

def KillSwitchStore.evaluate (store : KillSwitchStore) (request : Request) : Evaluation :=
  let suppression := store.suppressions.get? request.key
  let reasons := suppression.elim [] Decision.reasonCodes ++ request.objections
  { allowed := reasons.isEmpty
    reasonCodes := reasons.dedup.insertionSort fun a b => textLe a b
    scope := (suppression.map Decision.scope).getD (if reasons = [] then .none else .family)
    reviewRequired := !reasons.isEmpty
    resetRequired := !reasons.isEmpty }

/-! ## How far a suppression reaches -/

/-- A suppression of `route` with this scope is one of the request, too. -/
def Scope.Covers : Scope → RouteKey → RouteKey → Prop
  | .none, _, _ => False
  | .family, route, request => route.family = request.family
  | .routeFamily, route, request =>
    route.family = request.family ∧ route.routeFamily = request.routeFamily

theorem Scope.covers_self {scope : Scope} (h : scope ≠ .none) (route : RouteKey) :
    scope.Covers route route := by
  cases scope with
  | none => exact absurd rfl h
  | family => exact rfl
  | routeFamily => exact ⟨rfl, rfl⟩

/-- The store holds a suppression of one of the routes that reaches the request. -/
def Reaches (store : KillSwitchStore) (observed : List RouteKey) (request : RouteKey) : Prop :=
  ∃ route ∈ observed, ∃ decision,
    store.suppressions.get? route.key = some decision ∧ decision.scope.Covers route request

def KeysApart (routes : List RouteKey) : Prop :=
  ∀ route ∈ routes, ∀ route' ∈ routes, route.key = route'.key → route = route'

/-- **The scopes are honoured**: a suppression that reaches the request refuses it, without one
nothing in the store does, and no key is that of two routes. -/
structure Honours (store : KillSwitchStore) (observed : List RouteKey) (request : Request) :
    Prop where
  refuses : Reaches store observed request.toRouteKey → (store.evaluate request).allowed = false
  allows : ¬Reaches store observed request.toRouteKey →
    (∀ gate, request.drawdownGate = some gate → gate.allowed = true) →
    request.endpointPressure < literal 85 100 → (store.evaluate request).allowed = true
  keys : KeysApart (request.toRouteKey :: observed)

/-! ## What a run keeps -/

theorem deriveDecision_scope (item : Item) (chain : Text)
    (h : (deriveDecision item chain).suppressed = true) :
    (deriveDecision item chain).reasonCodes ≠ [] ∧ (deriveDecision item chain).scope ≠ .none := by
  have hreasons : item.reasonCodes ≠ [] := bne_iff_ne.1 h
  refine ⟨hreasons, ?_⟩
  unfold deriveDecision
  simp only [hreasons, if_false]
  split <;> exact nofun

/-- Every suppression is of a route that was observed, has its reasons and reaches somewhere. -/
def Grounded (observed : List RouteKey) (store : KillSwitchStore) : Prop :=
  ∀ key decision, store.suppressions.get? key = some decision →
    (∃ route ∈ observed, route.key = key) ∧ decision.reasonCodes ≠ [] ∧ decision.scope ≠ .none

theorem grounded_observe {observed : List RouteKey} {store : KillSwitchStore}
    (h : Grounded observed store) (o : Outcome) :
    Grounded (observed ++ [o.toRouteKey]) (store.observeOutcome o) := by
  have hold : ∀ key decision, store.suppressions.get? key = some decision →
      (∃ route ∈ observed ++ [o.toRouteKey], route.key = key)
        ∧ decision.reasonCodes ≠ [] ∧ decision.scope ≠ .none := by
    intro key decision hget
    obtain ⟨⟨route, hroute, hkey⟩, hdecision⟩ := h key decision hget
    exact ⟨⟨route, List.mem_append_left _ hroute, hkey⟩, hdecision⟩
  intro key decision hget
  simp only [KillSwitchStore.observeOutcome] at hget
  split at hget
  · rename_i hsuppressed
    rw [Dict.get?_set] at hget
    split at hget
    · rename_i hkey
      cases hget
      exact ⟨⟨o.toRouteKey, List.mem_append_right _ (List.mem_singleton_self _), hkey.symm⟩,
        deriveDecision_scope _ _ hsuppressed⟩
    · exact hold key decision hget
  · rw [Dict.get?_erase] at hget
    split at hget
    · cases hget
    · exact hold key decision hget

theorem grounded_run (outcomes : List Outcome) :
    Grounded (outcomes.map Outcome.toRouteKey)
      (run KillSwitchStore.observeOutcome KillSwitchStore.blank outcomes) := by
  induction outcomes using List.reverseRecOn with
  | nil => exact fun _ _ hget => nomatch hget
  | append_singleton outcomes o ih =>
    rw [run_append, List.map_append]
    exact grounded_observe ih o

/-! ## When the scopes are honoured -/

theorem evaluate_allowed_iff {observed : List RouteKey} {store : KillSwitchStore}
    (h : Grounded observed store) (request : Request) :
    (store.evaluate request).allowed = true
      ↔ store.suppressions.get? request.key = none ∧ request.objections = [] := by
  simp only [KillSwitchStore.evaluate, List.isEmpty_iff, List.append_eq_nil_iff]
  refine and_congr_left fun _ => ?_
  cases hget : store.suppressions.get? request.key with
  | none => simp
  | some decision => simpa using (h _ _ hget).2.1

theorem objections_eq_nil {request : Request}
    (hgate : ∀ gate, request.drawdownGate = some gate → gate.allowed = true)
    (hpressure : request.endpointPressure < literal 85 100) : request.objections = [] := by
  unfold Request.objections
  rw [if_neg (not_le.2 hpressure), List.nil_append]
  cases hdrawdown : request.drawdownGate with
  | none => rfl
  | some gate => exact if_pos (hgate gate hdrawdown)

/-- **When the scopes are honoured**, after every run and for every request: the keys are apart,
and what reaches the request has its very key, unless it is refused for other reasons. -/
theorem honours_iff (outcomes : List Outcome) (request : Request) :
    Honours (run KillSwitchStore.observeOutcome KillSwitchStore.blank outcomes)
        (outcomes.map Outcome.toRouteKey) request
      ↔ KeysApart (request.toRouteKey :: outcomes.map Outcome.toRouteKey)
        ∧ (Reaches (run KillSwitchStore.observeOutcome KillSwitchStore.blank outcomes)
              (outcomes.map Outcome.toRouteKey) request.toRouteKey →
            request.objections ≠ []
              ∨ (run KillSwitchStore.observeOutcome KillSwitchStore.blank
                  outcomes).suppressions.get? request.key ≠ none) := by
  have hgrounded := grounded_run outcomes
  generalize run KillSwitchStore.observeOutcome KillSwitchStore.blank outcomes = store at *
  have hallowed := evaluate_allowed_iff hgrounded request
  constructor
  · intro h
    refine ⟨h.keys, fun hreaches => ?_⟩
    by_contra hneither
    obtain ⟨hobjections, hown⟩ := not_or.1 hneither
    have hopen := hallowed.2 ⟨not_not.1 hown, not_not.1 hobjections⟩
    rw [h.refuses hreaches] at hopen
    cases hopen
  · rintro ⟨hkeys, hrefused⟩
    refine ⟨fun hreaches => ?_, fun hfree hgate hpressure => ?_, hkeys⟩
    · refine Bool.eq_false_iff.2 fun hopen => ?_
      obtain ⟨hown, hobjections⟩ := hallowed.1 hopen
      rcases hrefused hreaches with h | h
      · exact h hobjections
      · exact h hown
    · refine hallowed.2 ⟨?_, objections_eq_nil hgate hpressure⟩
      cases hown : store.suppressions.get? request.key with
      | none => rfl
      | some decision =>
        -- the key is that of the request alone, so the suppression is its own and reaches it
        obtain ⟨⟨route, hroute, hkey⟩, -, hscope⟩ := hgrounded _ _ hown
        have hself : route = request.toRouteKey :=
          hkeys route (List.mem_cons_of_mem _ hroute) _ List.mem_cons_self hkey
        refine absurd ⟨route, hroute, decision, hkey ▸ hown, ?_⟩ hfree
        exact hself ▸ Scope.covers_self hscope _

/-! A failure of the venue `a` suppresses its family; the venue `b` of the same route stays open. -/

def sampleOutcome : Outcome where
  family := "flash".toList
  routeFamily := "triangle".toList
  venue := ['a']
  lane := "private".toList
  ok := false
  expectedEdgeUsd := 8
  realizedEdgeUsd := 0
  slippageDriftBps := 0
  stale := false
  feeBurnUsd := 1
  rpcPressure := 0
  chain := "eth".toList

def sampleRequest : Request where
  family := "flash".toList
  routeFamily := "triangle".toList
  venue := ['b']
  chain := "eth".toList
  drawdownGate := none
  endpointPressure := 0

/-- A suppression of the family is held under the key of one venue, and refuses no other. -/
theorem other_venue_open :
    ¬∀ (outcomes : List Outcome) (request : Request),
      Honours (run KillSwitchStore.observeOutcome KillSwitchStore.blank outcomes)
        (outcomes.map Outcome.toRouteKey) request := by
  intro h
  have hscope : ((run KillSwitchStore.observeOutcome KillSwitchStore.blank
      [sampleOutcome]).suppressions.get? sampleOutcome.key).map Decision.scope = some .family := by
    decide +kernel
  obtain ⟨decision, hget, hfamily⟩ := Option.map_eq_some_iff.1 hscope
  have hrefuses := (h [sampleOutcome] sampleRequest).refuses
    ⟨sampleOutcome.toRouteKey, List.mem_cons_self, decision, hget, hfamily ▸ rfl⟩
  revert hrefuses
  decide +kernel

/-! ## A route is judged by its own outcomes -/

/-- What an outcome of its key makes of an entry of `metrics`. -/
def observeEntry (entry : Option Item) (o : Outcome) : Option Item :=
  some ((entry.getD { toRouteKey := o.toRouteKey }).observe o)

def Outcome.routeKey (o : Outcome) : Option Text := some o.key

namespace KillSwitchStore

theorem metrics_observe (store : KillSwitchStore) (o : Outcome) (key : Text) :
    (store.observeOutcome o).metrics.get? key
      = if o.routeKey = some key then observeEntry (store.metrics.get? key) o
        else store.metrics.get? key := by
  simp only [observeOutcome, Dict.get?_set, Outcome.routeKey, Option.some_inj, eq_comm]
  split
  · rename_i hkey
    rw [hkey]
    rfl
  · rfl

/-- The reasons of the suppression are those that the metrics give. -/
def Derived (store : KillSwitchStore) : Prop :=
  ∀ key, (store.suppressions.get? key).elim [] Decision.reasonCodes
    = (store.metrics.get? key).elim [] Item.reasonCodes

theorem derived_observe {store : KillSwitchStore} (h : store.Derived) (o : Outcome) :
    (store.observeOutcome o).Derived := by
  intro key
  simp only [observeOutcome, Dict.get?_set]
  by_cases hkey : key = o.key
  · rw [if_pos hkey, hkey]
    by_cases hreasons :
        ((store.metrics.getD o.key { toRouteKey := o.toRouteKey }).observe o).reasonCodes = []
    · simp [deriveDecision, hreasons, Dict.get?_erase]
    · simp [deriveDecision, hreasons]
  · rw [if_neg hkey, ← h key]
    split
    · rw [Dict.get?_set_of_ne _ _ hkey]
    · rw [Dict.get?_erase, if_neg hkey]

end KillSwitchStore

/-- **A route is judged by its own outcomes.** After every run a request is let through exactly when
it brings no objection and the outcomes of its key alone, in their order, give no reason, however
those of other keys come in between. -/
theorem evaluate_run (outcomes : List Outcome) (request : Request) :
    ((run KillSwitchStore.observeOutcome .blank outcomes).evaluate request).allowed = true
      ↔ ((eventsOf Outcome.routeKey request.key outcomes).foldl observeEntry none).elim []
          Item.reasonCodes = [] ∧ request.objections = [] := by
  have hderived := @run_invariant _ _ _ (fun _ _ => True) KillSwitchStore.Derived
    (fun _ o h _ => KillSwitchStore.derived_observe h o) KillSwitchStore.blank (fun _ => rfl)
    outcomes (allSteps_of_forall (fun _ _ => trivial) _ _)
  have hmetrics :
      (run KillSwitchStore.observeOutcome KillSwitchStore.blank outcomes).metrics.get? request.key
        = (eventsOf Outcome.routeKey request.key outcomes).foldl observeEntry none :=
    @replay_entry _ _ _ _ _ (fun store key => store.metrics.get? key) _ _ _
      KillSwitchStore.metrics_observe KillSwitchStore.blank outcomes request.key
  rw [← hmetrics, ← hderived]
  simp only [KillSwitchStore.evaluate, List.isEmpty_iff, List.append_eq_nil_iff]

end SovereignCapital.Governance
