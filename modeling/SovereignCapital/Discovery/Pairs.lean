import SovereignCapital.Discovery.Books
import SovereignCapital.Discovery.Programs

/-! # The frontier rule

What a record should be, what the venues check of it themselves, and what they leave to the logs and
answers that they are given.
-/

namespace SovereignCapital.Discovery

open Bytes

/-! ## Records -/

structure Pool.Proper (p : Pool) : Prop where
  pool : ¬ Blank p.pool
  tokenIn : ¬ Blank p.tokenIn
  tokenOut : ¬ Blank p.tokenOut
  different : pyLower p.tokenIn ≠ pyLower p.tokenOut

/-- One of two tokens is configured, or both were observed. -/
def World.KnownPair (w : World) (a b : Text) : Prop :=
  w.Configured a ∨ w.Configured b ∨ w.Observed a ∧ w.Observed b

def World.Known (w : World) (p : Pool) : Prop := w.KnownPair p.tokenIn p.tokenOut

/-- What the venue of a record sees to. -/
def World.Assured (w : World) (p : Pool) : Prop :=
  p.detail.Sound ∧
    match p.table with
    | .v3 | .curve | .balancer => ¬ Blank p.pool ∧ ¬ Blank p.tokenIn ∧ ¬ Blank p.tokenOut
    | .aerodrome | .slipstream => True
    | .camelotAlgebra => w.Known p
    | .camelotV2 | .constantProduct => ¬ Blank p.pool ∧ w.Known p

/-- What the venue of a record leaves open. -/
def World.Needs (w : World) (p : Pool) : Prop :=
  match p.table with
  | .v3 | .curve | .balancer => pyLower p.tokenIn ≠ pyLower p.tokenOut ∧ w.Known p
  | .aerodrome | .slipstream => p.Proper ∧ w.Known p
  | .camelotAlgebra => p.Proper
  | .camelotV2 | .constantProduct =>
    ¬ Blank p.tokenIn ∧ ¬ Blank p.tokenOut ∧ pyLower p.tokenIn ≠ pyLower p.tokenOut

/-- What a venue leaves open is just what is missing. -/
theorem World.Assured.proper_and_known_iff {w : World} {p : Pool} (h : w.Assured p) :
    p.Proper ∧ w.Known p ↔ w.Needs p := by
  obtain ⟨-, h⟩ := h
  unfold Needs
  cases htable : p.table <;> rw [htable] at h <;> simp only at h ⊢
  case v3 | curve | balancer =>
    obtain ⟨hpool, hin, hout⟩ := h
    constructor
    · exact fun hall => ⟨hall.1.different, hall.2⟩
    · exact fun hall => ⟨⟨hpool, hin, hout, hall.1⟩, hall.2⟩
  case camelotAlgebra => exact and_iff_left h
  case camelotV2 | constantProduct =>
    obtain ⟨hpool, hknown⟩ := h
    constructor
    · exact fun hall => ⟨hall.1.tokenIn, hall.1.tokenOut, hall.1.different⟩
    · exact fun hall => ⟨⟨hpool, hall.1, hall.2.1, hall.2.2⟩, hknown⟩

/-- A proper record whose own items are as they must be may be kept. -/
theorem Pool.Proper.loadable {p : Pool} (h : p.Proper) (hsound : p.detail.Sound) : p.Loadable :=
  ⟨fun hempty => h.pool (Or.inl hempty), fun hempty => h.tokenIn (Or.inl hempty),
    fun hempty => h.tokenOut (Or.inl hempty), hsound⟩

/-! ## Operations -/

section Hash

variable (stableHash : Text → Nat)

/-- What the routines see to before they make an operation. -/
def Op.Allowed (w : World) (op : Op) : Prop :=
  match op with
  | .put p =>
    p.detail.Sound ∧ ¬ Blank p.pool ∧ pyLower p.tokenIn ≠ pyLower p.tokenOut ∧ w.Known p
  | op => ∀ p ∈ op.files stableHash w, w.Assured p

/-- What they leave open. -/
def Op.Ok (w : World) (op : Op) : Prop :=
  match op with
  | .put p =>
    (w.manager.books p.table).get? p.key = some p
      ∨ w.manager.has p = false ∧ ¬ Blank p.tokenIn ∧ ¬ Blank p.tokenOut
  | op => ∀ p ∈ w.manager.fresh (op.files stableHash w), w.Needs p

end Hash

/-- What later states of a process keep: the configuration and what was observed. -/
structure World.Later (w w' : World) : Prop where
  config : w'.config = w.config
  observed : ∀ t, w.Observed t → w'.Observed t

theorem World.Later.refl (w : World) : w.Later w := ⟨rfl, fun _ h => h⟩

theorem World.Later.trans (w w' w'' : World) (h : w.Later w') (h' : w'.Later w'') : w.Later w'' :=
  ⟨h'.config.trans h.config, fun t ht => h'.observed t (h.observed t ht)⟩

theorem World.Later.configured {w w' : World} (h : w.Later w') {t : Text} :
    w'.Configured t ↔ w.Configured t := by
  unfold World.Configured
  rw [h.config]

theorem World.Later.knownPair {w w' : World} (h : w.Later w') {a b : Text}
    (hknown : w.KnownPair a b) : w'.KnownPair a b := by
  rcases hknown with ha | hb | ⟨ha, hb⟩
  · exact Or.inl (h.configured.2 ha)
  · exact Or.inr (Or.inl (h.configured.2 hb))
  · exact Or.inr (Or.inr ⟨h.observed a ha, h.observed b hb⟩)

/-! ## What an operation does -/

section Hash

variable (stableHash : Text → Nat)

/-- No operation changes the configuration or forgets what was observed. -/
theorem Op.later_apply (op : Op) (w : World) : w.Later (op.apply stableHash w) := by
  have hobserve : ∀ (source : Text) (ts : List Text) (ps : List Pool),
      w.Later { w with manager := (Manager.observe source ts w.manager).addAll ps } := by
    intro source ts ps
    refine ⟨rfl, fun t ht => ?_⟩
    have hobserved := Manager.contains_observe ht source ts
    show (((Manager.observe source ts w.manager).addAll ps).observed).contains (normalized t)
    rwa [Manager.observed_addAll]
  cases op with
  | look => exact World.Later.refl w
  | mark venue block => exact ⟨rfl, fun _ h => h⟩
  | take source p => exact hobserve _ _ _
  | put p => exact ⟨rfl, fun _ h => h⟩
  | curve pool coins balances block => exact hobserve _ _ _
  | balancer poolId pool tokens balances block => exact hobserve _ _ _
  | save =>
    unfold Op.apply
    cases w.diskOk with
    | true => exact ⟨rfl, fun _ h => h⟩
    | false => exact World.Later.refl w

theorem Op.cap_apply (op : Op) (w : World) :
    (op.apply stableHash w).manager.cap = w.manager.cap := by
  cases op with
  | look => rfl
  | mark venue block => rfl
  | put p => rfl
  | take source p => exact (Manager.cap_addAll _ _).trans (Manager.cap_observe _ _ _)
  | curve pool coins balances block =>
    exact (Manager.cap_addAll _ _).trans (Manager.cap_observe _ _ _)
  | balancer poolId pool tokens balances block =>
    exact (Manager.cap_addAll _ _).trans (Manager.cap_observe _ _ _)
  | save =>
    unfold Op.apply
    cases w.diskOk <;> rfl

/-- The observed tokens stay within the cap. -/
theorem Op.bounded_apply (op : Op) {w : World} (h : w.manager.Bounded) :
    (op.apply stableHash w).manager.Bounded := by
  have hobserve : ∀ (source : Text) (ts : List Text) (ps : List Pool),
      ((Manager.observe source ts w.manager).addAll ps).Bounded := by
    intro source ts ps
    have hbounded := h.observe source ts
    unfold Manager.Bounded at hbounded ⊢
    rwa [Manager.observed_addAll, Manager.cap_addAll]
  cases op with
  | look => exact h
  | mark venue block => exact h
  | take source p => exact hobserve _ _ _
  | put p => exact h
  | curve pool coins balances block => exact hobserve _ _ _
  | balancer poolId pool tokens balances block => exact hobserve _ _ _
  | save =>
    unfold Op.apply
    cases w.diskOk <;> exact h

/-- The lookups after an operation that files where keys are free. -/
theorem Op.get?_apply {op : Op} (hop : ∀ p, op ≠ .put p) (w : World) (table : Table) (key : Text)
    (p : Pool) :
    ((op.apply stableHash w).manager.books table).get? key = some p
      ↔ (w.manager.books table).get? key = some p
        ∨ p ∈ w.manager.fresh (op.files stableHash w) ∧ p.table = table ∧ p.key = key := by
  have hobserve : ∀ (source : Text) (ts : List Text) (ps : List Pool),
      (((Manager.observe source ts w.manager).addAll ps).books table).get? key = some p
        ↔ (w.manager.books table).get? key = some p
          ∨ p ∈ w.manager.fresh ps ∧ p.table = table ∧ p.key = key := by
    intro source ts ps
    have hbooks : (Manager.observe source ts w.manager).books = w.manager.books :=
      Manager.books_observe source ts w.manager
    rw [Manager.get?_addAll, hbooks, Manager.fresh_congr hbooks]
  have hnone : ∀ {q : Pool}, q ∉ w.manager.fresh [] := fun hmem => (List.not_mem_nil hmem).elim
  cases op with
  | put p => exact (hop p rfl).elim
  | take source p => exact hobserve _ _ _
  | curve pool coins balances block => exact hobserve _ _ _
  | balancer poolId pool tokens balances block => exact hobserve _ _ _
  | look => exact (or_iff_left fun h => hnone h.1).symm
  | mark venue block => exact (or_iff_left fun h => hnone h.1).symm
  | save =>
    have hbooks : (Op.save.apply stableHash w).manager.books = w.manager.books := by
      unfold Op.apply
      cases w.diskOk <;> rfl
    rw [hbooks]
    exact (or_iff_left fun h => hnone h.1).symm

end Hash

end SovereignCapital.Discovery

/-! # The pairs that are asked for

The tokens that the routines pair are configured or were observed, and the pairs of UniswapV3 are of
two different tokens of which one is configured. A pair of `_supported_discovery_pairs` has two
positions and no blank token.
-/

namespace SovereignCapital.Discovery

open Bytes

/-! ## Tokens -/

def World.KnownToken (w : World) (t : Text) : Prop := w.Configured t ∨ w.Observed t

theorem World.KnownToken.pair {w : World} {a b : Text} (ha : w.KnownToken a)
    (hb : w.KnownToken b) : w.KnownPair a b := by
  rcases ha with ha | ha
  · exact Or.inl ha
  · rcases hb with hb | hb
    · exact Or.inr (Or.inl hb)
    · exact Or.inr (Or.inr ⟨ha, hb⟩)

variable {t : Text} {ts : List Text} {block : Int} {p : Nat × Text × Nat × Text}

theorem Config.pyLower_of_mem_anchors {cfg : Config} (h : t ∈ cfg.anchors) : pyLower t = t := by
  obtain ⟨t', -, rfl⟩ := List.mem_map.1 h
  exact pyLower_pyLower t'

theorem World.configured_of_mem_anchors {w : World} (h : t ∈ w.config.anchors) :
    w.Configured t := by
  unfold World.Configured
  rwa [Config.pyLower_of_mem_anchors h]

theorem World.configured_of_mem_universe {w : World} (h : t ∈ w.config.tokenUniverse)
    (hne : t ≠ []) :
    w.Configured t :=
  List.mem_map_of_mem (List.mem_filter.2 ⟨h, by simpa using hne⟩)

/-- The tokens outside the configuration: in lower case, observed, and not configured. -/
theorem World.of_mem_outside {w : World} (h : t ∈ w.outside) :
    pyLower t = t ∧ w.Observed t ∧ t ∉ w.config.anchors := by
  obtain ⟨hmem, hnot⟩ := List.mem_filter.1 h
  obtain ⟨e, he, rfl⟩ := List.mem_map.1 hmem
  obtain ⟨⟨t, ht⟩, sources⟩ := e
  have hnormalized : normalized t = ⟨t, ht⟩ := Subtype.ext ht
  refine ⟨ht, ?_, of_decide_eq_true hnot⟩
  unfold World.Observed
  rw [hnormalized]
  exact Dict.contains_of_mem he

theorem mem_sortedBy {number : Text → Nat} : t ∈ sortedBy number ts ↔ t ∈ ts :=
  (List.perm_insertionSort _ ts).mem_iff

section Hash

variable (stableHash : Text → Nat)

theorem World.mem_outside_of_mem_researchFrontierTokens {w : World}
    (h : t ∈ w.researchFrontierTokens stableHash) : t ∈ w.outside :=
  (List.perm_insertionSort _ w.outside).mem_iff.1 (List.mem_of_mem_take h)

/-! ## Pairs of tokens -/

theorem mem_of_mem_pairsOf {pair : Text × Text} (h : pair ∈ pairsOf ts) :
    pair.1 ∈ ts ∧ pair.2 ∈ ts := by
  induction ts with
  | nil => cases h
  | cons t ts ih =>
    rcases List.mem_append.1 h with hfirst | hrest
    · obtain ⟨b, hb, rfl⟩ := List.mem_map.1 hfirst
      exact ⟨List.mem_cons_self, List.mem_cons_of_mem _ hb⟩
    · exact ⟨List.mem_cons_of_mem _ (ih hrest).1, List.mem_cons_of_mem _ (ih hrest).2⟩

theorem World.knownToken_of_mem_camelotV2Tokens {w : World} (h : t ∈ w.camelotV2Tokens stableHash) :
    w.KnownToken t := by
  rcases List.mem_append.1 h with hanchor | hfrontier
  · exact Or.inl (configured_of_mem_anchors hanchor)
  · have hsorted := mem_sortedBy.1 (List.mem_of_mem_take hfrontier)
    have houtside := w.mem_outside_of_mem_researchFrontierTokens stableHash
      (List.mem_filter.1 hsorted).1
    exact Or.inr (of_mem_outside houtside).2.1

omit stableHash in
theorem World.knownToken_of_mem_constantProductTokens {w : World}
    (hts : w.constantProductTokens = some ts) (h : t ∈ ts) : w.KnownToken t := by
  unfold World.constantProductTokens at hts
  obtain ⟨cap, -, rfl⟩ := Option.map_eq_some_iff.1 hts
  rcases List.mem_append.1 h with hconfigured | hobserved
  · obtain ⟨hmem, hne⟩ := List.mem_filter.1 hconfigured
    exact Or.inl (configured_of_mem_universe hmem (by simpa using hne))
  · have hsorted := (List.perm_insertionSort _ w.outside).mem_iff.1
      (List.mem_of_mem_take hobserved)
    exact Or.inr (of_mem_outside hsorted).2.1

/-- What a pair of UniswapV3 is: of different tokens, one of them configured. -/
def World.Anchored (w : World) (pair : Text × Text) : Prop :=
  pyLower pair.1 ≠ pyLower pair.2 ∧ w.Configured pair.1

theorem World.anchored_of_mem_frontierPairs {w : World} {pair : Text × Text}
    (h : pair ∈ w.frontierPairs stableHash block) : w.Anchored pair := by
  obtain ⟨token, htoken, hpair⟩ := List.mem_flatMap.1 h
  obtain ⟨anchor, hanchor, rfl⟩ := List.mem_map.1 hpair
  have hanchor' : anchor ∈ w.config.anchors := List.mem_dedup.1 (mem_sortedBy.1 hanchor)
  obtain ⟨hlower, -, hnot⟩ := of_mem_outside (mem_sortedBy.1 (List.mem_of_mem_take htoken))
  refine ⟨?_, configured_of_mem_anchors hanchor'⟩
  rw [Config.pyLower_of_mem_anchors hanchor', hlower]
  exact ne_of_mem_of_not_mem hanchor' hnot

theorem World.anchored_of_mem_wethPairs {w : World} {pair : Text × Text}
    (h : pair ∈ wethPairs stableHash w.config block) : w.Anchored pair := by
  unfold wethPairs at h
  split at h
  · rename_i hweth
    obtain ⟨hne, hany⟩ := hweth
    obtain ⟨t, ht, rfl⟩ := List.mem_map.1 h
    obtain ⟨hlower, hdifferent⟩ := List.mem_filter.1 (mem_sortedBy.1 (List.mem_of_mem_take ht))
    obtain ⟨t', -, rfl⟩ := List.mem_map.1 hlower
    obtain ⟨weth, hmem, heq⟩ := List.any_eq_true.1 hany
    have heq : pyLower weth = pyLower w.config.weth := by simpa using heq
    have hnonempty : weth ≠ [] := by
      rintro rfl
      exact hne (List.map_eq_nil_iff.1 heq.symm)
    refine ⟨?_, ?_⟩
    · simp only [pyLower_pyLower]
      exact (bne_iff_ne.1 hdifferent).symm
    · show pyLower (pyLower w.config.weth) ∈ w.config.anchors
      rw [pyLower_pyLower, ← heq]
      exact configured_of_mem_universe hmem hnonempty
  · cases h

omit stableHash in
theorem addDrawn_cases {pairs : List (Text × Text)} {drawn : Option (Text × Text)}
    {pair : Text × Text} (h : pair ∈ addDrawn pairs drawn) :
    pair ∈ pairs ∨ drawn = some pair ∧ pair.1 ≠ pair.2 := by
  cases drawn with
  | none => exact Or.inl h
  | some p =>
    obtain ⟨a, b⟩ := p
    simp only [addDrawn] at h
    split at h
    · exact Or.inl h
    · rename_i hnew
      rcases List.mem_append.1 h with hold | hlast
      · exact Or.inl hold
      · rw [List.mem_singleton] at hlast
        subst hlast
        exact Or.inr ⟨rfl, fun heq => hnew (Or.inl heq)⟩

theorem mem_of_drawnPair {cfg : Config} {k : Nat} {pair : Text × Text}
    (h : drawnPair stableHash cfg block ts k = some pair) : pair.1 ∈ ts ∧ pair.2 ∈ ts := by
  unfold drawnPair at h
  simp only at h
  split at h
  · rename_i a b ha hb
    have ha := List.mem_of_getElem? ha
    have hb := List.mem_of_getElem? hb
    split at h <;> cases h
    · exact ⟨ha, hb⟩
    · exact ⟨hb, ha⟩
  · cases h

theorem World.anchored_of_mem_univ3Pairs {w : World} {pair : Text × Text}
    (h : pair ∈ w.univ3Pairs stableHash block) : w.Anchored pair := by
  -- the drawn pairs are of configured tokens, which are in lower case
  have hdrawn : ∀ drawn : List (Option (Text × Text)), ∀ pairs : List (Text × Text),
      (∀ p ∈ pairs, w.Anchored p) →
      (∀ d ∈ drawn, ∀ p, d = some p → p.1 ∈ w.config.anchors ∧ p.2 ∈ w.config.anchors) →
      ∀ p ∈ drawn.foldl addDrawn pairs, w.Anchored p := by
    intro drawn
    induction drawn with
    | nil => exact fun pairs hpairs _ => hpairs
    | cons d drawn ih =>
      intro pairs hpairs hall
      obtain ⟨hd, hrest⟩ := List.forall_mem_cons.1 hall
      refine ih (addDrawn pairs d) (fun p hp => ?_) hrest
      rcases addDrawn_cases hp with hold | ⟨hsome, hne⟩
      · exact hpairs p hold
      · obtain ⟨hfirst, hsecond⟩ := hd p hsome
        refine ⟨?_, configured_of_mem_anchors hfirst⟩
        rwa [Config.pyLower_of_mem_anchors hfirst, Config.pyLower_of_mem_anchors hsecond]
  refine hdrawn _ _ (fun p hp => ?_) (fun d hd p hp => ?_) pair h
  · rcases List.mem_append.1 hp with hfrontier | hweth
    · exact anchored_of_mem_frontierPairs stableHash hfrontier
    · exact anchored_of_mem_wethPairs stableHash hweth
  · obtain ⟨k, -, rfl⟩ := List.mem_map.1 hd
    obtain ⟨hfirst, hsecond⟩ := mem_of_drawnPair stableHash hp
    exact ⟨List.mem_dedup.1 (mem_sortedBy.1 hfirst), List.mem_dedup.1 (mem_sortedBy.1 hsecond)⟩

/-! ## Pairs of positions -/

omit stableHash in
theorem not_blank_of_mem_liquid {bs : List Nat} {i : Nat} {item : Nat × Text}
    (h : item ∈ liquid i ts bs) : ¬ Blank item.2 := by
  induction ts generalizing i bs with
  | nil => cases h
  | cons t ts ih =>
    cases bs with
    | nil => cases h
    | cons b bs =>
      unfold liquid at h
      split at h
      · exact ih h
      · rename_i hboth
        rcases List.mem_cons.1 h with rfl | hrest
        · exact fun hblank => hboth (Or.inl hblank)
        · exact ih hrest

omit stableHash in
theorem addLinked_cases {seen : List (Nat × Nat)} {pairs : List (Nat × Text × Nat × Text)}
    {q : Nat × Text × Nat × Text} (h : q ∈ addLinked seen pairs p) :
    q ∈ pairs ∨ q = p ∧ p.1 ≠ p.2.2.1 := by
  unfold addLinked at h
  split at h
  · exact Or.inl h
  · rename_i hnew
    rcases List.mem_append.1 h with hold | hlast
    · exact Or.inl hold
    · exact Or.inr ⟨List.mem_singleton.1 hlast, fun heq => hnew (Or.inl heq)⟩

omit stableHash in
/-- Two lists are linked by pairs of an item of each, at different positions. -/
theorem of_mem_linked {first second : List (Nat × Text)} {seen : List (Nat × Nat)}
    (h : p ∈ linked first second seen) :
    p.1 ≠ p.2.2.1 ∧ (p.1, p.2.1) ∈ first ∧ (p.2.2.1, p.2.2.2) ∈ second := by
  have hfold : ∀ candidates pairs : List (Nat × Text × Nat × Text),
      p ∈ candidates.foldl (addLinked seen) pairs → p ∈ pairs ∨ p ∈ candidates ∧ p.1 ≠ p.2.2.1 := by
    intro candidates
    induction candidates with
    | nil => exact fun pairs hp => Or.inl hp
    | cons c candidates ih =>
      intro pairs hp
      rcases ih _ hp with hpairs | ⟨hmem, hne⟩
      · rcases addLinked_cases hpairs with hold | ⟨rfl, hne⟩
        · exact Or.inl hold
        · exact Or.inr ⟨List.mem_cons_self, hne⟩
      · exact Or.inr ⟨List.mem_cons_of_mem _ hmem, hne⟩
  rcases hfold _ _ h with hnil | ⟨hmem, hne⟩
  · cases hnil
  · obtain ⟨a, ha, hpair⟩ := List.mem_flatMap.1 hmem
    obtain ⟨b, hb, rfl⟩ := List.mem_map.1 hpair
    exact ⟨hne, ha, hb⟩

/-- A pair of `_supported_discovery_pairs` has two positions and no blank token. -/
theorem World.of_mem_supportedDiscoveryPairs {w : World} {bs : List Nat}
    (h : p ∈ w.supportedDiscoveryPairs stableHash ts bs) :
    p.1 ≠ p.2.2.1 ∧ ¬ Blank p.2.1 ∧ ¬ Blank p.2.2.2 := by
  unfold World.supportedDiscoveryPairs at h
  simp only at h
  split at h
  · cases h
  · rcases List.mem_append.1 h with hfirst | hsecond
    · obtain ⟨hne, ha, hb⟩ := of_mem_linked hfirst
      exact ⟨hne, not_blank_of_mem_liquid (List.mem_filter.1 ha).1, not_blank_of_mem_liquid hb⟩
    · obtain ⟨hne, ha, hb⟩ := of_mem_linked hsecond
      have hliquid : ∀ item, item ∈ (liquid 0 ts bs).filter
            (fun item => decide (pyLower item.2 ∈ w.config.anchors))
          ++ (liquid 0 ts bs).filter
            (fun item => decide (pyLower item.2 ∈ w.researchFrontierTokens stableHash
              ∧ pyLower item.2 ∉ w.config.anchors)) → ¬ Blank item.2 := by
        intro item hitem
        rcases List.mem_append.1 hitem with hanchor | hobserved
        · exact not_blank_of_mem_liquid (List.mem_filter.1 hanchor).1
        · exact not_blank_of_mem_liquid (List.mem_filter.1 hobserved).1
      exact ⟨hne, hliquid _ ha, hliquid _ hb⟩

end Hash

end SovereignCapital.Discovery
