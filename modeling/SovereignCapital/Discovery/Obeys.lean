import SovereignCapital.Discovery.Pairs

/-! # The routines keep to what they see to

Whatever the chain answers and whatever other routines do meanwhile, a routine makes only operations
that meet `Op.Allowed` where they are made.
-/

namespace SovereignCapital.Discovery

open Bytes Abi Routine

variable {w : World} {block : Int} {anchors : List Text} {factory : Text} {cfg : Config}
  {pairs : List (Text × Text)}

section Hash

variable (stableHash : Text → Nat)

/-- A program that is resumed in a state makes only operations that are allowed. -/
abbrev Obeys {β : Type} (t : Program β) (w : World) : Prop :=
  t.Keeps (Op.apply stableHash) World.Later (fun op w => op.Allowed stableHash w)
    (fun _ _ => True) w

variable {stableHash} {β γ : Type}

theorem Obeys.resumed {t : Program β} {w' : World} (h : Obeys stableHash t w)
    (hlater : w.Later w') :
    Obeys stableHash t w' :=
  Keeps.resumed World.Later.trans h hlater

theorem Obeys.bind {t : Program β} {f : β → Program γ} (ht : Obeys stableHash t w)
    (hf : ∀ b w', w.Later w' → Obeys stableHash (f b) w') : Obeys stableHash (t >>= f) w :=
  Keeps.bind World.Later.refl World.Later.trans (Op.later_apply stableHash) ht
    fun b w' hlater _ => hf b w' hlater

theorem obeys_done (b : β) (w : World) : Obeys stableHash (done b : Program β) w :=
  fun _ _ => trivial

theorem obeys_stop (w : World) : Obeys stableHash (stop : Program β) w := True.intro

theorem obeys_act {op : Op} {next : World → Program β}
    (hop : ∀ w', w.Later w' → op.Allowed stableHash w')
    (hnext : ∀ w' w'', w.Later w' → w'.Later w'' → Obeys stableHash (next w') w'') :
    Obeys stableHash (act op next) w := by
  intro w' hlater
  exact ⟨hop w' hlater, hnext w' _ hlater (Op.later_apply stableHash op w')⟩

/-! ## Steps of a program -/

theorem obeys_look {next : World → Program β}
    (hnext : ∀ w', w.Later w' → Obeys stableHash (next w') w') :
    Obeys stableHash (act .look next) w := by
  refine obeys_act (fun w' _ p hp => (List.not_mem_nil hp).elim) fun w' w'' hlater hlater' => ?_
  exact (hnext w' hlater).resumed hlater'

theorem obeys_perform_look {f : World → Program β}
    (hf : ∀ w', w.Later w' → Obeys stableHash (f w') w') :
    Obeys stableHash (perform .look >>= f) w :=
  obeys_look hf

theorem obeys_whenDue {venue : Venue} {interval : Int} {body : World → Program Unit}
    (hbody : ∀ w', w.Later w' → Obeys stableHash (body w') w') :
    Obeys stableHash (whenDue venue block interval body) w := by
  apply obeys_look
  intro w' hlater
  split
  · exact obeys_done _ _
  · refine obeys_act (fun w'' _ p hp => (List.not_mem_nil hp).elim) fun u v hu hv => ?_
    exact (hbody u (hlater.trans _ _ _ hu)).resumed hv

theorem obeys_save (w : World) : Obeys stableHash (act .save fun _ => done ()) w :=
  obeys_act (fun _ _ _ hp => (List.not_mem_nil hp).elim) fun _ _ _ _ => obeys_done _ _

theorem obeys_saveIf (changed : Bool) (w : World) : Obeys stableHash (saveIf changed) w := by
  unfold saveIf
  split
  · exact obeys_save w
  · exact obeys_done _ _

theorem obeys_ethCall {target signature : Text} {args : List (List Byte)}
    {f : Option PyTree → Program β} (hf : ∀ r, Obeys stableHash (f r) w) :
    Obeys stableHash (ethCall target signature args >>= f) w := by
  intro reply
  cases reply with
  | call result => exact hf result
  | raised caught => exact obeys_stop _
  | logs logs => exact obeys_stop _
  | batch results => exact obeys_stop _

theorem obeys_ethGetLogs {address topic : Text} {fromBlock toBlock : Int}
    {f : Option (List PyTree) → Program β} (hf : ∀ logs, Obeys stableHash (f logs) w) :
    Obeys stableHash (ethGetLogs address fromBlock toBlock topic >>= f) w := by
  intro reply
  cases reply with
  | logs logs => exact hf (some logs)
  | call result => exact obeys_stop _
  | batch results => exact obeys_stop _
  | raised caught =>
    cases caught with
    | true => exact hf none
    | false => exact obeys_stop _

theorem obeys_ethCallBatch {calls : List Request} {f : List (Option PyTree) → Program β}
    (hf : ∀ results, Obeys stableHash (f results) w) :
    Obeys stableHash (ethCallBatch calls >>= f) w := by
  intro reply
  cases reply with
  | batch results => exact hf results
  | call result => exact obeys_stop _
  | raised caught => exact obeys_stop _
  | logs logs => exact obeys_stop _

theorem obeys_take {source : Text} {p : Pool} {next : World → Program β}
    (hp : ∀ w', w.Later w' → w'.Assured p)
    (hnext : ∀ w' w'', w.Later w' → w'.Later w'' → Obeys stableHash (next w') w'') :
    Obeys stableHash (act (.take source p) next) w := by
  refine obeys_act (fun w' hlater q hq => ?_) hnext
  rw [List.mem_singleton.1 hq]
  exact hp w' hlater

/-! ## Events -/

theorem obeys_takeEach {source : Text} {read : PyTree → Reading}
    (hread : ∀ log p (w : World), read log = .pool p → w.Assured p) (logs : List PyTree) (changed : Bool)
    (w : World) : Obeys stableHash (takeEach source read logs changed) w := by
  induction logs generalizing changed w with
  | nil => exact obeys_done _ _
  | cons log logs ih =>
    unfold takeEach
    cases hlog : read log with
    | skip => exact ih changed w
    | stop => exact obeys_stop _
    | pool p => exact obeys_take (fun w' _ => hread log p w' hlog) fun w' w'' _ _ => ih _ w''

theorem assured_of_readAerodrome (hfactory : factory ≠ []) (log : PyTree) (p : Pool) (w : World)
    (h : readAerodrome anchors factory block log = .pool p) : w.Assured p := by
  unfold readAerodrome at h
  split at h
  · cases h
  · split at h
    · cases h
    · split at h
      · cases h
        exact ⟨hfactory, trivial⟩
      · cases h

theorem assured_of_readSlipstream (hfactory : factory ≠ []) {log : PyTree} {p : Pool} (w : World)
    (h : readSlipstream anchors factory block log = .pool p) : w.Assured p := by
  unfold readSlipstream at h
  split at h
  · cases h
  · split at h
    · cases h
    · split at h
      · rename_i hall
        cases h
        exact ⟨⟨hall.2.1, hfactory⟩, trivial⟩
      · cases h

theorem assured_of_readUniv3 (log : PyTree) (p : Pool) (w : World)
    (h : readUniv3 anchors block log = .pool p) : w.Assured p := by
  unfold readUniv3 at h
  split at h
  · cases h
  · split at h
    · cases h
    · split at h
      · rename_i hall
        obtain ⟨⟨hin, hout, hpool⟩, hfee, -⟩ := hall
        cases h
        exact ⟨hfee.ne', hpool, hin, hout⟩
      · cases h

theorem lastTwenty_ne_nil (b : List Byte) : lastTwenty b ≠ [] := List.cons_ne_nil _ _

theorem obeys_aerodromeFactories {factories : List Text}
    (hfactories : ∀ factory ∈ factories, factory ≠ []) (changed : Bool) (w : World) :
    Obeys stableHash (aerodromeFactories cfg anchors block factories changed) w := by
  induction factories generalizing changed w with
  | nil => exact obeys_done _ _
  | cons factory factories ih =>
    obtain ⟨hfactory, hrest⟩ := List.forall_mem_cons.1 hfactories
    apply obeys_ethGetLogs
    intro logs
    cases logs with
    | none => exact ih hrest changed w
    | some logs =>
      exact (obeys_takeEach (assured_of_readAerodrome hfactory) _ changed w).bind
        fun changed' w' _ => ih hrest changed' w'

theorem obeys_slipstreamLogs (hfactory : factory ≠ []) (logs : List PyTree) (changed : Bool)
    (w : World) : Obeys stableHash (slipstreamLogs anchors factory block logs changed) w := by
  induction logs generalizing changed w with
  | nil => exact obeys_done _ _
  | cons log logs ih =>
    unfold slipstreamLogs
    cases hlog : readSlipstream anchors factory block log with
    | skip => exact ih changed w
    | stop => exact obeys_stop _
    | pool p =>
      apply obeys_ethCall
      intro membership
      split
      · exact ih changed w
      · exact obeys_stop _
      · split
        · exact ih changed w
        · apply obeys_ethCall
          intro liquidity
          split
          · exact ih changed w
          · exact obeys_stop _
          · split
            · exact ih changed w
            · exact obeys_take (fun w' _ => assured_of_readSlipstream hfactory w' hlog)
                fun w' w'' _ _ => ih _ w''

theorem obeys_slipstreamFactories {factories : List Text}
    (hfactories : ∀ factory ∈ factories, factory ≠ []) (changed : Bool) (w : World) :
    Obeys stableHash (slipstreamFactories cfg anchors block factories changed) w := by
  induction factories generalizing changed w with
  | nil => exact obeys_done _ _
  | cons factory factories ih =>
    obtain ⟨hfactory, hrest⟩ := List.forall_mem_cons.1 hfactories
    apply obeys_ethGetLogs
    intro logs
    cases logs with
    | none => exact ih hrest changed w
    | some logs =>
      exact (obeys_slipstreamLogs hfactory _ changed w).bind fun changed' w' _ =>
        ih hrest changed' w'

theorem knownPair_of_readCamelotAlgebra {log : PyTree} {seen : Seen}
    (h : readCamelotAlgebra cfg.anchors log = some seen) (hconfig : w.config = cfg) :
    w.KnownPair seen.token0 seen.token1 := by
  unfold readCamelotAlgebra at h
  split at h
  · cases h
  · split at h
    · rename_i hall
      cases h
      subst hconfig
      rcases hall.2 with h0 | h1
      · exact Or.inl h0
      · exact Or.inr (Or.inl h1)
    · cases h

theorem obeys_camelotAlgebraLogs (hfactory : factory ≠ []) (logs : List PyTree) (changed : Bool)
    (hconfig : w.config = cfg) :
    Obeys stableHash (camelotAlgebraLogs cfg.anchors factory block logs changed) w := by
  induction logs generalizing changed w with
  | nil => exact obeys_done _ _
  | cons log logs ih =>
    unfold camelotAlgebraLogs
    cases hlog : readCamelotAlgebra cfg.anchors log with
    | none => exact ih changed hconfig
    | some seen =>
      apply obeys_ethCall
      intro spacingCall
      apply obeys_ethCall
      intro liquidityCall
      split
      · rename_i spacing liquidity _ _
        split
        · exact ih changed hconfig
        · rename_i hpositive
          have hspacing : 0 < spacing := by
            by_contra hnot
            exact hpositive (Or.inl (by omega))
          refine obeys_take (fun w' hlater => ⟨⟨hspacing, hfactory⟩, ?_⟩)
            fun w' w'' hlater hlater' => ih _ ?_
          · exact knownPair_of_readCamelotAlgebra hlog (hlater.config.trans hconfig)
          · exact hlater'.config.trans (hlater.config.trans hconfig)
      · exact ih changed hconfig

/-! ## Pairs -/

theorem obeys_camelotV2Pairs (hfactory : factory ≠ []) (changed : Bool)
    (hpairs : ∀ pair ∈ pairs, w.KnownPair pair.1 pair.2) :
    Obeys stableHash (camelotV2Pairs factory block pairs changed) w := by
  induction pairs generalizing changed w with
  | nil => exact obeys_done _ _
  | cons pair pairs ih =>
    obtain ⟨a, b⟩ := pair
    obtain ⟨hpair, hrest⟩ := List.forall_mem_cons.1 hpairs
    unfold camelotV2Pairs
    split
    · exact obeys_stop _
    · apply obeys_ethCall
      intro result
      split
      · exact ih changed hrest
      · rename_i hpool
        refine obeys_take (fun w' hlater => ⟨hfactory, hpool, hlater.knownPair hpair⟩)
          fun w' w'' hlater hlater' => ih _ fun p hp => ?_
        exact hlater'.knownPair (hlater.knownPair (hrest p hp))

theorem obeys_constantProductResults {venue : ConstantProductVenue}
    (hvenue : venue.factory ≠ [] ∧ venue.router ≠ [] ∧ venue.name ≠ [])
    (results : List (Option PyTree)) (changed : Bool)
    (hpairs : ∀ pair ∈ pairs, w.KnownPair pair.1 pair.2) :
    Obeys stableHash (constantProductResults venue block pairs results changed) w := by
  induction pairs generalizing results changed w with
  | nil =>
    unfold constantProductResults
    exact obeys_done _ _
  | cons pair pairs ih =>
    obtain ⟨a, b⟩ := pair
    obtain ⟨hpair, hrest⟩ := List.forall_mem_cons.1 hpairs
    cases results with
    | nil =>
      unfold constantProductResults
      exact obeys_done _ _
    | cons result results =>
      unfold constantProductResults
      split
      · exact ih results changed hrest
      · rename_i hpool
        refine obeys_take (fun w' hlater => ⟨hvenue, hpool, hlater.knownPair hpair⟩)
          fun w' w'' hlater hlater' => ih results _ fun p hp => ?_
        exact hlater'.knownPair (hlater.knownPair (hrest p hp))

theorem obeys_constantProductVenues (venues : List ConstantProductVenue) (changed : Bool)
    (hpairs : ∀ pair ∈ pairs, w.KnownPair pair.1 pair.2) :
    Obeys stableHash (constantProductVenues block pairs venues changed) w := by
  induction venues generalizing changed w with
  | nil => exact obeys_done _ _
  | cons venue venues ih =>
    unfold constantProductVenues
    split
    · exact ih changed hpairs
    · rename_i hgiven
      simp only [not_or] at hgiven
      have hvenue : venue.factory ≠ [] ∧ venue.router ≠ [] ∧ venue.name ≠ [] :=
        ⟨hgiven.1, hgiven.2.1, hgiven.2.2.1⟩
      split
      · exact obeys_stop _
      · apply obeys_ethCallBatch
        intro results
        refine (obeys_constantProductResults hvenue results changed hpairs).bind
          fun changed' w' hlater => ih changed' fun p hp => ?_
        exact hlater.knownPair (hpairs p hp)

theorem obeys_univ3Pools {asked : List ((Text × Text) × Int)} (calls : Nat) (added : Bool)
    (hasked : ∀ item ∈ asked, w.Anchored item.1 ∧ item.2 ≠ 0) :
    Obeys stableHash (univ3Pools factory block asked calls added) w := by
  induction asked generalizing calls added w with
  | nil =>
    unfold univ3Pools
    exact obeys_done _ _
  | cons item asked ih =>
    obtain ⟨⟨a, b⟩, fee⟩ := item
    obtain ⟨⟨⟨hne, hanchor⟩, hfee⟩, hrest⟩ := List.forall_mem_cons.1 hasked
    have hlater' : ∀ {u v : World}, u.Later v → (∀ item ∈ asked, u.Anchored item.1 ∧ item.2 ≠ 0) →
        ∀ item ∈ asked, v.Anchored item.1 ∧ item.2 ≠ 0 := by
      intro u v huv hall item hitem
      obtain ⟨⟨hne, hanchor⟩, hfee⟩ := hall item hitem
      exact ⟨⟨hne, huv.configured.2 hanchor⟩, hfee⟩
    cases calls with
    | zero =>
      unfold univ3Pools
      exact obeys_done _ _
    | succ calls =>
      unfold univ3Pools
      apply obeys_look
      intro w' hlater
      split
      · exact ih (calls + 1) added (hlater' hlater hrest)
      · split
        · apply obeys_ethCall
          intro r
          split
          · exact ih calls added (hlater' hlater hrest)
          · rename_i hpool
            refine obeys_act (fun u hu => ⟨hfee, hpool, hne, Or.inl ?_⟩)
              fun u v hu hv => ih calls true ?_
            · exact hu.configured.2 (hlater.configured.2 hanchor)
            · exact hlater' hv (hlater' hu (hlater' hlater hrest))
        · exact obeys_stop _

/-! ## Curve and Balancer -/

theorem obeys_curveIndices {registry : Text} (indices : List Nat) (w : World) :
    Obeys stableHash (curveIndices registry block indices) w := by
  induction indices generalizing w with
  | nil => exact obeys_done _ _
  | cons idx indices ih =>
    unfold curveIndices
    cases encUint idx with
    | none => exact obeys_stop _
    | some word =>
      apply obeys_ethCall
      intro poolCall
      split
      · exact ih w
      · rename_i hpool
        apply obeys_ethCall
        intro coins
        apply obeys_ethCall
        intro balances
        refine obeys_act (fun w' _ p hp => ?_) fun w' w'' _ _ => ih w''
        obtain ⟨pair, hpair, hp⟩ := List.mem_flatMap.1 hp
        obtain ⟨hne, ha, hb⟩ := World.of_mem_supportedDiscoveryPairs stableHash hpair
        have hindex : (pair.1 : Int) ≠ pair.2.2.1 := fun heq => hne (Int.ofNat.inj heq)
        rcases List.mem_pair.1 hp with rfl | rfl
        · exact ⟨hindex, hpool, ha, hb⟩
        · exact ⟨hindex.symm, hpool, hb, ha⟩

theorem obeys_balancerLogs {vault : Text} (logs : List PyTree) (w : World) :
    Obeys stableHash (balancerLogs vault block logs) w := by
  induction logs generalizing w with
  | nil => exact obeys_done _ _
  | cons log logs ih =>
    unfold balancerLogs
    split
    · exact ih w
    · split
      · exact ih w
      · rename_i hgiven
        obtain ⟨hid, hpool⟩ := not_or.1 hgiven
        split
        · exact obeys_stop _
        · apply obeys_ethCall
          intro r
          split
          · exact ih w
          · refine obeys_act (fun w' _ p hp => ?_) fun w' w'' _ _ => ih w''
            obtain ⟨pair, hpair, hp⟩ := List.mem_flatMap.1 hp
            obtain ⟨-, ha, hb⟩ := World.of_mem_supportedDiscoveryPairs stableHash hpair
            rcases List.mem_pair.1 hp with rfl | rfl
            · exact ⟨hid, hpool, ha, hb⟩
            · exact ⟨hid, hpool, hb, ha⟩

/-! ## The routines -/

theorem obeys_discoverAerodrome (block : Int) (w : World) :
    Obeys stableHash (discoverAerodrome stableHash block) w := by
  apply obeys_look
  intro w' _
  split
  · exact obeys_done _ _
  · apply obeys_whenDue
    intro w' _
    apply obeys_ethCall
    intro registryCall
    simp only
    generalize (if decodedCall registryCall = [] then w'.config.aerodromeFactoryRegistry
      else decodedCall registryCall) = registry
    split
    · exact obeys_done _ _
    · apply obeys_ethCall
      intro factoriesCall
      apply obeys_perform_look
      intro w'' _
      refine (obeys_aerodromeFactories (fun factory hfactory => ?_) false w'').bind
        fun changed w''' _ => obeys_saveIf changed w'''
      obtain ⟨word, -, rfl⟩ := List.mem_map.1 (List.mem_of_mem_take hfactory)
      exact lastTwenty_ne_nil word

theorem obeys_discoverSlipstream (block : Int) (w : World) :
    Obeys stableHash (discoverSlipstream stableHash block) w := by
  apply obeys_look
  intro w' _
  split
  · exact obeys_done _ _
  · apply obeys_whenDue
    intro w' _
    refine (obeys_slipstreamFactories (fun factory hfactory => ?_) false w').bind
      fun changed w'' _ => obeys_saveIf changed w''
    have hmem := (List.mem_filter.1 (List.mem_of_mem_take hfactory)).2
    simpa using hmem

theorem obeys_discoverCamelotV2 (block : Int) (w : World) :
    Obeys stableHash (discoverCamelotV2 stableHash block) w := by
  apply obeys_look
  intro w' _
  split
  · exact obeys_done _ _
  · rename_i hgiven
    apply obeys_whenDue
    intro u hu
    have hfactory : u.config.camelotV2Factory ≠ [] := by
      rw [hu.config]
      exact fun hempty => hgiven (Or.inl hempty)
    refine (obeys_camelotV2Pairs hfactory false fun pair hpair => ?_).bind
      fun changed w'' _ => obeys_saveIf changed w''
    have hmem := mem_of_mem_pairsOf (List.mem_eraseDups.1 (List.mem_of_mem_take hpair))
    exact (World.knownToken_of_mem_camelotV2Tokens stableHash hmem.1).pair
      (World.knownToken_of_mem_camelotV2Tokens stableHash hmem.2)

theorem obeys_discoverCamelotAlgebra (block : Int) (w : World) :
    Obeys stableHash (discoverCamelotAlgebra block) w := by
  apply obeys_look
  intro w' _
  split
  · exact obeys_done _ _
  · rename_i hgiven
    apply obeys_whenDue
    intro u hu
    have hfactory : u.config.camelotAlgebraFactory ≠ [] := by
      rw [hu.config]
      exact fun hempty => hgiven (Or.inl hempty)
    apply obeys_ethGetLogs
    intro logs
    cases logs with
    | none => exact obeys_done _ _
    | some logs =>
      exact (obeys_camelotAlgebraLogs hfactory _ false rfl).bind
        fun changed w'' _ => obeys_saveIf changed w''

theorem obeys_discoverUniv3PoolEvents (cfg : Config) (block : Int) (w : World) :
    Obeys stableHash (discoverUniv3PoolEvents stableHash cfg block) w := by
  apply obeys_ethGetLogs
  intro logs
  cases logs with
  | none => exact obeys_done _ _
  | some logs =>
    apply obeys_perform_look
    intro w' _
    exact (obeys_takeEach assured_of_readUniv3 _ false w').bind
      fun changed w'' _ => obeys_saveIf changed w''

theorem obeys_discoverUniv3 (block : Int) (w : World) :
    Obeys stableHash (discoverUniv3 stableHash block) w := by
  apply obeys_look
  intro w' _
  split
  · exact obeys_done _ _
  · apply obeys_whenDue
    intro w' _
    refine (obeys_discoverUniv3PoolEvents w'.config block w').bind fun _ w'' _ => ?_
    apply obeys_perform_look
    intro u _
    refine (obeys_univ3Pools _ false fun item hitem => ?_).bind
      fun added v _ => obeys_saveIf added v
    obtain ⟨pair, hpair, hitem⟩ := List.mem_flatMap.1 hitem
    obtain ⟨fee, hfee, rfl⟩ := List.mem_map.1 hitem
    refine ⟨World.anchored_of_mem_univ3Pairs stableHash hpair, ?_⟩
    have hfees : ∀ fee ∈ ([100, 500, 3000, 10000] : List Int), fee ≠ 0 := by decide
    exact hfees fee hfee

theorem obeys_discoverConstantProduct (block : Int) (w : World) :
    Obeys stableHash (discoverConstantProduct block) w := by
  apply obeys_look
  intro w' _
  split
  · exact obeys_done _ _
  · apply obeys_whenDue
    intro u _
    split
    · exact obeys_stop _
    · rename_i tokens htokens
      refine (obeys_constantProductVenues _ false fun pair hpair => ?_).bind
        fun changed w'' _ => obeys_saveIf changed w''
      have hmem := mem_of_mem_pairsOf (List.mem_of_mem_take hpair)
      exact (World.knownToken_of_mem_constantProductTokens htokens hmem.1).pair
        (World.knownToken_of_mem_constantProductTokens htokens hmem.2)

theorem obeys_discoverCurve (block : Int) (w : World) :
    Obeys stableHash (discoverCurve block) w := by
  apply obeys_look
  intro w' _
  apply obeys_whenDue
  intro u _
  split
  · exact obeys_done _ _
  · apply obeys_ethCall
    intro registryCall
    split
    · exact obeys_done _ _
    · apply obeys_ethCall
      intro countCall
      split
      · exact obeys_done _ _
      · exact obeys_curveIndices _ u

theorem obeys_discoverBalancer (block : Int) (w : World) :
    Obeys stableHash (discoverBalancer block) w := by
  apply obeys_look
  intro w' _
  apply obeys_whenDue
  intro u _
  split
  · exact obeys_done _ _
  · apply obeys_ethGetLogs
    intro logs
    cases logs with
    | none => exact obeys_stop _
    | some logs => exact obeys_balancerLogs _ u

theorem obeys_program (start : Start) (w : World) :
    Obeys stableHash (start.program stableHash) w := by
  cases start with
  | persist => exact obeys_save w
  | discover venue block =>
    cases venue with
    | univ3 => exact obeys_discoverUniv3 block w
    | curve => exact obeys_discoverCurve block w
    | balancer => exact obeys_discoverBalancer block w
    | aerodrome => exact obeys_discoverAerodrome block w
    | slipstream => exact obeys_discoverSlipstream block w
    | camelotAlgebra => exact obeys_discoverCamelotAlgebra block w
    | camelotV2 => exact obeys_discoverCamelotV2 block w
    | constantProduct => exact obeys_discoverConstantProduct block w

/-- **The routines are lawful.** -/
theorem machine_lawful : (machine stableHash).Lawful World.Later
    (fun op w => op.Allowed stableHash w) where
  refl := World.Later.refl
  trans := World.Later.trans
  grows := Op.later_apply stableHash
  outer := by
    intro e w hfatal
    cases e with
    | disk ok => exact ⟨rfl, fun _ h => h⟩
    | restart config cap => cases hfatal
  code := obeys_program

end Hash

end SovereignCapital.Discovery
