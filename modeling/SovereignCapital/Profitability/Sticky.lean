import SovereignCapital.Profitability.Continuity

/-! # A mutated opportunity stays rejected

Along any run of refreshes, with any changes between them that leave the continuity record, what is
expected is what the first refresh recorded. From a refresh on that observes something else no
contract has authority. A recorded text that is empty is not expected, and is not missed.
-/

namespace SovereignCapital.Profitability

open Bytes PyRaise Guarded

/-! ## Runs -/

structure Visit where
  opp : RoutedOpportunity
  call : RefreshCall

namespace Visit

def found (v : Visit) : PyTree := v.opp.metadata.get "profitability_continuity"

def assessed (v : Visit) : Except Raised Continuity :=
  assess v.opp v.call.config [] (v.opp.nested "profitability_continuity")

variable (A : FloatArithmetic)

def left (v : Visit) : PyTree :=
  (refresh A v.opp [] v.call).1.metadata.get "profitability_continuity"

def contract (v : Visit) : Except Raised PostMutationContract := (refresh A v.opp [] v.call).2

def Authoritative (v : Visit) : Prop := ∃ c, v.contract A = .ok c ∧ c.authoritative = true

end Visit

/-- Refreshes with changes between them that leave the continuity record. -/
def Interleaved (A : FloatArithmetic) (visits : List Visit) : Prop :=
  visits.IsChain fun v w => w.found = v.left A

def Observed.texts (o : Observed) : List (String × String) :=
  [("amount_in_wei", o.amountInWei), ("amount_out_wei", o.amountOutWei), ("route_id", o.routeId),
    ("gas_cost_wei", o.gasCostWei)]

/-- The amount in, the final minimum output, the route id, the gas cost or the selected venues
differ from what was recorded. -/
def Differs (recorded : PyMap) (o : Observed) : Prop :=
  (∃ item ∈ o.texts, (recorded.get item.1).str ≠ item.2)
    ∨ safeStrList (recorded.get "selected_venues") ≠ o.selectedVenues

instance (recorded : PyMap) (o : Observed) : Decidable (Differs recorded o) :=
  inferInstanceAs (Decidable (_ ∨ _))

def Watched (recorded : PyMap) (o : Observed) : Prop :=
  ∀ item ∈ o.texts, (recorded.get item.1).truthy = false → (recorded.get item.1).str = item.2

instance (recorded : PyMap) (o : Observed) : Decidable (Watched recorded o) :=
  inferInstanceAs (Decidable (∀ _ ∈ _, _))

/-! ## Lists of texts -/

theorem safeStrList_textList {texts : List Text} (h : ∀ t ∈ texts, pyStrip t = t ∧ t ≠ []) :
    safeStrList (textList texts) = texts := by
  unfold safeStrList textList
  dsimp only
  rw [List.map_map]
  have hmap : texts.map (strippedText ∘ fun t => textTree (String.ofList t)) = texts.map id := by
    refine List.map_congr_left fun t ht => ?_
    obtain ⟨hstrip, hne⟩ := h t ht
    have htruthy : (textTree (String.ofList t)).truthy = true := by
      rw [textTree, PyTree.truthy, PyValue.truthy, bne_iff_ne]
      intro hempty
      have hlist := congrArg String.toList hempty
      rw [String.toList_ofList] at hlist
      exact hne hlist
    rw [Function.comp_apply, strippedText, PyTree.orElse_of_truthy _ htruthy]
    show pyStrip (String.ofList t).toList = t
    rw [String.toList_ofList, hstrip]
  rw [hmap, List.map_id, List.filter_eq_self]
  intro t ht
  exact decide_eq_true (h t ht).2

theorem stripped_of_mem_safeStrList {v : PyTree} {t : Text} (h : t ∈ safeStrList v) :
    pyStrip t = t ∧ t ≠ [] := by
  cases v with
  | list items repr =>
    obtain ⟨hmem, hne⟩ := List.mem_filter.1 h
    obtain ⟨item, -, rfl⟩ := List.mem_map.1 hmem
    exact ⟨pyStrip_pyStrip _, of_decide_eq_true hne⟩
  | leaf v => cases h
  | inf negative => cases h
  | nan => cases h
  | dict items repr => cases h

variable {opp : RoutedOpportunity} {c : Continuity} {v : Visit} {rest : List Visit}

theorem stripped_of_mem_strList {key : String} {t : Text} (h : t ∈ opp.strList key) :
    pyStrip t = t ∧ t ≠ [] := by
  unfold RoutedOpportunity.strList at h
  dsimp only at h
  split at h <;> exact stripped_of_mem_safeStrList h

theorem safeStrList_selectedVenues {config : Config} {o : Observed}
    (h : observe opp config = .ok o) :
    safeStrList (textList o.selectedVenues) = o.selectedVenues := by
  obtain ⟨gasCost, -, h⟩ := bind_ok_iff.1 h
  cases h
  exact safeStrList_textList fun t ht => stripped_of_mem_strList ht

/-! ## One refresh -/

/-- A difference from the record is a mismatch, where an empty text is not one that is filled. -/
theorem mismatch_of_differs {expected : PyMap} {o : Observed} {codes : List String}
    (hcodes : mismatchCodes expected o = .ok codes) (hwatched : Watched expected o)
    (hvenues : safeStrList (textList o.selectedVenues) = o.selectedVenues)
    (hdiffers : Differs expected o) : codes ≠ [] := by
  obtain ⟨fee, -, hcodes⟩ := bind_ok_iff.1 hcodes
  cases hcodes
  have htext : ∀ item ∈ o.texts, (expected.get item.1).str ≠ item.2 →
      textDiffers expected item.1 item.2 = true := by
    intro item hitem hne
    have htruthy : (expected.get item.1).truthy = true := by
      by_contra hfalsy
      exact hne (hwatched item hitem (Bool.not_eq_true _ ▸ hfalsy))
    rw [textDiffers, PyTree.orElse_of_truthy _ htruthy, bne_iff_ne]
    exact hne
  rw [Ne, List.map_eq_nil_iff, List.filter_eq_nil_iff]
  intro hnone
  -- the comparisons in their order, those of the fee and of the providers left out
  simp only [List.mem_cons, List.not_mem_nil, or_false, forall_eq_or_imp, forall_eq] at hnone
  obtain ⟨hin, hout, hroute, hselected, -, -, hgas, -⟩ := hnone
  rcases hdiffers with ⟨item, hitem, hne⟩ | hlist
  · have hdiffers := htext item hitem hne
    simp only [Observed.texts, List.mem_cons, List.not_mem_nil, or_false] at hitem
    rcases hitem with rfl | rfl | rfl | rfl
    · exact hin hdiffers
    · exact hout hdiffers
    · exact hroute hdiffers
    · exact hgas hdiffers
  · refine hselected (decide_eq_true ?_)
    rw [hvenues]
    exact hlist

structure CarriedOver (existing : PyMap) (c : Continuity) : Prop where
  expected_eq : ((existing.get "expected").mapping.isEmpty = false →
    c.expected = (existing.get "expected").mapping)
  expected_ne : c.expected ≠ []
  invalid : existing.flag "valid" true = false → c.valid = false
  mismatch : Watched c.expected c.observed → Differs c.expected c.observed → c.valid = false

theorem carriedOver_of_assess {config : Config} {existing : PyMap}
    (h : assess opp config [] existing = .ok c) : CarriedOver existing c := by
  obtain ⟨observed, hobserved, h⟩ := bind_ok_iff.1 h
  obtain ⟨codes, hcodes, h⟩ := bind_ok_iff.1 h
  cases h
  have hcontext : ∀ expected : PyMap, expectedInContext [] expected = expected := fun _ => rfl
  rw [hcontext] at hcodes ⊢
  refine ⟨fun hrecorded => ?_, ?_, fun hinvalid => ?_, fun hwatched hdiffers => ?_⟩
  · dsimp only
    rw [hrecorded]
    rfl
  · dsimp only
    split
    · exact List.cons_ne_nil _ _
    · rename_i hrecorded
      intro hnil
      rw [hnil] at hrecorded
      exact hrecorded rfl
  · dsimp only
    rw [hinvalid]
    rfl
  · have hmismatch := mismatch_of_differs hcodes hwatched
      (safeStrList_selectedVenues hobserved) hdiffers
    dsimp only
    rw [List.isEmpty_eq_false_iff.2 hmismatch, Bool.and_false]

theorem revalidate_continuity {A : FloatArithmetic} {opp' : RoutedOpportunity}
    {call : RevalidationCall} {state : ProfitabilityState}
    (h : revalidate A opp call = .ok (state, opp')) :
    opp'.metadata.get "profitability_continuity" = opp.metadata.get "profitability_continuity" := by
  obtain ⟨f, -, h⟩ := bind_ok_iff.1 h
  cases h
  exact written_other opp _ _ (by decide) (by decide) (by decide)

/-- Without a valid record a revalidation gives no authority. -/
theorem not_authoritative_of_invalid {A : FloatArithmetic} {opp' : RoutedOpportunity}
    {call : RevalidationCall} {state : ProfitabilityState}
    (h : revalidate A opp call = .ok (state, opp'))
    (hrecord : (opp.nested "profitability_continuity").isEmpty = false)
    (hinvalid : (opp.nested "profitability_continuity").flag "valid" false = false) :
    state.authoritative = false := by
  obtain ⟨f, hf, h⟩ := bind_ok_iff.1 h
  cases h
  obtain ⟨-, -, -, -, hcontinuity⟩ := figures_of_ok hf
  have hdiscontinued : f.discontinued = true := by
    rw [Figures.discontinued, hcontinuity, hrecord, hinvalid]
    rfl
  have hjudge : (judge call f).valid = false := by
    rw [judge, if_pos hdiscontinued]
    rfl
  rw [ProfitabilityState.authoritative]
  simp only [stateOf, hjudge, Bool.and_false, Bool.false_and]

theorem nested_withItem (opp : RoutedOpportunity) (key : String) (items : PyMap) :
    (opp.withItem key items).nested key = items := by
  unfold RoutedOpportunity.nested RoutedOpportunity.withItem PyMap.get
  rw [get?_put, if_pos rfl]
  rfl

/-- A refresh whose assessment raises leaves the record that it found. -/
theorem left_of_error {A : FloatArithmetic} {e : Raised} (h : v.assessed = .error e) :
    v.left A = v.found := by
  unfold Visit.assessed at h
  rw [Visit.left, refresh, h]
  rfl

/-- Any other refresh leaves what it assessed, also where it raises later. -/
theorem left_of_ok {A : FloatArithmetic} (h : v.assessed = .ok c) : v.left A = record c.toMap := by
  unfold Visit.assessed at h
  rw [Visit.left, refresh, h]
  dsimp only
  have hassessed : (v.opp.withItem "profitability_continuity" c.toMap).metadata.get
      "profitability_continuity" = record c.toMap := by
    unfold RoutedOpportunity.withItem PyMap.get
    rw [get?_put, if_pos rfl]
    rfl
  split
  · exact hassessed
  · rename_i state revalidated hrevalidated
    have hkept := revalidate_continuity hrevalidated
    rw [hassessed] at hkept
    split
    · exact hkept
    · rw [← hkept]
      unfold RoutedOpportunity.withItem PyMap.get
      rw [get?_put, if_neg (by decide)]

/-- An invalid assessment yields no authoritative contract. -/
theorem not_authoritative_of_ok {A : FloatArithmetic} (h : v.assessed = .ok c)
    (hinvalid : c.valid = false) : ¬ v.Authoritative A := by
  rintro ⟨contract, hcontract, hauthoritative⟩
  unfold Visit.assessed at h
  rw [Visit.contract, refresh, h] at hcontract
  dsimp only at hcontract
  split at hcontract
  · cases hcontract
  · rename_i state revalidated hrevalidated
    have hstate := not_authoritative_of_invalid hrevalidated
      (by rw [nested_withItem]; rfl) (by rw [nested_withItem]; exact hinvalid)
    split at hcontract
    · cases hcontract
    · rename_i contract' hbuild
      cases hcontract
      simp only [buildContract, bind_ok_iff] at hbuild
      obtain ⟨_, -, _, -, _, -, _, -, _, -, _, -, hbuild⟩ := hbuild
      cases hbuild
      have hflag : state.toMap.flag "authoritative" false = state.authoritative := rfl
      rw [hflag, hstate] at hauthoritative
      cases hauthoritative

/-- Nor does a refresh whose assessment raises. -/
theorem not_authoritative_of_error {A : FloatArithmetic} {e : Raised} (h : v.assessed = .error e) :
    ¬ v.Authoritative A := by
  rintro ⟨contract, hcontract, -⟩
  unfold Visit.assessed at h
  rw [Visit.contract, refresh, h] at hcontract
  cases hcontract

/-! ## Records along a run -/

/-- The record says that something else was observed. -/
def Invalid (r : PyTree) : Prop := r.mapping.flag "valid" true = false

def Expects (recorded : PyMap) (r : PyTree) : Prop := (r.mapping.get "expected").mapping = recorded

/-- Once a record is invalid, a refresh yields no authority and leaves it invalid. -/
theorem invalid_step {A : FloatArithmetic} (h : Invalid v.found) :
    ¬ v.Authoritative A ∧ Invalid (v.left A) := by
  cases hassessed : v.assessed with
  | error e =>
    rw [left_of_error hassessed]
    exact ⟨not_authoritative_of_error hassessed, h⟩
  | ok c =>
    have hvalid := (carriedOver_of_assess hassessed).invalid h
    rw [left_of_ok hassessed]
    exact ⟨not_authoritative_of_ok hassessed hvalid, hvalid⟩

/-- A refresh leaves the expectation. -/
theorem expects_step {A : FloatArithmetic} {recorded : PyMap} (hne : recorded ≠ [])
    (h : Expects recorded v.found) : Expects recorded (v.left A) := by
  cases hassessed : v.assessed with
  | error e =>
    rw [left_of_error hassessed]
    exact h
  | ok c =>
    rw [left_of_ok hassessed]
    have hcarried := (carriedOver_of_assess hassessed).expected_eq
    have hexpected : ((v.opp.nested "profitability_continuity").get "expected").mapping
        = recorded := h
    rw [hexpected] at hcarried
    exact hcarried (List.isEmpty_eq_false_iff.2 hne)

theorem invalid_run {A : FloatArithmetic} (hlinked : Interleaved A (v :: rest))
    (h : Invalid v.found) : ∀ w ∈ v :: rest, ¬ w.Authoritative A := by
  induction rest generalizing v with
  | nil =>
    intro w hw
    rw [List.mem_singleton] at hw
    subst hw
    exact (invalid_step h).1
  | cons next rest ih =>
    obtain ⟨hlink, htail⟩ := List.isChain_cons_cons.1 hlinked
    intro w hw
    rcases List.mem_cons.1 hw with rfl | hw
    · exact (invalid_step h).1
    · refine ih htail ?_ w hw
      rw [hlink]
      exact (invalid_step h).2

/-- A refresh that observes a difference has no authority, and neither has any later one. -/
theorem differs_run {A : FloatArithmetic} (hlinked : Interleaved A (v :: rest))
    (hassessed : v.assessed = .ok c) (hwatched : Watched c.expected c.observed)
    (hdiffers : Differs c.expected c.observed) : ∀ w ∈ v :: rest, ¬ w.Authoritative A := by
  have hinvalid := (carriedOver_of_assess hassessed).mismatch hwatched hdiffers
  intro w hw
  rcases List.mem_cons.1 hw with rfl | hw
  · exact not_authoritative_of_ok hassessed hinvalid
  · cases rest with
    | nil => cases hw
    | cons next rest =>
      obtain ⟨hlink, htail⟩ := List.isChain_cons_cons.1 hlinked
      refine invalid_run htail ?_ w hw
      rw [hlink, left_of_ok hassessed]
      exact hinvalid

theorem expects_run {A : FloatArithmetic} {recorded : PyMap} (hne : recorded ≠ [])
    {before : List Visit} (hlinked : Interleaved A (before ++ v :: rest))
    (hhead : ∀ w ∈ (before ++ [v]).head?, Expects recorded w.found) :
    Expects recorded v.found ∧ Interleaved A (v :: rest) := by
  induction before with
  | nil => exact ⟨hhead v rfl, hlinked⟩
  | cons first before ih =>
    have hfirst := hhead first rfl
    cases before with
    | nil =>
      obtain ⟨hlink, htail⟩ := List.isChain_cons_cons.1 hlinked
      refine ⟨?_, htail⟩
      rw [hlink]
      exact expects_step hne hfirst
    | cons next before =>
      obtain ⟨hlink, htail⟩ := List.isChain_cons_cons.1 hlinked
      refine ih htail ?_
      rintro w ⟨⟩
      rw [hlink]
      exact expects_step hne hfirst

/-- **A mutated opportunity is not blessed again.** A refresh that observes something else than the
first one recorded yields no authority, and neither does any later one, where it does not observe a
text that was recorded as empty. -/
theorem mutated_not_reblessed {A : FloatArithmetic} {first : Visit} {visits : List Visit}
    (hlinked : Interleaved A (first :: visits)) {recorded : Continuity}
    (hfirst : first.assessed = .ok recorded) {before rest : List Visit} {v : Visit}
    (hvisits : first :: visits = before ++ v :: rest) {c : Continuity}
    (hassessed : v.assessed = .ok c)
    (hwatched : Watched recorded.expected c.observed)
    (hdiffers : Differs recorded.expected c.observed) : ∀ w ∈ v :: rest, ¬ w.Authoritative A := by
  have hne := (carriedOver_of_assess hfirst).expected_ne
  cases before with
  | nil =>
    -- the first refresh itself, which expects what it observes
    cases hvisits
    cases hfirst.symm.trans hassessed
    exact differs_run hlinked hassessed hwatched hdiffers
  | cons head before =>
    obtain ⟨rfl, rfl⟩ := List.cons.inj hvisits
    have hleft : Expects recorded.expected (first.left A) := by
      rw [left_of_ok hfirst]
      rfl
    have htail : Interleaved A (before ++ v :: rest) := hlinked.of_cons
    have hhead : ∀ w ∈ (before ++ [v]).head?, Expects recorded.expected w.found := by
      cases before with
      | nil =>
        rintro w ⟨⟩
        rw [(List.isChain_cons_cons.1 hlinked).1]
        exact hleft
      | cons next before =>
        rintro w ⟨⟩
        rw [(List.isChain_cons_cons.1 hlinked).1]
        exact hleft
    obtain ⟨hexpects, hrest⟩ := expects_run hne htail hhead
    have hexpected : c.expected = recorded.expected := by
      have hcarried := (carriedOver_of_assess hassessed).expected_eq
      have hrecord : ((v.opp.nested "profitability_continuity").get "expected").mapping
          = recorded.expected := hexpects
      rw [hrecord] at hcarried
      exact hcarried (List.isEmpty_eq_false_iff.2 hne)
    -- the record still expects what the first refresh wrote
    rw [← hexpected] at hwatched hdiffers
    exact differs_run hrest hassessed hwatched hdiffers

/-! ## Two runs -/

def sampleRefresh : RefreshCall := ⟨sampleConfig, "post_mutation_submission_gate", "engine", none⟩

def nativeSample (routeId amountIn : String) (metadata : PyMap) : RoutedOpportunity where
  legs := [⟨textTree "0xWETH", textTree amountIn, textTree "1020000"⟩]
  minOuts := [textTree "1020000"]
  routeId := textTree routeId
  expectedProfitRaw := textTree "20000"
  expectedProfitUsd := .leaf .none
  metadata := metadata

def scannedMetadata : PyMap :=
  [("gas_cost_estimate_wei", textTree "100"),
    ("profitability_continuity", record [("valid", boolTree true), ("reason", textTree "ok")])]

def Visit.metadataAfter (v : Visit) : PyMap := (refresh .exact v.opp [] v.call).1.metadata

def scannedVisit (routeId : String) : Visit :=
  ⟨nativeSample routeId "1000000" scannedMetadata, sampleRefresh⟩

/-- The amount in is changed after a first refresh. -/
def changedVisit : Visit :=
  ⟨nativeSample "r1" "900000" (scannedVisit "r1").metadataAfter, sampleRefresh⟩

def undoneVisit : Visit := ⟨nativeSample "r1" "1000000" changedVisit.metadataAfter, sampleRefresh⟩

/-- The route of a first refresh has no id, and then it has one. -/
def reroutedVisit : Visit :=
  ⟨nativeSample "r2" "1000000" (scannedVisit "").metadataAfter, sampleRefresh⟩

theorem authoritative_of_toOption {A : FloatArithmetic}
    (h : (v.contract A).toOption.map PostMutationContract.authoritative = some true) :
    v.Authoritative A := by
  obtain ⟨c, hc, hauthoritative⟩ := Option.map_eq_some_iff.1 h
  exact ⟨c, toOption_eq_some.1 hc, hauthoritative⟩

/-- A change of the amount that is undone: the first refresh has authority, no other one. -/
theorem mutated_not_reblessed_undone :
    (scannedVisit "r1").Authoritative .exact ∧ ¬ changedVisit.Authoritative .exact
      ∧ ¬ undoneVisit.Authoritative .exact := by
  have hfirst : (scannedVisit "r1").Authoritative .exact :=
    authoritative_of_toOption (by decide +kernel)
  have hlinked : Interleaved .exact [scannedVisit "r1", changedVisit, undoneVisit] :=
    .cons_cons rfl (.cons_cons rfl (.singleton _))
  have hassessed : ((scannedVisit "r1").assessed.toOption.bind fun r =>
      changedVisit.assessed.toOption.map fun c =>
        decide (Watched r.expected c.observed ∧ Differs r.expected c.observed)) = some true := by
    decide +kernel
  obtain ⟨r, hr, hassessed⟩ := Option.bind_eq_some_iff.1 hassessed
  obtain ⟨c, hc, hdiffers⟩ := Option.map_eq_some_iff.1 hassessed
  have hboth := of_decide_eq_true hdiffers
  have hvisits : [scannedVisit "r1", changedVisit, undoneVisit]
      = [scannedVisit "r1"] ++ changedVisit :: [undoneVisit] := rfl
  have hrejected := mutated_not_reblessed hlinked (toOption_eq_some.1 hr) hvisits
    (toOption_eq_some.1 hc) hboth.1 hboth.2
  exact ⟨hfirst, hrejected changedVisit List.mem_cons_self,
    hrejected undoneVisit (List.mem_cons_of_mem _ List.mem_cons_self)⟩

/-- A route without an id that gets one is blessed again. -/
theorem rerouted_reblessed :
    Interleaved .exact [scannedVisit "", reroutedVisit]
      ∧ (scannedVisit "").Authoritative .exact
      ∧ ((scannedVisit "").assessed.toOption.bind fun r =>
        reroutedVisit.assessed.toOption.map fun c =>
          decide (Differs r.expected c.observed)) = some true
      ∧ reroutedVisit.Authoritative .exact := by
  refine ⟨.cons_cons rfl (.singleton _), authoritative_of_toOption ?_, ?_,
    authoritative_of_toOption ?_⟩
  all_goals decide +kernel

end SovereignCapital.Profitability
