import SovereignCapital.Profitability.UnitSound

/-! # The unit of the expected profit

The expected profit of an opportunity is in dollars or in millionths of a dollar, and the code tells
the two apart by their size. A revalidation stores the profit in dollars, and the view looks at the
size of what is stored once more.
-/

namespace SovereignCapital.Profitability

open PyRaise Guarded

/-! ## The view -/

def RoutedOpportunity.attributes (opp : RoutedOpportunity) : Opportunity where
  attr name := .ok ([("meta", record opp.metadata), ("route_id", opp.routeId),
    ("expected_profit_raw", opp.expectedProfitRaw),
    ("expected_profit_usd", opp.expectedProfitUsd)].lookup name)
  legTokens := .ok (opp.legs.map RouteLeg.tokenIn)

def RoutedOpportunity.viewed (opp : RoutedOpportunity) : PyMap :=
  let revalidated := ((opp.nested "post_mutation_revalidation").get "profitability").mapping
  if revalidated.isEmpty then opp.nested "profitability" else revalidated

/-- The attribute, or else the millionths. -/
def RoutedOpportunity.expectedEvidence (opp : RoutedOpportunity) : PyTree :=
  opp.expectedProfitUsd.orElse ((opp.nested "unit_econ").get "expected_profit_usd_micro")

/-- `expectedProfitUsd` of `profitability_state_view`. -/
def viewExpectedUsd (A : FloatArithmetic) (opp : RoutedOpportunity) : Except Raised PyFloat :=
  let stored := opp.viewed.get "expected_profit_usd"
  (A.safeFloat (if stored.truthy then stored else opp.expectedEvidence)).map A.usdOfExpected

theorem doubles_float (v : PyTree) : FloatArithmetic.doubles.float v = v.float := by
  cases v with
  | leaf v => cases v <;> rfl
  | inf negative => rfl
  | nan => rfl
  | list items repr => rfl
  | dict items repr => rfl

theorem doubles_safeFloat (v : PyTree) : FloatArithmetic.doubles.safeFloat v = safeFloat v := by
  unfold FloatArithmetic.safeFloat safeFloat
  rw [doubles_float]
  rfl

theorem doubles_usdOfExpected (x : PyFloat) :
    FloatArithmetic.doubles.usdOfExpected x = usdOfExpected x := by
  cases x <;> rfl

theorem getattr_expectedProfitUsd (opp : RoutedOpportunity) :
    opp.attributes.getattr "expected_profit_usd" (.leaf .none) = .ok opp.expectedProfitUsd := rfl

theorem contractView_expectedUsd {opp : RoutedOpportunity} {profitability : PyMap}
    {view : ProfitabilityView}
    (h : contractView opp.attributes opp.metadata profitability = .ok view) :
    (safeFloat (if (profitability.get "expected_profit_usd").truthy then
        profitability.get "expected_profit_usd" else opp.expectedEvidence)).map usdOfExpected
      = .ok view.expectedProfitUsd := by
  simp only [contractView, bind_ok_iff] at h
  obtain ⟨_, -, _, -, _, -, value, hvalue, expected, hexpected, _, -, _, -, _, -, _, -, _, -,
    h⟩ := h
  cases h
  unfold orLookup at hvalue
  rw [getattr_expectedProfitUsd] at hvalue
  by_cases hstored : (profitability.get "expected_profit_usd").truthy = true
  · rw [if_pos hstored] at hvalue ⊢
    cases hvalue
    rw [PyTree.orElse_of_truthy _ hstored] at hexpected
    rw [hexpected]
    rfl
  · rw [if_neg hstored] at hvalue ⊢
    cases hvalue
    exact congrArg (Except.map usdOfExpected) hexpected

theorem scanView_expectedUsd {opp : RoutedOpportunity} {view : ProfitabilityView}
    (h : scanView opp.attributes opp.metadata = .ok view) :
    (safeFloat opp.expectedEvidence).map usdOfExpected = .ok view.expectedProfitUsd := by
  simp only [scanView, bind_ok_iff] at h
  obtain ⟨_, -, _, -, _, -, value, hvalue, expected, hexpected, _, -, _, -, _, -, h⟩ := h
  cases h
  rw [getattr_expectedProfitUsd] at hvalue
  cases hvalue
  exact congrArg (Except.map usdOfExpected) hexpected

/-- **In doubles** this is the field of the view. -/
theorem viewExpectedUsd_eq {opp : RoutedOpportunity} {view : ProfitabilityView}
    (h : profitabilityStateView opp.attributes = .ok view) :
    viewExpectedUsd .doubles opp = .ok view.expectedProfitUsd := by
  have hview : (if opp.viewed.isEmpty then scanView opp.attributes opp.metadata
      else contractView opp.attributes opp.metadata opp.viewed) = .ok view := h
  have harithmetic : FloatArithmetic.doubles.usdOfExpected = usdOfExpected :=
    funext doubles_usdOfExpected
  unfold viewExpectedUsd
  dsimp only
  rw [doubles_safeFloat, harithmetic]
  split at hview
  · rename_i hempty
    have hnil := List.isEmpty_iff.1 hempty
    rw [hnil]
    exact scanView_expectedUsd hview
  · exact contractView_expectedUsd hview

/-! ## Without rounding -/

/-- The number of dollars that a number is taken for. -/
def usd (x : ℚ) : ℚ := if 1000 < x then x / 1000000 else x

theorem usd_zero : usd 0 = 0 := by
  unfold usd
  rw [if_neg (by norm_num)]

/-- A number is left alone up to the threshold, and only there. -/
theorem usd_eq_self_iff {x : ℚ} : usd x = x ↔ x ≤ 1000 := by
  unfold usd
  by_cases h : 1000 < x
  · rw [if_pos h]
    constructor
    · intro heq
      linarith
    · intro hle
      exact absurd h (not_lt.2 hle)
  · rw [if_neg h]
    exact ⟨fun _ => not_lt.1 h, fun _ => rfl⟩

theorem exact_usdOfExpected (x : ℚ) :
    FloatArithmetic.exact.usdOfExpected (.finite x) = .finite (usd x) := by
  unfold FloatArithmetic.usdOfExpected usd
  by_cases h : 1000 < x
  · rw [if_pos h, if_pos (show (PyFloat.finite 1000).lt (.finite x) = true from decide_eq_true h)]
    rfl
  · rw [if_neg h, if_neg]
    rw [Bool.not_eq_true]
    exact decide_eq_false h

theorem exact_safeFloat_floatTree (x : ℚ) :
    FloatArithmetic.exact.safeFloat (floatTree (.finite x)) = .ok (.finite x) := rfl

theorem truthy_floatTree (x : ℚ) : (floatTree (.finite x)).truthy = decide (x ≠ 0) := by
  show (x != 0) = decide (x ≠ 0)
  by_cases h : x = 0 <;> simp [h]

/-! ## Runs of revalidations -/

/-- The opportunity after a call; one that raises leaves it. -/
def afterCall (A : FloatArithmetic) (opp : RoutedOpportunity) (call : RevalidationCall) :
    RoutedOpportunity :=
  ((revalidate A opp call).toOption.map Prod.snd).getD opp

def afterCalls (A : FloatArithmetic) (opp : RoutedOpportunity) (calls : List RevalidationCall) :
    RoutedOpportunity :=
  calls.foldl (afterCall A) opp

/-- The profitability in the contract of a mutation, which the view prefers. -/
def RoutedOpportunity.contracted (opp : RoutedOpportunity) : PyMap :=
  ((opp.nested "post_mutation_revalidation").get "profitability").mapping

theorem viewed_eq (opp : RoutedOpportunity) :
    opp.viewed = if opp.contracted.isEmpty then opp.nested "profitability" else opp.contracted :=
  rfl

section

variable (opp : RoutedOpportunity) (state : ProfitabilityState) (safety : Option PyMap)

theorem written_unitEcon :
    PyMap.get (writtenMetadata opp state safety) "unit_econ"
      = record (put (opp.nested "unit_econ") "profitability_revalidated"
        (boolTree (state.revalidated && state.valid))) := by
  unfold writtenMetadata PyMap.get
  rw [get?_put, if_pos rfl]
  rfl

theorem written_profitability :
    PyMap.get (writtenMetadata opp state safety) "profitability" = record state.toMap := by
  unfold writtenMetadata PyMap.get
  dsimp only
  rw [get?_put, if_neg (by decide), get?_put, if_pos rfl]
  rfl

end

/-- What a call writes leaves the evidence and the contract, and stores the profit in dollars. -/
theorem afterCall_spec {A : FloatArithmetic} {opp opp' : RoutedOpportunity}
    {call : RevalidationCall} {state : ProfitabilityState}
    (h : revalidate A opp call = .ok (state, opp')) :
    opp'.expectedEvidence = opp.expectedEvidence ∧ opp'.contracted = opp.contracted
      ∧ (opp'.nested "profitability").get "expected_profit_usd"
        = floatTree state.expectedProfitUsd
      ∧ (A.safeFloat opp.expectedEvidence).map A.usdOfExpected = .ok state.expectedProfitUsd := by
  obtain ⟨f, hf, h⟩ := bind_ok_iff.1 h
  cases h
  refine ⟨?_, ?_, ?_, ?_⟩
  · unfold RoutedOpportunity.expectedEvidence RoutedOpportunity.nested
    dsimp only
    rw [written_unitEcon]
    refine congrArg _ ?_
    show PyMap.get (put _ _ _) _ = _
    unfold PyMap.get
    rw [get?_put, if_neg (by decide)]
    rfl
  · unfold RoutedOpportunity.contracted RoutedOpportunity.nested
    dsimp only
    rw [written_other _ _ _ (by decide) (by decide) (by decide)]
  · unfold RoutedOpportunity.nested
    dsimp only
    rw [written_profitability]
    rfl
  · obtain ⟨expected, hexpected, hf⟩ := bind_ok_iff.1 hf
    obtain ⟨gasCost, -, hf⟩ := bind_ok_iff.1 hf
    cases hf
    exact congrArg (Except.map A.usdOfExpected) hexpected

theorem contracted_afterCalls (A : FloatArithmetic) (opp : RoutedOpportunity)
    (calls : List RevalidationCall) : (afterCalls A opp calls).contracted = opp.contracted := by
  induction calls generalizing opp with
  | nil => rfl
  | cons call calls ih =>
    have hcall : (afterCall A opp call).contracted = opp.contracted := by
      unfold afterCall
      cases hresult : revalidate A opp call with
      | error e => rfl
      | ok result => exact (afterCall_spec hresult).2.1
    calc (afterCalls A opp (call :: calls)).contracted
        = (afterCall A opp call).contracted := ih _
      _ = opp.contracted := hcall

/-- The evidence is the number `x`; what is stored is nothing, or that number in dollars. -/
structure Evident (x : ℚ) (opp : RoutedOpportunity) : Prop where
  reads : FloatArithmetic.exact.safeFloat opp.expectedEvidence = .ok (.finite x)
  stored : (opp.viewed.get "expected_profit_usd").truthy = false
    ∨ opp.contracted.isEmpty = true
      ∧ opp.viewed.get "expected_profit_usd" = floatTree (.finite (usd x))

theorem Evident.afterCall {x : ℚ} {opp : RoutedOpportunity} (h : Evident x opp)
    (call : RevalidationCall) : Evident x (afterCall .exact opp call) := by
  unfold Profitability.afterCall
  cases hresult : revalidate .exact opp call with
  | error e => exact h
  | ok result =>
    obtain ⟨state, opp'⟩ := result
    obtain ⟨hevidence, hcontracted, hprofit, husd⟩ := afterCall_spec hresult
    show Evident x opp'
    rw [h.reads] at husd
    have hexpected : state.expectedProfitUsd = .finite (usd x) := by
      rw [← exact_usdOfExpected]
      exact (Except.ok.inj husd).symm
    refine ⟨by rw [hevidence, h.reads], ?_⟩
    rw [viewed_eq, hcontracted]
    cases hempty : opp.contracted.isEmpty with
    | true =>
      refine Or.inr ⟨rfl, ?_⟩
      rw [if_pos rfl, hprofit, hexpected]
    | false =>
      refine Or.inl ?_
      rcases h.stored with hfalsy | ⟨hnone, -⟩
      · rw [viewed_eq, hempty] at hfalsy
        exact hfalsy
      · rw [hempty] at hnone
        cases hnone

theorem Evident.afterCalls {x : ℚ} {opp : RoutedOpportunity} (h : Evident x opp)
    (calls : List RevalidationCall) : Evident x (afterCalls .exact opp calls) := by
  induction calls generalizing opp with
  | nil => exact h
  | cons call calls ih => exact ih (h.afterCall call)

theorem Evident.view_fresh {x : ℚ} {opp : RoutedOpportunity} (h : Evident x opp)
    (hfalsy : (opp.viewed.get "expected_profit_usd").truthy = false) :
    viewExpectedUsd .exact opp = .ok (.finite (usd x)) := by
  unfold viewExpectedUsd
  dsimp only
  rw [hfalsy, if_neg Bool.false_ne_true, h.reads, ← exact_usdOfExpected]
  rfl

/-- Stored dollars are taken for an unknown number once more. -/
theorem Evident.view_stored {x : ℚ} {opp : RoutedOpportunity} (h : Evident x opp)
    (hstored : opp.viewed.get "expected_profit_usd" = floatTree (.finite (usd x))) :
    viewExpectedUsd .exact opp = .ok (.finite (usd (usd x))) := by
  by_cases hzero : usd x = 0
  · -- a stored zero is passed by, and the evidence is zero dollars as well
    have hfalsy : (opp.viewed.get "expected_profit_usd").truthy = false := by
      rw [hstored, truthy_floatTree, hzero]
      rfl
    rw [h.view_fresh hfalsy, hzero, usd_zero]
  · unfold viewExpectedUsd
    dsimp only
    rw [hstored, truthy_floatTree, if_pos (decide_eq_true hzero), exact_safeFloat_floatTree,
      ← exact_usdOfExpected (usd x)]
    rfl

theorem Evident.view {x : ℚ} {opp : RoutedOpportunity} (h : Evident x opp) :
    viewExpectedUsd .exact opp = .ok (.finite (usd x))
      ∨ opp.contracted.isEmpty = true
        ∧ viewExpectedUsd .exact opp = .ok (.finite (usd (usd x))) := by
  rcases h.stored with hfalsy | ⟨hnone, hstored⟩
  · exact Or.inl (h.view_fresh hfalsy)
  · exact Or.inr ⟨hnone, h.view_stored hstored⟩

theorem revalidate_ok {opp : RoutedOpportunity} {call : RevalidationCall} {x : ℚ} {n : ℤ}
    (hreads : FloatArithmetic.exact.safeFloat opp.expectedEvidence = .ok (.finite x))
    (hgas : call.gasCostWei = some n) :
    ∃ state opp', revalidate .exact opp call = .ok (state, opp') := by
  have hfigures : ∃ f, figures .exact opp call = .ok f := by
    unfold figures
    have hexpected : FloatArithmetic.exact.safeFloat (opp.expectedProfitUsd.orElse
        ((opp.nested "unit_econ").get "expected_profit_usd_micro")) = .ok (.finite x) := hreads
    rw [hexpected, hgas]
    exact ⟨_, rfl⟩
  obtain ⟨f, hf⟩ := hfigures
  unfold revalidate
  rw [hf]
  exact ⟨_, _, rfl⟩

def freeCall : RevalidationCall :=
  ⟨⟨.leaf .none, 0, 0, 0, 0⟩, "", "", some 0, none, none, none⟩

/-- After a call that completes, and without a contract, the dollars are stored. -/
theorem Evident.view_freeCall {x : ℚ} {opp : RoutedOpportunity} (h : Evident x opp)
    (hnone : opp.contracted.isEmpty = true) :
    viewExpectedUsd .exact (Profitability.afterCall .exact opp freeCall)
      = .ok (.finite (usd (usd x))) := by
  have hgas : freeCall.gasCostWei = some 0 := rfl
  obtain ⟨state, opp', hresult⟩ := revalidate_ok h.reads hgas
  obtain ⟨-, hcontracted, hprofit, husd⟩ := afterCall_spec hresult
  have hafter : Profitability.afterCall .exact opp freeCall = opp' := by
    unfold Profitability.afterCall
    rw [hresult]
    rfl
  rw [h.reads] at husd
  have hexpected : state.expectedProfitUsd = .finite (usd x) := by
    rw [← exact_usdOfExpected]
    exact (Except.ok.inj husd).symm
  have hevident := h.afterCall freeCall
  rw [hafter] at hevident ⊢
  refine hevident.view_stored ?_
  rw [viewed_eq, hcontracted, if_pos hnone, hprofit, hexpected]

/-! ## The unit -/

/-- A profit in millionths of a dollar or in dollars. -/
inductive UsdEvidence where
  | micro (m : ℕ)
  | amount (u : ℚ) (nonneg : 0 ≤ u)

namespace UsdEvidence

def number : UsdEvidence → ℚ
  | micro m => m
  | amount u _ => u

/-- The profit in dollars. -/
def inUsd : UsdEvidence → ℚ
  | micro m => m / 1000000
  | amount u _ => u

def IsOnly (opp : RoutedOpportunity) : UsdEvidence → Prop
  | micro m => opp.expectedProfitUsd.truthy = false
      ∧ FloatArithmetic.exact.safeFloat
          ((opp.nested "unit_econ").get "expected_profit_usd_micro") = .ok (.finite (m : ℚ))
      ∧ (opp.viewed.get "expected_profit_usd").truthy = false
  | amount u _ => FloatArithmetic.exact.safeFloat opp.expectedProfitUsd = .ok (.finite u)
      ∧ (opp.expectedProfitUsd.truthy = false → u = 0)
      ∧ (opp.nested "unit_econ").get "expected_profit_usd_micro" = .leaf .none
      ∧ (opp.viewed.get "expected_profit_usd").truthy = false

/-- The size of the number says its unit. -/
def Told : UsdEvidence → Prop
  | micro m => m = 0 ∨ 1000 < m
  | amount u _ => u ≤ 1000

/-- The number tells its unit, and so do the dollars where they are stored and viewed. -/
def Sized (opp : RoutedOpportunity) (e : UsdEvidence) : Prop :=
  e.Told ∧ (e.inUsd ≤ 1000 ∨ opp.contracted.isEmpty = false)

theorem IsOnly.evident {opp : RoutedOpportunity} {e : UsdEvidence} (h : e.IsOnly opp) :
    Evident e.number opp := by
  cases e with
  | micro m =>
    obtain ⟨hfalsy, hreads, hstored⟩ := h
    refine ⟨?_, Or.inl hstored⟩
    unfold RoutedOpportunity.expectedEvidence
    rw [PyTree.orElse, hfalsy, if_neg Bool.false_ne_true]
    exact hreads
  | amount u nonneg =>
    obtain ⟨hreads, hzero, hnone, hstored⟩ := h
    refine ⟨?_, Or.inl hstored⟩
    unfold RoutedOpportunity.expectedEvidence
    cases htruthy : opp.expectedProfitUsd.truthy with
    | true =>
      rw [PyTree.orElse, htruthy, if_pos rfl]
      exact hreads
    | false =>
      rw [PyTree.orElse, htruthy, if_neg Bool.false_ne_true, hnone]
      rw [show number (amount u nonneg) = 0 from hzero htruthy]
      rfl

theorem IsOnly.falsy {opp : RoutedOpportunity} {e : UsdEvidence} (h : e.IsOnly opp) :
    (opp.viewed.get "expected_profit_usd").truthy = false := by
  cases e with
  | micro m => exact h.2.2
  | amount u nonneg => exact h.2.2.2

/-- The number is taken for what it is where its size tells its unit. -/
theorem usd_number_eq_iff (e : UsdEvidence) : usd e.number = e.inUsd ↔ e.Told := by
  cases e with
  | amount u nonneg => exact usd_eq_self_iff
  | micro m =>
    show usd (m : ℚ) = (m : ℚ) / 1000000 ↔ m = 0 ∨ 1000 < m
    -- up to the threshold millionths are taken for dollars
    by_cases hlarge : 1000 < m
    · have hcast : (1000 : ℚ) < (m : ℚ) := by exact_mod_cast hlarge
      unfold usd
      rw [if_pos hcast]
      exact ⟨fun _ => Or.inr hlarge, fun _ => rfl⟩
    · have hself : usd (m : ℚ) = (m : ℚ) := by
        rw [usd_eq_self_iff]
        exact_mod_cast not_lt.1 hlarge
      rw [hself]
      constructor
      · intro heq
        have hzero : (m : ℚ) = 0 := by linarith
        exact Or.inl (by exact_mod_cast hzero)
      · rintro (hzero | hlt)
        · rw [hzero]
          norm_num
        · exact absurd hlt hlarge

end UsdEvidence

open UsdEvidence

/-- **The profit keeps its unit** through every run of revalidations exactly where its size tells
the unit, and, where a revalidation stores the dollars, their size does so again. -/
theorem expected_usd_kept_iff {opp : RoutedOpportunity} {e : UsdEvidence} (h : e.IsOnly opp) :
    (∀ calls, viewExpectedUsd .exact (afterCalls .exact opp calls) = .ok (.finite e.inUsd))
      ↔ e.Sized opp := by
  have hevident := h.evident
  constructor
  · intro hkept
    have hbefore : usd e.number = e.inUsd := by
      have hview := (hevident.view_fresh h.falsy).symm.trans (hkept [])
      exact PyFloat.finite.inj (Except.ok.inj hview)
    refine ⟨(usd_number_eq_iff e).1 hbefore, ?_⟩
    cases hnone : opp.contracted.isEmpty with
    | false => exact Or.inr rfl
    | true =>
      -- the first call stores the dollars, and the view looks at their size
      have hview := (hevident.view_freeCall hnone).symm.trans (hkept [freeCall])
      have hafter := PyFloat.finite.inj (Except.ok.inj hview)
      rw [hbefore] at hafter
      exact Or.inl (usd_eq_self_iff.1 hafter)
  · rintro ⟨htold, hstored⟩ calls
    have hbefore := (usd_number_eq_iff e).2 htold
    rcases (hevident.afterCalls calls).view with hview | ⟨hnone, hview⟩
    · rw [hview, hbefore]
    · -- the view prefers a contract to what a revalidation stores
      rw [contracted_afterCalls] at hnone
      rcases hstored with hsmall | hcontract
      · rw [hview, hbefore, usd_eq_self_iff.2 hsmall]
      · rw [hnone] at hcontract
        cases hcontract

/-! ### Some profits -/

def profitSample (expected micro : PyTree) : RoutedOpportunity :=
  ⟨[], [], textTree "r1", .leaf .none, expected,
    [("unit_econ", record [("expected_profit_usd_micro", micro)])]⟩

/-- Half a dollar in millionths is viewed as such after any revalidations. -/
theorem expected_usd_kept_half :
    (micro 500000).inUsd = 1 / 2
      ∧ ∀ calls, viewExpectedUsd .exact (afterCalls .exact
          (profitSample (.leaf .none) (.leaf (.int 500000))) calls)
        = .ok (.finite (micro 500000).inUsd) := by
  have honly : (micro 500000).IsOnly (profitSample (.leaf .none) (.leaf (.int 500000))) :=
    ⟨rfl, rfl, rfl⟩
  have hhalf : (micro 500000).inUsd = 1 / 2 := by norm_num [inUsd]
  have hsized : (micro 500000).Sized (profitSample (.leaf .none) (.leaf (.int 500000))) :=
    ⟨Or.inr (by decide), Or.inl (by rw [hhalf]; norm_num)⟩
  exact ⟨hhalf, (expected_usd_kept_iff honly).2 hsized⟩

theorem two_thousand_nonneg : (0 : ℚ) ≤ 2000 := by norm_num

/-- Less than a thousandth of a dollar is viewed as five hundred dollars, two thousand dollars as a
fraction of a cent, and what is viewed as two thousand dollars is another profit after a
revalidation. -/
theorem unit_lost :
    ((micro 500).IsOnly (profitSample (.leaf .none) (.leaf (.int 500)))
      ∧ viewExpectedUsd .exact (profitSample (.leaf .none) (.leaf (.int 500)))
        = .ok (.finite 500) ∧ (micro 500).inUsd ≠ 500)
    ∧ ((amount 2000 two_thousand_nonneg).IsOnly (profitSample (.leaf (.int 2000)) (.leaf .none))
      ∧ viewExpectedUsd .exact (profitSample (.leaf (.int 2000)) (.leaf .none))
        = .ok (.finite (2000 / 1000000)) ∧ (2000 / 1000000 : ℚ) ≠ 2000)
    ∧ (micro 2000000000).IsOnly (profitSample (.leaf .none) (.leaf (.int 2000000000)))
      ∧ viewExpectedUsd .exact (profitSample (.leaf .none) (.leaf (.int 2000000000)))
        = .ok (.finite 2000)
      ∧ viewExpectedUsd .exact (afterCalls .exact
          (profitSample (.leaf .none) (.leaf (.int 2000000000))) [freeCall])
        = .ok (.finite (2000 / 1000000)) ∧ (micro 2000000000).inUsd ≠ 2000 / 1000000 := by
  refine ⟨⟨⟨rfl, rfl, rfl⟩, ?_, ?_⟩, ⟨⟨rfl, ?_, rfl, rfl⟩, ?_, ?_⟩, ⟨rfl, rfl, rfl⟩, ?_, ?_, ?_⟩
  · rfl
  · norm_num [inUsd]
  · intro h
    cases h
  · decide +kernel
  · norm_num
  · decide +kernel
  · decide +kernel
  · norm_num [inUsd]

end SovereignCapital.Profitability
