import SovereignCapital.Gas.Consensus

/-! # What faulty providers can do to the gas price

Where more than half of the fresh observations are honest, the median is an honest price and the
price is near it. Which observations are fresh is decided by the highest block that is reported.
-/

namespace SovereignCapital.Gas

open OrderStatistics

/-! ## Prices that are close -/

section

variable {u h d m r a b q : ℚ}

theorem le_of_rounded_quotient (hu : 0 < u) (hu' : u ≤ 1 / 64) (hh : 0 ≤ h) (hh' : h ≤ u / 64)
    (hd : 1 ≤ d) (hm : 1 ≤ m) (hr : 0 ≤ r) (ha : d - (u * d + h) ≤ a) (hb : b ≤ m + (u * m + h))
    (hpos : 0 < b) (hq : a / b - (u * (a / b) + h) ≤ r) :
    d ≤ m * ((1 + 4 * u) * r + 2 * h) := by
  have hkept : (1 - u - h) * d ≤ a := by nlinarith
  have hgrown : b ≤ (1 + u + h) * m := by nlinarith
  have hquotient : (1 - u) * (a / b) ≤ r + h := by linarith
  have hproduct : (1 - u) * a ≤ (r + h) * b := by
    rw [← mul_div_assoc, div_le_iff₀ hpos] at hquotient
    exact hquotient
  have hsquare : u * u ≤ u / 64 := by nlinarith
  have hmixed : u * h ≤ h / 64 := by nlinarith
  have hfirst : 1 - 2 * u - h ≤ (1 - u - h) * (1 - u) := by nlinarith [mul_nonneg hu.le hh]
  have hfactor : 1 + u + h ≤ (1 + 4 * u) * ((1 - u - h) * (1 - u)) :=
    calc 1 + u + h ≤ (1 + 4 * u) * (1 - 2 * u - h) := by linarith
      _ ≤ (1 + 4 * u) * ((1 - u - h) * (1 - u)) := by gcongr
  have hshrunk : 0 < (1 - u - h) * (1 - u) := mul_pos (by linarith) (by linarith)
  have hsum : 0 ≤ r + h := by linarith
  have hchain : (1 - u - h) * (1 - u) * d ≤ (1 - u - h) * (1 - u) * (m * ((1 + 4 * u) * (r + h))) :=
    calc (1 - u - h) * (1 - u) * d = (1 - u) * ((1 - u - h) * d) := by ring
      _ ≤ (1 - u) * a := mul_le_mul_of_nonneg_left hkept (by linarith)
      _ ≤ (r + h) * b := hproduct
      _ ≤ (r + h) * ((1 + u + h) * m) := mul_le_mul_of_nonneg_left hgrown hsum
      _ ≤ (r + h) * ((1 + 4 * u) * ((1 - u - h) * (1 - u)) * m) := by gcongr
      _ = (1 - u - h) * (1 - u) * (m * ((1 + 4 * u) * (r + h))) := by ring
  have hle := le_of_mul_le_mul_left hchain hshrunk
  have hextra : (1 + 4 * u) * h ≤ 2 * h := by nlinarith
  calc d ≤ m * ((1 + 4 * u) * (r + h)) := hle
    _ = m * ((1 + 4 * u) * r + (1 + 4 * u) * h) := by ring
    _ ≤ m * ((1 + 4 * u) * r + 2 * h) := by gcongr

end

def roundedRatio (agreementRatio : ℚ) : ℚ :=
  (1 + 1 / 2 ^ 51) * max 0 agreementRatio + 1 / 2 ^ 1074

theorem roundedRatio_nonneg (agreementRatio : ℚ) : 0 ≤ roundedRatio agreementRatio := by
  have hmax : 0 ≤ max 0 agreementRatio := le_max_left _ _
  unfold roundedRatio
  positivity

theorem double_ofInt_eq_some {n : ℤ} {x : ℚ} (h : Double.ofInt n = some x) :
    x = Double.nearest n := by
  unfold Double.ofInt at h
  split at h
  · exact (Option.some.inj h).symm
  · cases h

variable {median price : ℤ} {agreementRatio lo hi : ℚ} {items fresh inliers : List Observation}
  {observations : List PyMap}

/-- **A close price** is within the ratio of the median. -/
theorem abs_sub_le_of_close (hmedian : 0 < median)
    (h : close median agreementRatio price = some true) :
    |(price : ℚ) - median| ≤ median * roundedRatio agreementRatio := by
  obtain ⟨q, hq, hle⟩ := Option.map_eq_some_iff.1 h
  obtain ⟨divisor, hdivisor, hq⟩ := Option.bind_eq_some_iff.1 hq
  obtain ⟨dividend, hdividend, hq⟩ := Option.bind_eq_some_iff.1 hq
  cases hq
  have hmedian' : (1 : ℚ) ≤ median := by exact_mod_cast hmedian
  have hcast : ((|price - median| : ℤ) : ℚ) = |(price : ℚ) - median| := by push_cast; rfl
  rcases eq_or_ne (price - median) 0 with hzero | hne
  · have hsub : (price : ℚ) - median = 0 := by exact_mod_cast hzero
    rw [hsub, abs_zero]
    exact mul_nonneg (by linarith) (roundedRatio_nonneg _)
  · have hone : (1 : ℚ) ≤ |(price : ℚ) - median| := by
      rw [← hcast]
      exact_mod_cast Int.one_le_abs hne
    rw [double_ofInt_eq_some hdivisor, double_ofInt_eq_some hdividend, hcast] at hle
    have hmiddle : |(median : ℚ)| = median := abs_of_nonneg (by linarith)
    have hsmall : (1 : ℚ) / 2 ^ 1074 ≤ 1 / 2 ^ 58 :=
      one_div_pow_le_one_div_pow_of_le one_le_two (by decide)
    have htiny : (0 : ℚ) ≤ 1 / 2 ^ 1074 := by positivity
    have hfirst := abs_le.1 (Double.abs_nearest_sub_le |(price : ℚ) - median|)
    have hsecond := abs_le.1 (Double.abs_nearest_sub_le (median : ℚ))
    have hdivisorPos : 0 < Double.nearest (median : ℚ) := by
      have hreached : (2 : ℚ) ^ 0 ≤ median := by rwa [pow_zero]
      exact lt_of_lt_of_le (pow_pos two_pos 0) (Double.two_pow_le_nearest hreached)
    have hquotient : 0 ≤ Double.nearest |(price : ℚ) - median| / Double.nearest (median : ℚ) :=
      div_nonneg (Double.nearest_nonneg (abs_nonneg _)) hdivisorPos.le
    have hthird := abs_le.1 (Double.abs_nearest_sub_le
      (Double.nearest |(price : ℚ) - median| / Double.nearest (median : ℚ)))
    rw [abs_of_nonneg hquotient] at hthird
    rw [abs_abs] at hfirst
    rw [hmiddle] at hsecond
    unfold roundedRatio
    -- the smallest double is a number like any other from here on
    generalize (1 : ℚ) / 2 ^ 1074 = t at *
    have hbound := le_of_rounded_quotient (u := 1 / 2 ^ 53) (h := t / 2) (by norm_num)
      (by norm_num) (by linarith) (by linarith) hone hmedian' (le_max_left 0 agreementRatio)
      (a := Double.nearest |(price : ℚ) - median|) (b := Double.nearest (median : ℚ))
      (by linarith [hfirst.1]) (by linarith [hsecond.2]) hdivisorPos
      (by linarith [of_decide_eq_true hle, hthird.1])
    calc |(price : ℚ) - median|
        ≤ median * ((1 + 4 * (1 / 2 ^ 53)) * max 0 agreementRatio + 2 * (t / 2)) := hbound
      _ = median * ((1 + 1 / 2 ^ 51) * max 0 agreementRatio + t) := by ring

/-! ## The median -/

def inRange (lo hi : ℚ) (item : Observation) : Bool :=
  decide (lo ≤ item.gasPriceWei ∧ (item.gasPriceWei : ℚ) ≤ hi)

theorem countP_prices (lo hi : ℚ) (items : List Observation) :
    (items.map Observation.gasPriceWei).countP (fun x => decide (⌈lo⌉ ≤ x ∧ x ≤ ⌊hi⌋))
      = items.countP (inRange lo hi) := by
  rw [List.countP_map]
  refine List.countP_congr fun item _ => ?_
  simp only [Function.comp_apply, inRange, decide_eq_true_eq, Int.ceil_le, Int.le_floor]

theorem middle_price_mem (hmajority : items.length < 2 * items.countP (inRange lo hi)) {k : ℕ}
    (hlow : items.length ≤ 2 * (k + 1)) (hhigh : 2 * k ≤ items.length) (hk : k < items.length) :
    lo ≤ (sortedPrices items).getD k 0 ∧ ((sortedPrices items).getD k 0 : ℚ) ≤ hi := by
  have hlength : (items.map Observation.gasPriceWei).length = items.length := List.length_map _
  have hget : (sortedPrices items)[k]? = some ((sortedPrices items).getD k 0) := by
    have hk' : k < (sortedPrices items).length := by
      rw [sortedPrices, length_ranked, hlength]
      exact hk
    rw [List.getD_eq_getElem?_getD, List.getElem?_eq_getElem hk', Option.getD_some]
  rw [← countP_prices, ← hlength] at hmajority
  have hmem := middle_mem hmajority (by rwa [hlength]) (by rwa [hlength]) hget
  exact ⟨Int.ceil_le.1 hmem.1, Int.le_floor.1 hmem.2⟩

/-- **The median is honest** where most prices are. -/
theorem median_mem (hmajority : items.length < 2 * items.countP (inRange lo hi)) :
    lo ≤ medianOf (sortedPrices items) ∧ (medianOf (sortedPrices items) : ℚ) ≤ hi := by
  have hlength : (sortedPrices items).length = items.length := by
    rw [sortedPrices, length_ranked, List.length_map]
  have hcount : items.countP (inRange lo hi) ≤ items.length := List.countP_le_length
  have hupper := middle_price_mem hmajority (k := items.length / 2) (by omega) (by omega) (by omega)
  unfold medianOf
  rw [hlength]
  split
  · exact hupper
  · have hlower := middle_price_mem hmajority (k := items.length / 2 - 1) (by omega) (by omega)
      (by omega)
    generalize (sortedPrices items).getD (items.length / 2 - 1) 0 = a at hlower
    generalize (sortedPrices items).getD (items.length / 2) 0 = b at hupper
    -- the mean of two integers, rounded down, is an integer between them
    have hlo := Int.ceil_le.2 hlower.1
    have hlo' := Int.ceil_le.2 hupper.1
    have hhi := Int.le_floor.2 hlower.2
    have hhi' := Int.le_floor.2 hupper.2
    exact ⟨Int.ceil_le.1 (by omega), Int.le_floor.1 (by omega)⟩

/-! ## The consensus -/

/-- The price of a selection; nothing where it raises. -/
def selectedPrice (observations : List PyMap) (maxBlockLag : ℤ) (agreementRatio : ℚ) :
    Option (Option ℤ) :=
  (selectConsensusGasPrice observations maxBlockLag agreementRatio).map Consensus.gasPriceWei

def wellFormed (observations : List PyMap) : List Observation :=
  observations.filterMap fun raw => (readObservation raw).bind Sum.getRight?

theorem validOf_eq {readings : List Reading}
    (h : observations.mapM readObservation = some readings) :
    validOf readings = wellFormed observations := by
  induction observations generalizing readings with
  | nil =>
    rw [List.mapM_nil] at h
    cases h
    rfl
  | cons raw rest ih =>
    rw [List.mapM_cons] at h
    obtain ⟨reading, hreading, h⟩ := Option.bind_eq_some_iff.1 h
    obtain ⟨readings', hrest, h⟩ := Option.bind_eq_some_iff.1 h
    cases h
    have htail := ih hrest
    unfold validOf wellFormed at htail ⊢
    simp only [List.filterMap_cons, hreading, Option.bind_some, htail]

theorem mem_of_mapM {α β : Type} {f : α → Option β} {l : List α} {l' : List β}
    (h : l.mapM f = some l') {b : β} (hb : b ∈ l') : ∃ a ∈ l, f a = some b := by
  induction l generalizing l' with
  | nil =>
    rw [List.mapM_nil] at h
    cases h
    cases hb
  | cons a l ih =>
    rw [List.mapM_cons] at h
    obtain ⟨b', ha, h⟩ := Option.bind_eq_some_iff.1 h
    obtain ⟨bs, hl, h⟩ := Option.bind_eq_some_iff.1 h
    cases h
    rcases List.mem_cons.1 hb with rfl | hb
    · exact ⟨a, List.mem_cons_self, ha⟩
    · obtain ⟨a', ha', hf⟩ := ih hl hb
      exact ⟨a', List.mem_cons_of_mem _ ha', hf⟩

theorem close_of_mem_inliers {outliers : List Observation}
    (h : splitInliers median agreementRatio fresh = some (inliers, outliers)) {item : Observation}
    (hitem : item ∈ inliers) :
    item ∈ fresh ∧ close median agreementRatio item.gasPriceWei = some true := by
  obtain ⟨near, hnear, h⟩ := Option.bind_eq_some_iff.1 h
  cases h
  obtain ⟨⟨item', b⟩, hmem, rfl⟩ := List.mem_map.1 hitem
  obtain ⟨hmem, hb⟩ := List.mem_filter.1 hmem
  obtain ⟨item, hfresh, hclose⟩ := mem_of_mapM hnear hmem
  obtain ⟨b', hclose, heq⟩ := Option.map_eq_some_iff.1 hclose
  cases heq
  refine ⟨hfresh, ?_⟩
  rw [hclose]
  exact congrArg some hb

theorem consensusPrice_mem (h : 2 ≤ inliers.length) :
    ∃ item ∈ inliers, item.gasPriceWei = consensusPrice inliers := by
  have hlength : (sortedPrices inliers).length = inliers.length := by
    rw [sortedPrices, length_ranked, List.length_map]
  have hk : inliers.length / 2 < (sortedPrices inliers).length := by omega
  have hmem : consensusPrice inliers ∈ sortedPrices inliers := by
    rw [consensusPrice, List.getD_eq_getElem?_getD, List.getElem?_eq_getElem hk, Option.getD_some]
    exact List.getElem_mem hk
  rw [sortedPrices, mem_ranked] at hmem
  exact List.mem_map.1 hmem

theorem close_of_agree {anomalies : List Anomaly} {c : Consensus}
    (h : agree agreementRatio fresh anomalies = some c) (hprice : c.gasPriceWei = some price) :
    (∃ item ∈ fresh, item.gasPriceWei = price) ∧ 0 < medianOf (sortedPrices fresh)
      ∧ close (medianOf (sortedPrices fresh)) agreementRatio price = some true := by
  unfold agree at h
  dsimp only at h
  split at h
  · cases h
    cases hprice
  · rename_i hmedian
    obtain ⟨⟨inliers, outliers⟩, hsplit, h⟩ := Option.bind_eq_some_iff.1 h
    dsimp only at h
    split at h
    · rename_i hcount
      obtain ⟨rejected, -, h⟩ := Option.bind_eq_some_iff.1 h
      cases h
      cases hprice
      obtain ⟨item, hitem, heq⟩ := consensusPrice_mem hcount
      obtain ⟨hfresh, hclose⟩ := close_of_mem_inliers hsplit hitem
      rw [← heq]
      exact ⟨⟨item, hfresh, rfl⟩, not_le.1 hmedian, hclose⟩
    · cases h
      cases hprice

theorem agree_of_select {maxBlockLag : ℤ}
    (h : selectedPrice observations maxBlockLag agreementRatio = some (some price)) :
    ∃ anomalies c, agree agreementRatio (freshOf (wellFormed observations) maxBlockLag) anomalies
      = some c ∧ c.gasPriceWei = some price := by
  obtain ⟨c, hc, hprice⟩ := Option.map_eq_some_iff.1 h
  obtain ⟨readings, hreadings, hc⟩ := Option.bind_eq_some_iff.1 hc
  dsimp only at hc
  rw [validOf_eq hreadings] at hc
  split at hc
  · cases hc
    cases hprice
  · split at hc
    · cases hc
      cases hprice
    · exact ⟨_, c, hc, hprice⟩

theorem pos_of_mem_wellFormed {item : Observation} (h : item ∈ wellFormed observations) :
    0 < item.gasPriceWei := by
  obtain ⟨raw, -, h⟩ := List.mem_filterMap.1 h
  obtain ⟨reading, hreading, hitem⟩ := Option.bind_eq_some_iff.1 h
  cases reading with
  | inl anomaly => cases hitem
  | inr item' =>
    cases hitem
    unfold readObservation at hreading
    split at hreading
    · cases hreading
    · cases hreading
    · split at hreading
      · cases hreading
      · cases hreading
      · split at hreading
        · cases hreading
        · rename_i hvalid
          cases hreading
          exact not_le.1 fun hle => hvalid (Or.inl hle)

/-- **A price that is selected** is near an honest one where most fresh prices are honest. -/
theorem selectedPrice_bounds {maxBlockLag : ℤ} (hlo : 0 ≤ lo)
    (hmajority : (freshOf (wellFormed observations) maxBlockLag).length
      < 2 * (freshOf (wellFormed observations) maxBlockLag).countP (inRange lo hi))
    (h : selectedPrice observations maxBlockLag agreementRatio = some (some price)) :
    (1 - roundedRatio agreementRatio) * lo ≤ price
      ∧ (price : ℚ) ≤ (1 + roundedRatio agreementRatio) * hi := by
  obtain ⟨anomalies, c, hagree, hprice⟩ := agree_of_select h
  obtain ⟨⟨item, hitem, heq⟩, hmedian, hclose⟩ := close_of_agree hagree hprice
  have hprice' : (0 : ℚ) < price := by
    have hpositive := pos_of_mem_wellFormed (List.mem_of_mem_filter hitem)
    rw [heq] at hpositive
    exact_mod_cast hpositive
  obtain ⟨hlow, hhigh⟩ := median_mem hmajority
  have hnear := abs_le.1 (abs_sub_le_of_close hmedian hclose)
  have hratio := roundedRatio_nonneg agreementRatio
  have hpos :
      (0 : ℚ) < medianOf (sortedPrices (freshOf (wellFormed observations) maxBlockLag)) := by
    exact_mod_cast hmedian
  generalize (medianOf (sortedPrices (freshOf (wellFormed observations) maxBlockLag)) : ℚ) = m at *
  constructor
  · rcases le_total (roundedRatio agreementRatio) 1 with hle | hge
    · calc (1 - roundedRatio agreementRatio) * lo ≤ (1 - roundedRatio agreementRatio) * m :=
            mul_le_mul_of_nonneg_left hlow (by linarith)
        _ ≤ price := by linarith [hnear.1]
    · calc (1 - roundedRatio agreementRatio) * lo ≤ 0 :=
            mul_nonpos_of_nonpos_of_nonneg (by linarith) hlo
        _ ≤ price := hprice'.le
  · calc (price : ℚ) ≤ (1 + roundedRatio agreementRatio) * m := by linarith [hnear.2]
      _ ≤ (1 + roundedRatio agreementRatio) * hi := by gcongr

/-! ## The order of the observations -/

/-- Computations in another order have their results in another order. -/
theorem mapM_perm {α β : Type} {f : α → Option β} {l l' : List α} (h : l.Perm l') :
    ∀ r, l.mapM f = some r → ∃ r', l'.mapM f = some r' ∧ r.Perm r' := by
  induction h with
  | nil => exact fun r hr => ⟨r, hr, List.Perm.refl r⟩
  | cons a _ ih =>
    intro r hr
    rw [List.mapM_cons] at hr
    obtain ⟨b, ha, hr⟩ := Option.bind_eq_some_iff.1 hr
    obtain ⟨bs, hl, hr⟩ := Option.bind_eq_some_iff.1 hr
    cases hr
    obtain ⟨bs', hl', hperm⟩ := ih bs hl
    refine ⟨b :: bs', ?_, hperm.cons b⟩
    simp only [List.mapM_cons, ha, hl', Option.bind_eq_bind, Option.bind_some, Option.pure_def]
  | swap a a' l =>
    intro r hr
    rw [List.mapM_cons, List.mapM_cons] at hr
    obtain ⟨b', ha', hr⟩ := Option.bind_eq_some_iff.1 hr
    obtain ⟨rest, hrest, hr⟩ := Option.bind_eq_some_iff.1 hr
    obtain ⟨b, ha, hrest⟩ := Option.bind_eq_some_iff.1 hrest
    obtain ⟨bs, hl, hrest⟩ := Option.bind_eq_some_iff.1 hrest
    cases hrest
    cases hr
    refine ⟨b :: b' :: bs, ?_, List.Perm.swap b b' bs⟩
    simp only [List.mapM_cons, ha, ha', hl, Option.bind_eq_bind, Option.bind_some,
      Option.pure_def]
  | trans _ _ ih ih' =>
    intro r hr
    obtain ⟨r', hr', hperm⟩ := ih r hr
    obtain ⟨r'', hr'', hperm'⟩ := ih' r' hr'
    exact ⟨r'', hr'', hperm.trans hperm'⟩

def SamePrice (x y : Option Consensus) : Prop :=
  ∀ c, x = some c → ∃ c', y = some c' ∧ c'.gasPriceWei = c.gasPriceWei

theorem map_eq_of_samePrice {x y : Option Consensus} (h : SamePrice x y) (h' : SamePrice y x) :
    x.map Consensus.gasPriceWei = y.map Consensus.gasPriceWei := by
  cases x with
  | none =>
    cases y with
    | none => rfl
    | some c' =>
      obtain ⟨c, hc, -⟩ := h' c' rfl
      cases hc
  | some c =>
    obtain ⟨c', hc', hprice⟩ := h c rfl
    rw [hc', Option.map_some, Option.map_some, hprice]

theorem maxBlock_perm {valid valid' : List Observation} (h : valid.Perm valid') :
    maxBlock valid = maxBlock valid' := (h.map _).foldr_eq 0

theorem freshOf_perm {valid valid' : List Observation} (h : valid.Perm valid') (lag : ℤ) :
    (freshOf valid lag).Perm (freshOf valid' lag) := by
  unfold freshOf
  rw [maxBlock_perm h]
  exact h.filter _

theorem sortedPrices_perm {items' : List Observation} (h : items.Perm items') :
    sortedPrices items = sortedPrices items' := ranked_eq_of_perm (h.map _)

theorem splitInliers_perm {fresh' : List Observation} (h : fresh.Perm fresh')
    {outliers : List Observation}
    (hsplit : splitInliers median agreementRatio fresh = some (inliers, outliers)) :
    ∃ inliers' outliers', splitInliers median agreementRatio fresh' = some (inliers', outliers')
      ∧ inliers.Perm inliers' ∧ outliers.Perm outliers' := by
  obtain ⟨near, hnear, hsplit⟩ := Option.bind_eq_some_iff.1 hsplit
  cases hsplit
  obtain ⟨near', hnear', hperm⟩ := mapM_perm h near hnear
  refine ⟨_, _, ?_, (hperm.filter _).map _, (hperm.filter _).map _⟩
  unfold splitInliers
  rw [hnear']
  rfl

theorem agree_perm {fresh' : List Observation} (h : fresh.Perm fresh') (agreementRatio : ℚ)
    (anomalies anomalies' : List Anomaly) :
    SamePrice (agree agreementRatio fresh anomalies) (agree agreementRatio fresh' anomalies') := by
  intro c hc
  unfold agree at hc ⊢
  dsimp only at hc ⊢
  rw [← sortedPrices_perm h]
  by_cases hmedian : medianOf (sortedPrices fresh) ≤ 0
  · rw [if_pos hmedian] at hc ⊢
    cases hc
    exact ⟨_, rfl, rfl⟩
  · rw [if_neg hmedian] at hc ⊢
    obtain ⟨⟨inliers, outliers⟩, hsplit, hc⟩ := Option.bind_eq_some_iff.1 hc
    obtain ⟨inliers', outliers', hsplit', hin, hout⟩ := splitInliers_perm h hsplit
    have hconsensus : consensusPrice inliers' = consensusPrice inliers := by
      unfold consensusPrice
      rw [sortedPrices_perm hin, hin.length_eq]
    rw [hsplit', Option.bind_eq_bind, Option.bind_some]
    dsimp only at hc ⊢
    rw [← hin.length_eq, hconsensus]
    by_cases hcount : 2 ≤ inliers.length
    · rw [if_pos hcount] at hc ⊢
      obtain ⟨rejected, hrejected, hc⟩ := Option.bind_eq_some_iff.1 hc
      cases hc
      obtain ⟨rejected', hrejected', -⟩ := mapM_perm hout rejected hrejected
      rw [hrejected']
      exact ⟨_, rfl, rfl⟩
    · rw [if_neg hcount] at hc ⊢
      cases hc
      exact ⟨_, rfl, rfl⟩

theorem select_perm {observations' : List PyMap} (h : observations.Perm observations')
    (maxBlockLag : ℤ) (agreementRatio : ℚ) :
    SamePrice (selectConsensusGasPrice observations maxBlockLag agreementRatio)
      (selectConsensusGasPrice observations' maxBlockLag agreementRatio) := by
  intro c hc
  obtain ⟨readings, hreadings, hc⟩ := Option.bind_eq_some_iff.1 hc
  obtain ⟨readings', hreadings', hperm⟩ := mapM_perm h readings hreadings
  have hvalid : (validOf readings).Perm (validOf readings') := hperm.filterMap _
  have hfresh := freshOf_perm hvalid maxBlockLag
  unfold selectConsensusGasPrice
  rw [hreadings', Option.bind_eq_bind, Option.bind_some]
  dsimp only at hc ⊢
  by_cases hnil : validOf readings = []
  · have hnil' : validOf readings' = [] := by
      rw [hnil] at hvalid
      exact List.nil_perm.1 hvalid
    rw [if_pos hnil] at hc
    rw [if_pos hnil']
    cases hc
    exact ⟨_, rfl, rfl⟩
  · have hnil' : validOf readings' ≠ [] := by
      intro hnil'
      rw [hnil'] at hvalid
      exact hnil (List.perm_nil.1 hvalid)
    rw [if_neg hnil] at hc
    rw [if_neg hnil', ← hfresh.length_eq]
    by_cases hcount : (freshOf (validOf readings) maxBlockLag).length < 2
    · rw [if_pos hcount] at hc ⊢
      cases hc
      exact ⟨_, rfl, rfl⟩
    · rw [if_neg hcount] at hc ⊢
      exact agree_perm hfresh agreementRatio _ _ c hc

/-- **Gas prices and faulty providers.** The price does not depend on the order of the observations,
and where most of the fresh ones are honest it is within the ratio of their prices. -/
theorem consensus_tolerates_minority (observations : List PyMap) (maxBlockLag : ℤ)
    (agreementRatio : ℚ) :
    (∀ lo hi : ℚ, 0 ≤ lo →
      (freshOf (wellFormed observations) maxBlockLag).length
        < 2 * (freshOf (wellFormed observations) maxBlockLag).countP (inRange lo hi) →
      ∀ price, selectedPrice observations maxBlockLag agreementRatio = some (some price) →
        (1 - roundedRatio agreementRatio) * lo ≤ price
          ∧ (price : ℚ) ≤ (1 + roundedRatio agreementRatio) * hi)
      ∧ ∀ observations', observations.Perm observations' →
        selectedPrice observations maxBlockLag agreementRatio
          = selectedPrice observations' maxBlockLag agreementRatio := by
  constructor
  · intro lo hi hlo hmajority price hprice
    exact selectedPrice_bounds hlo hmajority hprice
  · intro observations' hperm
    exact map_eq_of_samePrice (select_perm hperm maxBlockLag agreementRatio)
      (select_perm hperm.symm maxBlockLag agreementRatio)

/-! ## What a minority can do -/

def observed (gasPriceWei blockNumber : ℤ) : PyMap :=
  [("block_number", .leaf (.int blockNumber)), ("gas_price_wei", .leaf (.int gasPriceWei))]

/-- Two honest providers, and one that reports ten times their price. -/
def priceSample : List PyMap := [observed 100 100, observed 105 100, observed 1000 100]

theorem consensus_tolerates_minority_outlier :
    selectedPrice priceSample 2 (1 / 4) = some (some 105)
      ∧ (1 - roundedRatio (1 / 4)) * 100 ≤ (105 : ℤ)
      ∧ ((105 : ℤ) : ℚ) ≤ (1 + roundedRatio (1 / 4)) * 105 := by
  have hprice : selectedPrice priceSample 2 (1 / 4) = some (some 105) := by decide +kernel
  exact ⟨hprice, (consensus_tolerates_minority priceSample 2 (1 / 4)).1 100 105 (by norm_num)
    (by decide +kernel) 105 hprice⟩

/-- More than half of the well-formed observations are honest, with blocks near each other. -/
def HonestMajority (lo hi : ℚ) (maxBlockLag : ℤ) (observations : List PyMap) : Prop :=
  ∃ honest : List Observation, honest.Sublist (wellFormed observations)
    ∧ (wellFormed observations).length < 2 * honest.length
    ∧ (∀ item ∈ honest, inRange lo hi item = true)
    ∧ ∀ item ∈ honest, ∀ item' ∈ honest, item.blockNumber - item'.blockNumber ≤ maxBlockLag

/-- Three honest providers, and two that report a block far ahead. -/
def aheadSample : List PyMap :=
  [observed 100 10, observed 100 10, observed 100 10, observed 1000000 1000, observed 1000000 1000]

/-- Three honest providers, and two at the edge of the ratio. -/
def edgeSample : List PyMap :=
  [observed 1 10, observed 1 10, observed 3 10, observed 4 10, observed 4 10]

/-- Three honest providers, and one with an integer too large for a double. -/
def hugeSample : List PyMap :=
  [observed 100 10, observed 100 10, observed 100 10, observed (10 ^ 400) 10]

def third : ℚ := 6004799503160661 / 2 ^ 54

/-- A minority decides the price by the block it reports; at the edge of the ratio the price may be
off by a rounding; and a minority may make the selection raise. -/
theorem minority_decides :
    (HonestMajority 100 100 2 aheadSample
        ∧ selectedPrice aheadSample 2 (1 / 4) = some (some 1000000)
        ∧ (1 + 1 / 4 : ℚ) * 100 < 1000000)
      ∧ (HonestMajority 1 3 2 edgeSample ∧ selectedPrice edgeSample 2 third = some (some 4)
        ∧ (1 + third) * 3 < 4)
      ∧ HonestMajority 100 100 2 hugeSample ∧ selectedPrice hugeSample 2 (1 / 4) = none := by
  refine ⟨⟨⟨(wellFormed aheadSample).take 3, List.take_sublist _ _, ?_, ?_, ?_⟩, ?_, ?_⟩,
    ⟨⟨(wellFormed edgeSample).take 3, List.take_sublist _ _, ?_, ?_, ?_⟩, ?_, ?_⟩,
    ⟨(wellFormed hugeSample).take 3, List.take_sublist _ _, ?_, ?_, ?_⟩, ?_⟩
  all_goals decide +kernel

end SovereignCapital.Gas
