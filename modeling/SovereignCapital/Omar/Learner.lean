import SovereignCapital.Lib.PyRaise

/-! # The learner of OMAR

`OmarRealLearner` of `real_learning.py`: a value for every action of a state, moved towards the
reward of each outcome, a count for every state and the count of all of them. The arithmetic of
floats is exact here.
-/

namespace SovereignCapital.Omar

open PyRaise

def actions : List String :=
  ["WAIT", "DEFEND", "SEEK_OPP", "INCREASE_RISK", "DECREASE_RISK", "EXECUTE"]

/-- `OmarConfig`, what is read of it here. -/
structure OmarConfig where
  enabled : Bool
  realLearningEnabled : Bool
  realLearningAlpha : ℚ
  liveExplorationEpsilon : ℚ
  realLearningMinObservations : Int

def OmarConfig.alpha (cfg : OmarConfig) : ℚ := max (1 / 1000) (min 1 cfg.realLearningAlpha)

def OmarConfig.epsilon (cfg : OmarConfig) : ℚ := max 0 (min (1 / 4) cfg.liveExplorationEpsilon)

def OmarConfig.minObservations (cfg : OmarConfig) : Int := max 1 cfg.realLearningMinObservations

abbrev Values := Dict String ℚ

/-- `OmarRealLearner`. -/
structure Learner where
  q : Dict String Values
  n : Dict String Int
  totalObservations : Int

def Learner.new : Learner := ⟨.empty, .empty, 0⟩

/-- `{a: 0.0 for a in ACTIONS}`. -/
def zeros : Values := actions.foldl (fun d a => d.set a 0) .empty

def Learner.ensure (l : Learner) (key : String) : Learner :=
  if l.q.contains key then l else { l with q := l.q.set key zeros, n := l.n.set key 0 }

/-- `max(-50.0, min(50.0, x))`. -/
def clipReward (x : ℚ) : ℚ := max (-50) (min 50 x)

/-- What `observe` returns. -/
inductive LearnResult where
  | invalid
  | learned (stateKey action : String) (reward : ℚ) (observations stateObservations : Int)

def Learner.observe (cfg : OmarConfig) (l : Learner) (stateKey action : String) (reward : ℚ) :
    Learner × Except PyError LearnResult :=
  if stateKey = "" ∨ action ∉ actions then (l, .ok .invalid)
  else
    let l := l.ensure stateKey
    let values := l.q.getD stateKey .empty
    let old := values.getD action 0
    let reward := clipReward reward
    let l := { l with
      q := l.q.set stateKey (values.set action (old + cfg.alpha * (reward - old))) }
    match l.n.get? stateKey with
    | none => (l, .error .key)
    | some count =>
      let l := { l with
        n := l.n.set stateKey (count + 1)
        totalObservations := l.totalObservations + 1 }
      (l, .ok (.learned stateKey action reward l.totalObservations (count + 1)))

/-! ## The file -/

theorem recordText_ne : "{...}" ≠ "" := by decide

def record (items : PyMap) : PyTree := .dict items ⟨"{...}", recordText_ne⟩

@[simp] theorem record_isMapping (items : PyMap) : (record items).isMapping = true := rfl

@[simp] theorem record_mapping (items : PyMap) : (record items).mapping = items := rfl

def floating (x : ℚ) : PyTree := .leaf (.float x ⟨"0.0", by decide⟩)

/-- `json.dump(q, sort_keys=True)`. -/
def savedValues (values : Values) : PyTree :=
  record ((values.sortKeys (· ≤ ·)).entries.map fun e => (e.1, floating e.2))

/-- The document of `save`. -/
def Learner.saved (cfg : OmarConfig) (l : Learner) : PyTree :=
  record
    [("alpha", floating cfg.alpha), ("epsilon", floating cfg.epsilon),
      ("min_observations", .leaf (.int cfg.minObservations)),
      ("n", record ((l.n.sortKeys (· ≤ ·)).entries.map fun e => (e.1, .leaf (.int e.2)))),
      ("q", record ((l.q.sortKeys (· ≤ ·)).entries.map fun e => (e.1, savedValues e.2))),
      ("total_observations", .leaf (.int l.totalObservations)), ("v", .leaf (.int 1))]

/-- A dictionary of some items; the first one of a key stands. -/
def ofItems {α : Type} (items : List (String × α)) : Dict String α :=
  items.foldr (fun e d => d.set e.1 e.2) .empty

/-- `int(v)`. -/
def readInt (v : PyTree) : Except PyError Int :=
  match v.int with
  | .ok n => .ok n
  | .error e => .error (.ofConversion e)

/-- `float(v)`; what is not finite, which is never saved, counts as an error. -/
def readFinite (v : PyTree) : Except PyError ℚ :=
  match PyRaise.float v with
  | .ok (.finite x) => .ok x
  | .ok _ => .error .overflow
  | .error e => .error e

/-- `{a: float(v.get(a, 0.0)) for a in ACTIONS}`. -/
def readValues (v : PyMap) : Except PyError Values :=
  (actions.mapM fun a =>
    (readFinite ((PyMap.get? v a).getD (floating 0))).map fun x => (a, x)).map ofItems

/-- `payload.get("q")` as it is read; an entry that is no dictionary is left out. -/
def readQ (items : PyMap) : Except PyError (Dict String Values) :=
  ((items.filter fun e => e.2.isMapping).mapM fun e =>
    (readValues e.2.mapping).map fun values => (e.1, values)).map ofItems

/-- `payload.get("n")` as it is read. -/
def readN (items : PyMap) : Except PyError (Dict String Int) :=
  (items.mapM fun e => (readInt e.2).map fun n => (e.1, n)).map ofItems

/-- `payload` under the keys of a version 1 document: each part that is read stays although a
later one raises. -/
def Learner.loadParts (l : Learner) (payload : PyMap) : Learner × Except PyError Unit :=
  match readInt ((PyMap.get? payload "total_observations").getD (.leaf (.int 0))) with
  | .error e => (l, .error e)
  | .ok total =>
    let l := { l with totalObservations := max 0 total }
    let q := PyMap.get payload "q"
    match if q.isMapping then readQ q.mapping else .ok l.q with
    | .error e => (l, .error e)
    | .ok q =>
      let l := { l with q := q }
      let n := PyMap.get payload "n"
      match if n.isMapping then readN n.mapping else .ok l.n with
      | .error e => (l, .error e)
      | .ok n => ({ l with n := n }, .ok ())

/-- What the `except` of `_load` catches. -/
def loadCaught : List PyError := [.type, .value]

/-- `_load` of a new learner; the file may be missing. -/
def Learner.load (file : Option PyTree) : Except PyError Learner :=
  match file with
  | none => .ok Learner.new
  | some payload =>
    if payload.isMapping then
      match readInt ((PyMap.get? payload.mapping "v").getD (.leaf (.int 0))) with
      | .error e => recover loadCaught Learner.new (.error e)
      | .ok version =>
        if version ≠ 1 then .ok Learner.new
        else
          match Learner.new.loadParts payload.mapping with
          | (l, .ok ()) => .ok l
          | (l, .error e) => recover loadCaught l (.error e)
    else .ok Learner.new

/-! ## Readings -/

def Learner.value (l : Learner) (key action : String) : ℚ := (l.q.getD key .empty).getD action 0

def Learner.count (l : Learner) (key : String) : Int := l.n.getD key 0

theorem alpha_pos (cfg : OmarConfig) : 0 < cfg.alpha :=
  lt_of_lt_of_le (by norm_num) (le_max_left _ _)

theorem alpha_le_one (cfg : OmarConfig) : cfg.alpha ≤ 1 :=
  max_le (by norm_num) (min_le_left _ _)

theorem abs_clipReward_le (x : ℚ) : |clipReward x| ≤ 50 := by
  rw [abs_le]
  exact ⟨le_max_left _ _, max_le (by norm_num) (min_le_left _ _)⟩

theorem zeros_get? (a : String) : zeros.get? a = if a ∈ actions then some 0 else none := by
  have hfold : ∀ (l : List String) (d : Values),
      (l.foldl (fun d a => d.set a 0) d).get? a = if a ∈ l then some 0 else d.get? a := by
    intro l
    induction l with
    | nil => exact fun d => rfl
    | cons b l ih =>
      intro d
      rw [List.foldl_cons, ih, Dict.get?_set]
      by_cases hl : a ∈ l
      · simp [hl]
      · by_cases hb : a = b
        · simp [hb]
        · simp [hl, hb]
  exact hfold actions .empty

/-! ## Sound learners -/

/-- The counts add up, a state has values exactly where it has a count, a value belongs to an
action and is at most 50. -/
structure Learner.Sound (l : Learner) : Prop where
  total : l.totalObservations = Dict.sumBy (fun _ count => count) l.n
  keys : ∀ key, l.q.contains key = l.n.contains key
  counts : ∀ key count, l.n.get? key = some count → 0 ≤ count
  values : ∀ key values, l.q.get? key = some values →
    ∀ a x, values.get? a = some x → a ∈ actions ∧ |x| ≤ 50

theorem sound_new : Learner.new.Sound where
  total := rfl
  keys := fun _ => rfl
  counts := fun _ _ h => nomatch h
  values := fun _ _ h => nomatch h

namespace Learner.Sound

variable {l : Learner}

theorem abs_value_le (h : l.Sound) (key action : String) : |l.value key action| ≤ 50 := by
  unfold Learner.value Dict.getD
  cases hvalues : l.q.get? key with
  | none => simp
  | some values =>
    cases hx : values.get? action with
    | none => simp [hx]
    | some x => simpa [hx] using (h.values key values hvalues action x hx).2

theorem totalObservations_nonneg (h : l.Sound) : 0 ≤ l.totalObservations := by
  rw [h.total]
  refine List.sum_nonneg fun x hx => ?_
  obtain ⟨⟨key, count⟩, hmem, rfl⟩ := List.mem_map.1 hx
  exact h.counts key count ((Dict.mem_entries_iff l.n).1 hmem)

theorem ensure (h : l.Sound) (key : String) : (l.ensure key).Sound := by
  unfold Learner.ensure
  by_cases hkey : l.q.contains key = true
  · rw [if_pos hkey]
    exact h
  · rw [if_neg hkey]
    have hnone : l.n.get? key = none := by
      rw [h.keys, Dict.contains] at hkey
      simpa using hkey
    constructor
    · have hset := Dict.sumBy_set (fun (_ : String) (count : Int) => count) l.n key 0
      rw [Dict.weightAt, hnone] at hset
      simpa [h.total] using hset.symm
    · intro key'
      by_cases hk : key' = key
      · rw [hk, Dict.contains_set_self, Dict.contains_set_self]
      · rw [Dict.contains, Dict.contains, Dict.get?_set_of_ne _ _ hk, Dict.get?_set_of_ne _ _ hk]
        exact h.keys key'
    · intro key' count hcount
      rw [Dict.get?_set] at hcount
      split at hcount
      · obtain rfl : 0 = count := Option.some.inj hcount
        exact le_rfl
      · exact h.counts key' count hcount
    · intro key' values hvalues a x hx
      rw [Dict.get?_set] at hvalues
      split at hvalues
      · obtain rfl : zeros = values := Option.some.inj hvalues
        rw [zeros_get?] at hx
        split at hx
        · obtain rfl : 0 = x := Option.some.inj hx
          exact ⟨by assumption, by norm_num⟩
        · cases hx
      · exact h.values key' values hvalues a x hx

theorem ensure_get? (l : Learner) (key : String) :
    ∃ values, (l.ensure key).q.get? key = some values := by
  unfold Learner.ensure
  split
  · rename_i hkey
    exact Dict.contains_iff.1 hkey
  · exact ⟨zeros, Dict.get?_set_self _ _ _⟩

/-- A value that is moved towards a reward stays between the two. -/
theorem abs_moved_le {α old reward : ℚ} (hpos : 0 < α) (hle : α ≤ 1) (hold : |old| ≤ 50)
    (hreward : |reward| ≤ 50) : |old + α * (reward - old)| ≤ 50 := by
  rw [abs_le] at hold hreward ⊢
  constructor <;> nlinarith

end Learner.Sound

/-! ## A call -/

/-- What a call that learns changes: the value of the action moves, the state and the total count
one more. -/
structure Learned (cfg : OmarConfig) (l l' : Learner) (stateKey action : String) (reward : ℚ) :
    Prop where
  total : l'.totalObservations = l.totalObservations + 1
  count : ∀ key, l'.count key = l.count key + if key = stateKey then 1 else 0
  value : ∀ key a, l'.value key a =
    if key = stateKey ∧ a = action then
      l.value key a + cfg.alpha * (clipReward reward - l.value key a)
    else l.value key a

theorem value_set (l : Learner) (n : Dict String Int) (total : Int) (stateKey action : String)
    (x : ℚ) (key a : String) :
    Learner.value
        ⟨l.q.set stateKey ((l.q.getD stateKey .empty).set action x), n, total⟩ key a
      = if key = stateKey ∧ a = action then x else l.value key a := by
  unfold Learner.value
  rw [Dict.getD_set]
  by_cases hkey : key = stateKey
  · subst hkey
    rw [if_pos rfl, Dict.getD_set]
    simp
  · rw [if_neg hkey, if_neg fun h => hkey h.1]

theorem ensure_total (l : Learner) (key : String) :
    (l.ensure key).totalObservations = l.totalObservations := by
  unfold Learner.ensure
  split <;> rfl

theorem ensure_count {l : Learner} (h : l.Sound) (key key' : String) :
    (l.ensure key).count key' = l.count key' := by
  unfold Learner.ensure
  split
  · rfl
  · rename_i hkey
    rw [h.keys, Dict.contains] at hkey
    simp only [Learner.count, Dict.getD_set]
    split
    · rename_i heq
      have hnone : l.n.get? key = none := by simpa using hkey
      rw [heq, Dict.getD, hnone]
      rfl
    · rfl

theorem ensure_value (l : Learner) (key key' a : String) :
    (l.ensure key).value key' a = l.value key' a := by
  unfold Learner.ensure
  split
  · rfl
  · rename_i hkey
    simp only [Learner.value, Dict.getD_set]
    split
    · rename_i heq
      have hnone : l.q.get? key = none := by simpa [Dict.contains] using hkey
      have hzero : zeros.getD a 0 = 0 := by
        rw [Dict.getD, zeros_get?]
        split <;> rfl
      have hempty : l.q.getD key .empty = .empty := by
        rw [Dict.getD, hnone]
        rfl
      rw [heq, hzero, hempty]
      rfl
    · rfl

theorem Learner.Sound.updated {l : Learner} (hl : l.Sound) {stateKey action : String}
    {values : Dict String ℚ} {count : Int} {x : ℚ} (hvalues : l.q.get? stateKey = some values)
    (hcount : l.n.get? stateKey = some count) (haction : action ∈ actions) (hx : |x| ≤ 50) :
    (⟨l.q.set stateKey (values.set action x), l.n.set stateKey (count + 1),
      l.totalObservations + 1⟩ : Learner).Sound := by
  constructor
  · have hset := Dict.sumBy_set (fun (_ : String) (count : Int) => count) l.n stateKey (count + 1)
    rw [Dict.weightAt_of_get? hcount, ← hl.total] at hset
    simp only
    linarith
  · intro key
    by_cases hk : key = stateKey
    · rw [hk, Dict.contains_set_self, Dict.contains_set_self]
    · rw [Dict.contains, Dict.contains, Dict.get?_set_of_ne _ _ hk, Dict.get?_set_of_ne _ _ hk]
      exact hl.keys key
  · intro key count' hcount'
    rw [Dict.get?_set] at hcount'
    split at hcount'
    · obtain rfl : count + 1 = count' := Option.some.inj hcount'
      have hnonneg := hl.counts stateKey count hcount
      omega
    · exact hl.counts key count' hcount'
  · intro key values' hvalues' a y hy
    rw [Dict.get?_set] at hvalues'
    split at hvalues'
    · obtain rfl := Option.some.inj hvalues'
      rw [Dict.get?_set] at hy
      split at hy
      · obtain rfl := Option.some.inj hy
        rename_i _ ha
        exact ⟨ha ▸ haction, hx⟩
      · exact hl.values stateKey values hvalues a y hy
    · exact hl.values key values' hvalues' a y hy

theorem observe_learns {cfg : OmarConfig} {l : Learner} (hl : l.Sound) {stateKey action : String}
    (hkey : stateKey ≠ "") (haction : action ∈ actions) (reward : ℚ) :
    ∃ l' states,
      l.observe cfg stateKey action reward = (l', .ok (.learned stateKey action
        (clipReward reward) (l.totalObservations + 1) states)) ∧
      l'.Sound ∧ Learned cfg l l' stateKey action reward := by
  have he := hl.ensure stateKey
  obtain ⟨values, hvalues⟩ := Learner.Sound.ensure_get? l stateKey
  have hn : (l.ensure stateKey).n.contains stateKey = true := by
    rw [← he.keys]
    exact Dict.contains_iff.2 ⟨values, hvalues⟩
  obtain ⟨count, hcount⟩ := Dict.contains_iff.1 hn
  have hget : (l.ensure stateKey).q.getD stateKey .empty = values := by
    rw [Dict.getD, hvalues]
    rfl
  set old : ℚ := values.getD action 0 with hold
  have holdValue : old = l.value stateKey action := by
    rw [hold, ← ensure_value l stateKey, Learner.value, hget]
  have hmoved : |old + cfg.alpha * (clipReward reward - old)| ≤ 50 :=
    Learner.Sound.abs_moved_le (alpha_pos cfg) (alpha_le_one cfg)
      (holdValue ▸ hl.abs_value_le stateKey action) (abs_clipReward_le reward)
  refine ⟨⟨(l.ensure stateKey).q.set stateKey
      (values.set action (old + cfg.alpha * (clipReward reward - old))),
    (l.ensure stateKey).n.set stateKey (count + 1), l.totalObservations + 1⟩, count + 1, ?_, ?_, ?_⟩
  · rw [Learner.observe, if_neg (by simp [hkey, haction])]
    simp only [hget, hcount, ensure_total]
    rfl
  · have hupdated := he.updated hvalues hcount haction hmoved
    rwa [ensure_total] at hupdated
  · constructor
    · rfl
    · intro key
      rw [Learner.count, Dict.getD_set, ← ensure_count hl stateKey key]
      split
      · rename_i heq
        rw [heq, Learner.count, Dict.getD, hcount]
        rfl
      · exact (add_zero _).symm
    · intro key a
      have hvalue := value_set (l.ensure stateKey) ((l.ensure stateKey).n.set stateKey (count + 1))
        (l.totalObservations + 1) stateKey action
        (old + cfg.alpha * (clipReward reward - old)) key a
      rw [hget] at hvalue
      rw [hvalue, ensure_value]
      split
      · rename_i heq
        rw [heq.1, heq.2, ← holdValue]
      · rfl

/-! ## Reading the file back -/

theorem get?_ofItems {α : Type} (items : List (String × α)) (key : String) :
    (ofItems items).get? key = items.lookup key := by
  induction items with
  | nil => rfl
  | cons item items ih =>
    obtain ⟨k, v⟩ := item
    have hcons : ofItems ((k, v) :: items) = (ofItems items).set k v := rfl
    rw [hcons, Dict.get?_set, List.lookup_cons, ih]
    by_cases hk : key = k
    · simp [hk]
    · simp [hk, beq_false_of_ne]

/-- What is saved entry by entry is found under the same keys. -/
theorem lookup_entries {α β : Type} (d : Dict String α) (f : α → β) (key : String) :
    (d.entries.map fun e => (e.1, f e.2)).lookup key = (d.get? key).map f := by
  have hentries : ∀ l : List (String × α),
      (l.map fun e => (e.1, f e.2)).lookup key = (Dict.lookup key l).map f := by
    intro l
    induction l with
    | nil => rfl
    | cons e l ih =>
      rw [List.map_cons, List.lookup_cons, ih, Dict.lookup]
      by_cases hk : key = e.1
      · simp [hk]
      · simp [hk, Ne.symm hk, beq_false_of_ne]
  exact hentries d.entries

theorem mapM_ok {α β γ : Type} {read : α → Except PyError β} {write : γ → α} {keep : γ → β}
    (items : List γ) (h : ∀ item ∈ items, read (write item) = .ok (keep item)) :
    (items.map write).mapM read = .ok (items.map keep) := by
  induction items with
  | nil => rfl
  | cons item items ih =>
    rw [List.map_cons, List.mapM_cons, h item List.mem_cons_self,
      ih fun item hitem => h item (List.mem_cons_of_mem _ hitem)]
    rfl

theorem lookup_pairs {α : Type} (l : List String) (f : String → α) (a : String) :
    (l.map fun b => (b, f b)).lookup a = if a ∈ l then some (f a) else none := by
  induction l with
  | nil => rfl
  | cons b l ih =>
    rw [List.map_cons, List.lookup_cons, ih]
    by_cases hb : a = b
    · simp [hb]
    · simp [hb, beq_false_of_ne]

/-- The values of a state as they are read back: a missing action reads as zero. -/
def kept (values : Values) : Values := ofItems (actions.map fun a => (a, values.getD a 0))

theorem kept_getD {values : Values} (h : ∀ a x, values.get? a = some x → a ∈ actions)
    (a : String) : (kept values).getD a 0 = values.getD a 0 := by
  rw [kept, Dict.getD, get?_ofItems, lookup_pairs]
  by_cases ha : a ∈ actions
  · rw [if_pos ha]
    rfl
  · rw [if_neg ha, Dict.getD]
    cases hx : values.get? a with
    | none => rfl
    | some x => exact absurd (h a x hx) ha

theorem readValues_saved (values : Values) :
    readValues (savedValues values).mapping = .ok (kept values) := by
  have hget : ∀ a, PyMap.get? (savedValues values).mapping a
      = (values.get? a).map floating := by
    intro a
    have hlookup := lookup_entries (values.sortKeys (· ≤ ·)) floating a
    rw [Dict.get?_sortKeys] at hlookup
    exact hlookup
  have hmap := @mapM_ok String (String × ℚ) String
    (fun a => (readFinite ((PyMap.get? (savedValues values).mapping a).getD (floating 0))).map
      fun x => (a, x)) id (fun a => (a, values.getD a 0)) actions (by
        intro a _
        rw [id, hget, Dict.getD]
        cases values.get? a <;> rfl)
  rw [List.map_id] at hmap
  rw [readValues, hmap]
  rfl

theorem readQ_saved (q : Dict String Values) :
    readQ (q.entries.map fun e => (e.1, savedValues e.2))
      = .ok (ofItems (q.entries.map fun e => (e.1, kept e.2))) := by
  have hfilter : (q.entries.map fun e => (e.1, savedValues e.2)).filter (fun e => e.2.isMapping)
      = q.entries.map fun e => (e.1, savedValues e.2) := by
    refine List.filter_eq_self.2 fun e he => ?_
    obtain ⟨e', -, rfl⟩ := List.mem_map.1 he
    rfl
  have hmap := @mapM_ok (String × PyTree) (String × Values) (String × Values)
    (fun e => (readValues e.2.mapping).map fun values => (e.1, values))
    (fun e => (e.1, savedValues e.2)) (fun e => (e.1, kept e.2)) q.entries (by
      intro e _
      rw [readValues_saved]
      rfl)
  rw [readQ, hfilter, hmap]
  rfl

theorem readN_saved (n : Dict String Int) :
    readN (n.entries.map fun e => (e.1, .leaf (.int e.2))) = .ok (ofItems n.entries) := by
  have hmap := @mapM_ok (String × PyTree) (String × Int) (String × Int)
    (fun e => (readInt e.2).map fun n => (e.1, n)) (fun e => (e.1, .leaf (.int e.2))) id n.entries
    (fun e _ => rfl)
  rw [List.map_id] at hmap
  rw [readN, hmap]
  rfl

/-- The two learners have learned the same; a state without an entry reads as zero. -/
structure SameLearning (l l' : Learner) : Prop where
  total : l'.totalObservations = l.totalObservations
  count : ∀ key, l'.count key = l.count key
  value : ∀ key a, l'.value key a = l.value key a

def Learner.reloaded (l : Learner) : Learner :=
  ⟨ofItems ((l.q.sortKeys (· ≤ ·)).entries.map fun e => (e.1, kept e.2)),
    ofItems (l.n.sortKeys (· ≤ ·)).entries, l.totalObservations⟩

theorem reloaded_n (l : Learner) (key : String) : l.reloaded.n.get? key = l.n.get? key := by
  have hlookup := lookup_entries (l.n.sortKeys (· ≤ ·)) id key
  simp only [id, Prod.mk.eta, List.map_id', Dict.get?_sortKeys] at hlookup
  rw [Learner.reloaded, get?_ofItems, hlookup]
  exact congrFun Option.map_id _

theorem reloaded_q (l : Learner) (key : String) :
    l.reloaded.q.get? key = (l.q.get? key).map kept := by
  have hlookup := lookup_entries (l.q.sortKeys (· ≤ ·)) kept key
  rw [Dict.get?_sortKeys] at hlookup
  rw [Learner.reloaded, get?_ofItems, hlookup]

theorem load_saved (cfg : OmarConfig) {l : Learner} (h : l.Sound) :
    Learner.load (some (l.saved cfg)) = .ok l.reloaded := by
  have hversion : readInt ((PyMap.get? (l.saved cfg).mapping "v").getD (.leaf (.int 0)))
      = .ok 1 := rfl
  have htotal : readInt ((PyMap.get? (l.saved cfg).mapping "total_observations").getD
      (.leaf (.int 0))) = .ok l.totalObservations := rfl
  have hq : PyMap.get (l.saved cfg).mapping "q"
      = record ((l.q.sortKeys (· ≤ ·)).entries.map fun e => (e.1, savedValues e.2)) := rfl
  have hn : PyMap.get (l.saved cfg).mapping "n"
      = record ((l.n.sortKeys (· ≤ ·)).entries.map fun e => (e.1, .leaf (.int e.2))) := rfl
  have hparts : Learner.new.loadParts (l.saved cfg).mapping = (l.reloaded, .ok ()) := by
    simp only [Learner.loadParts, htotal, hq, hn, record_isMapping, record_mapping, if_true,
      readQ_saved, readN_saved, max_eq_right h.totalObservations_nonneg, Learner.reloaded]
  have hmapping : (l.saved cfg).isMapping = true := rfl
  simp only [Learner.load, hmapping, if_true, hversion, hparts, ne_eq, not_true, if_false]

theorem sameLearning_reloaded {l : Learner} (h : l.Sound) : SameLearning l l.reloaded where
  total := rfl
  count := by
    intro key
    rw [Learner.count, Dict.getD, reloaded_n]
    rfl
  value := by
    intro key a
    have hread : ∀ empty : Values, l.reloaded.q.getD key empty
        = ((l.q.get? key).map kept).getD empty := by
      intro empty
      rw [Dict.getD, reloaded_q]
    rw [Learner.value, Learner.value, hread]
    unfold Dict.getD
    cases hvalues : l.q.get? key with
    | none => rfl
    | some values => exact kept_getD (fun a x hx => (h.values key values hvalues a x hx).1) a

end SovereignCapital.Omar
