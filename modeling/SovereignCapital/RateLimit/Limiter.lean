import SovereignCapital.Lib.Dict
import SovereignCapital.Lib.Double
import SovereignCapital.Lib.LastRows
import SovereignCapital.Lib.SlidingWindow

/-! # The rate limiter

`_Limiter` of `ratelimit.py`. The stamps are doubles, and so is the cutoff, the double nearest to
the difference of the stamp and the window: a call is refused for the calls that were allowed from
that double on.
-/

namespace SovereignCapital.RateLimit

open LastRows SlidingWindow

structure Rule where
  window : ℚ
  maxRequests : ℤ

/-- `now - rule.window_s`. -/
def Rule.cutoff (rule : Rule) (now : ℚ) : ℚ := Double.nearest (now - rule.window)

section Limiter

variable {κ : Type} [DecidableEq κ]

/-- `_Limiter`: the oldest key comes first in `_hits`. -/
structure Limiter (κ : Type) where
  maxKeys : ℤ
  hits : Dict κ (List ℚ)

/-- `popitem(last=False)`; nothing where the dictionary is empty. -/
def popOldest (hits : Dict κ (List ℚ)) : Option (Dict κ (List ℚ)) :=
  if hits.entries = [] then none
  else some ⟨hits.entries.tail, hits.nodup.sublist ((List.tail_sublist _).map Prod.fst)⟩

/-- The other keys: a key that is stored moves to the end, for a new one the oldest key may go. -/
def Limiter.others (limiter : Limiter κ) (key : κ) : Option (Dict κ (List ℚ)) :=
  if limiter.hits.contains key then some (limiter.hits.erase key)
  else if limiter.maxKeys ≤ limiter.hits.entries.length then popOldest limiter.hits
  else some limiter.hits

def Limiter.queue (limiter : Limiter κ) (key : κ) : List ℚ := limiter.hits.getD key []

/-- `allow`; nothing where it raises. -/
def Limiter.allow (limiter : Limiter κ) (key : κ) (rule : Rule) (now : ℚ) :
    Option (Limiter κ × Bool) :=
  (limiter.others key).map fun others =>
    let kept := prune (rule.cutoff now) (limiter.queue key)
    if rule.maxRequests ≤ kept.length then ({ limiter with hits := others.set key kept }, false)
    else ({ limiter with hits := others.set key (kept ++ [now]) }, true)

/-! ## Runs -/

structure Call (κ : Type) where
  key : κ
  now : ℚ
  isDouble : Double.nearest now = now

structure Outcome (κ : Type) extends Call κ where
  allowed : Bool

structure Trace (κ : Type) where
  limiter : Limiter κ
  log : List (Outcome κ)

/-- `_Limiter(max_keys)`. -/
def Trace.fresh (maxKeys : ℤ) : Trace κ := ⟨⟨maxKeys, Dict.empty⟩, []⟩

def Trace.step (rule : κ → Rule) (trace : Trace κ) (call : Call κ) : Option (Trace κ) :=
  (trace.limiter.allow call.key (rule call.key) call.now).map fun answer =>
    ⟨answer.1, trace.log ++ [⟨call, answer.2⟩]⟩

def run (rule : κ → Rule) (trace : Trace κ) (calls : List (Call κ)) : Option (Trace κ) :=
  calls.foldlM (Trace.step rule) trace

def allowedAt (key : κ) (log : List (Outcome κ)) : List ℚ :=
  (log.filter fun outcome => decide (outcome.key = key) && outcome.allowed).map fun o => o.now

/-! ## One call -/

omit [DecidableEq κ] in
theorem popOldest_spec {hits others : Dict κ (List ℚ)} (h : popOldest hits = some others) :
    others.entries = hits.entries.tail ∧ hits.entries ≠ [] := by
  unfold popOldest at h
  split at h
  · cases h
  · rename_i hne
    cases h
    exact ⟨rfl, hne⟩

theorem others_isSome {limiter : Limiter κ} (h : 1 ≤ limiter.maxKeys) (key : κ) :
    ∃ others, limiter.others key = some others := by
  unfold Limiter.others popOldest
  split
  · exact ⟨_, rfl⟩
  · split
    · rename_i hfull
      have hne : limiter.hits.entries ≠ [] := by
        intro hnil
        rw [hnil, List.length_nil] at hfull
        omega
      rw [if_neg hne]
      exact ⟨_, rfl⟩
    · exact ⟨_, rfl⟩

theorem length_others_lt {limiter : Limiter κ} {key : κ} {others : Dict κ (List ℚ)}
    (h : limiter.others key = some others) (hmax : 1 ≤ limiter.maxKeys)
    (hbound : (limiter.hits.entries.length : ℤ) ≤ limiter.maxKeys) :
    (others.entries.length : ℤ) < limiter.maxKeys := by
  unfold Limiter.others at h
  split at h
  · rename_i hcontains
    cases h
    have hmem : key ∈ limiter.hits.entries.map Prod.fst :=
      (Dict.mem_keys_iff limiter.hits).2 hcontains
    obtain ⟨entry, hentry, rfl⟩ := List.mem_map.1 hmem
    have hlt : (limiter.hits.erase entry.1).entries.length < limiter.hits.entries.length :=
      List.length_filter_lt_length_iff_exists.2 ⟨entry, hentry, by simp⟩
    omega
  · split at h
    · obtain ⟨hentries, hne⟩ := popOldest_spec h
      have hpos := List.length_pos_of_ne_nil hne
      rw [hentries, List.length_tail]
      omega
    · cases h
      omega

/-- Unless a key must go, the other keys keep their stamps. -/
theorem get?_others {limiter : Limiter κ} {key : κ} {others : Dict κ (List ℚ)}
    (h : limiter.others key = some others)
    (hroom : limiter.hits.contains key = true ∨
      (limiter.hits.entries.length : ℤ) < limiter.maxKeys) {other : κ} (hne : other ≠ key) :
    others.get? other = limiter.hits.get? other := by
  unfold Limiter.others at h
  split at h
  · cases h
    rw [Dict.get?_erase, if_neg hne]
  · rename_i hcontains
    rw [if_neg (not_le.2 (hroom.resolve_left hcontains))] at h
    cases h
    rfl

theorem contains_of_others {limiter : Limiter κ} {key : κ} {others : Dict κ (List ℚ)}
    (h : limiter.others key = some others) {other : κ} (hother : others.contains other = true) :
    limiter.hits.contains other = true := by
  rw [← Dict.mem_keys_iff] at hother ⊢
  have hsub : others.entries.Sublist limiter.hits.entries := by
    unfold Limiter.others at h
    split at h
    · cases h
      exact List.filter_sublist
    · split at h
      · rw [(popOldest_spec h).1]
        exact List.tail_sublist _
      · cases h
        exact List.Sublist.refl _
  exact (hsub.map Prod.fst).subset hother

/-- What a call does: the pruned stamps decide, and its own stamp joins them where it is allowed. -/
theorem allow_spec {limiter limiter' : Limiter κ} {key : κ} {rule : Rule} {now : ℚ} {ok : Bool}
    (h : limiter.allow key rule now = some (limiter', ok)) :
    ∃ others, limiter.others key = some others ∧ limiter'.maxKeys = limiter.maxKeys ∧
      limiter'.hits = others.set key (prune (rule.cutoff now) (limiter.queue key)
        ++ if ok then [now] else []) ∧
      (ok = false ↔ rule.maxRequests ≤ (prune (rule.cutoff now) (limiter.queue key)).length) := by
  unfold Limiter.allow at h
  obtain ⟨others, hothers, hanswer⟩ := Option.map_eq_some_iff.1 h
  refine ⟨others, hothers, ?_⟩
  dsimp only at hanswer
  by_cases hfull : rule.maxRequests ≤ (prune (rule.cutoff now) (limiter.queue key)).length
  · rw [if_pos hfull] at hanswer
    cases hanswer
    exact ⟨rfl, by simp, by simp [hfull]⟩
  · rw [if_neg hfull] at hanswer
    cases hanswer
    exact ⟨rfl, by simp, by simp [hfull]⟩

theorem allowedAt_append (key : κ) (log : List (Outcome κ)) (outcome : Outcome κ) :
    allowedAt key (log ++ [outcome]) = allowedAt key log
      ++ if outcome.key = key ∧ outcome.allowed = true then [outcome.now] else [] := by
  rw [allowedAt, List.filter_append, List.map_append, allowedAt]
  by_cases h : outcome.key = key ∧ outcome.allowed = true
  · rw [if_pos h]
    simp [h]
  · rw [if_neg h]
    simp [h]

theorem exists_of_mem_allowedAt {key : κ} {log : List (Outcome κ)} {t : ℚ}
    (h : t ∈ allowedAt key log) : ∃ outcome ∈ log, outcome.now = t := by
  obtain ⟨outcome, hmem, rfl⟩ := List.mem_map.1 h
  exact ⟨outcome, (List.mem_filter.1 hmem).1, rfl⟩

/-! ## What a run keeps -/

theorem Rule.cutoff_mono (rule : Rule) {t t' : ℚ} (h : t ≤ t') : rule.cutoff t ≤ rule.cutoff t' :=
  Double.nearest_mono (sub_le_sub_right h rule.window)

structure Bounded (maxKeys : ℤ) (trace : Trace κ) : Prop where
  maxKeys_eq : trace.limiter.maxKeys = maxKeys
  length_le : (trace.limiter.hits.entries.length : ℤ) ≤ maxKeys

theorem Bounded.step {maxKeys : ℤ} (hmax : 1 ≤ maxKeys) {trace : Trace κ}
    (h : Bounded maxKeys trace) (rule : κ → Rule) (call : Call κ) :
    ∃ trace', trace.step rule call = some trace' ∧ Bounded maxKeys trace' := by
  obtain ⟨others, hothers⟩ := others_isSome (h.maxKeys_eq ▸ hmax) call.key
  obtain ⟨answer, hanswer⟩ : ∃ answer, trace.limiter.allow call.key (rule call.key) call.now
      = some answer := by
    rw [Limiter.allow, hothers]
    exact ⟨_, rfl⟩
  have hlt := length_others_lt hothers (h.maxKeys_eq ▸ hmax) (h.maxKeys_eq ▸ h.length_le)
  obtain ⟨others', hothers', hmaxKeys, hhits, -⟩ := allow_spec hanswer
  cases hothers.symm.trans hothers'
  refine ⟨_, by rw [Trace.step, hanswer]; rfl, hmaxKeys.trans h.maxKeys_eq, ?_⟩
  have hset := others.length_set call.key
    (prune ((rule call.key).cutoff call.now) (trace.limiter.queue call.key)
      ++ if answer.2 then [call.now] else [])
  rw [h.maxKeys_eq] at hlt
  show (answer.1.hits.entries.length : ℤ) ≤ maxKeys
  rw [hhits, hset]
  split <;> omega

/-- Where no key goes, the queues stand for all calls that were allowed. -/
structure Faithful (rule : κ → Rule) (keys : Finset κ) (trace : Trace κ) : Prop where
  stored : ∀ key, trace.limiter.hits.contains key = true → key ∈ keys
  keeps : ∀ key now, (∀ outcome ∈ trace.log, outcome.now ≤ now) →
    Keeps ((rule key).cutoff now) (trace.limiter.queue key) (allowedAt key trace.log)
  admitted : ∀ key,
    Admitted (rule key).cutoff (rule key).maxRequests.toNat (allowedAt key trace.log)
  refused : ∀ before refused after, trace.log = before ++ refused :: after →
    refused.allowed = false →
      (rule refused.key).maxRequests
        ≤ (since ((rule refused.key).cutoff refused.now) (allowedAt refused.key before)).length

theorem faithful_fresh (rule : κ → Rule) (keys : Finset κ) (maxKeys : ℤ) :
    Faithful rule keys (Trace.fresh maxKeys) where
  stored key h := by simp [Trace.fresh, Dict.contains] at h
  keeps key now _ := keeps_nil _
  admitted key := .nil
  refused before refused after h := by simp [Trace.fresh] at h

theorem Faithful.room {rule : κ → Rule} {keys : Finset κ} {trace : Trace κ}
    (h : Faithful rule keys trace) {key : κ} (hkey : key ∈ keys)
    (hcard : (keys.card : ℤ) ≤ trace.limiter.maxKeys) :
    trace.limiter.hits.contains key = true ∨
      (trace.limiter.hits.entries.length : ℤ) < trace.limiter.maxKeys := by
  by_cases hcontains : trace.limiter.hits.contains key = true
  · exact .inl hcontains
  · refine .inr ?_
    have hsub : (trace.limiter.hits.entries.map Prod.fst).toFinset ⊆ keys.erase key := by
      intro other hother
      rw [List.mem_toFinset, Dict.mem_keys_iff] at hother
      exact Finset.mem_erase.2 ⟨fun heq => hcontains (heq ▸ hother), h.stored other hother⟩
    have hle := Finset.card_le_card hsub
    rw [List.toFinset_card_of_nodup trace.limiter.hits.nodup, List.length_map,
      Finset.card_erase_of_mem hkey] at hle
    have hpos := Finset.card_pos.2 ⟨key, hkey⟩
    omega

theorem Faithful.le_of_mem_prune {rule : κ → Rule} {keys : Finset κ} {trace : Trace κ}
    (h : Faithful rule keys trace) (key : κ) {now : ℚ}
    (hlog : ∀ outcome ∈ trace.log, outcome.now ≤ now) :
    ∀ t ∈ prune ((rule key).cutoff now) (trace.limiter.queue key), t ≤ now := by
  intro t ht
  rw [(h.keeps key now hlog).prune_eq] at ht
  obtain ⟨outcome, hmem, rfl⟩ := exists_of_mem_allowedAt (List.mem_filter.1 ht).1
  exact hlog outcome hmem

/-- **One call.** The stamps come in order and all keys have a place. -/
theorem Faithful.step {rule : κ → Rule} {keys : Finset κ} {trace trace' : Trace κ}
    (h : Faithful rule keys trace) {call : Call κ} (hkey : call.key ∈ keys)
    (hcard : (keys.card : ℤ) ≤ trace.limiter.maxKeys)
    (hlog : ∀ outcome ∈ trace.log, outcome.now ≤ call.now)
    (hstep : trace.step rule call = some trace') : Faithful rule keys trace' := by
  obtain ⟨⟨limiter, ok⟩, hanswer, rfl⟩ := Option.map_eq_some_iff.1 hstep
  obtain ⟨others, hothers, -, hhits, hok⟩ := allow_spec hanswer
  have hkeeps := h.keeps call.key call.now hlog
  have hpruned := hkeeps.prune_eq
  have hqueue : ∀ key, limiter.queue key = if key = call.key then
      prune ((rule call.key).cutoff call.now) (trace.limiter.queue call.key)
        ++ if ok then [call.now] else [] else trace.limiter.queue key := by
    intro key
    rw [Limiter.queue, hhits, Dict.getD, Dict.get?_set]
    by_cases heq : key = call.key
    · rw [if_pos heq, if_pos heq, Option.getD_some]
    · rw [if_neg heq, if_neg heq, get?_others hothers (h.room hkey hcard) heq]
      rfl
  refine ⟨fun key hstored => ?_, fun key now hnow => ?_, fun key => ?_,
    fun before refused after hsplit hrefused => ?_⟩
  · by_cases heq : key = call.key
    · exact heq ▸ hkey
    · have hget : others.contains key = true := by
        have hboth : (others.set call.key _).contains key = true := hhits ▸ hstored
        rwa [Dict.contains, Dict.get?_set_of_ne _ _ heq] at hboth
      exact h.stored key (contains_of_others hothers hget)
  · have hbefore : ∀ outcome ∈ trace.log, outcome.now ≤ now := fun outcome hmem =>
      hnow outcome (List.mem_append_left _ hmem)
    have hlast : call.now ≤ now :=
      hnow ⟨call, ok⟩ (List.mem_append_right _ (List.mem_singleton.2 rfl))
    show Keeps _ (limiter.queue key) (allowedAt key (trace.log ++ [⟨call, ok⟩]))
    rw [hqueue, allowedAt_append]
    by_cases heq : key = call.key
    · subst heq
      rw [if_pos rfl]
      cases ok with
      | false => simpa using hkeeps.prune.mono ((rule call.key).cutoff_mono hlast)
      | true =>
        have happend := hkeeps.prune.append (h.le_of_mem_prune call.key hlog)
        simpa using happend.mono ((rule call.key).cutoff_mono hlast)
    · rw [if_neg heq, if_neg fun hboth => heq hboth.1.symm, List.append_nil]
      exact h.keeps key now hbefore
  · show Admitted _ _ (allowedAt key (trace.log ++ [⟨call, ok⟩]))
    rw [allowedAt_append]
    by_cases hjoin : call.key = key ∧ ok = true
    · obtain ⟨rfl, rfl⟩ := hjoin
      rw [if_pos ⟨rfl, rfl⟩]
      have hfree : (prune ((rule call.key).cutoff call.now)
          (trace.limiter.queue call.key)).length < (rule call.key).maxRequests := by
        rw [← not_le, ← hok]
        simp
      refine .snoc (h.admitted call.key) ?_
      rw [← hpruned]
      omega
    · rw [if_neg hjoin, List.append_nil]
      exact h.admitted key
  · -- the refused call is the last one, or it was refused before
    rcases List.eq_nil_or_concat' after with rfl | ⟨front, last, rfl⟩
    · obtain ⟨rfl, hlast⟩ := List.append_inj' hsplit rfl
      obtain rfl : (⟨call, ok⟩ : Outcome κ) = refused := List.singleton_inj.1 hlast
      rw [← hpruned]
      exact hok.1 hrefused
    · rw [← List.cons_append, ← List.append_assoc] at hsplit
      exact h.refused before refused front (List.append_inj' hsplit rfl).1 hrefused

/-! ## Runs of the limiter -/

theorem run_concat (rule : κ → Rule) (trace : Trace κ) (calls : List (Call κ)) (call : Call κ) :
    run rule trace (calls ++ [call])
      = (run rule trace calls).bind fun trace => trace.step rule call := by
  rw [run, List.foldlM_append]
  show (run rule trace calls).bind (fun trace => [call].foldlM (Trace.step rule) trace) = _
  refine Option.bind_congr fun trace _ => ?_
  rw [List.foldlM_cons]
  exact bind_pure (trace.step rule call)

/-- **Every run** of a limiter for one key or more goes through, and keeps what its calls keep. -/
theorem exists_run {maxKeys : ℤ} (hmax : 1 ≤ maxKeys) (rule : κ → Rule) {calls : List (Call κ)}
    (hordered : calls.Pairwise fun a b => a.now ≤ b.now) :
    ∃ trace, run rule (Trace.fresh maxKeys) calls = some trace ∧
      trace.log.map Outcome.toCall = calls ∧ Bounded maxKeys trace ∧
      ∀ keys : Finset κ, (∀ call ∈ calls, call.key ∈ keys) → (keys.card : ℤ) ≤ maxKeys →
        Faithful rule keys trace := by
  induction calls using List.reverseRecOn with
  | nil =>
    have hempty : ((Trace.fresh maxKeys : Trace κ).limiter.hits.entries.length : ℤ) ≤ maxKeys :=
      le_trans (by simp [Trace.fresh, Dict.empty]) hmax
    exact ⟨Trace.fresh maxKeys, rfl, rfl, ⟨rfl, hempty⟩,
      fun keys _ _ => faithful_fresh rule keys maxKeys⟩
  | append_singleton calls call ih =>
    obtain ⟨hbefore, -, hlast⟩ := List.pairwise_append.1 hordered
    obtain ⟨trace, hrun, hlog, hbounded, hfaithful⟩ := ih hbefore
    obtain ⟨trace', hstep, hbounded'⟩ := hbounded.step hmax rule call
    have hstamps : ∀ outcome ∈ trace.log, outcome.now ≤ call.now := fun outcome hmem =>
      hlast outcome.toCall (hlog ▸ List.mem_map_of_mem hmem) call List.mem_cons_self
    refine ⟨trace', by rw [run_concat, hrun, Option.bind_some, hstep], ?_, hbounded',
      fun keys hkeys hcard => ?_⟩
    · obtain ⟨answer, -, rfl⟩ := Option.map_eq_some_iff.1 hstep
      simp [hlog]
    · have hkeysBefore : ∀ c ∈ calls, c.key ∈ keys := fun c hc =>
        hkeys c (List.mem_append_left _ hc)
      exact (hfaithful keys hkeysBefore hcard).step
        (hkeys call (List.mem_append_right _ List.mem_cons_self))
        (hbounded.maxKeys_eq ▸ hcard) hstamps hstep

theorem Rule.cutoff_le_of_window (rule : Rule) {start x t : ℚ} (hx : Double.nearest x = x)
    (hstart : start ≤ x) (ht : t ≤ start + rule.window) : rule.cutoff t ≤ x :=
  calc rule.cutoff t ≤ Double.nearest x := Double.nearest_mono (by linarith)
    _ = x := hx

theorem nearest_of_mem_allowedAt {key : κ} {log : List (Outcome κ)} {t : ℚ}
    (h : t ∈ allowedAt key log) : Double.nearest t = t := by
  obtain ⟨outcome, -, rfl⟩ := exists_of_mem_allowedAt h
  exact outcome.isDouble

/-- No window of the length of the rule holds more allowed calls than the rule says. -/
theorem Faithful.countP_window_le {rule : κ → Rule} {keys : Finset κ} {trace : Trace κ}
    (h : Faithful rule keys trace) (key : κ) (start : ℚ) :
    ((allowedAt key trace.log).countP fun t =>
        decide (start ≤ t ∧ t ≤ start + (rule key).window)) ≤ (rule key).maxRequests.toNat := by
  -- the stamps are doubles, so the window may ask for doubles as well
  have hdoubles : ((allowedAt key trace.log).countP fun t =>
      decide (start ≤ t ∧ t ≤ start + (rule key).window))
        = (allowedAt key trace.log).countP fun t =>
          decide (Double.nearest t = t ∧ start ≤ t ∧ t ≤ start + (rule key).window) := by
    refine List.countP_congr fun t ht => ?_
    simp [nearest_of_mem_allowedAt ht]
  rw [hdoubles]
  refine (h.admitted key).countP_le fun x t hx ht => ?_
  simp only [decide_eq_true_eq] at hx ht
  exact (rule key).cutoff_le_of_window hx.1 hx.2.1 ht.2.2

/-- **The limiter over a whole run.** -/
theorem rate_limit_run (maxKeys : ℤ) (rule : κ → Rule) (calls : List (Call κ))
    (hmax : 1 ≤ maxKeys) (hordered : calls.Pairwise fun a b => a.now ≤ b.now) :
    ∃ trace, run rule (Trace.fresh maxKeys) calls = some trace ∧
      trace.log.map Outcome.toCall = calls ∧
      (trace.limiter.hits.entries.length : ℤ) ≤ maxKeys ∧
      (((calls.map Call.key).toFinset.card : ℤ) ≤ maxKeys → ∀ key,
        (∀ start, (((allowedAt key trace.log).countP fun t =>
            decide (start ≤ t ∧ t ≤ start + (rule key).window) : ℕ) : ℤ)
              ≤ max 0 (rule key).maxRequests) ∧
        ∀ before refused after, trace.log = before ++ refused :: after → refused.key = key →
          refused.allowed = false →
            (rule key).maxRequests
              ≤ (since (Double.nearest (refused.now - (rule key).window))
                (allowedAt key before)).length) := by
  obtain ⟨trace, hrun, hlog, hbounded, hfaithful⟩ := exists_run hmax rule hordered
  refine ⟨trace, hrun, hlog, hbounded.length_le, fun hcard key => ?_⟩
  have hkeys : ∀ call ∈ calls, call.key ∈ (calls.map Call.key).toFinset := fun call hcall =>
    List.mem_toFinset.2 (List.mem_map_of_mem hcall)
  have hsound := hfaithful _ hkeys hcard
  refine ⟨fun start => ?_, fun before refused after hsplit hkey hrefused => ?_⟩
  · have hle := hsound.countP_window_le key start
    omega
  · subst hkey
    exact hsound.refused before refused after hsplit hrefused

/-! ## The keys that are stored -/

def Limiter.keys (limiter : Limiter κ) : List κ := limiter.hits.entries.map Prod.fst

theorem keys_allow {limiter limiter' : Limiter κ} {key : κ} {rule : Rule} {now : ℚ} {ok : Bool}
    (h : limiter.allow key rule now = some (limiter', ok)) :
    limiter'.maxKeys = limiter.maxKeys ∧
    limiter'.keys = (if key ∈ limiter.keys then limiter.keys.erase key
      else if limiter.maxKeys ≤ limiter.keys.length then limiter.keys.tail
      else limiter.keys) ++ [key] := by
  obtain ⟨others, hothers, hmaxKeys, hhits, -⟩ := allow_spec h
  have hkeys : others.entries.map Prod.fst = if key ∈ limiter.keys then limiter.keys.erase key
      else if limiter.maxKeys ≤ limiter.keys.length then limiter.keys.tail
      else limiter.keys := by
    unfold Limiter.others at hothers
    unfold Limiter.keys
    rw [List.length_map]
    by_cases hmem : limiter.hits.contains key = true
    · rw [if_pos hmem] at hothers
      cases hothers
      rw [if_pos (limiter.hits.mem_keys_iff.2 hmem), limiter.hits.nodup.erase_eq_filter,
        List.filter_map]
      refine congrArg (List.map Prod.fst) (List.filter_congr fun e _ => ?_)
      by_cases he : e.1 = key <;> simp [he]
    · rw [if_neg hmem] at hothers
      rw [if_neg fun hin => hmem (limiter.hits.mem_keys_iff.1 hin)]
      split at hothers
      · rename_i hfull
        rw [if_pos hfull, (popOldest_spec hothers).1, List.map_tail]
      · rename_i hroom
        cases hothers
        rw [if_neg hroom]
  have hnew : key ∉ others.entries.map Prod.fst := by
    rw [hkeys]
    have hnodup : limiter.keys.Nodup := limiter.hits.nodup
    split
    · exact hnodup.not_mem_erase
    · rename_i hmem
      split
      · exact fun hin => hmem (List.mem_of_mem_tail hin)
      · exact hmem
  refine ⟨hmaxKeys, ?_⟩
  rw [← hkeys, Limiter.keys, hhits]
  show (Dict.assign key _ others.entries).map Prod.fst = _
  rw [Dict.keys_assign, if_neg hnew]

/-- **The limiter forgets the key that was used least recently.** After every run, whatever the
stamps and the rules, it has the keys that were used last, as many as it has room for. -/
theorem keys_run (maxKeys : ℤ) (rule : κ → Rule) (calls : List (Call κ)) (hmax : 1 ≤ maxKeys) :
    ∃ trace, run rule (Trace.fresh maxKeys) calls = some trace ∧ trace.limiter.maxKeys = maxKeys ∧
      trace.limiter.keys = lastRows maxKeys.toNat (calls.map Call.key).dedup := by
  induction calls using List.reverseRecOn with
  | nil => exact ⟨_, rfl, rfl, List.drop_nil.symm⟩
  | append_singleton calls call ih =>
    obtain ⟨trace, hrun, hmaxKeys, hkeys⟩ := ih
    obtain ⟨others, hothers⟩ := others_isSome (by rwa [hmaxKeys]) call.key
    obtain ⟨⟨limiter, ok⟩, hanswer⟩ : ∃ answer, trace.limiter.allow call.key (rule call.key)
        call.now = some answer := by
      rw [Limiter.allow, hothers]
      exact ⟨_, rfl⟩
    obtain ⟨hmaxKeys', hkeys'⟩ := keys_allow hanswer
    refine ⟨_, by rw [run_concat, hrun, Option.bind_some, Trace.step, hanswer, Option.map_some],
      hmaxKeys'.trans hmaxKeys, ?_⟩
    have huse := lastRows_use (show 1 ≤ maxKeys.toNat by omega)
      (List.nodup_dedup (calls.map Call.key)) call.key
    rw [List.map_append, List.map_singleton, dedup_concat, huse]
    rw [hkeys, hmaxKeys] at hkeys'
    simpa [Int.toNat_le] using hkeys'

def visits : List (Call ℕ) :=
  [0, 1, 0, 2].map fun key => ⟨key, 0, by decide +kernel⟩

theorem keys_run_visits : ∃ trace, run (fun _ => ⟨10, 1⟩) (Trace.fresh 2) visits = some trace ∧
    trace.limiter.maxKeys = 2 ∧ trace.limiter.keys = [0, 2] :=
  keys_run 2 (fun _ => ⟨10, 1⟩) visits (by decide)

end Limiter

/-! ## A window of a tenth of a second -/

def tenthRule : Rule := ⟨Double.nearest (1 / 10), 1⟩

def tenthCalls : List (Call Unit) :=
  [⟨(), 1, by decide +kernel⟩, ⟨(), Double.nearest (11 / 10), by decide +kernel⟩]

/-- The second call is refused, and no call was allowed in the window before it: the cutoff is
rounded down to the stamp of the first call. -/
theorem refused_after_window :
    ((run (fun _ => tenthRule) (Trace.fresh 1) tenthCalls).map fun trace =>
      (trace.log.map Outcome.allowed, (allowedAt () trace.log).countP fun t =>
        decide (Double.nearest (11 / 10) - tenthRule.window ≤ t)))
      = some ([true, false], 0) := by
  decide +kernel

theorem rate_limit_run_tenth :
    ∃ trace, run (fun _ => tenthRule) (Trace.fresh 1) tenthCalls = some trace ∧
      trace.log.map Outcome.toCall = tenthCalls ∧
      (trace.limiter.hits.entries.length : ℤ) ≤ 1 ∧
      (((tenthCalls.map Call.key).toFinset.card : ℤ) ≤ 1 → ∀ key,
        (∀ start, (((allowedAt key trace.log).countP fun t =>
            decide (start ≤ t ∧ t ≤ start + tenthRule.window) : ℕ) : ℤ)
              ≤ max 0 tenthRule.maxRequests) ∧
        ∀ before refused after, trace.log = before ++ refused :: after → refused.key = key →
          refused.allowed = false →
            tenthRule.maxRequests
              ≤ (since (Double.nearest (refused.now - tenthRule.window))
                (allowedAt key before)).length) :=
  rate_limit_run 1 (fun _ => tenthRule) tenthCalls (by decide) (by decide +kernel)

end SovereignCapital.RateLimit
