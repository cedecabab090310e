import SovereignCapital.Lib.Episodes
import SovereignCapital.Lib.Runs
import SovereignCapital.Recovery.Observe

/-! # The recovery history

What a run of observations keeps of each component.

* `sound_run` : whatever is observed, the log is a sequence of episodes and `degraded_count`
  counts them.
* `history_iff` : the history fields are right in every state exactly when each component recovers
  at most once and the callers name no other times.
* `second_recovery` : the second recovery is stored with the time of the first.
-/

namespace SovereignCapital.Recovery

open Episodes Runs
open scoped Computability

/-! ## What is kept -/

def Dated (p : Payload) : Prop :=
  p.historyStatus = .recovered →
    p.historyDegradedSinceTsMs < p.historyRecoveredAtTsMs
      ∧ p.historyRecoveredAtTsMs = p.lastRecoveredTsMs

/-- What the history of a component is good for. -/
structure Kept (repo : Repository) (component : String) : Prop where
  episodes : repo.log component ∈ (episode EventType.blocked .blockedUpdate .recovered)∗
  counted : (repo.load component).degradedCount = (repo.log component).count .blocked
  dated : Dated (repo.load component)

/-- A payload beside the log of its component. -/
structure Sound (p : Payload) (log : List EventType) : Prop where
  episodes : Log .blocked .blockedUpdate .recovered p.isDegraded log
  counted : p.degradedCount = log.count .blocked
  since : p.isDegraded = true → 0 < p.degradedSinceTsMs ∧ p.degradedSinceTsMs ≤ p.updatedTsMs
  cleared : p.isDegraded = true → p.historyRecoveredAtTsMs = 0
  recovered : 0 ≤ p.lastRecoveredTsMs ∧ p.lastRecoveredTsMs ≤ p.updatedTsMs
  status : p.historyStatus = if p.isDegraded then .blocked
    else if 0 < p.lastRecoveredTsMs then .recovered else .steady

theorem sound_missing : Sound .missing [] where
  episodes := Log.nil
  counted := rfl
  since := fun h => by cases h
  cleared := fun _ => rfl
  recovered := ⟨le_refl _, le_refl _⟩
  status := rfl

/-! ## One observation -/

section

variable {p : Payload} {log : List EventType} {o : Observation}

theorem Sound.starts_eq (h : Sound p log) : starts o p = (o.degraded && !p.isDegraded) := by
  cases hp : p.isDegraded with
  | false => simp [starts, hp]
  | true =>
    have := (h.since hp).1
    simp [starts, hp, this]

/-- The log after one observation, one case a transition. -/
theorem Sound.next_log (h : Sound p log) :
    Log .blocked .blockedUpdate .recovered o.degraded (log ++ (eventType o p).toList)
      ∧ (nextPayload o p).degradedCount = (log ++ (eventType o p).toList).count .blocked := by
  have hlog := h.episodes
  have hcount := h.counted
  simp only [nextPayload, h.starts_eq]
  cases hp : p.isDegraded <;> rw [hp] at hlog <;> cases ho : o.degraded
  · -- healthy, and still healthy
    have hevent : eventType o p = none := by simp [eventType, recovering, ho, hp]
    rw [hevent]
    exact ⟨by simpa using hlog, by simpa using hcount⟩
  · have hevent : eventType o p = some .blocked := by simp [eventType, ho, hp]
    rw [hevent]
    refine ⟨hlog.begin', ?_⟩
    simp [List.count_append, hcount]
  · have hevent : eventType o p = some .recovered := by simp [eventType, recovering, ho, hp]
    rw [hevent]
    refine ⟨hlog.close, ?_⟩
    simp [List.count_append, hcount]
  · -- degraded, and still degraded: an update, or nothing
    by_cases hchanged : materialContextChanged o p = true
    · have hevent : eventType o p = some .blockedUpdate := by
        simp [eventType, recovering, ho, hp, hchanged]
      rw [hevent]
      refine ⟨hlog.update, ?_⟩
      simp [List.count_append, hcount]
    · have hevent : eventType o p = none := by simp [eventType, recovering, ho, hp, hchanged]
      rw [hevent]
      exact ⟨by simpa using hlog, by simpa using hcount⟩

/-- A later observation keeps all of it. -/
theorem Sound.next (h : Sound p log) (hpos : 0 < o.tsMs) (hlater : p.updatedTsMs < o.tsMs) :
    Sound (nextPayload o p) (log ++ (eventType o p).toList) where
  episodes := h.next_log.1
  counted := h.next_log.2
  since := by
    intro ho
    have ho : o.degraded = true := ho
    simp only [nextPayload, nextDegradedSince, h.starts_eq]
    cases hp : p.isDegraded with
    | false => simp [ho, hpos]
    | true =>
      have := h.since hp
      simp only [ho, Bool.not_true, Bool.and_false, Bool.false_eq_true, if_false, if_true]
      omega
  cleared := by
    intro ho
    have ho : o.degraded = true := ho
    simp [nextPayload, historyRecoveredAt, recovering, ho]
  recovered := by
    have := h.recovered
    simp only [nextPayload, nextLastRecovered]
    split <;> omega
  status := rfl

/-! ## The times of the history -/

/-- The observation leaves the times of its component right: a first recovery without another time
named, or a later look at it that names no other. -/
def Settles (o : Observation) (p : Payload) : Prop :=
  let recoveredAt := intLike (o.payloadExtras.get "history_recovered_at_ts_ms")
  let degradedSince := intLike (o.payloadExtras.get "history_degraded_since_ts_ms")
  o.degraded = false →
    if p.isDegraded then
      p.lastRecoveredTsMs = 0 ∧ (recoveredAt ≤ 0 ∨ recoveredAt = o.tsMs)
    else p.lastRecoveredTsMs = 0
      ∨ ((recoveredAt ≤ 0 ∨ recoveredAt = p.lastRecoveredTsMs)
        ∧ (degradedSince ≤ 0 ∨ degradedSince < p.lastRecoveredTsMs))

theorem Sound.dated_recovery (h : Sound p log) (hpos : 0 < o.tsMs)
    (hlater : p.updatedTsMs < o.tsMs) (ho : o.degraded = false) (hp : p.isDegraded = true) :
    Dated (nextPayload o p) ↔ Settles o p := by
  have hrec : recovering o p = true := by simp [recovering, ho, hp]
  have hsince : historyDegradedSince o p = p.degradedSinceTsMs := by
    rw [historyDegradedSince, hrec]
    exact (pickInt_cons_of_pos (by simpa using (h.since hp).1) _).trans (intLike_int _)
  have hearlier : p.degradedSinceTsMs < o.tsMs := by
    have := (h.since hp).2
    omega
  have hstatus : (nextPayload o p).historyStatus = .recovered := by
    simp [nextPayload, canonicalHistoryStatus, nextLastRecovered, ho, hrec, hpos]
  have hat : historyRecoveredAt o p
      = if 0 < p.lastRecoveredTsMs then p.lastRecoveredTsMs
        else if 0 < intLike (o.payloadExtras.get "history_recovered_at_ts_ms")
          then intLike (o.payloadExtras.get "history_recovered_at_ts_ms") else o.tsMs := by
    simp [historyRecoveredAt, hrec, pickInt, h.cleared hp, hpos]
  have hbefore := h.recovered
  unfold Dated Settles
  rw [hstatus]
  simp only [nextPayload, nextLastRecovered, hsince, hat, hrec, ho, hp, if_true, forall_const]
  split <;> rename_i hlast
  · constructor <;> intro hdated <;> omega
  · split <;> rename_i hgiven <;> constructor <;> intro hdated <;> omega

/-- A look at a component that is well and was. -/
theorem Sound.dated_again (h : Sound p log) (hdated : Dated p) (ho : o.degraded = false)
    (hp : p.isDegraded = false) : Dated (nextPayload o p) ↔ Settles o p := by
  have hrec : recovering o p = false := by simp [recovering, hp]
  have hstatus : (nextPayload o p).historyStatus
      = if 0 < p.lastRecoveredTsMs then .recovered else .steady := by
    simp [nextPayload, canonicalHistoryStatus, nextLastRecovered, ho, hrec]
  by_cases hlast : 0 < p.lastRecoveredTsMs
  · have htimes := hdated (by rw [h.status, hp, if_neg (by simp), if_pos hlast])
    unfold Dated Settles
    rw [hstatus, if_pos hlast]
    simp only [nextPayload, nextLastRecovered, historyDegradedSince, historyRecoveredAt, hrec, ho,
      hp, Bool.false_eq_true, if_false, pickInt, intLike_int, forall_const]
    split <;> split <;> constructor <;> intro hnext <;> grind
  · have hzero : p.lastRecoveredTsMs = 0 := by
      have := h.recovered.1
      omega
    refine ⟨fun _ _ => by simp [hp, hzero], fun _ hnext => ?_⟩
    rw [hstatus, if_neg hlast] at hnext
    cases hnext

/-- While a component is right, an observation keeps it right exactly when it settles it. -/
theorem Sound.dated_iff (h : Sound p log) (hdated : Dated p) (hpos : 0 < o.tsMs)
    (hlater : p.updatedTsMs < o.tsMs) : Dated (nextPayload o p) ↔ Settles o p := by
  cases ho : o.degraded with
  | false =>
    cases hp : p.isDegraded with
    | false => exact h.dated_again hdated ho hp
    | true => exact h.dated_recovery hpos hlater ho hp
  | true =>
    refine ⟨fun _ hwell => by simp [ho] at hwell, fun _ hnext => ?_⟩
    simp [nextPayload, canonicalHistoryStatus, ho] at hnext

end

/-! ## Runs -/

def Later (repo : Repository) (o : Observation) : Prop :=
  0 < o.tsMs ∧ ∀ component, (repo.load component).updatedTsMs < o.tsMs

def Increasing (calls : List Observation) : Prop :=
  (∀ o ∈ calls, 0 < o.tsMs) ∧ (calls.map Observation.tsMs).Pairwise (· < ·)

def AllSound (repo : Repository) : Prop :=
  ∀ component, Sound (repo.load component) (repo.log component)

theorem allSound_empty : AllSound .empty := fun _ => sound_missing

theorem allSound_observe (repo : Repository) (o : Observation) (h : AllSound repo)
    (hlater : Later repo o) : AllSound (observe repo o) := by
  intro component
  by_cases hname : component = o.name
  · subst hname
    rw [load_observe_self, log_observe_self]
    exact (h o.name).next hlater.1 (hlater.2 o.name)
  · rw [load_observe_of_ne repo hname, log_observe_of_ne repo hname]
    exact h component

theorem later_of_increasing {repo : Repository} {calls : List Observation}
    (hstored : ∀ o ∈ calls, ∀ component, (repo.load component).updatedTsMs < o.tsMs)
    (h : Increasing calls) : AllSteps observe Later repo calls := by
  induction calls generalizing repo with
  | nil => trivial
  | cons o calls ih =>
    obtain ⟨hpos, hpairs⟩ := h
    obtain ⟨hfirst, hrest⟩ := List.pairwise_cons.1 (List.map_cons ▸ hpairs)
    refine ⟨⟨hpos o List.mem_cons_self, hstored o List.mem_cons_self⟩, ih ?_
      ⟨fun o' ho' => hpos o' (List.mem_cons_of_mem o ho'), hrest⟩⟩
    intro o' ho' component
    by_cases hname : component = o.name
    · subst hname
      rw [load_observe_self]
      exact hfirst o'.tsMs (List.mem_map.2 ⟨o', ho', rfl⟩)
    · rw [load_observe_of_ne repo hname]
      exact hstored o' (List.mem_cons_of_mem o ho') component

theorem Increasing.later {calls : List Observation} (h : Increasing calls) :
    AllSteps observe Later .empty calls :=
  later_of_increasing (fun o ho _ => h.1 o ho) h

theorem AllSound.kept {repo : Repository} (h : AllSound repo) {component : String}
    (hdated : Dated (repo.load component)) : Kept repo component :=
  ⟨(h component).episodes.mem_episodes, (h component).counted, hdated⟩

theorem dated_observe_iff (repo : Repository) (o : Observation) (h : AllSound repo)
    (hdated : ∀ component, Dated (repo.load component)) (hlater : Later repo o) :
    (∀ component, Dated ((observe repo o).load component)) ↔ Settles o (repo.load o.name) := by
  have hself : Dated ((observe repo o).load o.name) ↔ Settles o (repo.load o.name) := by
    rw [load_observe_self]
    exact (h o.name).dated_iff (hdated o.name) hlater.1 (hlater.2 o.name)
  refine ⟨fun hall => hself.1 (hall o.name), fun hsettles component => ?_⟩
  by_cases hname : component = o.name
  · subst hname
    exact hself.2 hsettles
  · rw [load_observe_of_ne repo hname]
    exact hdated component

/-- **The recovery history.** In every state of a run every component is kept exactly when every
observation settles its own. -/
theorem history_iff (calls : List Observation) (h : Increasing calls) :
    (∀ reached, reached <+: calls → ∀ component, Kept (run observe .empty reached) component)
      ↔ AllSteps observe (fun repo o => Settles o (repo.load o.name)) .empty calls := by
  refine @reached_iff _ _ observe Later _
    (fun repo => AllSound repo ∧ ∀ component, Dated (repo.load component))
    (fun repo => ∀ component, Kept repo component) ?_ ?_ ?_ .empty ?_ calls h.later
  · exact fun repo hinv component => hinv.1.kept (hinv.2 component)
  · exact fun repo o hinv hlater hsettles =>
      ⟨allSound_observe repo o hinv.1 hlater,
        (dated_observe_iff repo o hinv.1 hinv.2 hlater).2 hsettles⟩
  · exact fun repo o hinv hlater hkept =>
      (dated_observe_iff repo o hinv.1 hinv.2 hlater).1 fun component => (hkept component).dated
  · refine ⟨allSound_empty, fun component hstatus => ?_⟩
    cases hstatus

def seen (degraded : Bool) (tsMs : Int) : Observation :=
  { component := "auto_trade_admission", degraded, tsMs
    context := ⟨"", "", "", "", []⟩, payloadExtras := .none }

theorem history_sample :
    Kept (run observe .empty [seen true 1, seen false 2]) "auto_trade_admission" :=
  (history_iff [seen true 1, seen false 2] ⟨by decide, by decide⟩).2
    ⟨fun h => (by cases h), fun _ => (by decide +kernel), trivial⟩
    [seen true 1, seen false 2] (List.prefix_refl _) "auto_trade_admission"

/-- The second recovery is at 4, and stored as the first, before the episode began. -/
theorem second_recovery :
    Increasing [seen true 1, seen false 2, seen true 3, seen false 4]
      ∧ ¬ Kept (run observe .empty [seen true 1, seen false 2, seen true 3, seen false 4])
          "auto_trade_admission" := by
  refine ⟨⟨by decide, by decide⟩, fun hkept => ?_⟩
  have hlate := hkept.dated (by decide +kernel)
  exact absurd hlate.1 (by decide +kernel)

end SovereignCapital.Recovery
