import SovereignCapital.Lib.Runs
import SovereignCapital.Lineage.Identity

/-! # Lineage is written once

`Stated` says which identities a pair has: each fact stands under all its names alike. The first
part follows the facts through each call, the second the fields of `canonical_lineage`.

* `writeOnce_iff` : in a run from a coherent pair nothing is lost exactly when no decision
  identity is ensured over a lineage that carries more than a decision's own fields.
* `sizing_lost` : a second `ensure_decision_identity` drops the sizing.
-/

namespace SovereignCapital.Lineage

open Bytes Aliases Runs

/-! ## Names -/

/-- A text as `_text` leaves it. -/
structure Name where
  val : String
  nonempty : val ≠ ""
  stripped : pyStrip val.toList = val.toList

def Name.value (n : Name) : PyValue := .text n.val

theorem Name.truthy (n : Name) : Truthy n.value := by
  simpa [Truthy, Name.value, PyValue.truthy] using n.nonempty

theorem Name.text_value (n : Name) : text n.value = n.val := by
  rw [text, PyValue.orElse_of_truthy _ n.truthy, Name.value, PyValue.str, n.stripped,
    String.ofList_toList]

theorem not_truthy_none : ¬ Truthy .none := by decide

theorem text_of_not_truthy {v : PyValue} (h : ¬ Truthy v) : text v = "" := by
  have hfalsy : v.truthy = false := by simpa [Truthy] using h
  rw [text, PyValue.orElse_of_falsy _ hfalsy]
  rfl

/-- What `_text` returns is empty or a name. -/
theorem text_cases (v : PyValue) : text v = "" ∨ ∃ n : Name, n.val = text v := by
  by_cases h : text v = ""
  · exact Or.inl h
  · exact Or.inr ⟨⟨text v, h, by simp [text]⟩, rfl⟩

theorem stableId_name {kind : String} (hkind : kind.toList.all (fun c => !isPySpace c) = true)
    (parts : List PyValue) : ∃ n : Name, n.val = stableId kind parts := by
  refine ⟨⟨stableId kind parts, ?_, ?_⟩, rfl⟩
  · intro hempty
    have hlist := congrArg String.toList hempty
    simp [stableId] at hlist
  · refine pyStrip_eq_self fun c hc => ?_
    simp only [stableId, String.toList_ofList, List.mem_append, List.mem_cons] at hc
    rcases hc with hc | rfl | hc
    · simpa using List.all_eq_true.1 hkind c hc
    · decide
    · exact isPySpace_toHex _ c (List.mem_of_mem_take hc)

/-! ## Facts -/

def decisionIdPlaces : Places Place :=
  ⟨[.brain "canonical_decision_id", .lineage "decision_id", .decision "canonical_decision_id",
      .decision "decision_id"],
    [.decisionLineage "decision_id", .executionLineage "decision_id",
      .pendingLineage "decision_id"]⟩

def correlationIdPlaces : Places Place :=
  ⟨[.brain "correlation_id", .lineage "correlation_id", .decision "correlation_id"],
    [.decisionLineage "correlation_id", .executionLineage "correlation_id",
      .pendingLineage "correlation_id"]⟩

def fingerprintPlaces : Places Place :=
  ⟨[.brain "intent_fingerprint", .lineage "intent_fingerprint", .decision "intent_fingerprint"],
    []⟩

def sizingIdPlaces : Places Place :=
  ⟨[.brain "sizing_id", .lineage "sizing_id", .decision "sizing_id"],
    [.sizing, .decisionLineage "sizing_id", .executionLineage "sizing_id",
      .pendingLineage "sizing_id"]⟩

def intentPlaces : Places IntentPlace := ⟨[.brain, .lineage, .decision], []⟩

structure Identities where
  decisionId : Option Name
  correlationId : Option Name
  fingerprint : Option Name
  sizingId : Option Name
  operatorIntent : Option { d : PyDict // d.entries ≠ [] }

/-- Which identities a pair has, and that its lineages are as the three functions leave them. -/
structure Stated (p : Pair) (ids : Identities) : Prop where
  decisionId : Stands Truthy p.value decisionIdPlaces (ids.decisionId.map Name.value)
  correlationId : Stands Truthy p.value correlationIdPlaces (ids.correlationId.map Name.value)
  fingerprint : Stands Truthy p.value fingerprintPlaces (ids.fingerprint.map Name.value)
  sizingId : Stands Truthy p.value sizingIdPlaces (ids.sizingId.map Name.value)
  operatorIntent : Stands Intent.Truthy p.intent intentPlaces
    (ids.operatorIntent.map fun d => .mapping d.1)
  /-- the time of creation is an integer -/
  dated : ∀ v, p.info.canonicalLineage.fields.get "created_at_ms" = v → Truthy v →
    v.int?.isSome = true
  /-- a fingerprint or an intent that is stored in the lineage is not empty -/
  tidy : (p.info.canonicalLineage.fields.contains "intent_fingerprint" = true →
      Truthy (p.value (.lineage "intent_fingerprint")))
    ∧ (p.info.canonicalLineage.operatorIntent ≠ .missing →
      Intent.Truthy p.info.canonicalLineage.operatorIntent)
    ∧ p.info.canonicalLineage.fields.contains "operator_intent" = false
  /-- a sizing that is pending is one of the opportunity -/
  pending : Truthy (p.value (.pendingLineage "sizing_id")) →
    ∃ i ∈ [Place.brain "sizing_id", .lineage "sizing_id", .sizing], Truthy (p.value i)
  minted : ∀ i ∈ p.minted, ids.decisionId.map Name.val = some i.decisionId
    ∧ ids.correlationId.map Name.val = some i.correlationId

/-- A pair that no identity of another contradicts. -/
def Coherent (p : Pair) : Prop := ∃ ids, Stated p ids

variable {order : List Place} {key : String} {call : Call} {calls : List Call}

theorem text_first {p : Pair} {places : Places Place} {o : Option Name}
    (h : Stands Truthy p.value places (o.map Name.value))
    (horder : ∀ i, i ∈ order ↔ i ∈ places.read) :
    text (p.first order) = (o.map Name.val).getD "" := by
  cases o with
  | none =>
    refine text_of_not_truthy (h.not_present not_truthy_none fun i hi => ?_)
    exact Places.mem_all_of_read ((horder i).1 hi)
  | some n =>
    have hfirst : p.first order = n.value := h.firstOf_eq horder
    rw [hfirst]
    exact n.text_value

/-! ## What is kept -/

/-- What a pair carries stays: the facts in all their places, and the keys of the lineage. -/
structure Preserved (p p' : Pair) : Prop where
  decisionId : Keeps Truthy p.value p'.value decisionIdPlaces
  correlationId : Keeps Truthy p.value p'.value correlationIdPlaces
  fingerprint : Keeps Truthy p.value p'.value fingerprintPlaces
  sizingId : Keeps Truthy p.value p'.value sizingIdPlaces
  operatorIntent : Keeps Intent.Truthy p.intent p'.intent intentPlaces
  lineage : ∀ key, p.info.canonicalLineage.Has key → p'.info.canonicalLineage.Has key

theorem Preserved.refl (p : Pair) : Preserved p p :=
  ⟨Keeps.refl, Keeps.refl, Keeps.refl, Keeps.refl, Keeps.refl, fun _ h => h⟩

theorem Preserved.trans {p₁ p₂ p₃ : Pair} (h : Preserved p₁ p₂) (h' : Preserved p₂ p₃) :
    Preserved p₁ p₃ where
  decisionId := h.decisionId.trans h'.decisionId
  correlationId := h.correlationId.trans h'.correlationId
  fingerprint := h.fingerprint.trans h'.fingerprint
  sizingId := h.sizingId.trans h'.sizingId
  operatorIntent := h.operatorIntent.trans h'.operatorIntent
  lineage := fun key hkey => h'.lineage key (h.lineage key hkey)

/-- A fact and what stood at its places, after a step. -/
def Carried (p p' : Pair) (places : Places Place) (o : Option Name) : Prop :=
  Stands Truthy p'.value places (o.map Name.value) ∧ Keeps Truthy p.value p'.value places

def CarriedIntent (p p' : Pair) (o : Option { d : PyDict // d.entries ≠ [] }) : Prop :=
  Stands Intent.Truthy p'.intent intentPlaces (o.map fun d => .mapping d.1)
    ∧ Keeps Intent.Truthy p.intent p'.intent intentPlaces

/-! ## One call -/

section

variable {p : Pair} {ids : Identities}

theorem Stated.sized (h : Stated p ids) (n : Name)
    (hn : ids.sizingId = none ∨ ids.sizingId = some n) (approved : Option PyValue) :
    Stated (sized p n.val approved) { ids with sizingId := some n }
      ∧ Preserved p (sized p n.val approved) := by
  have hwrites : ∀ i ∈ sizingIdPlaces.all, Same Truthy (p.value i)
      ((Lineage.sized p n.val approved).value i)
        ∨ (Lineage.sized p n.val approved).value i = n.value := by
    cases approved <;> cases hd : p.decision <;>
      simp [Places.forall_all, sizingIdPlaces, Pair.value, Lineage.sized, Name.value, Same.refl, hd]
  have hother : ∀ places ∈ [decisionIdPlaces, correlationIdPlaces, fingerprintPlaces],
      ∀ i ∈ places.all, Same Truthy (p.value i) ((Lineage.sized p n.val approved).value i) := by
    cases approved <;> cases hd : p.decision <;>
      simp [Places.forall_all, decisionIdPlaces, correlationIdPlaces, fingerprintPlaces, Pair.value,
        Lineage.sized, Same.refl, hd]
  have hintent : ∀ i ∈ intentPlaces.all, Same Intent.Truthy (p.intent i)
      ((Lineage.sized p n.val approved).intent i) := by
    cases approved <;> cases hd : p.decision <;>
      simp [intentPlaces, Pair.intent, Lineage.sized, Same.refl, hd]
  simp only [List.forall_mem_cons, List.not_mem_nil, IsEmpty.forall_iff, implies_true,
    and_true] at hother
  have hsizing : Carried p (Lineage.sized p n.val approved) sizingIdPlaces (some n) := by
    have hstands := h.sizingId
    rcases hn with hnone | hsome
    · rw [hnone] at hstands
      exact hstands.first n.truthy hwrites
        ⟨.brain "sizing_id", by simp [sizingIdPlaces],
          by simp [Pair.value, Lineage.sized, Name.value]⟩
    · rw [hsome] at hstands
      exact hstands.rewrite hwrites
  have hdecision := h.decisionId.untouched hother.1
  have hcorrelation := h.correlationId.untouched hother.2.1
  have hfingerprint := h.fingerprint.untouched hother.2.2
  have hoperator := h.operatorIntent.untouched hintent
  refine ⟨⟨hdecision.1, hcorrelation.1, hfingerprint.1, hsizing.1, hoperator.1, ?_, ?_, ?_,
    h.minted⟩, ⟨hdecision.2, hcorrelation.2, hfingerprint.2, hsizing.2, hoperator.2, ?_⟩⟩
  · have := h.dated
    cases approved <;> simpa [Lineage.sized] using this
  · have := h.tidy
    cases approved <;> simpa [Lineage.sized, Pair.value] using this
  · intro _
    refine ⟨.brain "sizing_id", by simp, ?_⟩
    have : (Lineage.sized p n.val approved).value (.brain "sizing_id") = n.value := by
      simp [Pair.value, Lineage.sized, Name.value]
    exact this ▸ n.truthy
  · intro key hkey
    cases approved <;> simp [Lineage.sized, Record.Has] at hkey ⊢ <;> tauto

theorem text_of_mem {places : Places Place} {n : Name}
    (h : Stands Truthy p.value places (some n.value)) (horder : ∀ i ∈ order, i ∈ places.all) :
    text (p.first order) = n.val ∨ (text (p.first order) = ""
      ∧ ∀ i ∈ order, ¬ Truthy (p.value i)) := by
  have hread : p.first order = n.value ∨ ∀ i ∈ order, ¬ Truthy (p.value i) :=
    h.firstOf_of_mem horder
  rcases hread with hfirst | hnone
  · left
    rw [hfirst, n.text_value]
  · right
    refine ⟨text_of_not_truthy (not_present_firstOf not_truthy_none fun v hv => ?_), hnone⟩
    obtain ⟨i, hi, rfl⟩ := List.mem_map.1 hv
    exact hnone i hi

/-- What the call writes at the places of a sizing: the sizing of the opportunity, a pending one
made anew, and the sizing of the decision. -/
theorem executed_sizing (p : Pair) (i : ExecutionIdentity) (sid : String)
    (hopp : (sid ≠ "" ∧ text (p.first [.brain "sizing_id", .lineage "sizing_id", .sizing]) = sid)
      ∨ (text (p.first [.brain "sizing_id", .lineage "sizing_id", .sizing]) = ""
        ∧ ¬ Truthy (p.value (.pendingLineage "sizing_id"))))
    (hdecision : (sid ≠ "" ∧ text (p.value (.decision "sizing_id")) = sid)
      ∨ text (p.value (.decision "sizing_id")) = "") :
    ∀ j ∈ sizingIdPlaces.all, Same Truthy (p.value j) ((attachExecutionIdentity p i).value j)
      ∨ (sid ≠ "" ∧ (attachExecutionIdentity p i).value j = .text sid) := by
  have hlineage : Same Truthy (p.value (.lineage "sizing_id"))
      ((attachExecutionIdentity p i).value (.lineage "sizing_id"))
        ∨ (sid ≠ "" ∧ (attachExecutionIdentity p i).value (.lineage "sizing_id") = .text sid) := by
    rcases hopp with ⟨hne, hsid⟩ | ⟨hsid, -⟩
    · exact Or.inr ⟨hne, by simp [Pair.value, attachExecutionIdentity, hsid, hne]⟩
    · refine Or.inl (Or.inl ?_)
      simp [Pair.value, attachExecutionIdentity, putExecution, hsid]
  have hpending : Same Truthy (p.value (.pendingLineage "sizing_id"))
      ((attachExecutionIdentity p i).value (.pendingLineage "sizing_id"))
        ∨ (sid ≠ "" ∧ (attachExecutionIdentity p i).value (.pendingLineage "sizing_id")
          = .text sid) := by
    rcases hopp with ⟨hne, hsid⟩ | ⟨hsid, hnot⟩
    · exact Or.inr ⟨hne, by simp [Pair.value, attachExecutionIdentity, hsid, hne]⟩
    · refine Or.inl (Or.inr ⟨hnot, ?_⟩)
      simp [Pair.value, attachExecutionIdentity, putExecution, hsid, not_truthy_none]
  have hexecution : Same Truthy (p.value (.executionLineage "sizing_id"))
      ((attachExecutionIdentity p i).value (.executionLineage "sizing_id"))
        ∨ (sid ≠ "" ∧ (attachExecutionIdentity p i).value (.executionLineage "sizing_id")
          = .text sid) := by
    cases hdec : p.decision with
    | none => exact Or.inl (Or.inl (by simp [Pair.value, attachExecutionIdentity, hdec]))
    | some d =>
      simp only [Pair.value, hdec, Option.map_some, Option.getD_some] at hdecision
      rcases hdecision with ⟨hne, hsid⟩ | hsid
      · exact Or.inr ⟨hne, by simp [Pair.value, attachExecutionIdentity, hdec, hsid, hne]⟩
      · refine Or.inl (Or.inl ?_)
        simp [Pair.value, attachExecutionIdentity, putExecution, hdec, hsid]
  have hrest : ∀ j ∈ [Place.brain "sizing_id", .decision "sizing_id", .sizing,
      .decisionLineage "sizing_id"], (attachExecutionIdentity p i).value j = p.value j := by
    cases hdec : p.decision <;> simp [Pair.value, attachExecutionIdentity, putCanonical, hdec]
  intro j hj
  simp only [Places.all, sizingIdPlaces, List.cons_append, List.nil_append, List.mem_cons,
    List.not_mem_nil, or_false] at hj
  rcases hj with rfl | rfl | rfl | rfl | rfl | rfl | rfl
  · exact Or.inl (Or.inl (hrest _ (by simp)))
  · exact hlineage
  · exact Or.inl (Or.inl (hrest _ (by simp)))
  · exact Or.inl (Or.inl (hrest _ (by simp)))
  · exact Or.inl (Or.inl (hrest _ (by simp)))
  · exact hexecution
  · exact hpending

theorem Stated.executed_sizing (h : Stated p ids) (i : ExecutionIdentity) :
    Carried p (attachExecutionIdentity p i) sizingIdPlaces ids.sizingId := by
  have hstands := h.sizingId
  have horder : ∀ j ∈ [Place.brain "sizing_id", .lineage "sizing_id", .sizing],
      j ∈ sizingIdPlaces.all := by simp [Places.all, sizingIdPlaces]
  have hmem : ∀ j ∈ [Place.decision "sizing_id"], j ∈ sizingIdPlaces.all := by
    simp [Places.all, sizingIdPlaces]
  cases hids : ids.sizingId with
  | none =>
    -- nothing stands anywhere, and nothing is written
    rw [hids] at hstands
    have hsid : text (p.first [.brain "sizing_id", .lineage "sizing_id", .sizing]) = "" :=
      text_of_not_truthy (hstands.not_present not_truthy_none horder)
    have hpending : ¬ Truthy (p.value (.pendingLineage "sizing_id")) :=
      hstands _ (by simp [Places.all, sizingIdPlaces])
    have hdecision : text (p.value (.decision "sizing_id")) = "" :=
      text_of_not_truthy (hstands _ (hmem _ (by simp)))
    have hwrites := Lineage.executed_sizing p i "" (Or.inr ⟨hsid, hpending⟩)
      (Or.inr hdecision)
    exact hstands.untouched fun j hj => (hwrites j hj).resolve_right fun hne => hne.1 rfl
  | some n =>
    rw [hids] at hstands
    have hopp := text_of_mem hstands horder
    have hdecision := text_of_mem hstands hmem
    have hwrites := Lineage.executed_sizing p i n.val
      (hopp.imp (fun hsid => ⟨n.nonempty, hsid⟩) fun hnone => ⟨hnone.1, fun hp => by
        obtain ⟨j, hj, hpresent⟩ := h.pending hp
        exact hnone.2 j hj hpresent⟩)
      (hdecision.imp (fun hsid => ⟨n.nonempty, hsid⟩) And.left)
    exact hstands.rewrite fun j hj => (hwrites j hj).imp_right And.right

/-- An identity that was made for the pair names what the pair has. -/
theorem Stated.executed (h : Stated p ids) {i : ExecutionIdentity} (hi : i ∈ p.minted) :
    Stated (attachExecutionIdentity p i) ids ∧ Preserved p (attachExecutionIdentity p i) := by
  obtain ⟨hd, hc⟩ := h.minted i hi
  obtain ⟨nd, hnd, hndval⟩ := Option.map_eq_some_iff.1 hd
  obtain ⟨nc, hnc, hncval⟩ := Option.map_eq_some_iff.1 hc
  have hdecision : Carried p (attachExecutionIdentity p i) decisionIdPlaces ids.decisionId := by
    have hstands := h.decisionId
    rw [hnd] at hstands ⊢
    refine hstands.rewrite ?_
    rw [show nd.value = .text i.decisionId from congrArg PyValue.text hndval]
    cases hdec : p.decision <;>
      simp [Places.forall_all, decisionIdPlaces, Pair.value, attachExecutionIdentity, putCanonical,
        putExecution, Same.refl, hdec]
  have hcorrelation : Carried p (attachExecutionIdentity p i) correlationIdPlaces
      ids.correlationId := by
    have hstands := h.correlationId
    rw [hnc] at hstands ⊢
    refine hstands.rewrite ?_
    rw [show nc.value = .text i.correlationId from congrArg PyValue.text hncval]
    cases hdec : p.decision <;>
      simp [Places.forall_all, correlationIdPlaces, Pair.value, attachExecutionIdentity,
        putCanonical, putExecution, Same.refl, hdec]
  have hfingerprint : Carried p (attachExecutionIdentity p i) fingerprintPlaces
      ids.fingerprint := by
    refine h.fingerprint.untouched ?_
    cases hdec : p.decision <;>
      simp [Places.forall_all, fingerprintPlaces, Pair.value, attachExecutionIdentity,
        putCanonical, putExecution, Same.refl, hdec]
  have hintent : CarriedIntent p (attachExecutionIdentity p i) ids.operatorIntent := by
    refine h.operatorIntent.untouched ?_
    cases hdec : p.decision <;>
      simp [intentPlaces, Pair.intent, attachExecutionIdentity, putCanonical, Same.refl, hdec]
  have hsizing := h.executed_sizing i
  refine ⟨⟨hdecision.1, hcorrelation.1, hfingerprint.1, hsizing.1, hintent.1, ?_, ?_, ?_,
    h.minted⟩, ⟨hdecision.2, hcorrelation.2, hfingerprint.2, hsizing.2, hintent.2, ?_⟩⟩
  · simpa [attachExecutionIdentity, putExecution] using h.dated
  · simpa [attachExecutionIdentity, putExecution, Pair.value] using h.tidy
  · intro hpending
    refine ⟨.lineage "sizing_id", by simp, ?_⟩
    by_cases hsid : text (p.first [.brain "sizing_id", .lineage "sizing_id", .sizing]) = ""
    · simp [Pair.value, attachExecutionIdentity, putExecution, hsid, not_truthy_none] at hpending
    · simpa [Pair.value, attachExecutionIdentity, putExecution, hsid] using hpending
  · intro key hkey
    simp only [Record.Has, attachExecutionIdentity, putSizing_contains, putExecution,
      contains_set, Bool.or_eq_true] at hkey ⊢
    tauto

/-! ### Ensuring the decision -/

theorem read_name {places : Places Place} {o : Option Name}
    (h : Stands Truthy p.value places (o.map Name.value))
    (horder : ∀ i, i ∈ order ↔ i ∈ places.read) (s : String) (hs : ∃ n : Name, n.val = s) :
    ∃ n : Name, n.val = orText (text (p.first order)) s ∧ (o = none ∨ o = some n) := by
  rw [text_first h horder]
  cases o with
  | none =>
    obtain ⟨n, hn⟩ := hs
    exact ⟨n, by simpa [orText] using hn, Or.inl rfl⟩
  | some n => exact ⟨n, by simp [orText, n.nonempty], Or.inr rfl⟩

theorem read_text {places : Places Place} {o : Option Name}
    (h : Stands Truthy p.value places (o.map Name.value))
    (horder : ∀ i, i ∈ order ↔ i ∈ places.read) (v : PyValue) :
    (o = none ∧ orText (text (p.first order)) (text v) = "")
      ∨ ∃ n : Name, n.val = orText (text (p.first order)) (text v) ∧ (o = none ∨ o = some n) := by
  rcases text_cases v with hempty | hname
  · rw [text_first h horder, hempty]
    cases o with
    | none => exact Or.inl ⟨rfl, by simp [orText]⟩
    | some n => exact Or.inr ⟨n, by simp [orText, n.nonempty], Or.inr rfl⟩
  · exact Or.inr (read_name h horder _ hname)

theorem carried_of_write {p' : Pair} {places : Places Place}
    {o : Option Name} (hstands : Stands Truthy p.value places (o.map Name.value)) {n : Name}
    (hn : o = none ∨ o = some n)
    (hwrites : ∀ i ∈ places.all, Same Truthy (p.value i) (p'.value i) ∨ p'.value i = n.value)
    (hread : ∃ i ∈ places.read, p'.value i = n.value) : Carried p p' places (some n) := by
  rcases hn with rfl | rfl
  · exact hstands.first n.truthy hwrites hread
  · exact hstands.rewrite hwrites

/-- The fields of a lineage that has just been ensured. -/
def ensuredKeys : List String :=
  ["decision_id", "correlation_id", "created_at_ms", "operator_intent", "intent_fingerprint"]

theorem not_truthy_of_not_has {r : Record} (h : ¬ r.Has key) : r.fields.get key = .none := by
  have hget : r.fields.get? key = none := by
    simpa [Dict.contains] using fun hc => h (Or.inl hc)
  simp [PyDict.get, Dict.getD, hget]

theorem Stated.ensured_ids (h : Stated p ids) (a : EnsureArgs) :
    ∃ nd nc : Name, nd.val = ensuredDecisionId p a ∧ nc.val = ensuredCorrelationId p a
      ∧ (ids.decisionId = none ∨ ids.decisionId = some nd)
      ∧ (ids.correlationId = none ∨ ids.correlationId = some nc) := by
  obtain ⟨nd, hnd, hd⟩ := read_name h.decisionId (fun i => Iff.rfl) (stableId "decision"
    [.text a.chainName, .int a.currentBlock, .text p.opportunityId, .text p.routeId])
    (stableId_name (by decide) _)
  obtain ⟨nc, hnc, hc⟩ := read_name h.correlationId (fun i => Iff.rfl)
    (stableId "corr" [.text (ensuredDecisionId p a), .text a.chainName])
    (stableId_name (by decide) _)
  exact ⟨nd, nc, hnd, hnc, hd, hc⟩

theorem Intent.not_truthy_missing : ¬ Intent.missing.Truthy := by decide

/-- The intent is the one that stands; where none does it may be the one that is given. -/
theorem Stated.snapshot (h : Stated p ids) (a : EnsureArgs) :
    (ids.operatorIntent = none ∧ (intentSnapshot p a).entries = [])
      ∨ ∃ d : { d : PyDict // d.entries ≠ [] }, d.1 = intentSnapshot p a
        ∧ (ids.operatorIntent = none ∨ ids.operatorIntent = some d) := by
  have hstands := h.operatorIntent
  cases hids : ids.operatorIntent with
  | none =>
    rw [hids] at hstands
    by_cases hempty : (intentSnapshot p a).entries = []
    · exact Or.inl ⟨rfl, hempty⟩
    · exact Or.inr ⟨⟨_, hempty⟩, rfl, Or.inl rfl⟩
  | some d =>
    rw [hids] at hstands
    have hfirst : firstOf Intent.Truthy .missing
        ([IntentPlace.brain, .lineage, .decision].map p.intent) = .mapping d.1 :=
      hstands.firstOf_eq fun i => Iff.rfl
    refine Or.inr ⟨d, ?_, Or.inr rfl⟩
    simp only [intentSnapshot, hfirst, Intent.dict, if_neg d.2]

theorem Stated.ensured_carries (h : Stated p ids) (a : EnsureArgs) (t : Int) {nd nc : Name}
    (hnd : nd.val = ensuredDecisionId p a) (hnc : nc.val = ensuredCorrelationId p a)
    (hd : ids.decisionId = none ∨ ids.decisionId = some nd)
    (hc : ids.correlationId = none ∨ ids.correlationId = some nc) :
    Carried p (ensured p a t) decisionIdPlaces (some nd)
      ∧ Carried p (ensured p a t) correlationIdPlaces (some nc) := by
  constructor
  · refine carried_of_write h.decisionId hd ?_
      ⟨.lineage "decision_id", by simp [decisionIdPlaces], ?_⟩
    · cases hdec : p.decision <;>
        simp [Places.forall_all, decisionIdPlaces, Pair.value, ensured, Record.name,
          ensuredLineage, PyDict.literal, Same.refl, hdec, Name.value, hnd]
    · simp [Pair.value, ensured, ensuredLineage, Name.value, hnd]
  · refine carried_of_write h.correlationId hc ?_
      ⟨.lineage "correlation_id", by simp [correlationIdPlaces], ?_⟩
    · cases hdec : p.decision <;>
        simp [Places.forall_all, correlationIdPlaces, Pair.value, ensured, Record.name,
          ensuredLineage, PyDict.literal, Same.refl, hdec, Name.value, hnc]
    · simp [Pair.value, ensured, ensuredLineage, Name.value, hnc]

theorem Stated.ensured_fingerprint (h : Stated p ids) (a : EnsureArgs) (t : Int) :
    ∃ o : Option Name, (o.map Name.val).getD "" = ensuredFingerprint p a
      ∧ (ids.fingerprint = none ∨ ids.fingerprint = o)
      ∧ Carried p (ensured p a t) fingerprintPlaces o := by
  rcases read_text h.fingerprint (fun i => Iff.rfl) a.intentFingerprint with
    ⟨hnone, hempty⟩ | ⟨n, hn, hids⟩
  · refine ⟨none, hempty.symm, Or.inl hnone, ?_⟩
    have hstands := h.fingerprint
    rw [hnone] at hstands
    have hlineage : Same Truthy (p.info.canonicalLineage.fields.get "intent_fingerprint") .none :=
      Or.inr ⟨hstands (.lineage "intent_fingerprint") (by simp [Places.all, fingerprintPlaces]),
        not_truthy_none⟩
    have hempty : ensuredFingerprint p a = "" := hempty
    refine hstands.untouched ?_
    cases hdec : p.decision <;>
      simp [Places.forall_all, fingerprintPlaces, Pair.value, ensured, Record.name,
        ensuredLineage, Same.refl, hdec, hempty, hlineage]
  · have hn : n.val = ensuredFingerprint p a := hn
    have hne : ensuredFingerprint p a ≠ "" := hn ▸ n.nonempty
    refine ⟨some n, hn, hids, carried_of_write h.fingerprint hids ?_
      ⟨.lineage "intent_fingerprint", by simp [fingerprintPlaces], ?_⟩⟩
    · cases hdec : p.decision <;>
        simp [Places.forall_all, fingerprintPlaces, Pair.value, ensured, Record.name,
          ensuredLineage, hdec, Same.refl, Name.value, hn, hne]
    · simp [Pair.value, ensured, ensuredLineage, Name.value, hn, hne]

theorem Stated.ensured_intent (h : Stated p ids) (a : EnsureArgs) (t : Int) :
    ∃ o, CarriedIntent p (ensured p a t) o
      ∧ (ids.operatorIntent = none ∨ ids.operatorIntent = o)
      ∧ (o = none ↔ (intentSnapshot p a).entries = []) := by
  have hstands := h.operatorIntent
  rcases h.snapshot a with ⟨hnone, hempty⟩ | ⟨d, hd, hids⟩
  · rw [hnone] at hstands
    have hlineage : Same Intent.Truthy p.info.canonicalLineage.operatorIntent .missing :=
      Or.inr ⟨hstands .lineage (by simp [Places.all, intentPlaces]), Intent.not_truthy_missing⟩
    refine ⟨none, hstands.untouched ?_, Or.inl hnone, by simp [hempty]⟩
    cases hdec : p.decision <;>
      simp [Places.forall_all, intentPlaces, Pair.intent, ensured, Record.name, ensuredLineage,
        Record.putIntent_operatorIntent, Same.refl, hdec, hempty, hlineage]
  · have hne : (intentSnapshot p a).entries ≠ [] := hd ▸ d.2
    have hwrites : ∀ i ∈ intentPlaces.all, Same Intent.Truthy (p.intent i)
        ((ensured p a t).intent i) ∨ (ensured p a t).intent i = .mapping d.1 := by
      cases hdec : p.decision <;>
        simp [Places.forall_all, intentPlaces, Pair.intent, ensured, Record.name, ensuredLineage,
          Record.putIntent_operatorIntent, Same.refl, hdec, hne, hd]
    refine ⟨some d, ?_, hids, by simp [hne]⟩
    rcases hids with hnone | hsome
    · rw [hnone] at hstands
      refine hstands.first d.2 hwrites ⟨.lineage, by simp [intentPlaces], ?_⟩
      simp [Pair.intent, ensured, ensuredLineage, Record.putIntent_operatorIntent, hne, hd]
    · rw [hsome] at hstands
      exact hstands.rewrite hwrites

/-- A decision may be ensured over this pair: the lineage has its own fields only, and that of the
decision no sizing. -/
def Bare (p : Pair) : Prop :=
  (∀ key, p.info.canonicalLineage.Has key → key ∈ ensuredKeys)
    ∧ ¬ Truthy (p.value (.decisionLineage "sizing_id"))

/-- Of the sizing nothing is written, and what is built anew did not have it. -/
theorem Stated.ensured_sizing (h : Stated p ids) (a : EnsureArgs) (t : Int) (hbare : Bare p) :
    Carried p (ensured p a t) sizingIdPlaces ids.sizingId := by
  have hlineage : p.info.canonicalLineage.fields.get "sizing_id" = .none :=
    not_truthy_of_not_has fun hhas => absurd (hbare.1 "sizing_id" hhas) (by decide)
  have hdecision := hbare.2
  refine h.sizingId.untouched ?_
  cases hdec : p.decision with
  | none =>
    simp [Places.forall_all, sizingIdPlaces, Pair.value, ensured, Record.name, ensuredLineage,
      Same.refl, hdec, hlineage]
  | some d =>
    simp only [Pair.value, hdec, Option.map_some, Option.getD_some] at hdecision
    have hsame : Same Truthy (d.decisionLineage.get "sizing_id") .none :=
      Or.inr ⟨hdecision, not_truthy_none⟩
    simp [Places.forall_all, sizingIdPlaces, Pair.value, ensured, Record.name, ensuredLineage,
      PyDict.literal, Same.refl, hdec, hlineage, hsame]

theorem ensuredLineage_has (p : Pair) (a : EnsureArgs) (t : Int) (key : String) :
    (ensuredLineage p a t).Has key ↔ key = "decision_id" ∨ key = "correlation_id"
      ∨ key = "created_at_ms" ∨ (key = "operator_intent" ∧ (intentSnapshot p a).entries ≠ [])
      ∨ (key = "intent_fingerprint" ∧ ensuredFingerprint p a ≠ "") := by
  have hintent : (ensuredLineage p a t).operatorIntent ≠ .missing
      ↔ (intentSnapshot p a).entries ≠ [] := by
    by_cases hempty : (intentSnapshot p a).entries = []
    · simp [ensuredLineage, Record.putIntent_operatorIntent, hempty]
    · simp [ensuredLineage, Record.putIntent_operatorIntent, hempty, Intent.missing]
  rw [Record.Has, hintent]
  simp only [ensuredLineage, Record.putText_contains, Record.putIntent_fields, Record.put_fields,
    contains_set, Record.empty_fields, contains_empty, Bool.or_eq_true, decide_eq_true_eq,
    Bool.false_eq_true, or_false]
  grind

theorem ensuredLineage_tidy (p : Pair) (a : EnsureArgs) (t : Int) :
    ((ensuredLineage p a t).fields.contains "intent_fingerprint" = true →
      Truthy ((ensuredLineage p a t).fields.get "intent_fingerprint"))
    ∧ ((ensuredLineage p a t).operatorIntent ≠ .missing →
      Intent.Truthy (ensuredLineage p a t).operatorIntent)
    ∧ (ensuredLineage p a t).fields.contains "operator_intent" = false := by
  refine ⟨fun hcontains => ?_, fun hmissing => ?_, by simp [ensuredLineage]⟩
  · have hne : ensuredFingerprint p a ≠ "" := by simpa [ensuredLineage] using hcontains
    simp [ensuredLineage, hne, Truthy, PyValue.truthy]
  · have hintent : (ensuredLineage p a t).operatorIntent
        = if (intentSnapshot p a).entries = [] then .missing else .mapping (intentSnapshot p a) := by
      simp only [ensuredLineage, Record.putText_operatorIntent, Record.putIntent_operatorIntent,
        Record.put_operatorIntent, Record.empty_operatorIntent]
    rw [hintent] at hmissing ⊢
    split at hmissing
    · exact absurd rfl hmissing
    · rename_i hempty
      rw [if_neg hempty]
      exact hempty

theorem mem_ensuredKeys {p : Pair} {a : EnsureArgs} {t : Int} (h : (ensuredLineage p a t).Has key) :
    key ∈ ensuredKeys := by
  simp only [ensuredKeys, List.mem_cons, List.not_mem_nil, or_false]
  rcases (ensuredLineage_has p a t key).1 h with hkey | hkey | hkey | hkey | hkey
  · exact Or.inl hkey
  · exact Or.inr (Or.inl hkey)
  · exact Or.inr (Or.inr (Or.inl hkey))
  · exact Or.inr (Or.inr (Or.inr (Or.inl hkey.1)))
  · exact Or.inr (Or.inr (Or.inr (Or.inr hkey.1)))

theorem Stated.ensuredLineage_has (h : Stated p ids) (a : EnsureArgs) (t : Int)
    {fp : Option Name} (hfp : (fp.map Name.val).getD "" = ensuredFingerprint p a)
    (hfpids : ids.fingerprint = none ∨ ids.fingerprint = fp)
    {intent : Option { d : PyDict // d.entries ≠ [] }}
    (hids : ids.operatorIntent = none ∨ ids.operatorIntent = intent)
    (hsnapshot : intent = none ↔ (intentSnapshot p a).entries = []) (hbare : Bare p) (key : String)
    (hkey : p.info.canonicalLineage.Has key) : (ensuredLineage p a t).Has key := by
  refine (Lineage.ensuredLineage_has p a t key).2 ?_
  have hmem := hbare.1 key hkey
  simp only [ensuredKeys, List.mem_cons, List.not_mem_nil, or_false] at hmem
  rcases hmem with hmem | hmem | hmem | hmem | hmem
  · exact Or.inl hmem
  · exact Or.inr (Or.inl hmem)
  · exact Or.inr (Or.inr (Or.inl hmem))
  · refine Or.inr (Or.inr (Or.inr (Or.inl ⟨hmem, fun hempty => ?_⟩)))
    have hnot : p.info.canonicalLineage.fields.contains key ≠ true := by
      rw [hmem, h.tidy.2.2]
      exact Bool.false_ne_true
    have hmissing := (hkey.resolve_left hnot).2
    have hstands := h.operatorIntent
    rw [hids.elim id fun heq => heq.trans (hsnapshot.2 hempty)] at hstands
    exact hstands .lineage (by simp [Places.all, intentPlaces]) (h.tidy.2.1 hmissing)
  · refine Or.inr (Or.inr (Or.inr (Or.inr ⟨hmem, fun hempty => ?_⟩)))
    have hcontains : p.info.canonicalLineage.fields.contains key = true :=
      hkey.resolve_right fun hintent => absurd (hmem.symm.trans hintent.1) (by decide)
    rw [hmem] at hcontains
    have hnone : ids.fingerprint = none := by
      refine hfpids.elim id fun heq => heq.trans ?_
      cases fp with
      | none => rfl
      | some n => exact absurd (hfp.trans hempty) n.nonempty
    have hstands := h.fingerprint
    rw [hnone] at hstands
    exact hstands (.lineage "intent_fingerprint") (by simp [Places.all, fingerprintPlaces])
      (h.tidy.1 hcontains)

theorem Stated.ensured_pending (h : Stated p ids) (a : EnsureArgs) (t : Int) (hbare : Bare p)
    (hpending : Truthy ((Lineage.ensured p a t).value (.pendingLineage "sizing_id"))) :
    ∃ i ∈ [Place.brain "sizing_id", .lineage "sizing_id", .sizing],
      Truthy ((Lineage.ensured p a t).value i) := by
  rw [ensured_pendingLineage] at hpending
  obtain ⟨i, hi, hpresent⟩ := h.pending hpending
  simp only [List.mem_cons, List.not_mem_nil, or_false] at hi
  rcases hi with rfl | rfl | rfl
  · refine ⟨.brain "sizing_id", by simp, ?_⟩
    have hsame : (Lineage.ensured p a t).value (.brain "sizing_id")
        = p.value (.brain "sizing_id") := by simp [Lineage.ensured, Pair.value, Record.name]
    rw [hsame]
    exact hpresent
  · have hlineage : p.value (.lineage "sizing_id") = .none :=
      not_truthy_of_not_has fun hhas => absurd (hbare.1 "sizing_id" hhas) (by decide)
    rw [hlineage] at hpresent
    exact absurd hpresent not_truthy_none
  · refine ⟨.sizing, by simp, ?_⟩
    rw [ensured_sizingId]
    exact hpresent

theorem Stated.ensured (h : Stated p ids) (a : EnsureArgs) (t : Int) (hbare : Bare p) :
    (∃ ids', Stated (ensured p a t) ids') ∧ Preserved p (ensured p a t) := by
  obtain ⟨nd, nc, hnd, hnc, hd, hc⟩ := h.ensured_ids a
  obtain ⟨hdecision, hcorrelation⟩ := h.ensured_carries a t hnd hnc hd hc
  obtain ⟨fp, hfp, hfpids, hfingerprint⟩ := h.ensured_fingerprint a t
  obtain ⟨intent, hintent, hintentids, hsnapshot⟩ := h.ensured_intent a t
  have hsizing := h.ensured_sizing a t hbare
  refine ⟨⟨⟨some nd, some nc, fp, ids.sizingId, intent⟩, hdecision.1, hcorrelation.1,
    hfingerprint.1, hsizing.1, hintent.1, ?_, ?_, h.ensured_pending a t hbare, ?_⟩,
    ⟨hdecision.2, hcorrelation.2, hfingerprint.2, hsizing.2, hintent.2, ?_⟩⟩
  · -- the time of creation
    intro v hv _
    have hget : (ensuredLineage p a t).fields.get "created_at_ms" = .int t := by
      simp [ensuredLineage]
    rw [ensured_canonicalLineage, hget] at hv
    rw [← hv]
    rfl
  · rw [ensured_canonicalLineage, Pair.value, ensured_canonicalLineage]
    exact ensuredLineage_tidy p a t
  · intro i hi
    rw [ensured_minted] at hi
    obtain ⟨hdi, hci⟩ := h.minted i hi
    rcases hd with hnone | hsome
    · rw [hnone] at hdi
      cases hdi
    · rcases hc with hnone' | hsome'
      · rw [hnone'] at hci
        cases hci
      · exact ⟨hsome ▸ hdi, hsome' ▸ hci⟩
  · rw [ensured_canonicalLineage]
    exact h.ensuredLineage_has a t hfp hfpids hintentids hsnapshot hbare

/-- Over a pair that is not bare something is lost. -/
theorem bare_of_preserved (a : EnsureArgs) (t : Int) (h : Preserved p (Lineage.ensured p a t)) :
    Bare p := by
  constructor
  · intro key hkey
    have hkept := h.lineage key hkey
    rw [ensured_canonicalLineage] at hkept
    exact mem_ensuredKeys hkept
  · intro hpresent
    have hkeeps := h.sizingId (.decisionLineage "sizing_id")
      (by simp [Places.all, sizingIdPlaces]) hpresent
    rw [← hkeeps, ensured_decisionLineage p a t (by decide)] at hpresent
    exact not_truthy_none hpresent

/-- The time of creation can be read. -/
theorem Stated.ensure_ok (h : Stated p ids) (a : EnsureArgs) :
    ∃ t, ensureDecisionIdentity p a = .ok (Lineage.ensured p a t) := by
  have hread : ((p.value (.lineage "created_at_ms")).orElse (.int a.nowMs)).int?.isSome := by
    by_cases hpresent : Truthy (p.value (.lineage "created_at_ms"))
    · rw [PyValue.orElse_of_truthy _ hpresent]
      exact h.dated _ rfl hpresent
    · have hfalsy : (p.value (.lineage "created_at_ms")).truthy = false := by
        simpa [Truthy] using hpresent
      rw [PyValue.orElse_of_falsy _ hfalsy]
      rfl
  obtain ⟨t, ht⟩ := Option.isSome_iff_exists.1 hread
  exact ⟨t, by rw [ensureDecisionIdentity, ht]⟩

end

/-! ## Calls -/

/-- An execution identity was made for the pair. -/
def Lawful (p : Pair) : Call → Prop
  | .attachExecution i => i ∈ p.minted
  | _ => True

/-- A decision is ensured over a bare pair only. -/
def Fits (p : Pair) : Call → Prop
  | .ensure _ => Bare p
  | _ => True

def placed (p : Pair) : Call → String → Option PyValue
  | .attachSizing sizingId approved, key =>
    if key = "approved_notional_usd" ∧ (attachSizingIdentity p sizingId approved).isOk then
      approved
    else none
  | .attachExecution i, key =>
    if key = "execution_id" then some (.text i.executionId) else none
  | _, _ => none

/-- A conflicting sizing is refused and changes nothing, and what is placed in the lineage stays
until it is placed again. -/
structure Answers (p : Pair) (call : Call) : Prop where
  rejects : ∀ sizingId approved, call = .attachSizing sizingId approved →
    (∃ i ∈ sizingIdPlaces.all, Truthy (p.value i) ∧ text (p.value i) ≠ text sizingId) →
      (attachSizingIdentity p sizingId approved).isOk = false ∧ step p call = p
  places : ∀ key ∈ ["approved_notional_usd", "execution_id"],
    (step p call).info.canonicalLineage.fields.get? key
      = (placed p call key).or (p.info.canonicalLineage.fields.get? key)

/-- Nothing that a pair carries is lost in a run, between any two of its states. -/
structure WriteOnce (start : Pair) (calls : List Call) : Prop where
  preserved : ∀ before after, before ++ after <+: calls →
    Preserved (run step start before) (run step start (before ++ after))
  answers : AllSteps step Answers start calls

section

variable {p : Pair} {ids : Identities}

theorem attachSizingIdentity_eq (h : Stated p ids) (sizingId : PyValue)
    (approved : Option PyValue) :
    (step p (.attachSizing sizingId approved) = p
        ∧ (attachSizingIdentity p sizingId approved).isOk = false)
      ∨ ∃ n : Name, n.val = text sizingId ∧ (ids.sizingId = none ∨ ids.sizingId = some n)
        ∧ attachSizingIdentity p sizingId approved = .ok (sized p n.val approved) := by
  rcases text_cases sizingId with hempty | ⟨n, hn⟩
  · left
    have herror : attachSizingIdentity p sizingId approved = .error "sizing_id_missing" := by
      simp only [attachSizingIdentity, if_pos hempty]
    simp [step, herror, Except.toOption, Except.isOk, Except.toBool]
  · have hne : text sizingId ≠ "" := hn ▸ n.nonempty
    have hexisting := text_first h.sizingId fun i => Iff.rfl
    by_cases hconflict : (ids.sizingId.map Name.val).getD "" ≠ ""
        ∧ (ids.sizingId.map Name.val).getD "" ≠ text sizingId
    · left
      have herror : attachSizingIdentity p sizingId approved
          = .error "sizing_id_lineage_conflict" := by
        rw [← hexisting] at hconflict
        simp only [attachSizingIdentity, if_neg hne]
        exact if_pos hconflict
      simp [step, herror, Except.toOption, Except.isOk, Except.toBool]
    · refine Or.inr ⟨n, hn, ?_, ?_⟩
      · cases hids : ids.sizingId with
        | none => exact Or.inl rfl
        | some n' =>
          rw [hids] at hconflict
          have heq : n'.val = text sizingId := by
            by_contra hdiff
            exact hconflict ⟨n'.nonempty, hdiff⟩
          obtain ⟨val, hnonempty, hstripped⟩ := n
          obtain ⟨val', hnonempty', hstripped'⟩ := n'
          have hval : val' = val := heq.trans hn.symm
          subst hval
          exact Or.inr rfl
      · rw [← hexisting] at hconflict
        simp only [attachSizingIdentity, if_neg hne]
        rw [hn]
        exact if_neg hconflict

example : (attachSizingIdentity ⟨"", "", ⟨.empty, .empty, .none, Dict.empty⟩, none, []⟩ .none
    none).isOk = false := by
  decide +kernel

/-- A minted identity names the facts of the pair. -/
theorem Stated.created (h : Stated p ids) (uuidHex : String) :
    Stated (step p (.create uuidHex)) ids ∧ Preserved p (step p (.create uuidHex)) := by
  have hdecision : text (p.first [.decision "canonical_decision_id", .decision "decision_id",
      .brain "canonical_decision_id", .lineage "decision_id"])
      = (ids.decisionId.map Name.val).getD "" :=
    text_first h.decisionId fun i => by
      simp only [decisionIdPlaces, List.mem_cons, List.not_mem_nil, or_false]
      tauto
  have hcorrelation : text (p.first [.decision "correlation_id", .brain "correlation_id",
      .lineage "correlation_id"]) = (ids.correlationId.map Name.val).getD "" :=
    text_first h.correlationId fun i => by
      simp only [correlationIdPlaces, List.mem_cons, List.not_mem_nil, or_false]
      tauto
  cases hcreate : createExecutionIdentity p uuidHex with
  | error e =>
    have hstep : step p (.create uuidHex) = p := by simp only [step, hcreate]
    rw [hstep]
    exact ⟨h, .refl p⟩
  | ok i =>
    have hstep : step p (.create uuidHex) = { p with minted := i :: p.minted } := by
      simp only [step, hcreate]
    simp only [createExecutionIdentity, hdecision, hcorrelation] at hcreate
    split at hcreate
    · cases hcreate
    · rename_i hboth
      cases hcreate
      rw [hstep]
      refine ⟨⟨h.decisionId, h.correlationId, h.fingerprint, h.sizingId, h.operatorIntent,
        h.dated, h.tidy, h.pending, fun i hi => ?_⟩,
        ⟨Keeps.refl, Keeps.refl, Keeps.refl, Keeps.refl, Keeps.refl, fun _ hkey => hkey⟩⟩
      rcases List.mem_cons.1 hi with rfl | hi
      · cases hd : ids.decisionId with
        | none => simp [hd] at hboth
        | some nd =>
          cases hc : ids.correlationId with
          | none => simp [hc] at hboth
          | some nc => exact ⟨rfl, rfl⟩
      · exact h.minted i hi

/-- **One call.** On a coherent pair a call that fits keeps everything. -/
theorem coherent_step (hp : Coherent p) (hlawful : Lawful p call) (hfits : Fits p call) :
    Coherent (step p call) ∧ Preserved p (step p call) := by
  obtain ⟨ids, h⟩ := hp
  cases call with
  | ensure a =>
    obtain ⟨t, ht⟩ := h.ensure_ok a
    have hstep : step p (.ensure a) = ensured p a t := by
      simp only [step, ht, Except.toOption, Option.getD_some]
    rw [hstep]
    exact h.ensured a t hfits
  | attachSizing sizingId approved =>
    rcases attachSizingIdentity_eq h sizingId approved with ⟨hsame, -⟩ | ⟨n, -, hn, hok⟩
    · rw [hsame]
      exact ⟨⟨ids, h⟩, .refl p⟩
    · have hstep : step p (.attachSizing sizingId approved) = sized p n.val approved := by
        simp only [step, hok, Except.toOption, Option.getD_some]
      rw [hstep]
      exact ⟨⟨_, (h.sized n hn approved).1⟩, (h.sized n hn approved).2⟩
  | create uuidHex => exact ⟨⟨ids, (h.created uuidHex).1⟩, (h.created uuidHex).2⟩
  | attachExecution i => exact ⟨⟨ids, (h.executed hlawful).1⟩, (h.executed hlawful).2⟩

theorem fits_of_preserved (hp : Coherent p) (h : Preserved p (step p call)) : Fits p call := by
  obtain ⟨ids, hstated⟩ := hp
  cases call with
  | ensure a =>
    obtain ⟨t, ht⟩ := hstated.ensure_ok a
    have hstep : step p (.ensure a) = ensured p a t := by
      simp only [step, ht, Except.toOption, Option.getD_some]
    rw [hstep] at h
    exact bare_of_preserved a t h
  | attachSizing sizingId approved => trivial
  | create uuidHex => trivial
  | attachExecution i => trivial

theorem Coherent.rejects (hp : Coherent p) (sizingId : PyValue) (approved : Option PyValue)
    (hconflict : ∃ i ∈ sizingIdPlaces.all, Truthy (p.value i)
      ∧ text (p.value i) ≠ text sizingId) :
    (attachSizingIdentity p sizingId approved).isOk = false
      ∧ step p (.attachSizing sizingId approved) = p := by
  obtain ⟨ids, h⟩ := hp
  rcases attachSizingIdentity_eq h sizingId approved with ⟨hsame, herror⟩ | ⟨n, hn, hids, -⟩
  · exact ⟨herror, hsame⟩
  · obtain ⟨i, hi, hpresent, hdiff⟩ := hconflict
    have hstands := h.sizingId
    rcases hids with hnone | hsome
    · rw [hnone] at hstands
      exact absurd hpresent (hstands i hi)
    · rw [hsome] at hstands
      have hvalue : p.value i = n.value := hstands.2.1 i hi hpresent
      rw [hvalue, n.text_value] at hdiff
      exact absurd hn hdiff

theorem get?_of_bare (hbare : Bare p) (hkey : key ∉ ensuredKeys) :
    p.info.canonicalLineage.fields.get? key = none := by
  have hcontains : p.info.canonicalLineage.fields.contains key ≠ true :=
    fun hc => hkey (hbare.1 key (Or.inl hc))
  simpa [Dict.contains] using hcontains

theorem Coherent.places (hp : Coherent p) (hfits : Fits p call) :
    ∀ key ∈ ["approved_notional_usd", "execution_id"],
      (step p call).info.canonicalLineage.fields.get? key
        = (placed p call key).or (p.info.canonicalLineage.fields.get? key) := by
  obtain ⟨ids, h⟩ := hp
  intro key hkey
  have hother : key ∉ ensuredKeys ∧ key ≠ "sizing_id" ∧ key ≠ "decision_id"
      ∧ key ≠ "correlation_id" := by
    simp only [List.mem_cons, List.not_mem_nil, or_false] at hkey
    rcases hkey with rfl | rfl <;> decide
  cases call with
  | ensure a =>
    obtain ⟨t, ht⟩ := h.ensure_ok a
    have hstep : step p (.ensure a) = ensured p a t := by
      simp only [step, ht, Except.toOption, Option.getD_some]
    have hafter : ¬ (ensuredLineage p a t).fields.contains key = true := by
      exact fun hc => hother.1 (mem_ensuredKeys (Or.inl hc))
    rw [hstep, ensured_canonicalLineage, get?_of_bare hfits hother.1]
    simpa [placed, Dict.contains] using hafter
  | attachSizing sizingId approved =>
    rcases attachSizingIdentity_eq h sizingId approved with ⟨hsame, herror⟩ | ⟨n, -, -, hok⟩
    · rw [hsame]
      simp [placed, herror]
    · have hstep : step p (.attachSizing sizingId approved) = sized p n.val approved := by
        simp only [step, hok, Except.toOption, Option.getD_some]
      have hisOk : (attachSizingIdentity p sizingId approved).isOk = true := by
        rw [hok]
        rfl
      rw [hstep]
      cases approved with
      | none => simp [placed, sized, Dict.get?_set, hother.2.1]
      | some usd =>
        by_cases happroved : key = "approved_notional_usd"
        · simp [placed, sized, happroved, hisOk]
        · simp [placed, sized, Dict.get?_set, hother.2.1, happroved]
  | create uuidHex =>
    have hsame : (step p (.create uuidHex)).info = p.info := by
      simp only [step]
      split <;> rfl
    rw [hsame]
    rfl
  | attachExecution i =>
    simp only [step, attachExecutionIdentity, putSizing, putExecution]
    by_cases hexecution : key = "execution_id"
    · split <;> simp [placed, Dict.get?_set, hexecution]
    · split <;> simp [placed, Dict.get?_set, hother.2.1, hother.2.2, hexecution]

theorem Coherent.answers (hp : Coherent p) (hfits : Fits p call) : Answers p call :=
  ⟨fun sizingId approved heq hconflict => heq ▸ hp.rejects sizingId approved hconflict,
    hp.places hfits⟩

end

/-! ## Runs -/

theorem preserved_run {p : Pair} (hp : Coherent p) (hlawful : AllSteps step Lawful p calls)
    (hfits : AllSteps step Fits p calls) :
    Coherent (run step p calls) ∧ Preserved p (run step p calls) := by
  induction calls generalizing p with
  | nil => exact ⟨hp, .refl p⟩
  | cons call calls ih =>
    obtain ⟨hcoherent, hstep⟩ := coherent_step hp hlawful.1 hfits.1
    obtain ⟨hend, hrest⟩ := ih hcoherent hlawful.2 hfits.2
    exact ⟨hend, hstep.trans hrest⟩

theorem answers_run {p : Pair} (hp : Coherent p) (hlawful : AllSteps step Lawful p calls)
    (hfits : AllSteps step Fits p calls) : AllSteps step Answers p calls := by
  induction calls generalizing p with
  | nil => trivial
  | cons call calls ih =>
    exact ⟨hp.answers hfits.1,
      ih (coherent_step hp hlawful.1 hfits.1).1 hlawful.2 hfits.2⟩

/-- Every call of a run that loses nothing fits. -/
theorem fits_run {p : Pair} (hp : Coherent p) (hlawful : AllSteps step Lawful p calls)
    (h : ∀ before after, before ++ after <+: calls →
      Preserved (run step p before) (run step p (before ++ after))) :
    AllSteps step Fits p calls := by
  induction calls generalizing p with
  | nil => trivial
  | cons call calls ih =>
    have hfits : Fits p call := fits_of_preserved hp (h [] [call] ⟨calls, rfl⟩)
    refine ⟨hfits, ih (coherent_step hp hlawful.1 hfits).1 hlawful.2 ?_⟩
    intro before after hprefix
    exact h (call :: before) after (List.cons_prefix_cons.2 ⟨rfl, hprefix⟩)

/-- **Lineage is written once.** From a coherent pair nothing is lost in a run exactly when every
decision identity is ensured over a bare pair. -/
theorem writeOnce_iff (start : Pair) (hstart : Coherent start) (calls : List Call)
    (hlawful : AllSteps step Lawful start calls) :
    WriteOnce start calls ↔ AllSteps step Fits start calls := by
  constructor
  · exact fun h => fits_run hstart hlawful h.preserved
  · refine fun hfits => ⟨fun before after hprefix => ?_, answers_run hstart hlawful hfits⟩
    obtain ⟨hlawful, hlater⟩ := (hlawful.of_prefix hprefix).of_append
    obtain ⟨hfits, hfitsLater⟩ := (hfits.of_prefix hprefix).of_append
    rw [run_append]
    exact (preserved_run (preserved_run hstart hlawful hfits).1 hlater hfitsLater).2

/-! ## A fresh pair -/

def fresh : Pair :=
  { opportunityId := "opp-1", routeId := "route-1"
    info := ⟨.empty, .empty, .none, Dict.empty⟩
    decision := some ⟨.empty, Dict.empty, Dict.empty⟩
    minted := [] }

theorem value_fresh (i : Place) : ¬ Truthy (fresh.value i) := by
  cases i <;> exact not_truthy_none

theorem coherent_fresh : Coherent fresh := by
  refine ⟨⟨none, none, none, none, none⟩, fun i _ => value_fresh i, fun i _ => value_fresh i,
    fun i _ => value_fresh i, fun i _ => value_fresh i, fun i _ => ?_, ?_, ?_,
    fun hpending => absurd hpending (value_fresh _), fun i hi => by cases hi⟩
  · cases i <;> exact Intent.not_truthy_missing
  · rintro v rfl hpresent
    exact absurd hpresent not_truthy_none
  · exact ⟨fun hc => (by cases hc), fun hne => absurd rfl hne, rfl⟩

theorem bare_fresh : Bare fresh := by
  refine ⟨fun key hkey => ?_, value_fresh _⟩
  rcases hkey with hc | ⟨-, hne⟩
  · cases hc
  · exact absurd rfl hne

def ensureAt (currentBlock : Int) : Call :=
  .ensure ⟨"ethereum", currentBlock, none, .none, 1700000000000⟩

def sizeHundred : Call :=
  .attachSizing (.text "sizing_1") (some (.float 100 ⟨"100.0", by decide⟩))

theorem writeOnce_sample : WriteOnce fresh [ensureAt 123, sizeHundred] :=
  (writeOnce_iff fresh coherent_fresh [ensureAt 123, sizeHundred] ⟨trivial, trivial, trivial⟩).2
    ⟨bare_fresh, trivial, trivial⟩

/-- Ensured again after the sizing, the lineage has no approved notional any more. -/
theorem sizing_lost :
    Coherent fresh ∧ AllSteps step Lawful fresh [sizeHundred, ensureAt 123]
      ∧ ¬ WriteOnce fresh [sizeHundred, ensureAt 123] := by
  refine ⟨coherent_fresh, ⟨trivial, trivial, trivial⟩, fun h => ?_⟩
  have hlawful : Lawful fresh sizeHundred := trivial
  have hfits : Fits fresh sizeHundred := trivial
  have hsized : Coherent (step fresh sizeHundred) := (coherent_step coherent_fresh hlawful hfits).1
  have hkept : Preserved (step fresh sizeHundred) (step (step fresh sizeHundred) (ensureAt 123)) :=
    h.preserved [sizeHundred] [ensureAt 123] (List.prefix_refl _)
  have hbare : Bare (step fresh sizeHundred) := fits_of_preserved hsized hkept
  have hplaced : (step fresh sizeHundred).info.canonicalLineage.fields.contains
      "approved_notional_usd" = true := by decide +kernel
  exact absurd (hbare.1 "approved_notional_usd" (Or.inl hplaced)) (by decide)

end SovereignCapital.Lineage
