import SovereignCapital.Lib.Runs
import SovereignCapital.Replay.Store

/-! # Replay bundles are evidence

What the bundles are kept for: the receipt a transaction was finalised with is found under its
hash until it is finalised again, a bundle with an outcome stays as it is, and different decisions
have different bundles. Each call has a condition under which it respects this. A decision that is
made into a bundle a second time takes the place of the first bundle, whatever it holds.
-/

namespace SovereignCapital.Replay

open Bytes Bytes.CanonicalJson Runs

/-- A bundle whose trade has an outcome. -/
def Bundle.Final (b : Bundle) : Prop := b.status = "settled" ∨ b.status = "failed"

/-- A bundle whose trade has not been made. -/
def Bundle.Unmade (b : Bundle) : Prop := b.status = "draft" ∨ b.status = "dry_run"

inductive Call where
  | createBundle (d : Decision) (context : Context) (txHash status auditHash : String)
      (nowMs : Int)
  | finalize (txHash : String) (o : Outcome)
  | finalizeDryRun (eventId : String) (rewardTrace : PyMap)

/-- The store, the decisions that bundles were created for, and for each transaction the receipt
it was last finalised with. -/
structure World where
  store : Store
  made : List Decision
  finalized : Dict String PyMap

namespace World

def start (chain : String) (chainId : Int) : World where
  store := ⟨chain, chainId, Dict.empty, Dict.empty⟩
  made := []
  finalized := Dict.empty

def step (w : World) : Call → World
  | .createBundle d context txHash status auditHash nowMs =>
    { w with
      store := w.store.createBundle d context txHash status auditHash nowMs
      made := d :: w.made }
  | .finalize txHash o =>
    { w with
      store := (w.store.finalize txHash o).2
      finalized :=
        if (w.store.finalize txHash o).1 then w.finalized.set txHash o.receipt
        else w.finalized }
  | .finalizeDryRun eventId rewardTrace =>
    { w with store := w.store.finalizeDryRun eventId rewardTrace }

end World

/-- What a call should do. -/
structure StepSound (w : World) (call : Call) : Prop where
  /-- The receipt of a finalised transaction is found. -/
  receipt : ∀ txHash r, (w.step call).finalized.get? txHash = some r →
    ∃ b, (w.step call).store.loadByTxHash txHash = some b ∧ b.txHash = txHash ∧ b.receipt = r
  /-- A bundle with an outcome gets another one at most, that of the same transaction. -/
  final : ∀ id b, w.store.load id = some b → b.Final →
    ∃ b', (w.step call).store.load id = some b' ∧ ¬ b'.Unmade
      ∧ (b' = b ∨ ∃ o, call = .finalize b.txHash o ∧ b' = b.finalized o)
  /-- Different decisions have different bundles. -/
  apart : ∀ d ∈ (w.step call).made, ∀ e ∈ (w.step call).made, d ≠ e →
    eventIdOf w.store.chainId d ≠ eventIdOf w.store.chainId e

/-- The condition of a call. -/
def CallOk (w : World) : Call → Prop
  -- Nothing final or finalised is kept under the event id, the transaction has not been finalised,
  -- and no bundle was made for a decision that differs in action zero against no action only.
  | .createBundle d _ txHash _ _ _ =>
    (∀ b, w.store.load (eventIdOf w.store.chainId d) = some b → ¬ b.Final)
    ∧ (∀ t r, w.finalized.get? t = some r →
        w.store.index.get? t ≠ some (eventIdOf w.store.chainId d))
    ∧ w.finalized.get? txHash = none
    ∧ ∀ e ∈ w.made, e.seen = d.seen → e = d
  -- A bundle that is found is that of the hash as it is given, and one with an outcome does not
  -- get the status of a trade that has not been made.
  | .finalize txHash o =>
    ∀ b, w.store.loadByTxHash txHash = some b →
      Store.stripped txHash = txHash ∧ b.txHash = txHash
      ∧ (b.Final → o.finalStatus ≠ "draft" ∧ o.finalStatus ≠ "dry_run")
  -- The id is a file name; the bundle has no outcome, and if its transaction was finalised then
  -- under this id.
  | .finalizeDryRun eventId _ =>
    '/' ∉ eventId.toList ∧ eventId ≠ "tx_index"
    ∧ ∀ b, w.store.load eventId = some b → ¬ b.Final
      ∧ ∀ r, w.finalized.get? b.txHash = some r → w.store.index.get? b.txHash = some eventId

/-! ## Writing a bundle -/

section Writing

variable {s : Store} {b : Bundle}

theorem load_writeBundle (id : String) :
    (s.writeBundle b).load id = if id = b.eventId then some b else s.load id := by
  simp [Store.load, Store.writeBundle, Dict.get?_set]

theorem index_writeBundle (txHash : String) :
    (s.writeBundle b).index.get? txHash
      = if txHash = b.txHash ∧ txHash ≠ "" then some b.eventId else s.index.get? txHash := by
  unfold Store.writeBundle
  by_cases hempty : b.txHash = ""
  · have hnot : ¬ (txHash = b.txHash ∧ txHash ≠ "") := by
      rintro ⟨rfl, hne⟩
      exact hne hempty
    rw [if_neg hnot]
    simp [hempty]
  · by_cases htx : txHash = b.txHash
    · subst htx
      simp [hempty]
    · simp [hempty, htx, Dict.get?_set_of_ne]

theorem loadByTxHash_eq_some (txHash : String) :
    s.loadByTxHash txHash = some b ↔
      Store.stripped txHash ≠ "" ∧ ∃ id, s.index.get? (Store.stripped txHash) = some id
        ∧ id ≠ "" ∧ s.load id = some b := by
  unfold Store.loadByTxHash
  by_cases hempty : Store.stripped txHash = ""
  · simp [hempty]
  · cases hindex : s.index.get? (Store.stripped txHash) with
    | none => simp [hempty]
    | some id =>
      by_cases hid : id = ""
      · simp [hempty, hid]
      · simp [hempty, hid]

/-- The transaction is found under its hash, and its bundle has the receipt. -/
def Kept (s : Store) (txHash : String) (r : PyMap) : Prop :=
  txHash ≠ "" ∧ Store.stripped txHash = txHash
  ∧ ∃ id b, s.index.get? txHash = some id ∧ s.load id = some b
    ∧ b.txHash = txHash ∧ b.receipt = r

/-- Writing a bundle keeps a receipt when the transaction is found elsewhere before and after, or
in this bundle with this receipt. -/
theorem Kept.writeBundle {txHash : String} {r : PyMap} (h : Kept s txHash r)
    (hhere : s.index.get? txHash = some b.eventId → b.txHash = txHash ∧ b.receipt = r)
    (helse : s.index.get? txHash ≠ some b.eventId → b.txHash ≠ txHash) :
    Kept (s.writeBundle b) txHash r := by
  obtain ⟨hne, hstrip, id, b₀, hindex, hload, htx, hr⟩ := h
  refine ⟨hne, hstrip, ?_⟩
  by_cases hid : id = b.eventId
  · subst hid
    obtain ⟨htx', hr'⟩ := hhere hindex
    refine ⟨b.eventId, b, ?_, ?_, htx', hr'⟩
    · rw [index_writeBundle, if_pos ⟨htx'.symm, hne⟩]
    · rw [load_writeBundle, if_pos rfl]
  · have hother : b.txHash ≠ txHash := by
      apply helse
      rw [hindex]
      exact fun h => hid (Option.some.inj h)
    refine ⟨id, b₀, ?_, ?_, htx, hr⟩
    · rw [index_writeBundle, if_neg fun h => hother h.1.symm, hindex]
    · rw [load_writeBundle, if_neg hid, hload]

end Writing

/-! ## The invariant -/

/-- A bundle is kept under its own event id, finalised transactions are found, and the decisions
have ids of their own. `H` is what the digest does not collide on. -/
structure Inv (chainId : Int) (H : Set (List Byte)) (w : World) : Prop where
  sameChain : w.store.chainId = chainId
  keyed : ∀ id b, w.store.load id = some b → b.eventId = id ∧ id ≠ ""
  kept : ∀ txHash r, w.finalized.get? txHash = some r → Kept w.store txHash r
  hashed : ∀ d ∈ w.made, ∀ p ∈ hashed chainId d, p ∈ H
  seen : ∀ d ∈ w.made, ∀ e ∈ w.made, d.seen = e.seen → d = e

section Steps

variable {chainId : Int} {H : Set (List Byte)} {w : World}

theorem inv_start (chain : String) : Inv chainId H (World.start chain chainId) where
  sameChain := rfl
  keyed := by intro id b h; cases h
  kept := by intro txHash r h; cases h
  hashed := by intro d hd; cases hd
  seen := by intro d hd; cases hd

theorem Inv.apart (h : Inv chainId H w) (hsha : Set.InjOn digest H) :
    ∀ d ∈ w.made, ∀ e ∈ w.made, d ≠ e → eventIdOf chainId d ≠ eventIdOf chainId e := by
  intro d hd e he hne hid
  exact hne (h.seen d hd e he (eventIdOf_inj hsha (h.hashed d hd) (h.hashed e he) hid))

theorem Inv.receipt (h : Inv chainId H w) :
    ∀ txHash r, w.finalized.get? txHash = some r →
      ∃ b, w.store.loadByTxHash txHash = some b ∧ b.txHash = txHash ∧ b.receipt = r := by
  intro txHash r hr
  obtain ⟨hne, hstrip, id, b, hindex, hload, htx, hreceipt⟩ := h.kept txHash r hr
  refine ⟨b, ?_, htx, hreceipt⟩
  rw [loadByTxHash_eq_some, hstrip]
  exact ⟨hne, id, hindex, (h.keyed id b hload).2, hload⟩

theorem keyed_writeBundle {s : Store} {b : Bundle}
    (h : ∀ id b, s.load id = some b → b.eventId = id ∧ id ≠ "") (hne : b.eventId ≠ "") :
    ∀ id b', (s.writeBundle b).load id = some b' → b'.eventId = id ∧ id ≠ "" := by
  intro id b' hb'
  rw [load_writeBundle] at hb'
  split_ifs at hb' with hid
  · obtain rfl := Option.some.inj hb'
    exact ⟨hid.symm, hid ▸ hne⟩
  · exact h id b' hb'

theorem final_writeBundle {s : Store} {b b' : Bundle} {id : String} (hload : s.load id = some b)
    (hfinal : b.Final) (hne : id ≠ b'.eventId) :
    (s.writeBundle b').load id = some b ∧ ¬ b.Unmade := by
  constructor
  · rw [load_writeBundle, if_neg hne, hload]
  · unfold Bundle.Unmade
    rcases hfinal with h | h <;> simp [h]

/-! ## The calls -/

theorem createBundle_sound (h : Inv chainId H w) (hsha : Set.InjOn digest H) {d : Decision}
    (hd : ∀ p ∈ Replay.hashed chainId d, p ∈ H) (context : Context)
    (txHash status auditHash : String) (nowMs : Int)
    (hok : CallOk w (.createBundle d context txHash status auditHash nowMs)) :
    StepSound w (.createBundle d context txHash status auditHash nowMs)
    ∧ Inv chainId H (w.step (.createBundle d context txHash status auditHash nowMs)) := by
  obtain ⟨hplace, hindexed, htx, hmade⟩ := hok
  have hinv : Inv chainId H (w.step (.createBundle d context txHash status auditHash nowMs)) := by
    constructor
    · exact h.sameChain
    · exact keyed_writeBundle h.keyed (eventIdOf_ne_empty _ _)
    · intro t r hr
      refine (h.kept t r hr).writeBundle ?_ ?_
      · exact fun hhere => absurd hhere (hindexed t r hr)
      · -- the new bundle is that of another transaction
        intro _ heq
        obtain rfl : txHash = t := heq
        have hr : w.finalized.get? txHash = some r := hr
        rw [htx] at hr
        cases hr
    · intro e he
      rcases List.mem_cons.1 he with heq | he
      · exact heq ▸ hd
      · exact h.hashed e he
    · intro e he e' he' hseen
      rcases List.mem_cons.1 he with heq | he
      · rcases List.mem_cons.1 he' with heq' | he'
        · rw [heq, heq']
        · rw [heq] at hseen ⊢
          exact (hmade e' he' hseen.symm).symm
      · rcases List.mem_cons.1 he' with heq' | he'
        · rw [heq'] at hseen ⊢
          exact hmade e he hseen
        · exact h.seen e he e' he' hseen
  refine ⟨⟨hinv.receipt, ?_, ?_⟩, hinv⟩
  · intro id b hload hfinal
    have hne : id ≠ eventIdOf w.store.chainId d := by
      rintro rfl
      exact hplace b hload hfinal
    have hwritten : id ≠ (w.store.newBundle d context txHash status auditHash nowMs).eventId := hne
    obtain ⟨hstays, hunmade⟩ := final_writeBundle hload hfinal hwritten
    exact ⟨b, hstays, hunmade, Or.inl rfl⟩
  · rw [h.sameChain]
    exact hinv.apart hsha

/-- A call after which the store and the books are as before. -/
theorem unchanged_sound (h : Inv chainId H w) (hsha : Set.InjOn digest H) {call : Call}
    (hsame : w.step call = w) : StepSound w call ∧ Inv chainId H (w.step call) := by
  refine ⟨⟨?_, ?_, ?_⟩, hsame.symm ▸ h⟩
  · rw [hsame]
    exact h.receipt
  · intro id b hload hfinal
    rw [hsame]
    refine ⟨b, hload, ?_, Or.inl rfl⟩
    unfold Bundle.Unmade
    rcases hfinal with h' | h' <;> simp [h']
  · rw [hsame, h.sameChain]
    exact h.apart hsha

theorem finalize_sound (h : Inv chainId H w) (hsha : Set.InjOn digest H) (txHash : String)
    (o : Outcome) (hok : CallOk w (.finalize txHash o)) :
    StepSound w (.finalize txHash o) ∧ Inv chainId H (w.step (.finalize txHash o)) := by
  cases hfound : w.store.loadByTxHash txHash with
  | none =>
    refine unchanged_sound h hsha ?_
    simp [World.step, Store.finalize, hfound]
  | some b =>
    obtain ⟨hstrip, htx, hstatus⟩ := hok b hfound
    obtain ⟨hne, id, hindex, hid, hload⟩ := (loadByTxHash_eq_some txHash).1 hfound
    rw [hstrip] at hne hindex
    have hkey : b.eventId = id := (h.keyed id b hload).1
    have hstep : w.step (.finalize txHash o)
        = { w with
            store := w.store.writeBundle (b.finalized o)
            finalized := w.finalized.set txHash o.receipt } := by
      simp [World.step, Store.finalize, hfound]
    have hinv : Inv chainId H (w.step (.finalize txHash o)) := by
      rw [hstep]
      refine ⟨h.sameChain, ?_, ?_, h.hashed, h.seen⟩
      · exact keyed_writeBundle h.keyed (hkey.symm ▸ hid)
      · intro t r hr
        by_cases ht : t = txHash
        · -- the transaction itself: the bundle has the receipt now
          subst ht
          have hreceipt : o.receipt = r := by simpa using hr
          refine ⟨hne, hstrip, b.eventId, b.finalized o, ?_, ?_, htx, hreceipt⟩
          · rw [index_writeBundle, if_pos ⟨htx.symm, hne⟩]
            rfl
          · rw [load_writeBundle, if_pos (b.finalized_eventId o).symm]
        · -- another one is found in another bundle
          have hr : w.finalized.get? t = some r := by
            simpa [Dict.get?_set_of_ne, ht] using hr
          have hkept := h.kept t r hr
          obtain ⟨-, -, id', b', hindex', hload', htx', -⟩ := h.kept t r hr
          refine hkept.writeBundle ?_ ?_
          · intro hhere
            have hid' : id' = id := by
              rw [hindex'] at hhere
              exact (Option.some.inj hhere).trans hkey
            subst hid'
            obtain rfl : b' = b := Option.some.inj (hload'.symm.trans hload)
            exact absurd (htx'.symm.trans htx) ht
          · exact fun _ heq => ht (heq.symm.trans htx)
    refine ⟨⟨hinv.receipt, ?_, ?_⟩, hinv⟩
    · intro id' b' hload' hfinal
      rw [hstep]
      by_cases hid' : id' = b.eventId
      · subst hid'
        obtain rfl : b' = b := by
          rw [hkey] at hload'
          exact Option.some.inj (hload'.symm.trans hload)
        refine ⟨b'.finalized o, ?_, ?_, Or.inr ⟨o, by rw [htx], rfl⟩⟩
        · show (w.store.writeBundle (b'.finalized o)).load b'.eventId = _
          rw [load_writeBundle, if_pos (b'.finalized_eventId o).symm]
        · exact fun hunmade => hunmade.elim (hstatus hfinal).1 (hstatus hfinal).2
      · have hwritten : id' ≠ (b.finalized o).eventId := hid'
        obtain ⟨hstays, hmade⟩ := final_writeBundle hload' hfinal hwritten
        exact ⟨b', hstays, hmade, Or.inl rfl⟩
    · rw [hstep, h.sameChain]
      exact h.apart hsha

theorem finalizeDryRun_sound (h : Inv chainId H w) (hsha : Set.InjOn digest H) (eventId : String)
    (rewardTrace : PyMap) (hok : CallOk w (.finalizeDryRun eventId rewardTrace)) :
    StepSound w (.finalizeDryRun eventId rewardTrace)
    ∧ Inv chainId H (w.step (.finalizeDryRun eventId rewardTrace)) := by
  obtain ⟨-, -, hok⟩ := hok
  cases hfound : w.store.load eventId with
  | none =>
    refine unchanged_sound h hsha ?_
    simp [World.step, Store.finalizeDryRun, hfound]
  | some b =>
    obtain ⟨hnotFinal, hindexed⟩ := hok b hfound
    obtain ⟨hkey, hid⟩ := h.keyed eventId b hfound
    have hstep : w.step (.finalizeDryRun eventId rewardTrace)
        = { w with
            store := w.store.writeBundle
              { b with status := "dry_run", rewardTrace := rewardTrace } } := by
      simp [World.step, Store.finalizeDryRun, hfound]
    have hinv : Inv chainId H (w.step (.finalizeDryRun eventId rewardTrace)) := by
      rw [hstep]
      refine ⟨h.sameChain, ?_, ?_, h.hashed, h.seen⟩
      · exact keyed_writeBundle h.keyed (hkey.symm ▸ hid)
      · intro t r hr
        obtain ⟨-, -, id', b', hindex', hload', htx', hreceipt⟩ := h.kept t r hr
        refine (h.kept t r hr).writeBundle ?_ ?_
        · -- found in this bundle: its receipt is not touched
          intro hhere
          have hid' : id' = eventId := by
            rw [hindex'] at hhere
            exact (Option.some.inj hhere).trans hkey
          subst hid'
          obtain rfl : b' = b := Option.some.inj (hload'.symm.trans hfound)
          exact ⟨htx', hreceipt⟩
        · -- the bundle of a finalised transaction is the one it is found in
          intro hnot heq
          have ht : t = b.txHash := heq.symm
          subst ht
          exact hnot (hkey.symm ▸ hindexed r hr)
    refine ⟨⟨hinv.receipt, ?_, ?_⟩, hinv⟩
    · intro id' b' hload' hfinal
      rw [hstep]
      have hne : id' ≠ b.eventId := by
        rintro rfl
        rw [hkey, hfound] at hload'
        obtain rfl := Option.some.inj hload'
        exact hnotFinal hfinal
      have hwritten : id' ≠ ({ b with status := "dry_run", rewardTrace := rewardTrace }).eventId :=
        hne
      obtain ⟨hstays, hmade⟩ := final_writeBundle hload' hfinal hwritten
      exact ⟨b', hstays, hmade, Or.inl rfl⟩
    · rw [hstep, h.sameChain]
      exact h.apart hsha

end Steps

/-! ## Whole runs -/

/-- What the ids of a call's bundle are digests of. -/
def Call.hashed (chainId : Int) : Call → List (List Byte)
  | .createBundle d _ _ _ _ _ => Replay.hashed chainId d
  | _ => []

/-- Everything a run takes the digest of. -/
def hashedIn (chainId : Int) (calls : List Call) : Set (List Byte) :=
  { p | ∃ call ∈ calls, p ∈ call.hashed chainId }

/-- **Faithful bundles.** Where the digest does not collide on what a run hashes, every call of a
run from the empty store on respects the evidence if every call meets its condition. -/
theorem bundles_faithful (chain : String) (chainId : Int) (calls : List Call)
    (hsha : Set.InjOn digest (hashedIn chainId calls))
    (hok : AllSteps World.step CallOk (World.start chain chainId) calls) :
    AllSteps World.step StepSound (World.start chain chainId) calls := by
  have hmem : AllSteps World.step
      (fun _ call => ∀ p ∈ call.hashed chainId, p ∈ hashedIn chainId calls)
      (World.start chain chainId) calls :=
    allSteps_of_mem (fun call hcall _ p hp => ⟨call, hcall, hp⟩) _
  have hstart : Inv chainId (hashedIn chainId calls) (World.start chain chainId) := inv_start chain
  refine AllSteps.sound ?_ hstart (hok.and hmem)
  rintro w call hinv ⟨hcall, hin⟩
  cases call with
  | createBundle d context txHash status auditHash nowMs =>
    exact createBundle_sound hinv hsha hin context txHash status auditHash nowMs hcall
  | finalize txHash o => exact finalize_sound hinv hsha txHash o hcall
  | finalizeDryRun eventId rewardTrace =>
    exact finalizeDryRun_sound hinv hsha eventId rewardTrace hcall

/-! ### A retry in the block of the first trade -/

def retried : Decision := ⟨123, "opp-1", "route-1", "auto", "s0", 1⟩

def noContext : Context := ⟨[], [], [], [], []⟩

def mined : Outcome := ⟨"settled", [("status", .leaf (.int 1))], [], []⟩

def submit (txHash : String) (nowMs : Int) : Call :=
  .createBundle retried noContext txHash "submitted" "" nowMs

/-- The two payloads of the decision have different digests. -/
theorem injOn_retried : Set.InjOn digest { p | p ∈ hashed 1 retried } := by
  have hne : digest (payload "decision" (decisionParts 1 retried.seen))
      ≠ digest (payload "replay" (replayParts 1 123 "opp-1" "route-1" (decisionIdOf 1 retried))) := by
    decide +kernel
  intro p hp q hq hpq
  simp only [hashed, Set.mem_ofPred_eq, List.mem_cons, List.not_mem_nil, or_false] at hp hq
  rcases hp with hp | hp <;> rcases hq with hq | hq <;> rw [hp, hq] at hpq ⊢
  · exact absurd hpq hne
  · exact absurd hpq.symm hne

theorem injOn_hashedIn {calls : List Call}
    (h : ∀ call ∈ calls, ∀ p ∈ call.hashed 1, p ∈ hashed 1 retried) :
    Set.InjOn digest (hashedIn 1 calls) := by
  refine injOn_retried.mono ?_
  rintro p ⟨call, hcall, hp⟩
  exact h call hcall p hp

def firstBundle : Bundle :=
  (World.start "ethereum" 1).store.newBundle retried noContext "0xaa" "submitted" "" 1000

theorem load_first :
    ((World.start "ethereum" 1).step (submit "0xaa" 1000)).store.loadByTxHash "0xaa"
      = some firstBundle := by
  rw [loadByTxHash_eq_some]
  refine ⟨by decide, eventIdOf 1 retried, rfl, eventIdOf_ne_empty _ _, ?_⟩
  exact (load_writeBundle _).trans (if_pos rfl)

theorem bundles_faithful_mined :
    AllSteps World.step StepSound (World.start "ethereum" 1)
      [submit "0xaa" 1000, .finalize "0xaa" mined] := by
  refine bundles_faithful "ethereum" 1 _ (injOn_hashedIn ?_) ?_
  · intro call hcall p hp
    simp only [List.mem_cons, List.not_mem_nil, or_false] at hcall
    rcases hcall with rfl | rfl
    · exact hp
    · cases hp
  · refine ⟨⟨?_, ?_, rfl, ?_⟩, ?_, trivial⟩
    · intro b hb
      cases hb
    · intro t r hr
      cases hr
    · intro e he
      cases he
    · intro b hb
      rw [load_first] at hb
      obtain rfl := Option.some.inj hb
      exact ⟨by decide, rfl, fun _ => by decide⟩

/-- The settled bundle gives way to that of a second transaction for the decision. -/
theorem retry_overwrites :
    Set.InjOn digest
      (hashedIn 1 [submit "0xaa" 1000, .finalize "0xaa" mined, submit "0xbb" 2000])
    ∧ ¬ AllSteps World.step StepSound (World.start "ethereum" 1)
      [submit "0xaa" 1000, .finalize "0xaa" mined, submit "0xbb" 2000] := by
  constructor
  · refine injOn_hashedIn ?_
    intro call hcall p hp
    simp only [List.mem_cons, List.not_mem_nil, or_false] at hcall
    rcases hcall with rfl | rfl | rfl
    · exact hp
    · cases hp
    · exact hp
  · rintro ⟨-, -, hretry, -⟩
    have hmined : ((World.start "ethereum" 1).step (submit "0xaa" 1000)).step
          (.finalize "0xaa" mined)
        = { ((World.start "ethereum" 1).step (submit "0xaa" 1000)) with
            store := ((World.start "ethereum" 1).step (submit "0xaa" 1000)).store.writeBundle
              (firstBundle.finalized mined)
            finalized := Dict.empty.set "0xaa" mined.receipt } := by
      rw [World.step, Store.finalize, load_first]
      rfl
    rw [hmined] at hretry
    obtain ⟨b, hb, -, hsame | ⟨o, hcall, -⟩⟩ := hretry.final (eventIdOf 1 retried)
      (firstBundle.finalized mined) ((load_writeBundle _).trans (if_pos rfl)) (Or.inl rfl)
    · have hsubmitted : b.status = "submitted" := by
        have hload := hb.symm.trans ((load_writeBundle _).trans (if_pos rfl))
        exact congrArg Bundle.status (Option.some.inj hload)
      rw [hsame] at hsubmitted
      exact absurd hsubmitted (by decide)
    · cases hcall

end SovereignCapital.Replay
