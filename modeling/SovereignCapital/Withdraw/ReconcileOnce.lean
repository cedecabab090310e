import SovereignCapital.Withdraw.Reconcile
import SovereignCapital.Withdraw.RoundTrip

/-! # One receipt per mined transaction

Over any sequence of reconcile requests the ledger keeps `Reconciled`: its withdrawal
receipts carry pairwise different hash texts, each the spelling of a request that settled.
The texts are compared as texts, so a mined transaction has at most one receipt exactly
when the requests that settled it spelled its hash alike.
-/

namespace SovereignCapital.Withdraw

open Bytes Abi Tx

variable {ι : Type}

/-! ## Receipts -/

/-- The withdrawal receipts of the configured chain. -/
def withdrawals (cfg : Config) (ledger : List LedgerRow) : List LedgerRow :=
  ledger.filter fun row => row.chain == cfg.chain && row.txType == withdrawalTxType

/-- The withdrawal receipts whose hash names `t`. -/
def receiptsOf [DecidableEq ι] (cfg : Config) (node : Node ι) (ledger : List LedgerRow) (t : ι) :
    List LedgerRow :=
  (withdrawals cfg ledger).filter fun row => decide (node.resolve row.receiptId = some t)

/-- Every mined transaction has at most one withdrawal receipt, and the treasury is debited
at most what it withdrew. -/
def OncePerTransaction [DecidableEq ι] (cfg : Config) (node : Node ι) (ledger : List LedgerRow) :
    Prop :=
  ∀ t, (receiptsOf cfg node ledger t).length ≤ 1
    ∧ ((receiptsOf cfg node ledger t).map LedgerRow.debit).sum ≤ withdrawnAmount cfg node t

/-- The requests that settle one transaction spell its hash alike. -/
def OneSpelling (cfg : Config) (node : Node ι) (requests : List (Request × Answers)) : Prop :=
  ∀ t, ∀ ra ∈ requests, ∀ rb ∈ requests, Settles cfg node ra.1 ra.2 t →
    Settles cfg node rb.1 rb.2 t → pyStrip ra.1.txHash = pyStrip rb.1.txHash

variable {cfg : Config} {ledger : List LedgerRow} {done : List (Request × Answers)}

theorem mem_withdrawals {row : LedgerRow} :
    row ∈ withdrawals cfg ledger
      ↔ row ∈ ledger ∧ row.chain = cfg.chain ∧ row.txType = withdrawalTxType := by
  simp [withdrawals]

theorem mem_receiptsOf [DecidableEq ι] {node : Node ι} {t : ι} {row : LedgerRow} :
    row ∈ receiptsOf cfg node ledger t
      ↔ row ∈ withdrawals cfg ledger ∧ node.resolve row.receiptId = some t := by
  simp [receiptsOf]

/-! ## The invariant -/

/-- What holds of the ledger after the requests `done`. -/
structure Reconciled (cfg : Config) (node : Node ι) (done : List (Request × Answers))
    (ledger : List LedgerRow) : Prop where
  /-- every receipt was written for a request that settled -/
  written : ∀ row ∈ withdrawals cfg ledger, ∃ ra ∈ done, ∃ t,
    Settles cfg node ra.1 ra.2 t ∧ RowOf cfg node ra.1 t row
  /-- no two receipts carry one text -/
  distinct : (withdrawals cfg ledger).Pairwise fun a b => a.receiptId ≠ b.receiptId
  /-- a request that settled left its receipt -/
  kept : ∀ ra ∈ done, ∀ t, Settles cfg node ra.1 ra.2 t →
    ∃ row ∈ withdrawals cfg ledger, row.receiptId = pyStrip ra.1.txHash

theorem Reconciled.init {node : Node ι} (h : withdrawals cfg ledger = []) :
    Reconciled cfg node [] ledger := by
  constructor
  · simp [h]
  · simp [h]
  · simp

theorem Reconciled.step {node : Node ι} (h : Reconciled cfg node done ledger) (request : Request)
    (a : Answers) :
    Reconciled cfg node (done ++ [(request, a)])
      (reconcileExternalWithdraw cfg node ledger request a).1 := by
  have hlast : ∀ t, Settles cfg node request a t →
      ∃ row ∈ withdrawals cfg (reconcileExternalWithdraw cfg node ledger request a).1,
        row.receiptId = pyStrip request.txHash := by
    intro t hsettles
    obtain ⟨row, hrow, hchain, htype, hid⟩ := reconcile_of_settles ledger hsettles
    exact ⟨row, mem_withdrawals.2 ⟨hrow, hchain, htype⟩, hid⟩
  rcases reconcile_cases cfg node ledger request a with hsame | ⟨t, new, hsettles, hrowOf, hnew, hfresh⟩
  · rw [hsame] at hlast ⊢
    refine ⟨?_, h.distinct, ?_⟩
    · intro row hrow
      obtain ⟨ra, hra, hra'⟩ := h.written row hrow
      exact ⟨ra, List.mem_append_left _ hra, hra'⟩
    · intro ra hra u hu
      rcases List.mem_append.1 hra with hra | hra
      · exact h.kept ra hra u hu
      · rw [List.mem_singleton.1 hra] at hu ⊢
        exact hlast u hu
  · have hwithdrawals : withdrawals cfg (ledger ++ [new]) = withdrawals cfg ledger ++ [new] := by
      simp [withdrawals, hrowOf.chain, hrowOf.txType]
    rw [hnew] at hlast ⊢
    refine ⟨?_, ?_, ?_⟩
    · intro row hrow
      rw [hwithdrawals, List.mem_append, List.mem_singleton] at hrow
      rcases hrow with hrow | rfl
      · obtain ⟨ra, hra, hra'⟩ := h.written row hrow
        exact ⟨ra, List.mem_append_left _ hra, hra'⟩
      · exact ⟨(request, a), by simp, t, hsettles, hrowOf⟩
    · rw [hwithdrawals, List.pairwise_append]
      refine ⟨h.distinct, List.pairwise_singleton _ _, ?_⟩
      intro old hold row hrow
      rw [List.mem_singleton.1 hrow]
      obtain ⟨hmem, hchain, htype⟩ := mem_withdrawals.1 hold
      exact hfresh old hmem (hchain.trans hrowOf.chain.symm) (htype.trans hrowOf.txType.symm)
    · intro ra hra u hu
      rcases List.mem_append.1 hra with hra | hra
      · obtain ⟨row, hrow, hid⟩ := h.kept ra hra u hu
        exact ⟨row, by rw [hwithdrawals]; exact List.mem_append_left _ hrow, hid⟩
      · rw [List.mem_singleton.1 hra] at hu ⊢
        exact hlast u hu

theorem Reconciled.run {node : Node ι} (requests : List (Request × Answers))
    (h : Reconciled cfg node done ledger) :
    Reconciled cfg node (done ++ requests) (reconcileAll cfg node ledger requests) := by
  induction requests generalizing done ledger with
  | nil => simpa [reconcileAll] using h
  | cons ra rest ih =>
    have hstep := ih (h.step ra.1 ra.2)
    rw [List.append_assoc] at hstep
    exact hstep

/-! ## One receipt -/

/-- A list whose members pairwise differ and all agree has at most one member. -/
theorem length_le_one_of_pairwise {α β : Type} {f : α → β} {l : List α}
    (hpair : l.Pairwise fun a b => f a ≠ f b) (hagree : ∀ a ∈ l, ∀ b ∈ l, f a = f b) :
    l.length ≤ 1 := by
  match l with
  | [] => simp
  | [_] => simp
  | a :: b :: rest =>
    have hne := (List.pairwise_cons.1 hpair).1 b (by simp)
    exact absurd (hagree a (by simp) b (by simp)) hne

theorem eq_of_length_le_one {α : Type} {l : List α} (h : l.length ≤ 1) {a b : α} (ha : a ∈ l)
    (hb : b ∈ l) : a = b := by
  match l with
  | [] => cases ha
  | [_] => rw [List.mem_singleton.1 ha, List.mem_singleton.1 hb]
  | _ :: _ :: _ => simp at h

theorem Reconciled.once_of_oneSpelling [DecidableEq ι] {node : Node ι}
    (h : Reconciled cfg node done ledger) (hone : OneSpelling cfg node done) :
    OncePerTransaction cfg node ledger := by
  intro t
  have hwritten : ∀ row ∈ receiptsOf cfg node ledger t, ∃ ra ∈ done,
      Settles cfg node ra.1 ra.2 t ∧ RowOf cfg node ra.1 t row := by
    intro row hrow
    obtain ⟨hmem, hresolve⟩ := mem_receiptsOf.1 hrow
    obtain ⟨ra, hra, u, hsettles, hrowOf⟩ := h.written row hmem
    -- The text names one transaction only.
    have hu : u = t := by
      have hra' := hsettles.resolves
      rw [← hrowOf.receiptId, hresolve] at hra'
      exact (Option.some.inj hra').symm
    exact ⟨ra, hra, hu ▸ hsettles, hu ▸ hrowOf⟩
  have hlen : (receiptsOf cfg node ledger t).length ≤ 1 := by
    apply length_le_one_of_pairwise (h.distinct.filter _)
    intro row hrow row' hrow'
    obtain ⟨ra, hra, hsettles, hrowOf⟩ := hwritten row hrow
    obtain ⟨rb, hrb, hsettles', hrowOf'⟩ := hwritten row' hrow'
    rw [hrowOf.receiptId, hrowOf'.receiptId]
    exact hone t ra hra rb hrb hsettles hsettles'
  refine ⟨hlen, ?_⟩
  match hrows : receiptsOf cfg node ledger t with
  | [] => simp
  | [row] =>
    obtain ⟨ra, -, -, hrowOf⟩ := hwritten row (by simp [hrows])
    simp [hrowOf.debit]
  | _ :: _ :: _ => simp [hrows] at hlen

theorem Reconciled.oneSpelling_of_once [DecidableEq ι] {node : Node ι}
    (h : Reconciled cfg node done ledger) (honce : OncePerTransaction cfg node ledger) :
    OneSpelling cfg node done := by
  intro t ra hra rb hrb hsettles hsettles'
  obtain ⟨row, hrow, hid⟩ := h.kept ra hra t hsettles
  obtain ⟨row', hrow', hid'⟩ := h.kept rb hrb t hsettles'
  have hmem : row ∈ receiptsOf cfg node ledger t :=
    mem_receiptsOf.2 ⟨hrow, by rw [hid]; exact hsettles.resolves⟩
  have hmem' : row' ∈ receiptsOf cfg node ledger t :=
    mem_receiptsOf.2 ⟨hrow', by rw [hid']; exact hsettles'.resolves⟩
  rw [← hid, ← hid', eq_of_length_le_one (honce t).1 hmem hmem']

/-- **In every run of reconcile requests, a mined transaction has at most one withdrawal
receipt and is debited at most once exactly when the requests that settle it spell its hash
alike.** -/
theorem reconcile_once_iff [DecidableEq ι] (cfg : Config) (node : Node ι)
    (ledger : List LedgerRow) (hempty : withdrawals cfg ledger = [])
    (requests : List (Request × Answers)) :
    OncePerTransaction cfg node (reconcileAll cfg node ledger requests)
      ↔ OneSpelling cfg node requests := by
  have hrun : Reconciled cfg node requests (reconcileAll cfg node ledger requests) :=
    (Reconciled.init hempty).run requests
  exact ⟨hrun.oneSpelling_of_once, hrun.once_of_oneSpelling⟩

/-! ### Two spellings of one hash -/

/-- The configuration of a runtime for the executor of account 1 on chain 1. -/
def deployedConfig : Config where
  chainName := "mainnet".toList
  chainId := 1
  executorAddress := (addressOfByte 1).text

/-- The calldata of `withdraw` of five units of token 7 to account 6. -/
def plainCalldata : Text :=
  with0x (toHex (selector withdrawSig ++ (addressOfByte 7).word ++ (addressOfByte 6).word
    ++ wordBytes 5))

/-- A transaction hash whose last byte is `ab`. -/
def minedHash : List Byte := List.replicate 31 0 ++ [171]

/-- A node on which account 2 has withdrawn once; it reads a hash as the bytes it spells. -/
def minedNode : Node Unit where
  resolve := fun text => if (strip0x text).bind fromHex = some minedHash then some () else none
  tx := fun _ => ⟨(addressOfByte 2).text, (addressOfByte 1).text, plainCalldata, "0x0".toList,
    some "0x1".toList⟩
  receipt := fun _ => ⟨.text "0x1".toList, .text "0x10".toList,
    [emitWithdrawal (addressOfByte 1) (addressOfByte 7) (addressOfByte 6) 5]⟩

def plainRequest (txHash : Text) : Request :=
  let body : Request :=
    { unexpected := [], intentId := [], txHash := txHash, chainId := "1".toList,
      fromAddress := (addressOfByte 2).text, dest := (addressOfByte 1).text,
      data := plainCalldata, value := "0".toList }
  { body with intentId := intentDigest body }

def allAnswer : Answers where
  readUrl := true
  txVisible := true
  lookup := .found
  visibleAfterLookup := true
  ledgerAvailable := true
  write := .none
  tsMs := 0

def lowerHash : Text := with0x (toHex minedHash)

def upperHash : Text := with0x ((toHex minedHash).map Char.toUpper)

theorem stripped_plainRequest {txHash : Text} (h : pyStrip txHash = txHash) :
    (plainRequest txHash).stripped = plainRequest txHash := by
  have hdigest : ∀ bs : List Byte, pyLower (pyStrip (toHex bs)) = toHex bs := by
    intro bs
    rw [pyStrip_eq_self (isPySpace_toHex bs), pyLower, toHex_map_toLower]
  have haddr : ∀ a : Address, pyStrip a.text = a.text := fun a => pyStrip_with0x_toHex _
  unfold Request.stripped plainRequest
  simp only [h, haddr, intentDigest, hdigest, plainCalldata, pyStrip_with0x_toHex]

theorem withdrawnAmount_minedNode : withdrawnAmount deployedConfig minedNode () = 5 := by
  have hinput : pyLower (minedNode.tx ()).input = plainCalldata := pyLower_with0x_toHex _
  have hrecipient : externalWithdrawalRecipient plainCalldata = (addressOfByte 6).text := by
    rw [show plainCalldata = with0x (toHex (selector withdrawSig
      ++ [(addressOfByte 7).word, (addressOfByte 6).word, wordBytes 5].flatten)) by
        simp [plainCalldata], externalWithdrawalRecipient_withdraw]
  have hexecutor : deployedConfig.executor = (addressOfByte 1).text := pyLower_text _
  have hdecode := decode_withdraw_text (addressOfByte 1) (addressOfByte 7) (addressOfByte 6) 5
    (by decide)
  rw [← hexecutor, ← hrecipient] at hdecode
  exact @withdrawnAmount_of_decode _ deployedConfig minedNode () _ _ hinput hdecode

theorem settles_plainRequest {txHash : Text} (hstrip : pyStrip txHash = txHash)
    (hhash : isTxHash txHash = true) (hresolve : minedNode.resolve txHash = some ()) :
    Settles deployedConfig minedNode (plainRequest txHash) allAnswer () where
  accepted := by
    rw [stripped_plainRequest hstrip]
    apply firstReason_of_forall
    have hlen : plainCalldata.length = 202 := by simp [plainCalldata, length_selector]
    have hid : (intentDigest (plainRequest txHash)).length = 64 := by
      simp [intentDigest, Sha256.length_sha256]
    have hdata : ((strip0x plainCalldata).isNone || decide (plainCalldata.length < 4)
        || plainCalldata.length % 2 != 0) = false := by
      rw [hlen]
      rfl
    simp only [List.forall_mem_cons, List.not_mem_nil, false_implies, implies_true, and_true]
    refine ⟨rfl, by rw [show (plainRequest txHash).txHash = txHash from rfl, hhash]; rfl,
      rfl, rfl, hdata, rfl, rfl, ?_, ?_, rfl, rfl, rfl, rfl⟩
    · show ((intentDigest (plainRequest txHash)).length != 64) = false
      rw [hid]
      rfl
    · exact bne_self_eq_false _
  visible := rfl
  resolves := by
    rw [show (plainRequest txHash).txHash = txHash from rfl, hstrip]
    exact hresolve
  agrees := by
    rw [stripped_plainRequest hstrip]
    apply firstReason_of_forall
    simp only [List.forall_mem_cons, List.not_mem_nil, false_implies, implies_true, and_true]
    exact ⟨rfl, rfl, bne_self_eq_false _, rfl, rfl⟩
  found := rfl
  success := by decide
  proved := by
    rw [withdrawnAmount_minedNode]
    decide
  available := rfl
  written := rfl

/-- Repeating a request under one spelling settles once. -/
theorem reconcile_once_repeated :
    OncePerTransaction deployedConfig minedNode (reconcileAll deployedConfig minedNode []
      [(plainRequest lowerHash, allAnswer), (plainRequest lowerHash, allAnswer)]) := by
  rw [reconcile_once_iff deployedConfig minedNode [] rfl]
  intro t ra hra rb hrb _ _
  simp only [List.mem_cons, List.not_mem_nil, or_false, or_self] at hra hrb
  rw [hra, hrb]

/-- One withdrawal, reconciled under two spellings of its hash, is debited twice. -/
theorem reconcile_two_spellings :
    ¬ OncePerTransaction deployedConfig minedNode (reconcileAll deployedConfig minedNode []
        [(plainRequest lowerHash, allAnswer), (plainRequest upperHash, allAnswer)]) := by
  intro honce
  have hinit : Reconciled deployedConfig minedNode [] [] := Reconciled.init rfl
  have hspelling := (hinit.run _).oneSpelling_of_once honce () (plainRequest lowerHash, allAnswer)
    (by simp) (plainRequest upperHash, allAnswer) (by simp)
    (settles_plainRequest (by decide) (by decide) (by decide))
    (settles_plainRequest (by decide) (by decide) (by decide))
  exact absurd hspelling (by decide)

end SovereignCapital.Withdraw
