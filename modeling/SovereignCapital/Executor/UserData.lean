import SovereignCapital.Executor.Contract

/-! # The user data of a loan

`abi.decode` in the callbacks reads back what `abi.encode` wrote in `execute`.
-/

namespace SovereignCapital.Executor

open Bytes Abi

/-! ## Words -/

variable {i pos : Nat} {w data : List Byte} {leg : Leg}

theorem wordAt_flatten {ws : List (List Byte)} (h : ∀ w ∈ ws, w.length = 32)
    (hw : ws[i]? = some w) :
    wordAt ws.flatten (32 * i) = some w := by
  have hlength := length_flatten_of_length h
  have hi : i < ws.length := (List.getElem?_eq_some_iff.1 hw).1
  rw [wordAt, if_pos (by omega), take_drop_flatten h, hw, Option.getD_some]

theorem decodeWord_of_wordAt {x : Word} (h : wordAt data pos = some (wordBytes x)) :
    decodeWord data pos = some x := by
  rw [decodeWord, h, Option.map_some, beNat_wordBytes]
  exact congrArg some (Fin.ext (Nat.mod_eq_of_lt x.isLt))

theorem decodeUint8_of_wordAt {b : Byte} (h : wordAt data pos = some (beBytes 32 b.val)) :
    decodeUint8 data pos = some b := by
  have hb : beNat (beBytes 32 b.val) = b.val := beNat_beBytes_of_lt (by omega)
  rw [decodeUint8, h, Option.bind_some, hb, if_pos b.isLt]
  exact congrArg some (Fin.ext (Nat.mod_eq_of_lt b.isLt))

theorem decodeAddress_of_wordAt {a : Address} (h : wordAt data pos = some a.word) :
    decodeAddress data pos = some a := by
  have hdrop : a.word.drop 12 = a.bytes := rfl
  have htake : a.word.take 12 = List.replicate 12 0 := rfl
  rw [decodeAddress, h, Option.bind_some, dif_pos ⟨by rw [hdrop, a.length_eq], htake⟩]
  rfl

/-! ## Legs -/

theorem Leg.length_words (leg : Leg) : leg.words.length = 6 := rfl

theorem Leg.length_word (hw : w ∈ leg.words) : w.length = 32 := by
  have hall : ∀ w ∈ leg.words, w.length = 32 := by simp [Leg.words]
  exact hall w hw

theorem Params.length_word {p : Params} (hw : w ∈ p.words) : w.length = 32 := by
  have hall : ∀ w ∈ p.words, w.length = 32 := by
    rw [Params.words, List.forall_mem_append]
    constructor
    · simp
    · intro w hw
      obtain ⟨leg, -, hw⟩ := List.mem_flatMap.1 hw
      exact Leg.length_word hw
  exact hall w hw

theorem Params.wordAt_head (p : Params) (hw : p.words[i]? = some w) :
    wordAt p.encode (32 * i) = some w := wordAt_flatten (fun _ => Params.length_word) hw

theorem Params.wordAt_leg (p : Params) {j : Nat} (hleg : p.legs[i]? = some leg)
    (hw : leg.words[j]? = some w) : wordAt p.encode (256 + 32 + 192 * i + 32 * j) = some w := by
  have hj : j < 6 := (List.getElem?_eq_some_iff.1 hw).1
  have hword : p.words[9 + (6 * i + j)]? = some w := by
    rw [Params.words, List.getElem?_append_right (Nat.le_add_right 9 _)]
    show (p.legs.flatMap Leg.words)[9 + (6 * i + j) - 9]? = _
    rw [Nat.add_sub_cancel_left, getElem?_flatMap_of_length Leg.length_words _ _ hj, hleg]
    exact hw
  have hpos : 256 + 32 + 192 * i + 32 * j = 32 * (9 + (6 * i + j)) := by ring
  rw [hpos]
  exact p.wordAt_head hword

theorem Params.decodeLeg_encode (p : Params) (hleg : p.legs[i]? = some leg) :
    decodeLeg p.encode (256 + 32 + 192 * i) = some leg := by
  have hdex := decodeUint8_of_wordAt (p.wordAt_leg (j := 0) hleg rfl)
  have hvenue := decodeAddress_of_wordAt (p.wordAt_leg (j := 1) hleg rfl)
  have hin := decodeAddress_of_wordAt (p.wordAt_leg (j := 2) hleg rfl)
  have hout := decodeAddress_of_wordAt (p.wordAt_leg (j := 3) hleg rfl)
  have hmin := decodeWord_of_wordAt (p.wordAt_leg (j := 4) hleg rfl)
  have haux := decodeWord_of_wordAt (p.wordAt_leg (j := 5) hleg rfl)
  simp only [Nat.reduceMul, Nat.add_zero] at hdex hvenue hin hout hmin haux
  simp only [decodeLeg, hdex, hvenue, hin, hout, hmin, haux, Option.bind_eq_bind,
    Option.bind_some, Option.pure_def]

theorem mapM_range_eq_some {α : Type} {f : Nat → Option α} {l : List α}
    (h : ∀ i a, l[i]? = some a → f i = some a) : (List.range l.length).mapM f = some l := by
  suffices hfrom : ∀ (l' : List α) (start : Nat),
      (∀ i a, l'[i]? = some a → f (start + i) = some a) →
        (List.range' start l'.length).mapM f = some l' by
    rw [List.range_eq_range']
    exact hfrom l 0 fun i a hi => by rw [Nat.zero_add]; exact h i a hi
  intro l'
  induction l' with
  | nil => exact fun _ _ => rfl
  | cons a l' ih =>
    intro start hread
    have hfirst : f start = some a := hread 0 a rfl
    have hrest := ih (start + 1) fun i b hi => by
      rw [Nat.add_assoc, Nat.add_comm 1 i]
      exact hread (i + 1) b hi
    rw [List.length_cons, List.range'_succ, List.mapM_cons, hfirst, hrest]
    rfl

/-- **The callbacks read back what `execute` wrote.** -/
theorem decode_encode (p : Params) : decode p.encode = some p := by
  have hprovider := decodeUint8_of_wordAt (p.wordAt_head (i := 0) rfl)
  have htoken := decodeAddress_of_wordAt (p.wordAt_head (i := 1) rfl)
  have hamount := decodeWord_of_wordAt (p.wordAt_head (i := 2) rfl)
  have hmin := decodeWord_of_wordAt (p.wordAt_head (i := 3) rfl)
  have hto := decodeAddress_of_wordAt (p.wordAt_head (i := 4) rfl)
  have hdeadline := decodeWord_of_wordAt (p.wordAt_head (i := 5) rfl)
  have hroute := decodeWord_of_wordAt (p.wordAt_head (i := 6) rfl)
  have hoffset : decodeWord p.encode (32 * 7) = some 256 :=
    decodeWord_of_wordAt (p.wordAt_head (i := 7) rfl)
  have hlength : decodeWord p.encode (32 * 8) = some ⟨p.legs.length, p.legs_lt⟩ :=
    decodeWord_of_wordAt (p.wordAt_head (i := 8) rfl)
  simp only [Nat.reduceMul] at hprovider htoken hamount hmin hto hdeadline hroute hoffset hlength
  have hsize : 256 + 32 + 192 * p.legs.length ≤ p.encode.length := by
    rw [Params.encode, length_flatten_of_length fun _ => Params.length_word]
    simp only [Params.words, List.length_append, List.length_flatMap, Leg.length_words,
      List.map_const', List.sum_replicate_nat, List.length_cons, List.length_nil]
    omega
  have hlegs := mapM_range_eq_some fun i leg hi => p.decodeLeg_encode hi
  have h256 : (256 : Word).val = 256 := rfl
  simp only [decode, hprovider, htoken, hamount, hmin, hto, hdeadline, hroute, hoffset, h256,
    hlength, hlegs, hsize, p.legs_lt, guard, Option.bind_eq_bind, Option.bind_some, if_true,
    Option.pure_def, dif_pos]

/-- **What `execute` commits to is accepted by the callback** of its provider. -/
theorem openLoan_commit {Ω : Type} {d : Deployment} {w : World Ω} {p : Params}
    {provider : Provider} {fee : Word} (hprovider : p.provider = provider.id)
    (htime : w.timestamp ≤ p.deadline.val) (hfee : p.amountBorrow.val + fee.val < 2 ^ 256) :
    openLoan d (w.commit p) provider p.borrowToken p.amountBorrow fee p.encode
      = some
        { provider := provider
          params := p
          fee := fee.val
          preExisting := if p.amountBorrow.val < w.ledger p.borrowToken d.self
            then w.ledger p.borrowToken d.self - p.amountBorrow.val else 0 } := by
  have hguard : (w.commit p).inFlight = true ∧ (w.commit p).inFlightProvider = provider.id
      ∧ Keccak.keccak256 p.encode = (w.commit p).inFlightHash := ⟨rfl, hprovider, rfl⟩
  have htime' : (w.commit p).timestamp ≤ p.deadline.val := htime
  unfold openLoan
  simp only [guard, if_pos hguard, if_pos htime', if_pos hfee, if_pos hprovider, decode_encode,
    and_self, if_true, Option.bind_eq_bind, Option.bind_some, Option.pure_def]
  rfl

/-! ## The callback of the sample -/

/-- The vault calls back for the sample. -/
def sampleCallback : Callback := .receiveFlashLoan [sampleAddress 10] [100] [0]

def sampleLoan (preExisting : Nat) : Loan where
  provider := .balancer
  params := sampleParams
  fee := 0
  preExisting := preExisting

theorem sampleStart_balance (balance : Nat) (t : Address) :
    (sampleStart balance).ledger t sampleDeployment.self = balance := by
  simp only [sampleStart, if_true]

theorem sampleWorld_balance (balance : Nat) (t : Address) :
    (sampleWorld balance).ledger t sampleDeployment.self = balance := sampleStart_balance balance t

theorem enter_sample {balance : Nat} (h : 100 < balance) :
    enter sampleDeployment (sampleWorld balance) (sampleAddress 3) sampleCallback
      sampleParams.encode = some (sampleLoan (balance - 100)) := by
  have hopen : openLoan sampleDeployment (sampleWorld balance) .balancer (sampleAddress 10) 100 0
      sampleParams.encode = _ :=
    openLoan_commit (w := sampleStart balance) rfl (Nat.zero_le _) (by decide)
  have hamount : sampleParams.amountBorrow.val = 100 := rfl
  rw [sampleStart_balance, hamount, if_pos h] at hopen
  exact hopen

end SovereignCapital.Executor
