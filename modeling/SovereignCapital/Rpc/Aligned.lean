import SovereignCapital.Rpc.Client

/-! # What a batch returns

* `aligned_iff` : a batch returns one result for each call, in order and of that call, exactly when
  every answer can be read and the ids that are matched are those of the requests.
-/

namespace SovereignCapital.Rpc

open Bytes Traced

/-! ## What is to be guaranteed -/

def IsNumber (v : PyTree) (n : Int) : Prop :=
  match v with
  | .leaf (.int m) => m = n
  | .leaf (.float x _) => x = n
  | _ => False

/-- The server answers a call with a value: in a list under the id of its request, or by itself. -/
def Exchange.Answers (c : Call) (v : PyTree) : Exchange → Prop
  | .batch requests (.json _ (.list items _)) =>
    ∃ q ∈ requests, q.call = c ∧ ∃ resp repr, PyTree.dict resp repr ∈ items
      ∧ IsNumber (PyMap.get resp "id") q.id ∧ PyMap.get? resp "error" = none
      ∧ PyMap.get resp "result" = v
  | .single q (.json _ (.dict resp _)) =>
    q.call = c ∧ PyMap.get? resp "error" = none ∧ PyMap.get resp "result" = v
  | _ => False

/-- Among some exchanges the server answered a call with a value. -/
def Answered (log : List Exchange) (c : Call) (v : PyTree) : Prop := ∃ x ∈ log, x.Answers c v

/-- A batch returns, after at most so many requests, one result for each call in order, and what is
returned for a call is what the server answered to it. -/
def Aligned (client : Client) (net : Network) (calls : List Call) : Prop :=
  (∃ results, (batch client net calls).outcome = .ok results
    ∧ List.Forall₂
        (fun c r => ∀ v, r = .ok v → Answered (batch client net calls).log c v) calls results)
  ∧ (batch client net calls).log.length ≤ 128 * calls.length

/-! ## The condition -/

/-- An answer of a list whose id is an infinity. -/
def HasInfiniteId : PyTree → Prop
  | .dict resp _ => ∃ negative, PyMap.get? resp "id" = some (.inf negative)
  | _ => False

def Exchange.Clean : Exchange → Prop
  | .batch _ .malformed => False
  | .batch _ (.json status (.list items _)) =>
    statusOf status ≠ 429 → ∀ item ∈ items, ¬ HasInfiniteId item
  | .single _ .malformed => False
  | .single _ (.json _ body) => body.isMapping = true
  | _ => True

/-- What is matched with a request by the integer of its id and has no error has that id for its
number, or repeats what was answered to such a call. -/
def Exchange.Genuine (log : List Exchange) : Exchange → Prop
  | .batch requests (.json status (.list items _)) =>
    statusOf status ≠ 429 → ∀ byId, collect items [] = .ok byId → ∀ q ∈ requests, ∀ resp,
      byId.lookup q.id = some resp → PyMap.get? resp "error" = none →
      IsNumber (PyMap.get resp "id") q.id ∨ Answered log q.call (PyMap.get resp "result")
  | _ => True

structure BatchOk (client : Client) (net : Network) (calls : List Call) : Prop where
  settings : calls ≠ [] → client.batchSupported ≠ some false → ∃ limits, client.limits = .ok limits
  clean : ∀ x ∈ (batch client net calls).log, x.Clean
  genuine : ∀ x ∈ (batch client net calls).log, x.Genuine (batch client net calls).log

/-! ## What an exchange settles -/

def Exchange.settled : Exchange → List (Call × RpcResult)
  | .batch requests (.json status (.list items _)) =>
    if statusOf status = 429 then []
    else
      match collect items [] with
      | .error _ => []
      | .ok byId => requests.map fun q => (q.call, resultOf byId q.id)
  | .single q answer =>
    match callResult answer with
    | .error _ => []
    | .ok r => [(q.call, r)]
  | _ => []

def Failed (r : RpcResult) : Prop := ∃ e, r = .failed e

abbrev Sends (chunk : List Call) (t : Sent) : Prop :=
  Accounts Exchange.Clean Exchange.settled Failed chunk t

/-! ## Ids -/

variable {v : PyTree} {byId : List (Int × PyMap)} {requests : List Request} {x : Exchange}
  {rid : Int} {net : Network} {chunk calls : List Call} {limits : Nat × Nat} {client : Client}

theorem int_eq_overflow_iff : v.int = .error .overflow ↔ ∃ negative, v = .inf negative := by
  constructor
  · intro h
    cases v with
    | leaf v =>
      cases v with
      | text s =>
        unfold PyTree.int at h
        cases hint : pyInt 10 s.toList with
        | none =>
          simp only [hint, Option.elim] at h
          cases h
        | some n =>
          simp only [hint, Option.elim] at h
          cases h
      | none => cases h
      | bool b => cases h
      | int n => cases h
      | float x repr => cases h
      | object truthy repr => cases h
    | inf negative => exact ⟨negative, rfl⟩
    | nan => cases h
    | list items repr => cases h
    | dict items repr => cases h
  · rintro ⟨negative, rfl⟩
    rfl

theorem collect_ok_iff (items : List PyTree) (byId : List (Int × PyMap)) :
    (∃ out, collect items byId = .ok out) ↔ ∀ item ∈ items, ¬ HasInfiniteId item := by
  induction items generalizing byId with
  | nil => exact ⟨fun _ _ h => (List.not_mem_nil h).elim, fun _ => ⟨byId, rfl⟩⟩
  | cons item rest ih =>
    rw [List.forall_mem_cons]
    -- what is skipped has no infinite id
    have hskip : ∀ byId', collect (item :: rest) byId = collect rest byId' →
        ¬ HasInfiniteId item → ((∃ out, collect (item :: rest) byId = .ok out)
          ↔ ¬ HasInfiniteId item ∧ ∀ item ∈ rest, ¬ HasInfiniteId item) := by
      intro byId' heq hno
      rw [heq, ih byId']
      exact ⟨fun h => ⟨hno, h⟩, fun h => h.2⟩
    cases item with
    | dict resp repr =>
      cases hid : PyMap.get? resp "id" with
      | none =>
        refine hskip byId ?_ ?_
        · simp only [collect, hid]
        · rintro ⟨negative, h⟩
          rw [hid] at h
          cases h
      | some id =>
        have hno : id.int ≠ .error .overflow → ¬ HasInfiniteId (.dict resp repr) := by
          rintro hint ⟨negative, h⟩
          rw [hid] at h
          cases h
          exact hint rfl
        cases hint : id.int with
        | ok n =>
          refine hskip ((n, resp) :: byId) ?_ (hno ?_)
          · simp only [collect, hid, hint]
          · rw [hint]
            exact fun h => by cases h
        | error e =>
          cases e with
          | overflow =>
            have hinf : HasInfiniteId (.dict resp repr) := by
              obtain ⟨negative, rfl⟩ := int_eq_overflow_iff.1 hint
              exact ⟨negative, hid⟩
            constructor
            · rintro ⟨out, h⟩
              simp only [collect, hid, hint] at h
              cases h
            · rintro ⟨h, -⟩
              exact (h hinf).elim
          | type =>
            refine hskip byId ?_ (hno ?_)
            · simp only [collect, hid, hint]
            · rw [hint]
              exact fun h => by cases h
          | value =>
            refine hskip byId ?_ (hno ?_)
            · simp only [collect, hid, hint]
            · rw [hint]
              exact fun h => by cases h
    | leaf v => exact hskip byId rfl id
    | inf negative => exact hskip byId rfl id
    | nan => exact hskip byId rfl id
    | list items repr => exact hskip byId rfl id

theorem mem_of_collect {items : List PyTree} {out : List (Int × PyMap)}
    (h : collect items byId = .ok out) {n : Int} {resp : PyMap} (hmem : (n, resp) ∈ out) :
    (n, resp) ∈ byId ∨ ∃ repr, PyTree.dict resp repr ∈ items := by
  induction items generalizing byId with
  | nil =>
    cases h
    exact .inl hmem
  | cons item rest ih =>
    have hlater : (n, resp) ∈ byId ∨ (∃ repr, PyTree.dict resp repr ∈ rest) →
        (n, resp) ∈ byId ∨ ∃ repr, PyTree.dict resp repr ∈ item :: rest := by
      rintro (hold | ⟨repr, hrest⟩)
      · exact .inl hold
      · exact .inr ⟨repr, List.mem_cons_of_mem _ hrest⟩
    cases item with
    | dict resp' repr =>
      cases hid : PyMap.get? resp' "id" with
      | none =>
        simp only [collect, hid] at h
        exact hlater (ih h)
      | some id =>
        cases hint : id.int with
        | ok n' =>
          simp only [collect, hid, hint] at h
          rcases ih h with hnew | ⟨repr', hrest⟩
          · rcases List.mem_cons.1 hnew with heq | hold
            · cases heq
              exact .inr ⟨repr, List.mem_cons_self⟩
            · exact .inl hold
          · exact .inr ⟨repr', List.mem_cons_of_mem _ hrest⟩
        | error e =>
          cases e with
          | overflow =>
            simp only [collect, hid, hint] at h
            cases h
          | type =>
            simp only [collect, hid, hint] at h
            exact hlater (ih h)
          | value =>
            simp only [collect, hid, hint] at h
            exact hlater (ih h)
    | leaf v => exact hlater (ih h)
    | inf negative => exact hlater (ih h)
    | nan => exact hlater (ih h)
    | list items repr => exact hlater (ih h)

/-! ## One call -/

theorem clean_single_iff {q : Request} {answer : Answer} :
    (Exchange.single q answer).Clean ↔ ∃ r, callResult answer = .ok r := by
  cases answer with
  | failed text => exact ⟨fun _ => ⟨_, rfl⟩, fun _ => trivial⟩
  | malformed =>
    constructor
    · exact False.elim
    · rintro ⟨r, h⟩
      cases h
  | unreadable status text =>
    refine ⟨fun _ => ?_, fun _ => trivial⟩
    by_cases hstatus : 400 ≤ status
    · exact ⟨_, if_pos hstatus⟩
    · exact ⟨_, if_neg hstatus⟩
  | json status body =>
    have hraises : body.isMapping = false → ¬ ∃ r, callResult (.json status body) = .ok r := by
      rintro hbody ⟨r, h⟩
      cases body with
      | dict items repr => cases hbody
      | leaf v => cases v <;> cases h
      | inf negative => cases h
      | nan => cases h
      | list items repr => cases h
    cases hbody : body.isMapping with
    | false =>
      constructor
      · intro h
        have htrue : body.isMapping = true := h
        rw [hbody] at htrue
        cases htrue
      · intro h
        exact (hraises hbody h).elim
    | true =>
      refine ⟨fun _ => ?_, fun _ => hbody⟩
      cases body with
      | dict items repr =>
        cases herror : PyMap.get? items "error" with
        | none =>
          exact ⟨.ok (PyMap.get items "result"), by simp only [callResult, herror]⟩
        | some error =>
          exact ⟨.failed (.answer error), by simp only [callResult, herror]⟩
      | leaf v => cases hbody
      | inf negative => cases hbody
      | nan => cases hbody
      | list items repr => cases hbody

theorem call_sends (net : Network) (address : Address) (c : Call) :
    Sends [c] (call net address c) := by
  unfold call
  cases hresult : callResult (net.answer address) with
  | error e =>
    refine Accounts.raise fun hclean => ?_
    obtain ⟨r, hr⟩ := clean_single_iff.1 hclean
    rw [hresult] at hr
    cases hr
  | ok r =>
    refine Accounts.single (clean_single_iff.2 ⟨r, hresult⟩) rfl fun P _ => ?_
    have hsettled : (Exchange.single ⟨net.firstId address, c⟩ (net.answer address)).settled
        = [(c, r)] := by
      simp only [Exchange.settled, hresult]
    rw [hsettled]
    exact Iff.rfl

theorem callEach_sends (net : Network) (address : Address) (i : Nat) (chunk : List Call) :
    Sends chunk (callEach net address i chunk) := by
  induction chunk generalizing i with
  | nil => exact Accounts.nil
  | cons c rest ih =>
    have h := (call_sends net { address with position := some i } c).append (ih (i + 1))
    exact h

/-! ## One chunk -/

theorem map_call_number (n : Int) (chunk : List Call) :
    (number n chunk).map Request.call = chunk := by
  induction chunk generalizing n with
  | nil => rfl
  | cons c rest ih => rw [number, List.map_cons, ih]

structure Gives (requests : List Request) (x : Exchange) (results : List RpcResult) : Prop where
  clean : x.Clean
  length : (requests.map Request.call).length = results.length
  settles : ∀ P : Call → RpcResult → Prop, (∀ c r, Failed r → P c r) →
    ((∀ p ∈ (requests.map Request.call).zip results, P p.1 p.2) ↔ ∀ p ∈ x.settled, P p.1 p.2)

theorem gives_map {f : Request → RpcResult} (hclean : x.Clean)
    (h : ∀ P : Call → RpcResult → Prop, (∀ c r, Failed r → P c r) →
      ((∀ q ∈ requests, P q.call (f q)) ↔ ∀ p ∈ x.settled, P p.1 p.2)) :
    Gives requests x (requests.map f) where
  clean := hclean
  length := by rw [List.length_map, List.length_map]
  settles := by
    intro P hP
    rw [List.zip_map', List.forall_mem_map]
    exact h P hP

theorem gives_failed (e : RpcError) (hclean : x.Clean) (hsettled : x.settled = []) :
    Gives requests x (requests.map fun _ => .failed e) := by
  refine gives_map hclean fun P hP => ?_
  rw [hsettled]
  exact ⟨fun _ _ h => (List.not_mem_nil h).elim, fun _ q _ => hP _ _ ⟨e, rfl⟩⟩

theorem gives_collect (hclean : x.Clean)
    (hsettled : x.settled = requests.map fun q => (q.call, resultOf byId q.id)) :
    Gives requests x (requests.map fun q => resultOf byId q.id) := by
  refine gives_map hclean fun P _ => ?_
  rw [hsettled, List.forall_mem_map]

theorem failed_of_rateLimited (h : rateLimited byId rid = true) : Failed (resultOf byId rid) := by
  unfold rateLimited at h
  unfold resultOf
  cases hlookup : byId.lookup rid with
  | none =>
    rw [hlookup] at h
    cases h
  | some resp =>
    simp only [hlookup] at h ⊢
    cases herror : PyMap.get? resp "error" with
    | none =>
      rw [herror] at h
      cases h
    | some error => exact ⟨_, rfl⟩

theorem readBatch_spec (minBatch : Nat) (requests : List Request) (answer : Answer) :
    match readBatch minBatch requests answer with
    | .done results => Gives requests (.batch requests answer) results
    | .limited results =>
      Gives requests (.batch requests answer) results
        ∧ ∀ p ∈ (Exchange.batch requests answer).settled, Failed p.2
    | .singly => (Exchange.batch requests answer).Clean
        ∧ (Exchange.batch requests answer).settled = []
    | .raised _ => ¬ (Exchange.batch requests answer).Clean := by
  have hnothing : ∀ x : Exchange, x.settled = [] → ∀ p ∈ x.settled, Failed p.2 := by
    intro x hx p hp
    rw [hx] at hp
    exact (List.not_mem_nil hp).elim
  cases answer with
  | failed text => exact gives_failed _ trivial rfl
  | malformed => exact id
  | unreadable status text =>
    unfold readBatch
    by_cases hlimited : statusOf status = 429
    · simp only [hlimited, if_true]
      exact ⟨gives_failed _ trivial rfl, hnothing _ rfl⟩
    · by_cases hstatus : 400 ≤ statusOf status
      · simp only [hlimited, if_false, hstatus, if_true]
        exact gives_failed _ trivial rfl
      · simp only [hlimited, if_false, hstatus]
        exact gives_failed _ trivial rfl
  | json status body =>
    unfold readBatch
    by_cases hlimited : statusOf status = 429
    · have hclean : (Exchange.batch requests (.json status body)).Clean := by
        cases body with
        | list items repr => exact fun hnot => (hnot hlimited).elim
        | leaf v => trivial
        | inf negative => trivial
        | nan => trivial
        | dict items repr => trivial
      have hsettled : (Exchange.batch requests (.json status body)).settled = [] := by
        cases body with
        | list items repr => exact if_pos hlimited
        | leaf v => rfl
        | inf negative => rfl
        | nan => rfl
        | dict items repr => rfl
      simp only [hlimited, if_true]
      exact ⟨gives_failed _ hclean hsettled, hnothing _ hsettled⟩
    · simp only [hlimited, if_false]
      cases body with
      | list items repr =>
        cases hcollect : collect items [] with
        | error e =>
          simp only [hcollect]
          intro hclean
          obtain ⟨byId, hok⟩ := (collect_ok_iff items []).2 (hclean hlimited)
          rw [hcollect] at hok
          cases hok
        | ok byId =>
          have hclean : (Exchange.batch requests (.json status (.list items repr))).Clean :=
            fun _ => (collect_ok_iff items []).1 ⟨byId, hcollect⟩
          have hsettled :
              (Exchange.batch requests (.json status (.list items repr))).settled
                = requests.map fun q => (q.call, resultOf byId q.id) := by
            simp only [Exchange.settled, hlimited, if_false, hcollect]
          by_cases hall : (requests.all fun q => rateLimited byId q.id) = true
              ∧ minBatch < requests.length
          · simp only [hcollect, hall, and_self, if_true]
            refine ⟨gives_collect hclean hsettled, ?_⟩
            rw [hsettled, List.forall_mem_map]
            intro q hq
            exact failed_of_rateLimited (List.all_eq_true.1 hall.1 q hq)
          · simp only [hcollect, hall, if_false]
            exact gives_collect hclean hsettled
      | leaf v => exact ⟨trivial, rfl⟩
      | inf negative => exact ⟨trivial, rfl⟩
      | nan => exact ⟨trivial, rfl⟩
      | dict items repr => exact ⟨trivial, rfl⟩

theorem sendWith_sends {minBatch : Nat} {retry : Option Sent} {address : Address}
    (hretry : ∀ t, retry = some t → Sends chunk t) :
    Sends chunk (sendWith net minBatch retry address chunk) := by
  have hspec := readBatch_spec minBatch (number (net.firstId address) chunk) (net.answer address)
  unfold sendWith
  cases hread : readBatch minBatch (number (net.firstId address) chunk) (net.answer address) with
  | done results =>
    rw [hread] at hspec
    obtain ⟨hclean, hlength, hsettles⟩ := hspec
    rw [map_call_number] at hlength hsettles
    exact Accounts.single hclean hlength hsettles
  | limited results =>
    rw [hread] at hspec
    obtain ⟨⟨hclean, hlength, hsettles⟩, hfailed⟩ := hspec
    rw [map_call_number] at hlength hsettles
    cases retry with
    | none => exact Accounts.single hclean hlength hsettles
    | some t => exact (hretry t rfl).after hclean hfailed
  | singly =>
    rw [hread] at hspec
    obtain ⟨hclean, hsettled⟩ := hspec
    refine (callEach_sends net address 0 chunk).after hclean ?_
    rw [hsettled]
    exact fun _ h => (List.not_mem_nil h).elim
  | raised e =>
    rw [hread] at hspec
    exact Accounts.raise hspec

/-- **A chunk.** However often it is split, each call gets the result that an exchange gives it. -/
theorem sendChunk_sends (net : Network) (minBatch left : Nat) (address : Address)
    (chunk : List Call) : Sends chunk (sendChunk net minBatch left address chunk) := by
  induction left generalizing address chunk with
  | zero =>
    refine sendWith_sends fun t ht => ?_
    cases ht
  | succ left ih =>
    refine sendWith_sends fun t ht => ?_
    split at ht
    · cases ht
    · cases ht
      have hhalves := (ih { address with path := false :: address.path }
          (chunk.take (midpoint minBatch chunk.length))).append
        (ih { address with path := true :: address.path }
          (chunk.drop (midpoint minBatch chunk.length)))
      rw [List.take_append_drop] at hhalves
      exact hhalves

/-! ## A batch -/

theorem flatten_chunksFrom {size : Nat} (hsize : 0 < size) (fuel : Nat) (calls : List Call)
    (hfuel : calls.length ≤ fuel) : (chunksFrom size fuel calls).flatten = calls := by
  induction fuel generalizing calls with
  | zero =>
    have hnil : calls = [] := List.length_eq_zero_iff.1 (Nat.le_zero.1 hfuel)
    rw [hnil]
    rfl
  | succ fuel ih =>
    cases calls with
    | nil => rfl
    | cons c rest =>
      have hdrop : ((c :: rest).drop size).length ≤ fuel := by
        rw [List.length_drop, List.length_cons]
        rw [List.length_cons] at hfuel
        omega
      rw [chunksFrom, List.flatten_cons, ih _ hdrop, List.take_append_drop]

theorem flatten_chunks (client : Client) (calls : List Call) :
    (client.chunks calls).flatten = calls := by
  have hsize : 0 < (max 1 client.maxBatch).toNat := by omega
  exact flatten_chunksFrom hsize _ _ le_rfl

theorem length_chunksFrom (size fuel : Nat) (calls : List Call) :
    (chunksFrom size fuel calls).length ≤ fuel := by
  induction fuel generalizing calls with
  | zero =>
    cases calls with
    | nil => exact le_rfl
    | cons c rest => exact le_rfl
  | succ fuel ih =>
    cases calls with
    | nil => exact Nat.zero_le _
    | cons c rest =>
      rw [chunksFrom, List.length_cons]
      have h := ih ((c :: rest).drop size)
      omega

theorem callChunks_sends (net : Network) (k : Nat) (chunks : List (List Call)) :
    Sends chunks.flatten (callChunks net k chunks) := by
  induction chunks generalizing k with
  | nil => exact Accounts.nil
  | cons chunk rest ih => exact (callEach_sends net _ 0 chunk).append (ih (k + 1))

theorem sendChunks_sends (net : Network) (limits : Nat × Nat) (k : Nat)
    (chunks : List (List Call)) :
    List.Forall₂ (fun chunk t => Sends chunk t) chunks (sendChunks net limits k chunks) := by
  induction chunks generalizing k with
  | nil => exact .nil
  | cons chunk rest ih => exact .cons (sendChunk_sends net _ _ _ chunk) (ih (k + 1))

theorem sendAfterFirst_sends {first : Sent} {rest : List (List Call)} (hfirst : Sends chunk first) :
    Sends (chunk :: rest).flatten (sendAfterFirst net limits first rest) := by
  rw [List.flatten_cons]
  unfold sendAfterFirst
  refine hfirst.append ?_
  split
  · exact callChunks_sends net 1 rest
  · exact Accounts.gather (sendChunks_sends net limits 1 rest)

theorem chunks_ne_nil {first : List Call} {rest : List (List Call)}
    (h : client.chunks calls = first :: rest) : calls ≠ [] := by
  rintro rfl
  cases h

theorem batch_sends
    (h : calls ≠ [] → client.batchSupported ≠ some false → ∃ limits, client.limits = .ok limits) :
    Sends calls (batch client net calls) := by
  have hflatten := flatten_chunks client calls
  unfold batch
  cases hchunks : client.chunks calls with
  | nil =>
    rw [hchunks] at hflatten
    rw [← hflatten]
    exact Accounts.nil
  | cons first rest =>
    rw [hchunks] at hflatten
    rw [← hflatten]
    simp only
    by_cases hsingly : client.batchSupported = some false
    · rw [if_pos hsingly]
      exact callChunks_sends net 0 (first :: rest)
    · obtain ⟨limits, hlimits⟩ := h (chunks_ne_nil hchunks) hsingly
      rw [if_neg hsingly, hlimits]
      simp only
      split
      · exact sendAfterFirst_sends (sendChunk_sends net _ _ _ first)
      · exact Accounts.gather (sendChunks_sends net limits 0 (first :: rest))

/-- And one whose settings cannot be read. -/
theorem batch_raises (hcalls : calls ≠ []) (hsupported : client.batchSupported ≠ some false)
    (hlimits : ¬ ∃ limits, client.limits = .ok limits) :
    ¬ ∃ results, (batch client net calls).outcome = .ok results := by
  rintro ⟨results, hresults⟩
  unfold batch at hresults
  cases hchunks : client.chunks calls with
  | nil =>
    have hflatten := flatten_chunks client calls
    rw [hchunks] at hflatten
    exact hcalls hflatten.symm
  | cons first rest =>
    rw [hchunks] at hresults
    simp only [if_neg hsupported] at hresults
    cases hread : client.limits with
    | ok limits => exact hlimits ⟨limits, hread⟩
    | error e =>
      rw [hread] at hresults
      cases hresults

/-! ## How many requests -/

theorem length_callEach (net : Network) (address : Address) (i : Nat) (chunk : List Call) :
    (callEach net address i chunk).log.length ≤ chunk.length := by
  induction chunk generalizing i with
  | nil => exact le_rfl
  | cons c rest ih =>
    have happend := length_log_append (call net { address with position := some i } c)
      (callEach net address (i + 1) rest)
    have hone : (call net { address with position := some i } c).log.length = 1 := rfl
    have hrest := ih (i + 1)
    rw [List.length_cons]
    unfold callEach
    omega

theorem length_sendWith {minBatch bound : Nat} {retry : Option Sent} {address : Address}
    (hbound : chunk.length ≤ bound) (hretry : ∀ t, retry = some t → t.log.length ≤ bound) :
    (sendWith net minBatch retry address chunk).log.length ≤ bound + 1 := by
  unfold sendWith
  rw [log_after, List.length_cons]
  refine Nat.succ_le_succ ?_
  cases readBatch minBatch (number (net.firstId address) chunk) (net.answer address) with
  | done results => exact Nat.zero_le _
  | limited results =>
    cases retry with
    | none => exact Nat.zero_le _
    | some t => exact hretry t rfl
  | singly => exact (length_callEach net address 0 chunk).trans hbound
  | raised e => exact Nat.zero_le _

/-- A chunk takes at most so many requests. -/
theorem length_sendChunk (net : Network) (minBatch left : Nat) (address : Address)
    (chunk : List Call) :
    (sendChunk net minBatch left address chunk).log.length
      ≤ 2 ^ (left + 1) - 1 + chunk.length := by
  induction left generalizing address chunk with
  | zero =>
    have h : (sendWith net minBatch none address chunk).log.length ≤ chunk.length + 1 :=
      length_sendWith le_rfl fun t ht => by cases ht
    unfold sendChunk
    omega
  | succ left ih =>
    have hpow : 2 ^ (left + 1 + 1) = 2 * 2 ^ (left + 1) := pow_succ' 2 (left + 1)
    have hpos : 0 < 2 ^ (left + 1) := by positivity
    have hbound : (sendChunk net minBatch (left + 1) address chunk).log.length
        ≤ (2 * (2 ^ (left + 1) - 1) + chunk.length) + 1 := by
      refine length_sendWith (Nat.le_add_left _ _) fun t ht => ?_
      split at ht
      · cases ht
      · cases ht
        have hleft := ih { address with path := false :: address.path }
          (chunk.take (midpoint minBatch chunk.length))
        have hright := ih { address with path := true :: address.path }
          (chunk.drop (midpoint minBatch chunk.length))
        have hsum : (chunk.take (midpoint minBatch chunk.length)).length
            + (chunk.drop (midpoint minBatch chunk.length)).length = chunk.length := by
          rw [← List.length_append, List.take_append_drop]
        refine (length_log_append _ _).trans ?_
        omega
    omega

theorem length_callChunks (net : Network) (k : Nat) (chunks : List (List Call)) :
    (callChunks net k chunks).log.length ≤ chunks.flatten.length := by
  induction chunks generalizing k with
  | nil => exact le_rfl
  | cons chunk rest ih =>
    rw [List.flatten_cons, List.length_append]
    have happend := length_log_append (callEach net ⟨k, [], none⟩ 0 chunk)
      (callChunks net (k + 1) rest)
    have hchunk := length_callEach net ⟨k, [], none⟩ 0 chunk
    have hrest := ih (k + 1)
    unfold callChunks
    omega

theorem splits_le (h : client.limits = .ok limits) : limits.2 ≤ 6 := by
  unfold Client.limits at h
  cases hmin : intSetting client.minBatchSetting 8 with
  | error e =>
    rw [hmin] at h
    cases h
  | ok minBatch =>
    cases hmax : intSetting client.maxSplitsSetting 4 with
    | error e =>
      rw [hmin, hmax] at h
      cases h
    | ok maxSplits =>
      rw [hmin, hmax] at h
      cases h
      show (max 0 (min 6 maxSplits)).toNat ≤ 6
      omega

theorem length_sendChunk_le (net : Network) (address : Address) (chunk : List Call)
    (h : limits.2 ≤ 6) :
    (sendChunk net limits.1 limits.2 address chunk).log.length ≤ 127 + chunk.length := by
  have hpow : 2 ^ (limits.2 + 1) ≤ 2 ^ 7 := Nat.pow_le_pow_right (by norm_num) (by omega)
  have hlength := length_sendChunk net limits.1 limits.2 address chunk
  omega

theorem length_gather_sendChunks (net : Network) (h : limits.2 ≤ 6) (k : Nat)
    (chunks : List (List Call)) :
    (gather (sendChunks net limits k chunks)).log.length
      ≤ 127 * chunks.length + chunks.flatten.length := by
  induction chunks generalizing k with
  | nil => exact le_rfl
  | cons chunk rest ih =>
    have hboth : (gather (sendChunks net limits k (chunk :: rest))).log.length
        = (sendChunk net limits.1 limits.2 ⟨k, [], none⟩ chunk).log.length
          + (gather (sendChunks net limits (k + 1) rest)).log.length :=
      length_log_both _ _
    have hchunk := length_sendChunk_le net ⟨k, [], none⟩ chunk h
    have hrest := ih (k + 1)
    rw [hboth, List.flatten_cons, List.length_append, List.length_cons]
    omega

/-- A batch ends after at most so many requests. -/
theorem length_batch (client : Client) (net : Network) (calls : List Call) :
    (batch client net calls).log.length ≤ 128 * calls.length := by
  have hflatten := flatten_chunks client calls
  have hcount : (client.chunks calls).length ≤ calls.length := length_chunksFrom _ _ _
  unfold batch
  cases hchunks : client.chunks calls with
  | nil => exact Nat.zero_le _
  | cons first rest =>
    rw [hchunks] at hflatten hcount
    have hsum : first.length + rest.flatten.length = calls.length := by
      rw [← hflatten, List.flatten_cons, List.length_append]
    rw [List.length_cons] at hcount
    simp only
    split
    · have h := length_callChunks net 0 (first :: rest)
      rw [hflatten] at h
      omega
    · cases hlimits : client.limits with
      | error e => exact Nat.zero_le _
      | ok limits =>
        have hsplits := splits_le hlimits
        simp only
        split
        · have hfirst := length_sendChunk_le net ⟨0, [], none⟩ first hsplits
          unfold sendAfterFirst
          refine (length_log_append _ _).trans ?_
          split
          · have hrest := length_callChunks net 1 rest
            omega
          · have hrest := length_gather_sendChunks net hsplits 1 rest
            omega
        · have h := length_gather_sendChunks net hsplits 0 (first :: rest)
          rw [hflatten, List.length_cons] at h
          omega

/-! ## Alignment -/

theorem mem_of_lookup {resp : PyMap} (h : byId.lookup rid = some resp) : (rid, resp) ∈ byId := by
  obtain ⟨before, later, rfl, -⟩ := List.lookup_eq_some_iff.1 h
  exact List.mem_append_right _ List.mem_cons_self

theorem resultOf_eq_ok :
    resultOf byId rid = .ok v ↔ ∃ resp, byId.lookup rid = some resp
      ∧ PyMap.get? resp "error" = none ∧ PyMap.get resp "result" = v := by
  unfold resultOf
  cases hlookup : byId.lookup rid with
  | none =>
    constructor
    · intro h
      cases h
    · rintro ⟨resp, h, -⟩
      cases h
  | some resp =>
    cases herror : PyMap.get? resp "error" with
    | none =>
      simp only [herror]
      constructor
      · intro h
        cases h
        exact ⟨resp, rfl, herror, rfl⟩
      · rintro ⟨resp', heq, -, rfl⟩
        cases heq
        rfl
    | some error =>
      simp only [herror]
      constructor
      · intro h
        cases h
      · rintro ⟨resp', heq, hnone, -⟩
        cases heq
        rw [herror] at hnone
        cases hnone

theorem answers_of_callResult {q : Request} {answer : Answer}
    (h : callResult answer = .ok (.ok v)) :
    (Exchange.single q answer).Answers q.call v := by
  have hclean := clean_single_iff (q := q).2 ⟨_, h⟩
  cases answer with
  | failed text => cases h
  | malformed => cases h
  | unreadable status text =>
    by_cases hstatus : 400 ≤ status
    · simp only [callResult, if_pos hstatus] at h
      cases h
    · simp only [callResult, if_neg hstatus] at h
      cases h
  | json status body =>
    cases body with
    | dict resp repr =>
      cases herror : PyMap.get? resp "error" with
      | none =>
        simp only [callResult, herror] at h
        cases h
        exact ⟨rfl, herror, rfl⟩
      | some error =>
        simp only [callResult, herror] at h
        cases h
    | leaf v => cases hclean
    | inf negative => cases hclean
    | nan => cases hclean
    | list items repr => cases hclean

theorem genuine_iff {log : List Exchange} (hx : x ∈ log) :
    x.Genuine log ↔ ∀ p ∈ x.settled, ∀ v, p.2 = .ok v → Answered log p.1 v := by
  cases x with
  | single q answer =>
    refine ⟨fun _ p hp v hv => ?_, fun _ => trivial⟩
    cases hresult : callResult answer with
    | error e =>
      simp only [Exchange.settled, hresult] at hp
      exact (List.not_mem_nil hp).elim
    | ok r =>
      simp only [Exchange.settled, hresult, List.mem_singleton] at hp
      subst hp
      simp only at hv
      subst hv
      exact ⟨_, hx, answers_of_callResult hresult⟩
  | batch requests answer =>
    have hnothing : (Exchange.batch requests answer).settled = [] →
        ∀ p ∈ (Exchange.batch requests answer).settled, ∀ v, p.2 = .ok v →
          Answered log p.1 v := by
      intro hsettled p hp
      rw [hsettled] at hp
      exact (List.not_mem_nil hp).elim
    cases answer with
    | failed text => exact ⟨fun _ => hnothing rfl, fun _ => trivial⟩
    | malformed => exact ⟨fun _ => hnothing rfl, fun _ => trivial⟩
    | unreadable status text => exact ⟨fun _ => hnothing rfl, fun _ => trivial⟩
    | json status body =>
      cases body with
      | leaf v => exact ⟨fun _ => hnothing rfl, fun _ => trivial⟩
      | inf negative => exact ⟨fun _ => hnothing rfl, fun _ => trivial⟩
      | nan => exact ⟨fun _ => hnothing rfl, fun _ => trivial⟩
      | dict items repr => exact ⟨fun _ => hnothing rfl, fun _ => trivial⟩
      | list items repr =>
        by_cases hlimited : statusOf status = 429
        · exact ⟨fun _ => hnothing (if_pos hlimited), fun _ hnot => (hnot hlimited).elim⟩
        · constructor
          · intro hgenuine p hp v hv
            cases hcollect : collect items [] with
            | error e =>
              simp only [Exchange.settled, hlimited, if_false, hcollect] at hp
              exact (List.not_mem_nil hp).elim
            | ok byId =>
              simp only [Exchange.settled, hlimited, if_false, hcollect] at hp
              obtain ⟨q, hq, rfl⟩ := List.mem_map.1 hp
              obtain ⟨resp, hlookup, hnone, rfl⟩ := resultOf_eq_ok.1 hv
              rcases hgenuine hlimited byId hcollect q hq resp hlookup hnone with
                hnumber | hanswered
              · rcases mem_of_collect hcollect (mem_of_lookup hlookup) with
                  hold | ⟨repr', hitem⟩
                · exact (List.not_mem_nil hold).elim
                · exact ⟨_, hx, q, hq, rfl, resp, repr', hitem, hnumber, hnone, rfl⟩
              · exact hanswered
          · intro h _ byId hcollect q hq resp hlookup hnone
            refine .inr (h (q.call, resultOf byId q.id) ?_ _ ?_)
            · simp only [Exchange.settled, hlimited, if_false, hcollect]
              exact List.mem_map.2 ⟨q, hq, rfl⟩
            · exact resultOf_eq_ok.2 ⟨resp, hlookup, hnone, rfl⟩

/-- **Alignment.** Whatever the server answers and however the chunks are split, a batch returns one
result for each call in order, the server's answer to that call, exactly when its settings and the
answers can be read and no answer is matched by an id that is not the number of its request. -/
theorem aligned_iff (client : Client) (net : Network) (calls : List Call) :
    Aligned client net calls ↔ BatchOk client net calls := by
  constructor
  · rintro ⟨⟨results, hresults, haligned⟩, -⟩
    have hsettings : calls ≠ [] → client.batchSupported ≠ some false →
        ∃ limits, client.limits = .ok limits := by
      intro hcalls hsupported
      by_contra hlimits
      exact batch_raises hcalls hsupported hlimits ⟨results, hresults⟩
    have hsends : Sends calls (batch client net calls) := batch_sends hsettings
    have hclean := hsends.returns.1 ⟨results, hresults⟩
    refine ⟨hsettings, hclean, fun x hx => (genuine_iff hx).2 ?_⟩
    refine (hsends.settles results hresults
      (fun c r => ∀ v, r = .ok v → Answered (batch client net calls).log c v) ?_).1 ?_ x hx
    · rintro c r ⟨e, rfl⟩ v hv
      cases hv
    · intro p hp
      exact (List.forall₂_iff_zip.1 haligned).2 hp
  · rintro ⟨hsettings, hclean, hgenuine⟩
    have hsends : Sends calls (batch client net calls) := batch_sends hsettings
    obtain ⟨results, hresults⟩ := hsends.returns.2 hclean
    refine ⟨⟨results, hresults, ?_⟩, length_batch client net calls⟩
    refine List.forall₂_iff_zip.2 ⟨hsends.length results hresults, fun {c r} hp => ?_⟩
    refine (hsends.settles results hresults
      (fun c r => ∀ v, r = .ok v → Answered (batch client net calls).log c v) ?_).2 ?_ (c, r) hp
    · rintro c r ⟨e, rfl⟩ v hv
      cases hv
    · exact fun x hx => (genuine_iff hx).1 (hgenuine x hx)

def newClient : Client := ⟨50, none, none, none⟩

def blockNumber : Call := ⟨"eth_blockNumber".toList, []⟩

def answering (body : PyTree) : Network := ⟨fun _ => 1, fun _ => .json 200 body, id⟩

/-- A list with one answer, under the id `true`. -/
def foreignAnswer : PyTree :=
  .list
    [.dict
      [("id", .leaf (.bool true)), ("result", .leaf (.text "0x10"))]
      ⟨"\x7b'id': True, 'result': '0x10'\x7d", by decide⟩]
    ⟨"[\x7b'id': True, 'result': '0x10'\x7d]", by decide⟩

/-- A server that answers with a text makes the batch raise, and an answer under the id `true` is
taken for that of the request `1`. -/
theorem not_aligned_text_foreign :
    ¬ Aligned newClient (answering (.leaf (.text "busy"))) [blockNumber]
      ∧ ¬ Aligned newClient (answering foreignAnswer) [blockNumber] := by
  constructor
  · rintro ⟨⟨results, hresults, -⟩, -⟩
    have hraises : (batch newClient (answering (.leaf (.text "busy"))) [blockNumber]).outcome
        = .error .attribute := rfl
    rw [hraises] at hresults
    cases hresults
  · rintro ⟨⟨results, hresults, haligned⟩, -⟩
    have hout : (batch newClient (answering foreignAnswer) [blockNumber]).outcome
        = .ok [.ok (.leaf (.text "0x10"))] := rfl
    rw [hout] at hresults
    cases hresults
    obtain ⟨x, hx, hanswers⟩ := (List.forall₂_cons.1 haligned).1 _ rfl
    have hlog : (batch newClient (answering foreignAnswer) [blockNumber]).log
        = [.batch [⟨1, blockNumber⟩] (.json 200 foreignAnswer)] := rfl
    rw [hlog, List.mem_singleton] at hx
    subst hx
    obtain ⟨q, hq, -, resp, repr, hitem, hnumber, -⟩ := hanswers
    rw [List.mem_singleton] at hq hitem
    cases hq
    cases hitem
    exact hnumber

end SovereignCapital.Rpc
