import SovereignCapital.Engine.BalancerFormat
import SovereignCapital.Engine.Families
import SovereignCapital.Lib.PyTree

/-! # Balancer quotes, one by one and in a batch

`quote_balancer_given_in_many` with its indices: the requests that can be encoded are sent, and what
comes back is written to the slots they stand in. A call has a result or an error, and a vault
answers in an error: the payload is searched for in it. Diagnostics are left out.
-/

namespace SovereignCapital.Engine

open Bytes

/-! ## Payloads in an error -/

def isHexChar (c : Char) : Bool := (hexVal c).isSome

def isHexPayload (t : Text) : Bool := decide (10 ≤ t.length) && (t.drop 2).all isHexChar

def rstrip (chars t : Text) : Text := (t.reverse.dropWhile fun c => chars.contains c).reverse

def leadingHexPayload (stripped : Text) : Option Text :=
  if "0x".toList.isPrefixOf stripped then
    let candidate := rstrip ",;".toList (stripped.takeWhile fun c => !isPySpace c)
    if isHexPayload candidate then some candidate else none
  else none

def edgeChars : Text := ['\\', '\'', '"', ' ', ',', ';']

/-- The matches of `0x[0-9a-fA-F]{8,}`; the characters of a match are skipped. -/
def hexMatches : Nat → Text → List Text
  | _, [] => []
  | skipped + 1, _ :: rest => hexMatches skipped rest
  | 0, c :: rest =>
    let digits := (rest.drop 1).takeWhile isHexChar
    if c = '0' ∧ rest.head? = some 'x' ∧ 8 ≤ digits.length then
      ('0' :: 'x' :: digits) :: hexMatches (digits.length + 1) rest
    else hexMatches 0 rest

def iterTextHexPayloads (value : Text) : List Text :=
  let text := value.take 8192
  let stripped := rstrip edgeChars ((pyStrip text).dropWhile fun c => edgeChars.contains c)
  (leadingHexPayload stripped).toList
    ++ ((hexMatches 0 text).filter fun found => decide (found ≠ stripped)).take 8

def preferredErrorKeys : List String :=
  ["data", "return", "result", "originalError", "error", "cause", "message"]

def iterErrorChildren : PyTree → List PyTree
  | .dict items _ =>
    preferredErrorKeys.filterMap (PyMap.get? items)
      ++ ((items.take 12).filter fun item => !preferredErrorKeys.contains item.1).map Prod.snd
  | .list items _ => items.take 8
  | _ => []

/-- `_iter_error_hex_payloads`, to so many levels. -/
def iterErrorHexPayloads : Nat → PyTree → List Text
  | 0, _ => []
  | _ + 1, .leaf (.text s) => iterTextHexPayloads s.toList
  | levels + 1, value => (iterErrorChildren value).flatMap (iterErrorHexPayloads levels)

/-- The deltas that `_decode_query_batch_swap_error` finds. -/
def decodeQueryBatchSwapError (error : PyTree) : Option (List Int) :=
  (iterErrorHexPayloads 6 error).findSome? fun candidate =>
    (decodeQueryErrorCandidate (String.ofList candidate)).1

/-! ## Outcomes -/

inductive CallOutcome where
  | value (result : PyTree)
  | failure (error : PyTree)

/-- The outcome as it is interpreted: a text, or the deltas of an error. -/
def CallOutcome.rpcResult : CallOutcome → RpcResult
  | value (.leaf (.text s)) => .answered (some s)
  | value _ => .answered none
  | failure error => .failed (decodeQueryBatchSwapError error)

structure BalancerRequest where
  poolId : String
  tokenIn : String
  tokenOut : String
  amountIn : Int
deriving DecidableEq

/-- The data of a request; nothing where it is malformed. -/
def BalancerRequest.data (r : BalancerRequest) : Option String :=
  balancerCalldata r.poolId r.tokenIn r.tokenOut r.amountIn

def BalancerRequest.decode (r : BalancerRequest) (outcome : CallOutcome) : Option Int :=
  decodeBalancerRpcResult r.amountIn outcome.rpcResult

/-- `quote_balancer_given_in` with the outcome of its call. -/
def quoteOne (r : BalancerRequest) (outcome : CallOutcome) : Option Int :=
  match r.data with
  | none => none
  | some _ => r.decode outcome

/-! ## The batch -/

/-- `calls` and `valid_indices`. -/
structure Prepared where
  calls : List CallParam
  validIndices : List Nat

def Prepared.add (vault : String) (prepared : Prepared) (item : BalancerRequest × Nat) : Prepared :=
  match item.1.data with
  | none => prepared
  | some data =>
    { calls := prepared.calls ++ [.object vault data]
      validIndices := prepared.validIndices ++ [item.2] }

def prepare (vault : String) (reqs : List BalancerRequest) : Prepared :=
  reqs.zipIdx.foldl (Prepared.add vault) ⟨[], []⟩

def fillSlot (reqs : List BalancerRequest) (results : List CallOutcome) (out : List (Option Int))
    (slot : Nat × Nat) : List (Option Int) :=
  match results[slot.2]?, reqs[slot.1]? with
  | some result, some r => out.set slot.1 (r.decode result)
  | _, _ => out

/-- `quote_balancer_given_in_many`. -/
def quoteMany (ethCallBatch : List CallParam → List CallOutcome) (vault : String)
    (reqs : List BalancerRequest) : List (Option Int) :=
  let out := List.replicate reqs.length none
  let prepared := prepare vault reqs
  if prepared.calls = [] then out
  else
    let results := ethCallBatch prepared.calls
    prepared.validIndices.zipIdx.foldl (fillSlot reqs results) out

/-! ## What is sent -/

def callOf (vault : String) (item : BalancerRequest × Nat) : Option CallParam :=
  item.1.data.map (CallParam.object vault)

def indexOf (item : BalancerRequest × Nat) : Option Nat := item.1.data.map fun _ => item.2

theorem foldl_add (vault : String) (items : List (BalancerRequest × Nat)) (prepared : Prepared) :
    items.foldl (Prepared.add vault) prepared
      = { calls := prepared.calls ++ items.filterMap (callOf vault)
          validIndices := prepared.validIndices ++ items.filterMap indexOf } := by
  induction items generalizing prepared with
  | nil => simp only [List.foldl_nil, List.filterMap_nil, List.append_nil]
  | cons item items ih =>
    rw [List.foldl_cons, ih, Prepared.add]
    cases hdata : item.1.data with
    | none => simp [callOf, indexOf, hdata]
    | some data => simp [callOf, indexOf, hdata]

theorem prepare_eq (vault : String) (reqs : List BalancerRequest) :
    prepare vault reqs
      = ⟨reqs.zipIdx.filterMap (callOf vault), reqs.zipIdx.filterMap indexOf⟩ := by
  rw [prepare, foldl_add, List.nil_append, List.nil_append]

variable {vault : String} {i : Nat} {r : BalancerRequest}

/-- The slots that are filled are those of the requests that can be encoded. -/
theorem mem_validIndices {reqs : List BalancerRequest} :
    i ∈ (prepare vault reqs).validIndices ↔ ∃ r, reqs[i]? = some r ∧ r.data ≠ none := by
  rw [prepare_eq]
  simp only [List.mem_filterMap, Prod.exists]
  constructor
  · rintro ⟨r, j, hmem, hindex⟩
    obtain ⟨data, hdata, rfl⟩ := Option.map_eq_some_iff.1 hindex
    refine ⟨r, List.mem_zipIdx_iff_getElem?.1 hmem, ?_⟩
    rw [hdata]
    exact Option.some_ne_none _
  · rintro ⟨r, hr, hdata⟩
    obtain ⟨data, hdata⟩ := Option.ne_none_iff_exists'.1 hdata
    exact ⟨r, i, List.mem_zipIdx_iff_getElem?.2 hr, Option.map_eq_some_iff.2 ⟨data, hdata, rfl⟩⟩

/-- Nothing is sent where no slot is to be filled. -/
theorem validIndices_of_calls {reqs : List BalancerRequest} (h : (prepare vault reqs).calls = []) :
    (prepare vault reqs).validIndices = [] := by
  rw [prepare_eq] at h ⊢
  rw [List.filterMap_eq_nil_iff] at h ⊢
  intro item hitem
  have hcall := h item hitem
  rw [callOf, Option.map_eq_none_iff] at hcall
  rw [indexOf, hcall, Option.map_none]

/-! ## What is filled -/

section

variable {reqs : List BalancerRequest} {results : List CallOutcome} {outcome : Nat → CallOutcome}

theorem length_fillSlot (out : List (Option Int)) (slot : Nat × Nat) :
    (fillSlot reqs results out slot).length = out.length := by
  unfold fillSlot
  split
  · exact List.length_set
  · rfl

theorem length_foldl_fillSlot (slots : List (Nat × Nat)) (out : List (Option Int)) :
    (slots.foldl (fillSlot reqs results) out).length = out.length := by
  induction slots generalizing out with
  | nil => rfl
  | cons slot slots ih => rw [List.foldl_cons, ih, length_fillSlot]

/-- A slot is written with the outcome of its own call, the others stay. -/
theorem getElem?_fillSlot {slot : Nat × Nat} (hresult : results[slot.2]? = some (outcome slot.1))
    (hr : reqs[i]? = some r) (out : List (Option Int)) :
    (fillSlot reqs results out slot)[i]?
      = if i = slot.1 then out[i]?.map fun _ => r.decode (outcome i) else out[i]? := by
  unfold fillSlot
  rw [hresult]
  by_cases hi : i = slot.1
  · subst hi
    simp only [hr, if_true, List.getElem?_set_self']
    rfl
  · rw [if_neg hi]
    split
    · exact List.getElem?_set_ne (Ne.symm hi)
    · rfl

/-- After all slots are written, each holds what its own call makes of it. -/
theorem getElem?_foldl_fillSlot {slots : List (Nat × Nat)}
    (hresult : ∀ slot ∈ slots, results[slot.2]? = some (outcome slot.1)) (hr : reqs[i]? = some r)
    (out : List (Option Int)) :
    (slots.foldl (fillSlot reqs results) out)[i]?
      = if i ∈ slots.map Prod.fst then out[i]?.map fun _ => r.decode (outcome i)
        else out[i]? := by
  induction slots generalizing out with
  | nil => simp only [List.foldl_nil, List.map_nil, List.not_mem_nil, if_false]
  | cons slot slots ih =>
    have htail := ih fun s hs => hresult s (List.mem_cons_of_mem _ hs)
    rw [List.foldl_cons, htail, getElem?_fillSlot (hresult slot List.mem_cons_self) hr]
    simp only [List.map_cons, List.mem_cons]
    by_cases hi : i = slot.1
    · -- a slot that is written again gets the same value
      simp only [hi, true_or, if_true]
      split
      · rw [Option.map_map]
        rfl
      · rfl
    · simp only [hi, false_or, if_false]

end

def sentOutcomes (vault : String) (reqs : List BalancerRequest) (outcome : Nat → CallOutcome) :
    List CallOutcome :=
  (prepare vault reqs).validIndices.map outcome

theorem quoteMany_eq {ethCallBatch : List CallParam → List CallOutcome}
    {reqs : List BalancerRequest} {results : List CallOutcome}
    (h : ethCallBatch (prepare vault reqs).calls = results) :
    quoteMany ethCallBatch vault reqs
      = (prepare vault reqs).validIndices.zipIdx.foldl (fillSlot reqs results)
        (List.replicate reqs.length none) := by
  unfold quoteMany
  dsimp only
  split
  · rename_i hcalls
    rw [validIndices_of_calls hcalls]
    rfl
  · rw [h]

theorem getElem?_quoteMany {ethCallBatch : List CallParam → List CallOutcome}
    {reqs : List BalancerRequest} {outcome : Nat → CallOutcome}
    (h : ethCallBatch (prepare vault reqs).calls = sentOutcomes vault reqs outcome)
    (hr : reqs[i]? = some r) :
    (quoteMany ethCallBatch vault reqs)[i]? = some (quoteOne r (outcome i)) := by
  have hresult : ∀ slot ∈ (prepare vault reqs).validIndices.zipIdx,
      (sentOutcomes vault reqs outcome)[slot.2]? = some (outcome slot.1) := by
    intro slot hslot
    rw [sentOutcomes, List.getElem?_map, List.mem_zipIdx_iff_getElem?.1 hslot, Option.map_some]
  have hempty : (List.replicate reqs.length (none : Option Int))[i]? = some none := by
    have hi := (List.getElem?_eq_some_iff.1 hr).1
    rw [List.getElem?_replicate, if_pos hi]
  rw [quoteMany_eq h, getElem?_foldl_fillSlot hresult hr, List.zipIdx_map_fst, hempty]
  unfold quoteOne
  cases hdata : r.data with
  | none =>
    -- a malformed request has no index, and its slot stays empty
    have hi : i ∉ (prepare vault reqs).validIndices := by
      intro hi
      obtain ⟨r', hr', hsent⟩ := mem_validIndices.1 hi
      rw [hr] at hr'
      cases hr'
      exact hsent hdata
    rw [if_neg hi]
  | some data =>
    have hi : i ∈ (prepare vault reqs).validIndices := by
      refine mem_validIndices.2 ⟨r, hr, ?_⟩
      rw [hdata]
      exact Option.some_ne_none _
    rw [if_pos hi, Option.map_some]

theorem length_quoteMany (ethCallBatch : List CallParam → List CallOutcome) (vault : String)
    (reqs : List BalancerRequest) : (quoteMany ethCallBatch vault reqs).length = reqs.length := by
  rw [quoteMany_eq rfl, length_foldl_fillSlot, List.length_replicate]

def BalancerRequest.tuple (r : BalancerRequest) : String × String × String × Int :=
  (r.poolId, r.tokenIn, r.tokenOut, r.amountIn)

def answeredAt (answer : CallParam → CallOutcome) (vault : String) (reqs : List BalancerRequest)
    (i : Nat) : CallOutcome :=
  match reqs[i]?.bind BalancerRequest.data with
  | some data => answer (.object vault data)
  | none => .value default

theorem map_answer_calls (answer : CallParam → CallOutcome) (vault : String)
    (reqs : List BalancerRequest) :
    (prepare vault reqs).calls.map answer
      = sentOutcomes vault reqs (answeredAt answer vault reqs) := by
  rw [sentOutcomes, prepare_eq, List.map_filterMap, List.map_filterMap]
  refine List.filterMap_congr fun item hitem => ?_
  have hreq := List.mem_zipIdx_iff_getElem?.1 hitem
  cases hdata : item.1.data with
  | none => simp only [callOf, indexOf, hdata, Option.map_none]
  | some data =>
    simp only [callOf, indexOf, hdata, Option.map_some, answeredAt, hreq, Option.bind_some]

/-- **Where a node answers each call by itself** the batch is that of the engine. -/
theorem quoteBalancerGivenInMany_eq (answer : CallParam → CallOutcome) (vault : String)
    (reqs : List BalancerRequest) :
    quoteBalancerGivenInMany ⟨fun call => (answer call).rpcResult⟩ vault
        (reqs.map BalancerRequest.tuple)
      = some (quoteMany (fun calls => calls.map answer) vault reqs) := by
  rw [quoteBalancerGivenInMany]
  refine congrArg some ?_
  rw [scatter_calls]
  apply List.ext_getElem?
  intro i
  rw [List.map_map, List.getElem?_map]
  cases hr : reqs[i]? with
  | none =>
    rw [List.getElem?_eq_none_iff] at hr
    rw [List.getElem?_eq_none_iff.2 (by rwa [length_quoteMany])]
    rfl
  | some r =>
    rw [getElem?_quoteMany (map_answer_calls answer vault reqs) hr, Option.map_some]
    refine congrArg some ?_
    unfold quoteOne
    cases hdata : r.data with
    | none =>
      simp only [BalancerRequest.data] at hdata
      simp only [Function.comp_apply, BalancerRequest.tuple, hdata, Option.map_none,
        Option.bind_none]
    | some data =>
      have hanswered : answeredAt answer vault reqs i = answer (.object vault data) := by
        rw [answeredAt, hr, Option.bind_some, hdata]
      simp only [BalancerRequest.data] at hdata
      simp only [Function.comp_apply, BalancerRequest.tuple, hdata, Option.map_some,
        Option.bind_some, hanswered]
      rfl

end SovereignCapital.Engine
