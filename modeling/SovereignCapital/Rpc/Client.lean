import SovereignCapital.Lib.PyRaise
import SovereignCapital.Lib.Traced

/-! # The JSON-RPC client

`JsonRpcClient.batch` sends a list of calls in chunks, one HTTP request a chunk. A chunk that the
provider limits is sent again in two halves; a provider that does not answer with a list gets the
calls one by one. Chunks are in flight at the same time, so the counter of the ids stands anywhere
when a request is made; the ids of one request follow each other. Times are left out.
-/

namespace SovereignCapital.Rpc

open Bytes Traced

/-! ## Requests and answers -/

structure Call where
  method : Text
  params : List PyTree

/-- A call with its id; `params or []` of a list is the list. -/
structure Request where
  id : Int
  call : Call

/-- What comes of an HTTP request: it fails with one of the exceptions that are caught, or there is
a body that is no JSON, or that is not read as JSON for its content type, or a value. -/
inductive Answer where
  | failed (text : Text)
  | malformed
  | unreadable (status : Nat) (text : Text)
  | json (status : Nat) (body : PyTree)

inductive Exchange where
  | batch (requests : List Request) (answer : Answer)
  | single (request : Request) (answer : Answer)

inductive RpcError where
  | text (t : Text)
  | http (status : Nat)
  | answer (error : PyTree)

inductive RpcResult where
  | ok (result : PyTree)
  | failed (error : RpcError)

/-- Where a request stands: the chunk, the halves it was split into, and, for a call that is sent by
itself, its position there. -/
structure Address where
  chunk : Nat
  path : List Bool
  position : Option Nat

/-- What surrounds a batch: the first id of each request, the answers, and what other calls of the
client make of `_batch_supported` while the first chunk is in flight. -/
structure Network where
  firstId : Address → Int
  answer : Address → Answer
  others : Option Bool → Option Bool

structure Client where
  maxBatch : Int
  batchSupported : Option Bool
  minBatchSetting : Option Text
  maxSplitsSetting : Option Text

abbrev Sent := Traced PyError Exchange (List RpcResult)

/-! ## One call -/

def isText (s : String) : PyTree → Bool
  | .leaf (.text t) => t == s
  | _ => false

/-- What `call` makes of an answer; the id is not looked at. -/
def callResult : Answer → Except PyError RpcResult
  | .failed text => .ok (.failed (.text text))
  | .malformed => .error .value
  | .unreadable status text =>
    if 400 ≤ status then .ok (.failed (.http status)) else .ok (.failed (.text text))
  | .json _ body =>
    match body with
    | .dict items _ =>
      match PyMap.get? items "error" with
      | some error => .ok (.failed (.answer error))
      | none => .ok (.ok (PyMap.get items "result"))
    | .list items _ =>
      -- `j["error"]` where the word is an element, or else `j.get`
      .error (if items.any (isText "error") then .type else .attribute)
    | .leaf (.text s) =>
      .error (if "error".toList <:+: s.toList then .type else .attribute)
    | _ => .error .type

def call (net : Network) (address : Address) (c : Call) : Sent :=
  after (.single ⟨net.firstId address, c⟩ (net.answer address))
    ⟨[], (callResult (net.answer address)).map fun r => [r]⟩

def callEach (net : Network) (address : Address) : Nat → List Call → Sent
  | _, [] => pure []
  | i, c :: rest =>
    append (call net { address with position := some i } c) (callEach net address (i + 1) rest)

/-! ## One chunk -/

def number : Int → List Call → List Request
  | _, [] => []
  | n, c :: rest => ⟨n, c⟩ :: number (n + 1) rest

/-- `int(getattr(r, "status", 200) or 200)`. -/
def statusOf (status : Nat) : Nat := if status = 0 then 200 else status

/-- `by_id`: the answers under the integers of their ids, the last one of an id first. -/
def collect : List PyTree → List (Int × PyMap) → Except PyError (List (Int × PyMap))
  | [], byId => .ok byId
  | .dict resp _ :: rest, byId =>
    match PyMap.get? resp "id" with
    | none => collect rest byId
    | some id =>
      match id.int with
      | .ok n => collect rest ((n, resp) :: byId)
      | .error .overflow => .error .overflow
      | .error _ => collect rest byId
  | _ :: rest, byId => collect rest byId

def resultOf (byId : List (Int × PyMap)) (rid : Int) : RpcResult :=
  match byId.lookup rid with
  | none => .failed (.text "missing_batch_response".toList)
  | some resp =>
    match PyMap.get? resp "error" with
    | some error => .failed (.answer error)
    | none => .ok (PyMap.get resp "result")

/-- `v == n`. -/
def equals (v : PyTree) (n : Int) : Bool :=
  match v with
  | .leaf (.int m) => m == n
  | .leaf (.float x _) => x == n
  | .leaf (.bool b) => (if b then 1 else 0) == n
  | _ => false

/-- `s in str(error.get("message") or "").lower()`. -/
def messageHas (s : String) (error : PyMap) : Bool :=
  decide (s.toList <:+:
    pyLower ((PyMap.get error "message").orElse (.leaf (.text ""))).str.toList)

def saysRateLimited : PyTree → Bool
  | .dict error _ =>
    equals (PyMap.get error "code") 429 || equals (PyMap.get error "code") (-32016)
      || messageHas "rate limit" error || messageHas "too many requests" error
  | _ => false

def rateLimited (byId : List (Int × PyMap)) (rid : Int) : Bool :=
  match byId.lookup rid with
  | none => false
  | some resp =>
    match PyMap.get? resp "error" with
    | some error => saysRateLimited error
    | none => false

inductive Reading where
  | done (results : List RpcResult)
  /-- The chunk is sent again in halves, or else these are the results. -/
  | limited (results : List RpcResult)
  /-- The provider does not know batches. -/
  | singly
  | raised (e : PyError)

def readBatch (minBatch : Nat) (requests : List Request) : Answer → Reading
  | .failed text => .done (requests.map fun _ => .failed (.text text))
  | .malformed => .raised .value
  | .unreadable status text =>
    if statusOf status = 429 then
      .limited (requests.map fun _ => .failed (.http (statusOf status)))
    else if 400 ≤ statusOf status then
      .done (requests.map fun _ => .failed (.http (statusOf status)))
    else .done (requests.map fun _ => .failed (.text text))
  | .json status body =>
    if statusOf status = 429 then
      .limited (requests.map fun _ => .failed (.http (statusOf status)))
    else
      match body with
      | .list items _ =>
        match collect items [] with
        | .error e => .raised e
        | .ok byId =>
          if (requests.all fun q => rateLimited byId q.id) = true
              ∧ minBatch < requests.length then
            .limited (requests.map fun q => resultOf byId q.id)
          else .done (requests.map fun q => resultOf byId q.id)
      | _ => .singly

/-- A chunk is sent; `retry` is what a limited one is sent again as. -/
def sendWith (net : Network) (minBatch : Nat) (retry : Option Sent) (address : Address)
    (chunk : List Call) : Sent :=
  after (.batch (number (net.firstId address) chunk) (net.answer address))
    (match readBatch minBatch (number (net.firstId address) chunk) (net.answer address) with
    | .done results => pure results
    | .limited results => retry.getD (pure results)
    | .singly => callEach net address 0 chunk
    | .raised e => raise e)

/-- Where a chunk is split. -/
def midpoint (minBatch length : Nat) : Nat :=
  if length ≤ max minBatch (length / 2) then length / 2 else max minBatch (length / 2)

/-- `_send_chunk`, with the number of splits that are left. -/
def sendChunk (net : Network) (minBatch : Nat) : Nat → Address → List Call → Sent
  | 0, address, chunk => sendWith net minBatch none address chunk
  | left + 1, address, chunk =>
    sendWith net minBatch
      (if chunk.length ≤ minBatch then none
      else some (append
        (sendChunk net minBatch left { address with path := false :: address.path }
          (chunk.take (midpoint minBatch chunk.length)))
        (sendChunk net minBatch left { address with path := true :: address.path }
          (chunk.drop (midpoint minBatch chunk.length)))))
      address chunk

/-! ## A batch -/

/-- `int(os.environ.get(name, default) or default)`. -/
def intSetting (setting : Option Text) (default : Int) : Except PyError Int :=
  match setting with
  | none => .ok default
  | some [] => .ok default
  | some t => (pyInt 10 t).elim (.error .value) .ok

/-- The smallest batch that is split, and how often one is. -/
def Client.limits (client : Client) : Except PyError (Nat × Nat) := do
  let minBatch ← intSetting client.minBatchSetting 8
  let maxSplits ← intSetting client.maxSplitsSetting 4
  return ((max 1 minBatch).toNat, (max 0 (min 6 maxSplits)).toNat)

/-- `calls[i : i + chunk_size]`, for each `i` that is a multiple of the size. -/
def chunksFrom (size : Nat) : Nat → List Call → List (List Call)
  | _, [] => []
  | 0, _ :: _ => []
  | fuel + 1, c :: rest =>
    (c :: rest).take size :: chunksFrom size fuel ((c :: rest).drop size)

def Client.chunks (client : Client) (calls : List Call) : List (List Call) :=
  chunksFrom (max 1 client.maxBatch).toNat calls.length calls

/-- What an exchange makes of `_batch_supported`. -/
def noteSupported (supported : Option Bool) : Exchange → Option Bool
  | .batch _ (.json status (.list _ _)) =>
    if statusOf status = 429 then supported
    else if supported = none then some true else supported
  | .batch _ (.json status _) => if statusOf status = 429 then supported else some false
  | _ => supported

/-- The chunks from the `k`th on, each call by itself. -/
def callChunks (net : Network) : Nat → List (List Call) → Sent
  | _, [] => pure []
  | k, chunk :: rest => append (callEach net ⟨k, [], none⟩ 0 chunk) (callChunks net (k + 1) rest)

/-- The chunks from the `k`th on, in flight together. Where several of them raise, `gather` raises
what the first of the list does; in time it may be another one. -/
def sendChunks (net : Network) (limits : Nat × Nat) : Nat → List (List Call) → List Sent
  | _, [] => []
  | k, chunk :: rest =>
    sendChunk net limits.1 limits.2 ⟨k, [], none⟩ chunk :: sendChunks net limits (k + 1) rest

/-- The first chunk says how the others are sent. -/
def sendAfterFirst (net : Network) (limits : Nat × Nat) (first : Sent) (rest : List (List Call)) :
    Sent :=
  append first
    (if net.others (first.log.foldl noteSupported none) = some false then callChunks net 1 rest
    else gather (sendChunks net limits 1 rest))

def batch (client : Client) (net : Network) (calls : List Call) : Sent :=
  match client.chunks calls with
  | [] => pure []
  | first :: rest =>
    if client.batchSupported = some false then callChunks net 0 (first :: rest)
    else
      match client.limits with
      | .error e => raise e
      | .ok limits =>
        if client.batchSupported = none then
          sendAfterFirst net limits
            (sendChunk net limits.1 limits.2 ⟨0, [], none⟩ first) rest
        else gather (sendChunks net limits 0 (first :: rest))

end SovereignCapital.Rpc
