import TokenBridge.Relay.Scan
import TokenBridge.Relay.Tracker
import TokenBridge.Rpc.Confirmation

/-!
# Scripted servers

Servers that answer from lists: an HTTP server with one list of responses, and
a node with a list of replies for each method. The last of a list is given
again and again. The HTTP server counts the requests that reach it, which are
those to its host while it is up; a node keeps every request.
-/

namespace TokenBridge.Scripted

def atOrLast? {α : Type} (xs : List α) (n : Nat) : Option α := (xs[n]?).or xs.getLast?

/-! ## HTTP -/

structure HttpServer where
  host : String
  responses : List Http.Response
  isUp : Bool := true
  used : Nat := 0

namespace HttpServer

open Relay (Lookup Message Scan)

/-- The response to the request of a number; without any response the body is empty. -/
def response (s : HttpServer) (n : Nat) : Http.Response :=
  (atOrLast? s.responses n).getD ⟨200, []⟩

/-- The request reaches this server. -/
def isReachedBy (s : HttpServer) (r : Http.Request) : Bool := s.isUp && r.host == s.host

/-- The response to a request that comes after `k` more. -/
def exchange (s : HttpServer) (k : Nat) (r : Http.Request) : Except RelayError Http.Response :=
  if s.isReachedBy r then .ok (s.response (s.used + k))
  else .error (.transport "connection refused")

def lookups (s : HttpServer) (c : Scan) (guid : String) (k : Nat) : Lookup where
  answer := ((c.messageRequest Url.parser guid).bind (s.exchange k)).bind (Scan.message guid)
  duration := 0

def history (s : HttpServer) (c : Scan) (address : String) (limit : Nat) :
    Except RelayError (List Message) :=
  ((c.walletRequest Url.parser address limit).bind (s.exchange 0)).bind Scan.walletMessages

/-- The requests that reach the server when one is made `n` times. -/
def received (s : HttpServer) (n : Nat) (r : Except RelayError Http.Request) :
    List Http.Request :=
  match r with
  | .ok r => if s.isReachedBy r then List.replicate n r else []
  | .error _ => []

def after (s : HttpServer) (received : List Http.Request) : HttpServer :=
  { s with used := s.used + received.length }

end HttpServer

/-! ## Nodes -/

structure Node where
  replies : List (String × List Rpc.Reply)
  /-- The requests so far. -/
  seen : List Rpc.Request := []

namespace Node

def count (s : Node) (method : String) : Nat :=
  (s.seen.filter fun r => r.method == method).length

/-- The reply to the request of a method that comes after `k` more of it. -/
def replyTo (s : Node) (method : String) (k : Nat) : Rpc.Reply :=
  ((s.replies.find? fun r => r.1 == method).bind fun r =>
    atOrLast? r.2 (s.count method + k)).getD .unknownMethod

def observe (s : Node) (r : Rpc.Request) : Node := { s with seen := s.seen ++ [r] }

/-- Replies at once. -/
def handler : Handler Rpc.interface Node where
  reply _ r s := ⟨s.replyTo r.method 0, 0, s.observe r⟩

def serve {α : Type} (s : Node) (p : Rpc.Work α) : Except Report α × Node :=
  let run := Program.run handler p.run 0 s
  (run.result, run.state)

/-! ### Receipts -/

def logFromJson? (v : Json) : Option Log := do
  return {
    address := ← (v.get? "address").bind Address.fromJson?
    topics := ← (v.get? "topics").bind (Json.list? Hash.fromJson?)
    data := ← (v.get? "data").bind Bytes.fromJson? }

/-- The status of a mined transaction; one that has a state root instead counts as successful. -/
def statusFromJson? (v : Json) : Option Bool :=
  match v.get? "status" with
  | some s => (Rpc.Account.natFromJson? 64 s).map (· == 1)
  | none => (v.get? "root").map fun _ => true

/-- The status and the logs of a receipt; null while there is none. -/
def receiptFromJson? : Json → Option (Option (Bool × List Log))
  | .null => some none
  | v => do
    let status ← statusFromJson? v
    let logs ← (v.get? "logs").bind (Json.list? logFromJson?)
    return some (status, logs)

/-- Reads no more of a receipt than its status and its logs, so that it also takes receipts whose
other fields are missing or make no sense. -/
def receipts : Rpc.ReceiptLibrary where
  Mined := Bool × List Log
  Entry := Log
  read := receiptFromJson?
  status := (·.1)
  entries := (·.2)
  address := (·.address)
  topics := (·.topics)
  data := (·.data)

def confirmations (s : Node) (hash : Hash) (k : Nat) : Rpc.Confirmation :=
  ⟨s.replyTo (Rpc.receiptRequest hash).method k, 0⟩

/-- The result of a wait, and the node after its questions. -/
def confirmed (s : Node) (hash : Hash) (r : Rpc.ConfirmationReport) :
    Except Report Receipt × Node :=
  (r.result, r.asked.foldl (fun s _ => s.observe (Rpc.receiptRequest hash)) s)

def confirm (s : Node) (a : Rpc.Account) (hash : Hash) : Option (Except Report Receipt × Node) :=
  (a.confirm Number.Span.clockReach receipts hash (s.confirmations hash)).map (s.confirmed hash)

/-- An account on the node as a signer, under a clock that counts for ever. -/
def signerHandler (a : Rpc.Account) : Handler Signer.interface Node where
  reply _ r s :=
    match r with
    | .read contract call =>
      let (answer, s) := s.serve (a.read contract call)
      ⟨answer, 0, s⟩
    | .write contract call value =>
      let (answer, s) := s.serve (a.write contract call value)
      ⟨answer, 0, s⟩
    | .wait hash =>
      let wait := a.confirming receipts hash
      let (answer, s) := s.confirmed hash (wait.loop (s.confirmations hash) 0 0)
      ⟨answer, 0, s⟩

end Node

end TokenBridge.Scripted
