import TokenBridge.Contract.Encoding
import TokenBridge.Signer

/-!
# Scripted signers

A signer that answers from fixed values and records what it is asked. Quotes
cost its fee, an approval becomes the allowance, transactions are numbered from
one, and the receipt of a transfer holds the event of a sent message. Answers
of its own can be put in the place of each of these.
-/

namespace TokenBridge.Scripted

/-- A request as the signer saw it. -/
inductive Observation where
  | read (contract : Address) (call : Contract.Call)
  | write (contract : Address) (call : Contract.Call) (value : Amount) (hash : Hash)
  | wait (hash : Hash)
  deriving DecidableEq, Repr

def Observation.label : Observation → String
  | read _ call => "read:" ++ call.method
  | write _ call .. => "write:" ++ call.method
  | wait _ => "wait"

/-- The message id in receipts where no other is given. -/
def usualGuid : Hash := ⟨0x7a1f0c9d5e3b2a4f6c8d0e1f2a3b4c5d6e7f8091a2b3c4d5e6f708192a3b4c5d⟩

structure Signer where
  address : Address := .zero
  fee : Amount := 0
  tokenBalance : Amount := 0
  quoteError : Option String := none
  receiptStatus : Bool := true
  guid : Hash := usualGuid
  emitsEvent : Bool := true
  /-- Put in the place of the quote. -/
  quoteValue : Option Contract.Value := none
  /-- Put in the place of the allowance. -/
  allowanceValue : Option Contract.Value := none
  allowanceError : Option String := none
  approveError : Option String := none
  sendError : Option String := none
  /-- Failures of the waits, by their place. -/
  waitErrors : List (Option String) := []
  /-- Receipts of the waits, by their place. -/
  receipts : List (Option Receipt) := []
  allowance : Amount := 0
  transactions : Nat := 0
  transfers : List Hash := []
  waits : Nat := 0
  /-- What was asked so far. -/
  seen : List Observation := []

namespace Signer

def observe (s : Signer) (o : Observation) : Signer := { s with seen := s.seen ++ [o] }

def plainRead (s : Signer) (call : Contract.Call) : Except Report Contract.Value :=
  match call with
  | .quoteSend .. =>
    match s.quoteError with
    | some message => .error (.of message)
    | none => .ok (.fee ⟨s.fee, 0⟩)
  | .allowance .. => .ok (.uint s.allowance)
  | .balanceOf _ => .ok (.uint s.tokenBalance)
  | call => .error (.of (call.method ++ " is not a read call"))

def answerRead (s : Signer) (call : Contract.Call) : Except Report Contract.Value :=
  match call with
  | .quoteSend .. => (s.quoteValue.map Except.ok).getD (s.plainRead call)
  | .allowance .. =>
    match s.allowanceError with
    | some message => .error (.of message)
    | none => (s.allowanceValue.map Except.ok).getD (s.plainRead call)
  | call => s.plainRead call

/-- The failure that is put before a write. -/
def writeError? (s : Signer) : Contract.Call → Option String
  | .approve .. => s.approveError
  | .send .. => s.sendError
  | _ => none

def apply (s : Signer) (call : Contract.Call) (hash : Hash) : Signer :=
  match call with
  | .approve _ amount => { s with allowance := amount }
  | .send .. => { s with transfers := hash :: s.transfers }
  | _ => s

def write (s : Signer) (contract : Address) (call : Contract.Call) (value : Amount) :
    Except Report Hash × Signer :=
  match s.writeError? call with
  | some message => (.error (.of message), s)
  | none =>
    if !call.isWrite then (.error (.of (call.method ++ " is not a write call")), s)
    else
      let number := s.transactions + 1
      let hash : Hash := ⟨BitVec.ofNat 256 number⟩
      let s := { s with transactions := number }
      (.ok hash, (s.apply call hash).observe (.write contract call value hash))

def logs (s : Signer) (hash : Hash) : List Log :=
  if s.emitsEvent && s.transfers.contains hash then
    [⟨.zero, [Contract.sentEventTopic, s.guid, s.address.toHash], []⟩]
  else []

def answerWait (s : Signer) (hash : Hash) : Except Report Receipt :=
  match (s.waitErrors[s.waits]?).join with
  | some message => .error (.of message)
  | none => .ok (((s.receipts[s.waits]?).join).getD ⟨s.receiptStatus, hash, s.logs hash⟩)

def answer (s : Signer) :
    (r : TokenBridge.Signer.Request) → TokenBridge.Signer.interface.Answer r × Signer
  | .read contract call => (s.answerRead call, s.observe (.read contract call))
  | .write contract call value => s.write contract call value
  | .wait hash => (s.answerWait hash, { s.observe (.wait hash) with waits := s.waits + 1 })

def handler : Handler TokenBridge.Signer.interface Signer where
  reply _ r s := ⟨(s.answer r).1, 0, (s.answer r).2⟩

def quotedAmounts (s : Signer) : List Amount :=
  s.seen.filterMap fun
    | .read _ (.quoteSend p _) => some p.amount
    | _ => none

end Signer

end TokenBridge.Scripted
