import TokenBridge.Rpc.Account

/-!
# Waiting for a transaction

A node is asked for the receipt again and again, half a second after each
answer that there is none yet. The first other answer ends the wait; so does
the first answer of none that arrives at or after the end of the timeout. The
node's replies are a sequence, each with the time it takes, and instants are
nanoseconds since the wait began; a pause takes exactly half a second.

What a reply says of a transaction is for the library to tell that reads it
(`ReceiptLibrary`). A clock that has no instant for the end of the timeout ends
the program before anything is asked.
-/

namespace TokenBridge.Rpc

/-- A library that reads receipts, and what is taken from them. -/
structure ReceiptLibrary where
  Mined : Type
  Entry : Type
  /-- A receipt, none while there is no receipt, or nothing if the value cannot be read. -/
  read : Json → Option (Option Mined)
  status : Mined → Bool
  entries : Mined → List Entry
  address : Entry → Address
  topics : Entry → List Hash
  data : Entry → Bytes

namespace ReceiptLibrary

/-- What a reply answers: no receipt yet, a receipt, or a failure. -/
def answer (l : ReceiptLibrary) (reply : Reply) : Except Report (Option l.Mined) :=
  match reply.toExcept with
  | .error e => .error e
  | .ok v =>
    match l.read v with
    | some x => .ok x
    | none => .error (malformed "receipt")

def log (l : ReceiptLibrary) (e : l.Entry) : Log := ⟨l.address e, l.topics e, l.data e⟩

/-- The receipt under the hash that was asked for. -/
def receipt (l : ReceiptLibrary) (hash : Hash) (m : l.Mined) : Receipt :=
  ⟨l.status m, hash, (l.entries m).map l.log⟩

end ReceiptLibrary

/-- A reply about a transaction and the nanoseconds it takes. -/
structure Confirmation where
  reply : Reply
  duration : Nat

/-- The end of a wait and the instants at which the node was asked. -/
structure ConfirmationReport where
  result : Except Report Receipt
  finished : Nat
  asked : List Nat

/-- A wait for a transaction on a chain, with the nanoseconds between an answer of none and the
next question. -/
structure Confirming where
  library : ReceiptLibrary
  chain : String
  hash : Hash
  timeout : Number.Span
  pause : Nat
  pause_pos : 0 < pause

namespace Confirming

def failure (w : Confirming) : Report :=
  .of ("Transaction " ++ w.hash.text ++ " not confirmed on " ++ w.chain ++ " after " ++
    w.timeout.text)

def loop (w : Confirming) (replies : Nat → Confirmation) (k start : Nat) : ConfirmationReport :=
  let now := start + (replies k).duration
  match w.library.answer (replies k).reply with
  | .error e => ⟨.error e, now, [start]⟩
  | .ok (some m) => ⟨.ok (w.library.receipt w.hash m), now, [start]⟩
  | .ok none =>
    if _h : w.timeout.nanos ≤ now then ⟨.error w.failure, now, [start]⟩
    else
      let rest := loop w replies (k + 1) (now + w.pause)
      { rest with asked := start :: rest.asked }
  termination_by w.timeout.nanos - start
  decreasing_by
    have hpos := w.pause_pos
    omega

end Confirming

namespace Account

/-- Half a second. -/
def pollPause : Number.Span := .ofMillis 500

def confirming (a : Account) (library : ReceiptLibrary) (hash : Hash) : Confirming where
  library
  chain := a.chain
  hash
  timeout := a.receiptTimeout
  pause := pollPause.nanos
  pause_pos := by decide

/-- Waits until a transaction is mined. The clock counts `reach` nanoseconds from the beginning of
the wait on; none where the end of the timeout is not among them. -/
def confirm (a : Account) (reach : Nat) (library : ReceiptLibrary) (hash : Hash)
    (replies : Nat → Confirmation) : Option ConfirmationReport :=
  if reach < a.receiptTimeout.nanos then none
  else some ((a.confirming library hash).loop replies 0 0)

end Account

def receiptRequest (hash : Hash) : Request :=
  ⟨"eth_getTransactionReceipt", some (.arr [hash.toJson])⟩

end TokenBridge.Rpc
