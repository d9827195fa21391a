import TokenBridge.Transfer
import TokenBridge.Word.Json

/-!
# Transfers in JSON

Quotes and executions as records.
-/

namespace TokenBridge.Transfer

def Quote.toJson (q : Quote) : Json :=
  .obj [("native_fee", q.nativeFee.toJson), ("amount_to_send", q.amount.toJson),
    ("min_amount_to_receive", q.minAmount.toJson), ("estimated_time_secs", .word q.seconds),
    ("from_chain", .str q.source), ("to_chain", .str q.destination)]

def Quote.fields : List String :=
  ["native_fee", "amount_to_send", "min_amount_to_receive", "estimated_time_secs", "from_chain",
    "to_chain"]

def Quote.fromJson? (v : Json) : Option Quote :=
  match v.fields? Quote.fields 0 with
  | some [some fee, some amount, some least, some seconds, some source, some destination] => do
    return {
      nativeFee := ← Amount.fromJson? fee
      amount := ← Amount.fromJson? amount
      minAmount := ← Amount.fromJson? least
      seconds := ← seconds.word? 64
      source := ← source.string?
      destination := ← destination.string? }
  | _ => none

/-- The members of an execution, which also stand among those of a larger record. -/
def Execution.members (e : Execution) : List (String × Json) :=
  [("tx_hash", e.hash.toJson), ("message_guid", .str e.guid), ("amount_sent", e.sent.toJson),
    ("amount_to_receive", e.received.toJson), ("from_chain", .str e.source),
    ("to_chain", .str e.destination), ("estimated_time_secs", .word e.seconds)]

def Execution.toJson (e : Execution) : Json := .obj e.members

def Execution.fields : List String :=
  ["tx_hash", "message_guid", "amount_sent", "amount_to_receive", "from_chain", "to_chain",
    "estimated_time_secs"]

def Execution.fromJson? (v : Json) : Option Execution :=
  match v.fields? Execution.fields 0 with
  | some [some hash, some guid, some sent, some received, some source, some destination,
      some seconds] => do
    return {
      hash := ← Hash.fromJson? hash
      guid := ← guid.string?
      sent := ← Amount.fromJson? sent
      received := ← Amount.fromJson? received
      source := ← source.string?
      destination := ← destination.string?
      seconds := ← seconds.word? 64 }
  | _ => none

end TokenBridge.Transfer
