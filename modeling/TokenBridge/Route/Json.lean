import TokenBridge.Route
import TokenBridge.Word.Json

/-!
# Routes in JSON

A strategy is its word, or an object with that word as its only key and null
under it. The fee and the reason of a route may be null or absent.
-/

namespace TokenBridge

namespace Strategy

def all : List Strategy := [cheapest, fastest, preferred]

def toJson (s : Strategy) : Json := .str s.text

def ofWord? (word : String) : Option Strategy := all.find? fun s => s.text == word

def fromJson? : Json → Option Strategy
  | .str word => ofWord? word
  | .obj [(word, .null)] => ofWord? word
  | _ => none

end Strategy

namespace Route

def toJson (r : Route) : Json :=
  .obj [("from_chain", .str r.source), ("to_chain", .str r.destination),
    ("native_fee", .opt Amount.toJson r.nativeFee), ("estimated_time_secs", .word r.seconds),
    ("available", .bool r.available), ("unavailable_reason", .opt .str r.reason),
    ("available_amount", r.amount.toJson)]

def fields : List String :=
  ["from_chain", "to_chain", "native_fee", "estimated_time_secs", "available",
    "unavailable_reason", "available_amount"]

def fromJson? (v : Json) : Option Route :=
  match v.fields? fields 0 with
  | some [some source, some destination, fee, some seconds, some available, reason,
      some amount] => do
    return {
      source := ← source.string?
      destination := ← destination.string?
      nativeFee := ← Json.option? Amount.fromJson? fee
      seconds := ← seconds.word? 64
      available := ← available.bool?
      reason := ← Json.option? Json.string? reason
      amount := ← Amount.fromJson? amount }
  | _ => none

end Route

end TokenBridge
