import TokenBridge.Payment
import TokenBridge.Word.Json

/-!
# Payments in JSON

The slippage of a payment may be absent, which is zero.
-/

namespace TokenBridge.Payment

def Params.fields : List String :=
  ["payer", "payTo", "amount", "sourceChain", "destinationChain", "slippage"]

def Params.fromJson? (v : Json) : Option Params :=
  match v.fields? Params.fields 1 with
  | some [some payer, some payee, some amount, some source, some destination, slippage] => do
    return {
      payer := ← payer.string?
      payee := ← payee.string?
      amount := ← Amount.fromJson? amount
      source := ← source.string?
      destination := ← destination.string?
      slippage := ← (slippage.getD (.nat 0)).binary64? }
  | _ => none

def Params.members (p : Params) : List (String × Json) :=
  [("payer", .str p.payer), ("payTo", .str p.payee), ("amount", p.amount.toJson),
    ("sourceChain", .str p.source), ("destinationChain", .str p.destination)]

def Result.toJson (r : Result) : Json :=
  .obj [("bridgeTxHash", r.hash.toJson), ("messageGuid", .str r.guid),
    ("amountBridged", r.bridged.toJson), ("estimatedReceiveAmount", r.received.toJson),
    ("sourceChain", .str r.source), ("destinationChain", .str r.destination),
    ("estimatedDeliverySecs", .word r.seconds)]

def Result.fields : List String :=
  ["bridgeTxHash", "messageGuid", "amountBridged", "estimatedReceiveAmount", "sourceChain",
    "destinationChain", "estimatedDeliverySecs"]

def Result.fromJson? (v : Json) : Option Result :=
  match v.fields? Result.fields 0 with
  | some [some hash, some guid, some bridged, some received, some source, some destination,
      some seconds] => do
    return {
      hash := ← Hash.fromJson? hash
      guid := ← guid.string?
      bridged := ← Amount.fromJson? bridged
      received := ← Amount.fromJson? received
      source := ← source.string?
      destination := ← destination.string?
      seconds := ← seconds.word? 64 }
  | _ => none

end TokenBridge.Payment
