import TokenBridge.Contract.Json
import TokenBridge.Scripted.Signer
import TokenBridge.Signer.Json

/-!
# Scripted signers in JSON

A description gives any of the fixed values and replacements; what it leaves out
is as in a signer that answers plainly. An observation is written with its
label and what was seen.
-/

namespace TokenBridge.Scripted

/-- The signer of a description; `address` is its own unless the description gives another. -/
def Signer.fromJson? (address : Address) (v : Json) : Option Signer := do
  return {
    address := ← v.default? "address" address Address.fromJson?
    fee := ← v.default? "fee" 0 Amount.fromDecimalJson?
    tokenBalance := ← v.default? "token_balance" 0 Amount.fromDecimalJson?
    quoteError := ← v.maybe? "quote_error" Json.string?
    receiptStatus := ← v.flag? "receipt_status" true
    guid := ← v.default? "guid" usualGuid Hash.fromJson?
    emitsEvent := !(← v.flag? "no_sent_event" false)
    quoteValue := ← v.maybe? "quote_value" Contract.Value.fromJson?
    allowanceValue := ← v.maybe? "allowance_value" Contract.Value.fromJson?
    allowanceError := ← v.maybe? "allowance_error" Json.string?
    approveError := ← v.maybe? "approve_error" Json.string?
    sendError := ← v.maybe? "send_error" Json.string?
    waitErrors := ← v.items? "wait_errors" (Json.orNull? Json.string?)
    receipts := ← v.items? "receipts" (Json.orNull? Receipt.fromJson?)
    allowance := ← v.default? "allowance" 0 Amount.fromDecimalJson? }

namespace Observation

def members : Observation → List (String × Json)
  | read contract call => [("contract", contract.toJson), ("call", call.toJson)]
  | write contract call value hash =>
    [("contract", contract.toJson), ("call", call.toJson), ("value", value.toDecimalJson),
      ("tx_hash", hash.toJson)]
  | wait hash => [("tx_hash", hash.toJson)]

def toJson (o : Observation) : Json := .obj (("label", .str o.label) :: o.members)

end Observation

/-- What a signer saw after the first `before` observations. -/
def Signer.eventsJson (before : Nat) (s : Signer) : List Json :=
  (s.seen.drop before).map Observation.toJson

end TokenBridge.Scripted
