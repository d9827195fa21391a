import TokenBridge.Contract.Call
import TokenBridge.Error
import TokenBridge.Slippage

/-!
# Transfers

What a caller asks for, what is quoted, and what was done. `sendParam` turns a
request into the parameter of the contract: the recipient is an address, and
the least amount follows from the slippage.
-/

namespace TokenBridge.Transfer

open Number (Binary64)

/-- Which amount goes from where to where, and to whom. -/
structure QuoteParams where
  source : String
  destination : String
  amount : Amount
  recipient : String
  deriving DecidableEq, Repr

/-- A transfer to execute; the excess fee goes back to `refund`, by default to the sender. -/
structure SendParams where
  quote : QuoteParams
  slippage : Binary64 := Slippage.default
  gasLimit : Option (BitVec 128) := none
  refund : Option Address := none
  deriving DecidableEq, Repr

structure Quote where
  nativeFee : Amount
  amount : Amount
  minAmount : Amount
  seconds : BitVec 64
  source : String
  destination : String
  deriving DecidableEq, Repr

/-- A confirmed transfer. -/
structure Execution where
  hash : Hash
  guid : String
  sent : Amount
  received : Amount
  source : String
  destination : String
  seconds : BitVec 64
  deriving DecidableEq, Repr

def recipientHash (recipient : String) : Except BridgeError Hash :=
  match Address.read recipient with
  | .ok a => .ok a.toHash
  | .error e => .error (.invalidAddress "recipient" recipient e.message)

def sendParam (destination : Chain) (amount : Amount) (recipient : String) (slippage : Binary64)
    (gasLimit : Option (BitVec 128)) : Except BridgeError Contract.SendParam :=
  (recipientHash recipient).map fun recipient =>
    { endpoint := destination.endpoint
      recipient
      amount
      minAmount := Slippage.minAmount amount slippage
      extraOptions := Contract.executorOptions gasLimit
      composeMessage := []
      command := [] }

def sendParamTo (destination : String) (amount : Amount) (recipient : String)
    (slippage : Binary64) (gasLimit : Option (BitVec 128)) :
    Except BridgeError Contract.SendParam :=
  match Chain.lookup destination with
  | some chain => sendParam chain amount recipient slippage gasLimit
  | none => .error (.unsupported destination)

end TokenBridge.Transfer
