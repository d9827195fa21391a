import TokenBridge.Contract.Value
import TokenBridge.Program

/-!
# Signers

The signer of one chain reads contracts, submits calls that change the chain
with an amount of the native token attached, and waits for a transaction to be
mined. Each may fail with a report.
-/

namespace TokenBridge

structure Log where
  address : Address
  topics : List Hash
  data : Bytes
  deriving DecidableEq, Repr

/-- A mined transaction: `status` is false if it was reverted. -/
structure Receipt where
  status : Bool
  hash : Hash
  logs : List Log
  deriving DecidableEq, Repr

namespace Signer

inductive Request where
  | read (contract : Address) (call : Contract.Call)
  | write (contract : Address) (call : Contract.Call) (value : Amount)
  | wait (hash : Hash)
  deriving DecidableEq, Repr

/-- What a request is answered with when it does not fail. -/
def Reward : Request → Type
  | .read .. => Contract.Value
  | .write .. => Hash
  | .wait _ => Receipt

def interface : Interface where
  Request := Request
  Answer r := Except Report (Reward r)

end Signer

end TokenBridge
