import TokenBridge.Word

/-!
# Contract calls

The closed set of calls that a transfer needs: quoting and sending on the token
bridge, and the allowance, approval and balance of the token. Two of them
change the state of the chain.
-/

namespace TokenBridge.Contract

/-- What is to be sent: destination endpoint, recipient, amount and the least amount to arrive,
and three byte strings for the messaging network. -/
structure SendParam where
  endpoint : BitVec 32
  recipient : Hash
  amount : Amount
  minAmount : Amount
  extraOptions : Bytes
  composeMessage : Bytes
  command : Bytes
  deriving DecidableEq, Repr

/-- The price of a message in the native token and in the network's own. -/
structure MessagingFee where
  native : Amount
  network : Amount
  deriving DecidableEq, Repr

inductive Call where
  | quoteSend (param : SendParam) (payInNetworkToken : Bool)
  | send (param : SendParam) (fee : MessagingFee) (refund : Address)
  | allowance (owner spender : Address)
  | approve (spender : Address) (amount : Amount)
  | balanceOf (account : Address)
  deriving DecidableEq, Repr

namespace Call

def method : Call → String
  | quoteSend .. => "quoteSend"
  | send .. => "send"
  | allowance .. => "allowance"
  | approve .. => "approve"
  | balanceOf .. => "balanceOf"

/-- The call changes the state of the chain. -/
def isWrite : Call → Bool
  | send .. | approve .. => true
  | _ => false

end Call

/-! ## Executor options -/

/-- The options of a message: none without a gas limit; with one, a type-3 option string of one
executor option, whose length counts its own type byte and the sixteen bytes of the limit. -/
def executorOptions : Option (BitVec 128) → Bytes
  | none => []
  | some gas =>
    let payload := Bytes.ofNat 16 gas.toNat
    Bytes.ofNat 2 3 ++ [1] ++ Bytes.ofNat 2 (payload.length + 1) ++ [1] ++ payload

end TokenBridge.Contract
