import TokenBridge.Contract.Call

/-!
# Calldata

The call encoding of contracts: four bytes of the digest of the method's
signature, then the arguments. Fixed-size arguments stand in words of 32 bytes;
an argument of variable size leaves its offset there and stands behind them,
with its length in front and zeros up to a whole word.
-/

namespace TokenBridge.Contract

/-- An argument as the encoding sees it. -/
inductive Argument where
  | fixed (word : Bytes)
  | bytes (bs : Bytes)
  | tuple (fields : List Argument)

namespace Argument

def amount (a : Amount) : Argument := fixed a.bytes

def nat (n : Nat) : Argument := fixed (Bytes.ofNat 32 n)

def bool (b : Bool) : Argument := nat (if b then 1 else 0)

def hash (h : Hash) : Argument := fixed h.bytes

def address (a : Address) : Argument := fixed (Bytes.padLeft 32 a.bytes)

mutual

def isDynamic : Argument → Bool
  | fixed _ => false
  | bytes _ => true
  | tuple fields => anyDynamic fields

def anyDynamic : List Argument → Bool
  | [] => false
  | a :: rest => a.isDynamic || anyDynamic rest

end

mutual

/-- The bytes an argument takes among the words: a word for its offset if it is dynamic. -/
def headSize : Argument → Nat
  | fixed w => w.length
  | bytes _ => 32
  | tuple fields => if anyDynamic fields then 32 else headSizes fields

def headSizes : List Argument → Nat
  | [] => 0
  | a :: rest => a.headSize + headSizes rest

end

mutual

def encode : Argument → Bytes
  | fixed w => w
  | bytes bs => Bytes.ofNat 32 bs.length ++ Bytes.padRight 32 bs
  | tuple fields =>
    let (words, behind) := encodeFields (headSizes fields) fields
    words ++ behind

/-- The words of a sequence and what stands behind them; `offset` is where the next dynamic
argument will start. -/
def encodeFields (offset : Nat) : List Argument → Bytes × Bytes
  | [] => ([], [])
  | a :: rest =>
    let body := a.encode
    if a.isDynamic then
      let (words, behind) := encodeFields (offset + body.length) rest
      (Bytes.ofNat 32 offset ++ words, body ++ behind)
    else
      let (words, behind) := encodeFields offset rest
      (body ++ words, behind)

end

end Argument

def SendParam.argument (p : SendParam) : Argument :=
  .tuple [.nat p.endpoint.toNat, .hash p.recipient, .amount p.amount, .amount p.minAmount,
    .bytes p.extraOptions, .bytes p.composeMessage, .bytes p.command]

def MessagingFee.argument (f : MessagingFee) : Argument :=
  .tuple [.amount f.native, .amount f.network]

namespace Call

def signature : Call → String
  | quoteSend .. => "quoteSend((uint32,bytes32,uint256,uint256,bytes,bytes,bytes),bool)"
  | send .. =>
    "send((uint32,bytes32,uint256,uint256,bytes,bytes,bytes),(uint256,uint256),address)"
  | allowance .. => "allowance(address,address)"
  | approve .. => "approve(address,uint256)"
  | balanceOf .. => "balanceOf(address)"

/-- The first four bytes of the digest of the signature. -/
def selector (c : Call) : Bytes := (Crypto.Keccak.hash (Bytes.ofText c.signature)).take 4

def arguments : Call → List Argument
  | quoteSend p pay => [p.argument, .bool pay]
  | send p fee refund => [p.argument, fee.argument, .address refund]
  | allowance owner spender => [.address owner, .address spender]
  | approve spender amount => [.address spender, .amount amount]
  | balanceOf account => [.address account]

def calldata (c : Call) : Bytes := c.selector ++ (Argument.tuple c.arguments).encode

end Call

/-! ## The event of a sent message -/

def sentEventSignature : String := "OFTSent(bytes32,uint32,address,uint256,uint256)"

/-- The first topic of its logs: the digest of the signature. -/
def sentEventTopic : Hash :=
  ⟨0x85496b760a4b7f8d66384b9df21b381f5d1b1e79f229a47aaf4c232edc2fe59a⟩

end TokenBridge.Contract
