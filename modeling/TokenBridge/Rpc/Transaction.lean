import TokenBridge.Crypto.Keccak
import TokenBridge.Key
import TokenBridge.Rlp

/-!
# Transactions

A transaction names its chain, its number among those of the sender, the fees
and the gas it may take, and a call with an amount attached. It is encoded as a
list behind the byte 2, with an empty access list; the signature is made over
the digest of the encoding without one.
-/

namespace TokenBridge.Rpc

structure Transaction where
  chainId : Nat
  nonce : Nat
  priorityFee : Nat
  maxFee : Nat
  gas : Nat
  target : Address
  value : Amount
  input : Bytes

namespace Transaction

def items (t : Transaction) : List Rlp.Item :=
  [.nat t.chainId, .nat t.nonce, .nat t.priorityFee, .nat t.maxFee, .nat t.gas,
    .bytes t.target.bytes, .nat t.value.toNat, .bytes t.input, .list []]

def encode (items : List Rlp.Item) : Bytes := 2 :: Rlp.encode (.list items)

/-- What is signed. -/
def digest (t : Transaction) : Bytes := Crypto.Keccak.hash (encode t.items)

def signed? (t : Transaction) (key : Crypto.Secp256k1.PrivateKey) : Option Bytes :=
  (Crypto.Secp256k1.sign? key t.digest).map fun s =>
    encode (t.items ++ [.nat (if s.odd then 1 else 0), .nat s.r, .nat s.s])

end Transaction

/-! ## Fees -/

/-- What the last blocks cost: the base fees, one more than there are blocks, and the rewards. -/
structure FeeHistory where
  baseFees : List Nat
  rewards : List (List Nat)

namespace FeeHistory

def lastBaseFee? (h : FeeHistory) : Option Nat := h.baseFees.reverse.tail.head?

/-- The rewards that count: the first of each block, if it is not zero, in order of size. -/
def usefulRewards (h : FeeHistory) : List Nat :=
  ((h.rewards.filterMap List.head?).filter (0 < ·)).mergeSort fun a b => decide (a ≤ b)

/-- The middle of a sorted list, the mean of two where there are two; one where there is none. -/
def median (xs : List Nat) : Nat :=
  let half := xs.length / 2
  match xs[half]?, xs[half - 1]? with
  | some upper, some lower =>
    if xs.length % 2 = 0 then (lower + upper) / 2 else upper
  | _, _ => 1

/-- The fee for the block's producer: the median reward, at least one. -/
def priorityFee (h : FeeHistory) : Nat := max 1 (median h.usefulRewards)

/-- The most that is paid for a unit of gas: twice the base fee and the priority fee. -/
def maxFee (h : FeeHistory) (baseFee : Nat) : Nat := 2 * baseFee + h.priorityFee

end FeeHistory

end TokenBridge.Rpc
