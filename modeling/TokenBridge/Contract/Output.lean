import TokenBridge.Contract.Value

/-!
# Return data of contract calls

Every method returns a fixed number of words. Return data is refused if it has
fewer bytes than those words, if anything follows the words, or if a word is out
of range for its type, in this order. A boolean word is in range if its first 31
bytes are zero; the nonce of a sent message is below `2 ^ 64`.
-/

namespace TokenBridge.Contract

inductive WordType where
  | full
  | bool
  | nonce
  deriving DecidableEq, Repr

/-- The words of a type that are in range. -/
def WordType.admits : WordType → Bytes → Bool
  | full, _ => true
  | bool, w => (w.take 31).all (· == 0)
  | nonce, w => (w.take 24).all (· == 0)

inductive OutputError where
  | overrun
  | outOfRange (type : String) (data : Bytes)
  | trailingData
  deriving DecidableEq, Repr

def OutputError.message : OutputError → String
  | overrun => "ABI decoding failed: buffer overrun while deserializing"
  | outOfRange type data =>
    "type check failed for \"" ++ type ++ "\" with data: " ++ Text.hexOfBytes data
  | trailingData => "ABI decoding failed: reserialization did not match original"

namespace Call

/-- The words that a method returns. -/
def outputTypes : Call → List WordType
  | quoteSend .. => [.full, .full]
  | send .. => [.full, .nonce, .full, .full, .full, .full]
  | allowance .. => [.full]
  | approve .. => [.bool]
  | balanceOf .. => [.full]

/-- The return type as messages write it. -/
def outputTypeText : Call → String
  | quoteSend .. => "(MessagingFee)"
  | send .. => "(MessagingReceipt,OFTReceipt)"
  | allowance .. => "(uint256)"
  | approve .. => "(bool)"
  | balanceOf .. => "(uint256)"

end Call

def firstWords : (n : Nat) → Bytes → List Bytes
  | 0, _ => []
  | n + 1, bs => bs.take 32 :: firstWords n (bs.drop 32)

def outputWords (c : Call) (data : Bytes) : Except OutputError (List Bytes) :=
  let types := c.outputTypes
  let words := firstWords types.length data
  if data.length < 32 * types.length then .error .overrun
  else if data.length ≠ 32 * types.length then .error .trailingData
  else if !(types.zip words).all (fun t => t.1.admits t.2) then
    .error (.outOfRange c.outputTypeText data)
  else .ok words

def amountOfWord (w : Bytes) : Amount := BitVec.ofNat 256 w.toNat

/-- What the words of a method stand for. -/
def valueOfWords : Call → List Bytes → Value
  | .quoteSend .., [native, network] => .fee ⟨amountOfWord native, amountOfWord network⟩
  | .send .., [guid, _, native, network, sent, received] =>
    .tuple [.bytes guid, .fee ⟨amountOfWord native, amountOfWord network⟩,
      .uint (amountOfWord sent), .uint (amountOfWord received)]
  | .approve .., [w] => .bool (w.any (· != 0))
  | .allowance .., [w] => .uint (amountOfWord w)
  | .balanceOf .., [w] => .uint (amountOfWord w)
  | _, _ => .tuple []

def Call.decodeOutput (c : Call) (data : Bytes) : Except Report Value :=
  match outputWords c data with
  | .ok words => .ok (valueOfWords c words)
  | .error e => .error (.of ("Failed to decode " ++ c.method ++ " output: " ++ e.message))

end TokenBridge.Contract
