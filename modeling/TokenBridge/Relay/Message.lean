import TokenBridge.Json.Reader
import TokenBridge.Number.Unsigned
import TokenBridge.Relay.Status

/-!
# Messages of the delivery index

A message has an exact form, which the library writes and reads, and a tolerant
one: the index has spelt its fields in several ways, so `ofMembers` takes the
first spelling that holds a value of the right kind and a default where none
does. A whole number may then be written as a decimal string; a number that is
not a whole one of 64 bits is cut towards zero and held to that range, and of an
endpoint id the last 32 bits count.
-/

namespace TokenBridge.Relay

structure Message where
  guid : String
  sourceEndpoint : BitVec 32
  destinationEndpoint : BitVec 32
  /-- The sending contract. -/
  sender : String
  /-- The receiving contract. -/
  receiver : String
  sourceHash : String
  /-- The delivering transaction, once there is one. -/
  destinationHash : Option String
  status : Status
  sourceBlock : BitVec 64
  destinationBlock : Option (BitVec 64)
  created : String
  updated : String
  deriving DecidableEq, Repr

namespace Message

def isDelivered (m : Message) : Bool := m.status == .delivered

/-! ## Tolerant reading -/

/-- The first of the keys that holds a string. -/
def stringField? (members : List (String × Json)) (keys : List String) : Option String :=
  keys.findSome? fun key => (Json.find? key members).bind Json.string?

def wholeOfNumber : JsonNumber → Nat
  | .whole n => if n < 2 ^ 64 then n else 2 ^ 64 - 1
  | .negative _ => 0
  | .real x => x.truncateUnsigned64

/-- A whole number of 64 bits, from a number or a decimal string. -/
def wholeValue? : Json → Option (BitVec 64)
  | .num n => some (BitVec.ofNat 64 (wholeOfNumber n))
  | .str s => (Number.readUnsigned64 s).map (BitVec.ofNat 64)
  | _ => none

/-- The first of the keys that holds a whole number. -/
def wholeField? (members : List (String × Json)) (keys : List String) : Option (BitVec 64) :=
  keys.findSome? fun key => (Json.find? key members).bind wholeValue?

/-- The status: a string, or an object with a name; in flight where it is neither. -/
def statusField (members : List (String × Json)) : Status :=
  match Json.find? "status" members with
  | some (.str s) => .read s
  | some (.obj inner) =>
    match (Json.find? "name" inner).bind Json.string? with
    | some s => .read s
    | none => .inflight
  | _ => .inflight

def ofMembers (members : List (String × Json)) : Message :=
  let text (keys : List String) : String := (stringField? members keys).getD ""
  let whole (keys : List String) : BitVec 64 := (wholeField? members keys).getD 0
  { guid := text ["guid", "messageGuid"]
    sourceEndpoint := (whole ["srcEid", "srcChainId"]).setWidth 32
    destinationEndpoint := (whole ["dstEid", "dstChainId"]).setWidth 32
    sender := text ["srcUaAddress", "srcAddress"]
    receiver := text ["dstUaAddress", "dstAddress"]
    sourceHash := text ["srcTxHash"]
    destinationHash := (stringField? members ["dstTxHash"]).filter (!·.isEmpty)
    status := statusField members
    sourceBlock := whole ["srcBlockNumber"]
    destinationBlock := wholeField? members ["dstBlockNumber"]
    created := text ["created", "createdAt"]
    updated := text ["updated", "updatedAt"] }

/-! ## The exact form -/

def members (m : Message) : List (String × Json) :=
  [("guid", .str m.guid), ("srcEid", .word m.sourceEndpoint),
    ("dstEid", .word m.destinationEndpoint), ("srcUaAddress", .str m.sender),
    ("dstUaAddress", .str m.receiver), ("srcTxHash", .str m.sourceHash),
    ("dstTxHash", .opt .str m.destinationHash), ("status", .str m.status.text),
    ("srcBlockNumber", .word m.sourceBlock), ("dstBlockNumber", .opt .word m.destinationBlock),
    ("created", .str m.created), ("updated", .str m.updated)]

def toJson (m : Message) : Json := .obj m.members

def fields : List String :=
  ["guid", "srcEid", "dstEid", "srcUaAddress", "dstUaAddress", "srcTxHash", "dstTxHash", "status",
    "srcBlockNumber", "dstBlockNumber", "created", "updated"]

def fromJson? (v : Json) : Option Message :=
  match v.fields? fields 0 with
  | some [some guid, some sourceEndpoint, some destinationEndpoint, some sender, some receiver,
      some sourceHash, destinationHash, some status, some sourceBlock, destinationBlock,
      some created, some updated] => do
    return {
      guid := ← guid.string?
      sourceEndpoint := ← sourceEndpoint.word? 32
      destinationEndpoint := ← destinationEndpoint.word? 32
      sender := ← sender.string?
      receiver := ← receiver.string?
      sourceHash := ← sourceHash.string?
      destinationHash := ← Json.option? Json.string? destinationHash
      status := .read (← status.string?)
      sourceBlock := ← sourceBlock.word? 64
      destinationBlock := ← Json.option? (Json.word? 64) destinationBlock
      created := ← created.string?
      updated := ← updated.string? }
  | _ => none

end Message

end TokenBridge.Relay
