import TokenBridge.Word

/-!
# Bridgeable chains

The five chains that carry the token contract. Each has a name, an endpoint of
the messaging network, a contract address, a network identifier and a native
chain id. Names are looked up without regard to the case of ASCII letters and
are always given in lower case; network identifiers are matched as they stand.
-/

namespace TokenBridge

inductive Chain where
  | ethereum
  | arbitrum
  | ink
  | berachain
  | unichain
  deriving DecidableEq, Repr

namespace Chain

def all : List Chain := [ethereum, arbitrum, ink, berachain, unichain]

def name : Chain → String
  | ethereum => "ethereum"
  | arbitrum => "arbitrum"
  | ink => "ink"
  | berachain => "berachain"
  | unichain => "unichain"

/-- The endpoint id on the messaging network. -/
def endpoint : Chain → BitVec 32
  | ethereum => 30101
  | arbitrum => 30110
  | ink => 30291
  | berachain => 30362
  | unichain => 30320

def token : Chain → Address
  | ethereum => ⟨0x6C96dE32CEa08842dcc4058c14d3aaAD7Fa41dee⟩
  | arbitrum => ⟨0xFd086bC7CD5C481DCC9C85ebE478A1C0b69FCbb9⟩
  | ink => ⟨0x0200C29006150606B650577BBE7B6248F58470c1⟩
  | berachain => ⟨0x779Ded0c9e1022225f8E0630b35a9b54bE713736⟩
  | unichain => ⟨0x588ce4F028D8e7B53B687865d6A67b3A54C75518⟩

/-- The token contract as the registry writes it. -/
def tokenText : Chain → String
  | ethereum => "0x6C96dE32CEa08842dcc4058c14d3aaAD7Fa41dee"
  | arbitrum => "0xFd086bC7CD5C481DCC9C85ebE478A1C0b69FCbb9"
  | ink => "0x0200C29006150606B650577BBE7B6248F58470c1"
  | berachain => "0x779Ded0c9e1022225f8E0630b35a9b54bE713736"
  | unichain => "0x588ce4F028D8e7B53B687865d6A67b3A54C75518"

def nativeId : Chain → Nat
  | ethereum => 1
  | arbitrum => 42161
  | ink => 57073
  | berachain => 80094
  | unichain => 130

/-- The network identifier: `eip155:` and the native id. -/
def network (c : Chain) : String := "eip155:" ++ Number.decimal c.nativeId

def lookup (name : String) : Option Chain := all.find? fun c => Text.sameText c.name name

def isSupported (name : String) : Bool := (lookup name).isSome

def ofNetwork (id : String) : Option Chain := all.find? fun c => c.network == id

/-- The order of names: by code point. -/
def nameLe (a b : String) : Bool := decide (a ≤ b)

def names : List String := (all.map name).mergeSort nameLe

def namesText : String := ", ".intercalate names

/-! ## Delivery times -/

/-- The usual time to delivery in seconds. -/
def usualDelivery : BitVec 64 := 300

/-- Messages from Ethereum confirm quickly; messages into it wait for finality. -/
def deliveryTime : Chain → Chain → BitVec 64
  | ethereum, ethereum => usualDelivery
  | ethereum, _ => 180
  | _, ethereum => 900
  | _, _ => usualDelivery

/-- The estimated seconds to delivery between two chains by name; the usual time where a name is
unknown. -/
def estimatedDelivery (source destination : String) : BitVec 64 :=
  match lookup source, lookup destination with
  | some a, some b => deliveryTime a b
  | _, _ => usualDelivery

end Chain

end TokenBridge
