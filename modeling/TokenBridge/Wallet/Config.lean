import TokenBridge.Environment
import TokenBridge.Redacted
import TokenBridge.Text.LowerCase
import TokenBridge.Url.Endpoint

/-!
# Configuration of a wallet

A wallet reaches a list of chains, each by its endpoint, and signs with one key
on all of them. A configuration is accepted if every chain is valid, no two
have the same name or the same native id, and the key is `0x` and 64
hexadecimal digits; the first chain that fails decides the error. Names are
trimmed and lower-cased on the way in.
-/

namespace TokenBridge

/-- How a wallet reaches one chain. -/
structure ChainAccess where
  name : String
  nativeId : Nat
  url : String
  enabled : Bool
  deriving DecidableEq, Repr

namespace ChainAccess

/-- Access to a chain of the registry, with its native id. -/
def ofRegistry (name url : String) : Except Report ChainAccess :=
  match Chain.lookup name with
  | some c => .ok ⟨c.name, c.nativeId, url, true⟩
  | none => .error (.of (name ++ " is not a USDT0 bridgeable chain"))

def validate (parse : Url.Parser) (c : ChainAccess) : Except Report Unit := do
  if c.name.isEmpty then throw (.of "Chain name is empty")
  if c.url.isEmpty then throw (.of ("RPC URL is empty for chain " ++ c.name))
  Url.checkEndpoint parse c.url (c.name ++ "_RPC_URL")
  match Chain.lookup c.name with
  | none => return ()
  | some entry =>
    if entry.nativeId ≠ c.nativeId then
      throw (.of ("Chain ID mismatch for " ++ c.name ++ ": configured " ++
        Number.decimal c.nativeId ++ ", expected " ++ Number.decimal entry.nativeId))

def carriesToken (c : ChainAccess) : Bool := Chain.isSupported c.name

/-- The form of a name under which a chain is filed. -/
def normalName (name : String) : String := Text.lowerCase (Text.trim name)

def normal (c : ChainAccess) : ChainAccess := { c with name := normalName c.name }

def text (c : ChainAccess) : String :=
  "EvmChainConfig \x7b name: " ++ Text.quote c.name ++ ", chain_id: " ++
    Number.decimal c.nativeId ++ ", rpc_url: " ++ Text.quote c.url ++ ", enabled: " ++
    (if c.enabled then "true" else "false") ++ " \x7d"

end ChainAccess

structure WalletConfig where
  chains : List ChainAccess
  key : Redacted String

namespace WalletConfig

/-- The first of the chains that is not valid, or repeats a name or an id of those before it,
decides the error. -/
def checkChains (parse : Url.Parser) (names : List String) (ids : List Nat) :
    List ChainAccess → Except Report Unit
  | [] => .ok ()
  | c :: rest => do
    c.validate parse
    if names.contains c.name then throw (.of ("Duplicate chain name: " ++ c.name))
    if ids.contains c.nativeId then
      throw (.of ("Duplicate native chain ID: " ++ Number.decimal c.nativeId ++ " (chain: " ++
        c.name ++ ")"))
    checkChains parse (c.name :: names) (c.nativeId :: ids) rest

/-- The text has the form of a key: `0x` and 64 hexadecimal digits. -/
def isKey (key : String) : Bool :=
  match key.toList with
  | '0' :: 'x' :: digits => digits.length == 64 && digits.all fun c => (Text.hexValue? c).isSome
  | _ => false

def validate (parse : Url.Parser) (c : WalletConfig) : Except Report Unit := do
  if c.chains.isEmpty then throw (.of "At least one EVM chain must be configured")
  checkChains parse [] [] c.chains
  if !isKey c.key.secret then
    throw (.of "Invalid private key format (expected 0x-prefixed 66-char hex)")

def make (parse : Url.Parser) (chains : List ChainAccess) (key : String) :
    Except Report WalletConfig := do
  let c : WalletConfig := ⟨chains.map ChainAccess.normal, ⟨key⟩⟩
  c.validate parse
  return c

def byName? (c : WalletConfig) (name : String) : Option ChainAccess :=
  c.chains.find? fun a => Text.sameText a.name name

def byId? (c : WalletConfig) (id : Nat) : Option ChainAccess :=
  c.chains.find? fun a => a.nativeId == id

def enabled (c : WalletConfig) : List ChainAccess := c.chains.filter (·.enabled)

def enabledNames (c : WalletConfig) : List String := c.enabled.map (·.name)

def tokenNames (c : WalletConfig) : List String :=
  (c.enabled.filter (·.carriesToken)).map (·.name)

def text (c : WalletConfig) : String :=
  "MultiEvmConfig \x7b chains: [" ++ ", ".intercalate (c.chains.map ChainAccess.text) ++
    "], private_key: " ++ c.key.text ++ " \x7d"

/-! ## From the environment -/

/-- The name of a variable of the chain at a place. -/
def variableName (place : Nat) (suffix : String) : String :=
  "EVM_CHAIN_" ++ Number.decimal place ++ "_" ++ suffix

def required (env : Environment) (name explanation : String) : Except Report String :=
  match env.get? name with
  | some s => .ok s
  | none => .error (.of ("Missing " ++ name ++ explanation))

def readNativeId (env : Environment) (place : Nat) (name : String) : Except Report Nat :=
  let entry := variableName place "CHAIN_ID"
  match env.get? entry with
  | some s =>
    match Number.readUnsigned64 (Text.trim s) with
    | some n => .ok n
    | none => .error (.of ("Invalid " ++ entry ++ ": must be a u64"))
  | none =>
    match Chain.lookup name with
    | some c => .ok c.nativeId
    | none => .error (.of ("Missing " ++ entry ++ " for non-registry chain " ++ name))

/-- The chain at a place; it is enabled unless the variable says exactly `false`. -/
def readChain (env : Environment) (place : Nat) : Except Report ChainAccess := do
  let name := ChainAccess.normalName (← required env (variableName place "NAME") "")
  let url ← required env (variableName place "RPC_URL") ""
  let nativeId ← readNativeId env place name
  let enabled := env.get? (variableName place "ENABLED") != some "false"
  return ⟨name, nativeId, url, enabled⟩

def readChains (env : Environment) : (count place : Nat) → Except Report (List ChainAccess)
  | 0, _ => .ok []
  | count + 1, place => do
    let c ← readChain env place
    let rest ← readChains env count (place + 1)
    return c :: rest

def readCount (env : Environment) : Except Report (Option Nat) :=
  match env.get? "EVM_CHAINS_COUNT" with
  | none => .ok none
  | some s =>
    match Number.readUnsigned64 (Text.trim s) with
    | some n => .ok (some n)
    | none => .error (.of ("Invalid EVM_CHAINS_COUNT: " ++ s))

/-- The most chains that there is room for in so many bytes of memory: one takes 64 of them, and a
list less than `2 ^ 63` however many there are. -/
def maxChains (memory : Nat) : Nat := min memory (2 ^ 63 - 1) / 64

/-- How the reading of a configuration fails. -/
inductive ReadFailure where
  | report (r : Report)
  /-- There is no room for so many chains: no report is made, the program ends. -/
  | noRoom
  deriving DecidableEq, Repr

def readPlaces (parse : Url.Parser) (env : Environment) (count : Nat) :
    Except Report WalletConfig := do
  let chains ← readChains env count 1
  let key ← required env "EVM_PRIVATE_KEY" " for multi-chain wallet"
  make parse chains key

/-- The configuration that an environment gives; none without a number of chains or with zero.
Room for all of them is made before the first is read. -/
def read (parse : Url.Parser) (memory : Nat) (env : Environment) :
    Except ReadFailure (Option WalletConfig) :=
  match readCount env with
  | .error e => .error (.report e)
  | .ok none | .ok (some 0) => .ok none
  | .ok (some count) =>
    if maxChains memory < count then .error .noRoom
    else match readPlaces parse env count with
      | .error e => .error (.report e)
      | .ok c => .ok (some c)

end WalletConfig

end TokenBridge
