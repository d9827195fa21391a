import TokenBridge.Environment
import TokenBridge.Number.Binary64.Read
import TokenBridge.Number.Binary64.Shortest
import TokenBridge.Settings
import TokenBridge.Url.Endpoint

/-!
# Settings from the environment

Each setting has a variable; one that is not set leaves the default. A malformed
amount, strategy or percentage is an error, a malformed number of milliseconds
counts as not set. What is read has to be valid.
-/

namespace TokenBridge.Settings

open Number (Binary64 Span)

/-- The percentages between which a default slippage has to lie. -/
def slippageInRange (s : Binary64) : Bool := s.isPositive && s.lt (Binary64.ofNat 100)

def validate (parse : Url.Parser) (s : Settings) : Except Report Unit := do
  Url.checkEndpoint parse s.scanUrl "LZ_SCAN_BASE_URL"
  if !slippageInRange s.slippage then
    throw (.of ("Default slippage must be between 0 and 100 percent, got " ++ s.slippage.text))
  if s.pollInterval.nanos = 0 then throw (.of "Poll interval must be greater than 0")
  if s.deliveryTimeout.nanos < s.pollInterval.nanos then
    throw (.of ("Delivery timeout (" ++ s.deliveryTimeout.text ++
      ") is shorter than the poll interval (" ++ s.pollInterval.text ++ ")"))

def readLeastNative (s : String) : Except Report Amount :=
  (Amount.readDecimal (Text.trim s)).mapError fun e =>
    .of ("Invalid BRIDGE_MIN_NATIVE_BALANCE_WEI: " ++ e.message)

def readStrategy (s : String) : Except Report Strategy :=
  (Strategy.read s).mapError (.wrap "Invalid BRIDGE_DEFAULT_STRATEGY")

def readSlippage (s : String) : Except Report Binary64 :=
  match Binary64.read? (Text.trim s) with
  | some x => .ok x
  | none => .error (.of ("Invalid BRIDGE_DEFAULT_SLIPPAGE: " ++ s))

def readMillis? (s : String) : Option Span :=
  (Number.readUnsigned64 (Text.trim s)).map Span.ofMillis

def valueOf {α : Type} (env : Environment) (name : String) (read : String → Except Report α)
    (default : α) : Except Report α :=
  match env.get? name with
  | some s => read s
  | none => .ok default

/-- The settings that an environment gives, not validated yet. -/
def readUnchecked (env : Environment) : Except Report Settings := do
  return {
    leastNative := ←
      valueOf env "BRIDGE_MIN_NATIVE_BALANCE_WEI" readLeastNative default.leastNative
    strategy := ← valueOf env "BRIDGE_DEFAULT_STRATEGY" readStrategy default.strategy
    slippage := ← valueOf env "BRIDGE_DEFAULT_SLIPPAGE" readSlippage default.slippage
    pollInterval :=
      ((env.get? "BRIDGE_POLL_INTERVAL_MS").bind readMillis?).getD default.pollInterval
    deliveryTimeout :=
      ((env.get? "BRIDGE_DELIVERY_TIMEOUT_MS").bind readMillis?).getD default.deliveryTimeout
    scanUrl := (env.get? "LZ_SCAN_BASE_URL").getD default.scanUrl
    requestTimeout := default.requestTimeout }

def read (parse : Url.Parser) (env : Environment) : Except Report Settings := do
  let s ← readUnchecked env
  s.validate parse
  return s

end TokenBridge.Settings
