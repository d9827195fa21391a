import TokenBridge.Text.LowerCase
import TokenBridge.Wallet

/-!
# Balances across chains

For every configured chain that carries the token, one task reads the token
balance and then the native one. A chain with a failing read has no balance and
is never eligible; it does not touch the entry of any other chain. A chain is
eligible if it holds some token and at least the required native balance. The
summary lists the chains by name, entries of one name in the order in which
they were given, and its total stops at the greatest amount.
-/

namespace TokenBridge

/-- What a wallet holds on one chain. -/
structure ChainBalance where
  chain : String
  token : Amount
  native : Amount
  eligible : Bool
  deriving DecidableEq, Repr

namespace ChainBalance

def of (chain : String) (token native leastNative : Amount) : ChainBalance :=
  ⟨chain, token, native, token != 0 && decide (leastNative ≤ native)⟩

/-- The entry of a chain with a failing read. -/
def unavailable (chain : String) : ChainBalance := ⟨chain, 0, 0, false⟩

end ChainBalance

structure BalanceSummary where
  balances : List ChainBalance
  total : Amount
  eligible : List String
  deriving DecidableEq, Repr

namespace BalanceSummary

def sorted (balances : List ChainBalance) : List ChainBalance :=
  balances.mergeSort fun a b => Chain.nameLe a.chain b.chain

/-- The sum of the token balances, which stops at the greatest amount. -/
def tokenSum (balances : List ChainBalance) : Amount :=
  balances.foldl (fun sum b => sum.saturatingAdd b.token) 0

def ofBalances (balances : List ChainBalance) : BalanceSummary :=
  { balances := sorted balances
    total := tokenSum (sorted balances)
    eligible := ((sorted balances).filter (·.eligible)).map (·.chain) }

/-- The first entry of a name, up to the case of ASCII letters. -/
def get? (s : BalanceSummary) (name : String) : Option ChainBalance :=
  s.balances.find? fun b => Text.sameText b.chain name

end BalanceSummary

namespace Wallet

/-- The configured chains that carry the token, in lower case. -/
def tokenChains (w : Wallet) : List String :=
  (w.configured.map Text.lowerCase).filter Chain.isSupported

def readBalance (leastNative : Amount) (chain : String) : Program interface ChainBalance := do
  match ← Program.request (I := interface) (.tokenBalance chain) with
  | .error _ => return .unavailable chain
  | .ok token =>
    match ← Program.request (I := interface) (.nativeBalance chain) with
    | .error _ => return .unavailable chain
    | .ok native => return .of chain token native leastNative

/-- Reads the balances of every chain at once. -/
def readBalances (w : Wallet) (leastNative : Amount) : Flow interface BalanceSummary := do
  return .ofBalances (← Flow.all (w.tokenChains.map (readBalance leastNative)))

end Wallet

end TokenBridge
