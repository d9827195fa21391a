import TokenBridge.Balance
import TokenBridge.Bridge.Cache
import TokenBridge.Relay.Tracker
import TokenBridge.Settings

/-!
# Routing a transfer

The router finds the source chain for a transfer. It reads all balances, tries
the chains in the order of their names, and quotes on every chain that is left:

* a chain has to be eligible and to hold the amount asked for;
* its client has to be had;
* its quote has to succeed, and its native balance to cover the quoted fee.

The first condition that fails is the reason of an unavailable route. Routes
are listed by source. The bridge clients are kept from call to call, so every
operation takes the cache and gives the one after it, also when it fails.
-/

namespace TokenBridge

open Transfer (QuoteParams SendParams)

structure Router where
  wallet : Wallet
  settings : Settings

namespace Router

/-- What the router does: asks of the wallet, with the kept clients as state. -/
abbrev Work (α : Type) := ExceptT BridgeError (StateT Bridge.Cache (Flow Wallet.interface)) α

/-- A transfer whose source is chosen by the router. -/
structure AutoParams where
  destination : String
  amount : Amount
  recipient : Option String := none
  preferred : Option String := none
  slippage : Option Number.Binary64 := none
  strategy : Option Strategy := none
  deriving DecidableEq, Repr

structure AutoResult where
  execution : Transfer.Execution
  route : Route
  strategy : Strategy
  deriving DecidableEq, Repr

def tracker (r : Router) : Relay.Tracker := ⟨r.settings.pollInterval, r.settings.deliveryTimeout⟩

def ofExcept {α : Type} (x : Except BridgeError α) : Work α := ExceptT.mk (pure x)

def ofFlow {α : Type} (p : Flow Wallet.interface α) : Work α := liftM p

/-- The client of a chain, kept from now on. -/
def client (r : Router) (name : String) : Work Bridge.Kept :=
  ExceptT.mk fun cache => .ofProgram (Bridge.Cache.get r.wallet cache name)

/-- A program of a client's signer. -/
def through {α : Type} (kept : Bridge.Kept) (p : Bridge.Client.Work α) : Work α := do
  ofExcept (← ofFlow (.ofProgram (Wallet.through kept.signer p.run)))

def balances (r : Router) : Flow Wallet.interface BalanceSummary :=
  r.wallet.readBalances r.settings.leastNative

/-! ## Routes -/

/-- Why a balance cannot serve a transfer, before anything is asked: `amount` is the one asked
for, if any. -/
def refusal? (amount : Option Amount) (b : ChainBalance) : Option String :=
  if !b.eligible then
    some (if b.token = 0 then "insufficient USDT0 balance"
      else "insufficient native token for gas")
  else match amount with
    | some amount =>
      if b.token < amount then
        some ("insufficient balance: have " ++ b.token.decimal ++ ", need " ++ amount.decimal)
      else none
    | none => none

def quoteRoute (route : Route) (kept : Bridge.Kept) (p : QuoteParams) (native : Amount) :
    Program Wallet.interface Route := do
  match ← Wallet.through kept.signer (kept.client.quote p).run with
  | .error e => return route.unavailable ("failed to get quote: " ++ e.message)
  | .ok quote =>
    if native < quote.nativeFee then
      return route.unavailable "insufficient native token for bridge fee"
    else return route.quoted quote.nativeFee

/-- A source chain after the tests that ask no quote: settled, or a quote to be asked. -/
inductive Candidate where
  | settled (r : Route)
  | quoting (task : Program Wallet.interface Route)

def candidate (r : Router) (destination : Chain) (amount : Option Amount) (b : ChainBalance) :
    StateT Bridge.Cache (Program Wallet.interface) Candidate := fun cache =>
  let route := Route.pending b.chain destination.name b.token
  match refusal? amount b with
  | some reason => .done (.settled (route.unavailable reason), cache)
  | none =>
    (Bridge.Cache.get r.wallet cache b.chain).bind fun (answer, cache) =>
      match answer with
      | .error e =>
        .done (.settled (route.unavailable ("failed to create bridge: " ++ e.message)), cache)
      | .ok kept =>
        let params : QuoteParams :=
          { source := b.chain
            destination := destination.name
            amount := amount.getD b.token
            recipient := r.wallet.address.checksummed }
        .done (.quoting (quoteRoute route kept params b.native), cache)

def settled (candidates : List Candidate) : List Route :=
  candidates.filterMap fun
    | .settled r => some r
    | .quoting _ => none

def quoting (candidates : List Candidate) : List (Program Wallet.interface Route) :=
  candidates.filterMap fun
    | .settled _ => none
    | .quoting task => some task

/-- The routes by source. -/
def sorted (routes : List Route) : List Route :=
  routes.mergeSort fun a b => Chain.nameLe a.source b.source

/-- A route from every chain other than the destination; without an amount, or with zero, each is
quoted for the chain's whole balance. -/
def routes (r : Router) (destination : String) (amount : Option Amount) : Work (List Route) := do
  match Chain.lookup destination with
  | none => ofExcept (.error (.unsupported destination))
  | some destination =>
    let amount := amount.filter (· != 0)
    let summary ← ofFlow r.balances
    let sources := summary.balances.filter fun b => b.chain != destination.name
    let candidates ← ExceptT.lift fun cache =>
      Flow.ofProgram ((sources.mapM (r.candidate destination amount)).run cache)
    let quoted ← ofFlow (Flow.all (quoting candidates))
    return sorted (settled candidates ++ quoted)

/-! ## Execution -/

def bridge (r : Router) (p : SendParams) : Work Transfer.Execution := do
  let kept ← r.client p.quote.source
  through kept (kept.client.send p)

/-- The percentage in force for an automatic transfer. -/
def slippage (r : Router) (given : Option Number.Binary64) : Number.Binary64 :=
  Slippage.effective ((given.filter (·.isPositive)).getD r.settings.slippage)

/-- Picks a route and executes the transfer on it. -/
def autoBridge (r : Router) (p : AutoParams) : Work AutoResult := do
  if p.amount = 0 then
    ofExcept (.error .invalidAmount)
  else
    let routes ← r.routes p.destination (some p.amount)
    let strategy := p.strategy.getD r.settings.strategy
    match Route.select routes strategy p.preferred with
    | none => ofExcept (.error (.noRoute p.amount p.destination))
    | some route =>
      let recipient := (p.recipient.filter (!·.isEmpty)).getD r.wallet.address.checksummed
      let execution ← r.bridge
        { quote :=
            { source := route.source
              destination := route.destination
              amount := p.amount
              recipient }
          slippage := r.slippage p.slippage }
      return ⟨execution, route, strategy⟩

end Router

end TokenBridge
