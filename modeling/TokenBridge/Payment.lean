import TokenBridge.Bridge

/-!
# Payments from another chain

A payer who holds the token on one chain is to pay on another. The funds are
sent to the payer's own address on the destination chain; whom they are meant
for in the end plays no part in the transfer.
-/

namespace TokenBridge.Payment

open Transfer (QuoteParams)

structure Params where
  payer : String
  payee : String
  amount : Amount
  source : String
  destination : String
  slippage : Number.Binary64
  deriving DecidableEq, Repr

/-- A payment whose funds are on their way. -/
structure Result where
  hash : Hash
  guid : String
  bridged : Amount
  received : Amount
  source : String
  destination : String
  seconds : BitVec 64
  deriving DecidableEq, Repr

def canRoute (source destination : String) : Bool :=
  !Text.sameText source destination && Chain.isSupported source && Chain.isSupported destination

def Params.transfer (p : Params) : QuoteParams where
  source := p.source
  destination := p.destination
  amount := p.amount
  recipient := p.payer

def validate (c : Bridge.Client) (p : Params) : Except BridgeError Unit :=
  if !Text.sameText p.source c.chain.name then
    .error (.sourceChainMismatch c.chain.name p.source)
  else if !canRoute p.source p.destination then
    .error (.cannotRoute p.source p.destination Chain.namesText)
  else if p.amount = 0 then .error .invalidAmount
  else .ok ()

def Result.ofExecution (e : Transfer.Execution) : Result where
  hash := e.hash
  guid := e.guid
  bridged := e.sent
  received := e.received
  source := e.source
  destination := e.destination
  seconds := e.seconds

/-- Sends the funds of a payment to the payer's address on the destination chain. -/
def pay (c : Bridge.Client) (p : Params) : Bridge.Client.Work Result := do
  Attempt.ofExcept (validate c p)
  let execution ← c.send
    { quote := p.transfer
      slippage := Slippage.effective p.slippage }
  return .ofExecution execution

/-- Quotes the transfer behind a payment. -/
def estimate (c : Bridge.Client) (p : Params) : Bridge.Client.Work Transfer.Quote :=
  c.quoteWith p.transfer (Slippage.effective p.slippage) none

end TokenBridge.Payment
