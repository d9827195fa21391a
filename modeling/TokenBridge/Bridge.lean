import TokenBridge.Contract.Encoding
import TokenBridge.Signer
import TokenBridge.Transfer

/-!
# Bridge clients

A client is bound to one source chain and to the address that signs there. It
quotes transfers, and executes them in four steps:

* the fee is quoted again;
* the allowance is read, and raised to the amount if it is less, which is
  waited for;
* the transfer is submitted with the fee attached, and waited for;
* the message id is taken from the logs of the receipt.

The first step that fails is the last one taken. A request that does not pass
`validate` asks nothing.
-/

namespace TokenBridge.Bridge

open Contract (Call MessagingFee)
open Transfer (QuoteParams SendParams)

structure Client where
  chain : Chain
  address : Address
  deriving DecidableEq, Repr

/-- The message id: the second topic of the first log of a sent message that has one. -/
def messageGuid? (logs : List Log) : Option Hash :=
  logs.findSome? fun log =>
    match log.topics with
    | topic :: guid :: _ => if topic = Contract.sentEventTopic then some guid else none
    | _ => none

def messageGuid (r : Receipt) : Except BridgeError Hash :=
  match messageGuid? r.logs with
  | some guid => .ok guid
  | none => .error (.missingSentEvent r.hash)

namespace Client

abbrev Work (α : Type) := Attempt Signer.interface BridgeError α

def ofName (name : String) (address : Address) : Except BridgeError Client :=
  match Chain.lookup name with
  | some chain => .ok ⟨chain, address⟩
  | none => .error (.unsupported name)

def token (c : Client) : Address := c.chain.token

/-- The supported names other than that of the source chain. -/
def destinations (c : Client) : List String := Chain.names.filter (· != c.chain.name)

def supportsDestination (c : Client) (name : String) : Bool :=
  !Text.sameText name c.chain.name && Chain.isSupported name

/-- The destination of a transfer that this client can make. -/
def validate (c : Client) (p : QuoteParams) : Except BridgeError Chain :=
  if !Text.sameText p.source c.chain.name then
    .error (.sourceChainMismatch c.chain.name p.source)
  else match Chain.lookup p.destination with
    | none => .error (.unsupported p.destination)
    | some destination =>
      if Text.sameText p.source p.destination then .error .sameChain
      else if p.amount = 0 then .error .invalidAmount
      else .ok destination

/-- One request to the signer, a failure being told with the chain and the step. -/
def ask (c : Client) (step : String) (r : Signer.Request) : Work (Signer.Reward r) :=
  Attempt.request r fun (answer : Except Report (Signer.Reward r)) =>
    answer.mapError (BridgeError.chainCall c.chain.name step)

def quoteFee (c : Client) (p : Contract.SendParam) : Work MessagingFee := do
  let value ← c.ask "get quote" (.read c.token (.quoteSend p false))
  Attempt.ofExcept (MessagingFee.ofValue value)

/-- Waits for a transaction; one that was reverted is a failure. -/
def waitMined (c : Client) (step : String) (hash : Hash) : Work Receipt := do
  let receipt ← c.ask step (.wait hash)
  Attempt.ofExcept (if receipt.status then .ok receipt
    else .error (.transactionReverted c.chain.name hash))

/-- Raises the allowance to the amount if it is less. -/
def ensureAllowance (c : Client) (amount : Amount) : Work Unit := do
  let value ← c.ask "check allowance" (.read c.token (.allowance c.address c.token))
  let current ← Attempt.ofExcept (value.toAmount "allowance")
  if amount ≤ current then
    return ()
  else
    let hash ← c.ask "approve" (.write c.token (.approve c.token amount) 0)
    let _ ← c.waitMined "wait for approval" hash
    return ()

/-- What a transfer sends, if this client can make it: the destination and the parameter. -/
def plan (c : Client) (p : QuoteParams) (slippage : Number.Binary64)
    (gasLimit : Option (BitVec 128)) : Except BridgeError (Chain × Contract.SendParam) :=
  match c.validate p with
  | .error e => .error e
  | .ok destination =>
    (Transfer.sendParam destination p.amount p.recipient slippage gasLimit).map
      (destination, ·)

/-- Quotes a transfer with a slippage and a gas limit for the destination. -/
def quoteWith (c : Client) (p : QuoteParams) (slippage : Number.Binary64)
    (gasLimit : Option (BitVec 128)) : Work Transfer.Quote := do
  let (destination, param) ← Attempt.ofExcept (c.plan p slippage gasLimit)
  let fee ← c.quoteFee param
  return {
    nativeFee := fee.native
    amount := p.amount
    minAmount := param.minAmount
    seconds := Chain.deliveryTime c.chain destination
    source := c.chain.name
    destination := destination.name }

def quote (c : Client) (p : QuoteParams) : Work Transfer.Quote :=
  c.quoteWith p Slippage.default none

def send (c : Client) (p : SendParams) : Work Transfer.Execution := do
  let (destination, param) ←
    Attempt.ofExcept (c.plan p.quote (Slippage.effective p.slippage) p.gasLimit)
  let fee ← c.quoteFee param
  c.ensureAllowance p.quote.amount
  let refund := p.refund.getD c.address
  let hash ← c.ask "execute bridge" (.write c.token (.send param fee refund) fee.native)
  let receipt ← c.waitMined "wait for bridge transaction" hash
  let guid ← Attempt.ofExcept (messageGuid receipt)
  return {
    hash
    guid := guid.text
    sent := p.quote.amount
    received := param.minAmount
    source := c.chain.name
    destination := destination.name
    seconds := Chain.deliveryTime c.chain destination }

def text (c : Client) : String :=
  "Usdt0Bridge \x7b chain: " ++ Text.quote c.chain.name ++ ", oft: " ++ c.token.text ++
    ", signer: " ++ c.address.text ++ " \x7d"

end Client

end TokenBridge.Bridge
