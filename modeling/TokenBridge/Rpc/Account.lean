import TokenBridge.Contract.Encoding
import TokenBridge.Contract.Output
import TokenBridge.Rpc
import TokenBridge.Rpc.Transaction
import TokenBridge.Signer
import TokenBridge.Text.LowerCase
import TokenBridge.Url
import TokenBridge.Word.Json

/-!
# Accounts on a node

An account signs on one chain through one node. It reads balances and
contracts, and submits transactions: gas, fees, number and chain id are asked
for first, and only then is the signed transaction sent.
-/

namespace TokenBridge.Rpc

structure Account where
  chain : String
  url : Url
  key : Crypto.Secp256k1.PrivateKey
  receiptTimeout : Number.Span := .ofSeconds 120

namespace Account

def ofKey (parse : Url.Parser) (chain url : String) (key : Crypto.Secp256k1.PrivateKey) :
    Except Report Account :=
  match parse url with
  | .ok url => .ok { chain := Text.lowerCase chain, url, key }
  | .error e => .error (.of ("Invalid RPC URL for " ++ chain ++ ": " ++ e))

def ofKeyText (parse : Url.Parser) (chain url key : String) : Except Report Account :=
  match Crypto.Secp256k1.PrivateKey.read key with
  | .ok key => ofKey parse chain url key
  | .error e => .error e.report

def address (a : Account) : Address := a.key.address

/-! ## Reading -/

/-- A number of at most `bits` bits. -/
def natFromJson? (bits : Nat) (v : Json) : Option Nat :=
  match Amount.fromJson? v with
  | some a => if a.toNat < 2 ^ bits then some a.toNat else none
  | none => none

def balanceOf (a : Account) (owner : Address) : Work Amount :=
  wrap ("Failed to get native balance on " ++ a.chain)
    (call "eth_getBalance" (some (.arr [owner.toJson, .str "latest"])) "amount"
      Amount.fromJson?)

def read (a : Account) (contract : Address) (c : Contract.Call) : Work Contract.Value := do
  let transaction := Json.obj [("from", a.address.toJson), ("to", contract.toJson),
    ("input", c.calldata.toJson)]
  let output ← wrap ("eth_call " ++ c.method ++ " on " ++ a.chain)
    (call "eth_call" (some (.arr [transaction, .str "pending"])) "byte string" Bytes.fromJson?)
  Attempt.ofExcept (c.decodeOutput output)

/-! ## Writing -/

def feeHistoryFromJson? (v : Json) : Option FeeHistory := do
  let baseFees ← match v.get? "baseFeePerGas" with
    | some fees => fees.list? (natFromJson? 128)
    | none => some []
  let rewards ← Json.option? (Json.list? (Json.list? (natFromJson? 128))) (v.get? "reward")
  return ⟨baseFees, rewards.getD []⟩

/-- The base fee in a block, if the node has the block and its blocks have base fees. -/
def blockBaseFee (block : Json) : Except Report Nat :=
  match block with
  | .null =>
    .error (.of "server returned a null response when a non-null response was expected")
  | v =>
    match Json.option? (natFromJson? 64) (v.get? "baseFeePerGas") with
    | some (some fee) => .ok fee
    | some none => .error (.of "unsupported feature: eip1559")
    | none => .error (malformed "block")

/-- The base fee of the last block; it is looked up in the block where the history has none. -/
def baseFee (h : FeeHistory) : Work Nat := do
  match h.lastBaseFee? with
  | some (n + 1) => return n + 1
  | _ =>
    let block ← call "eth_getBlockByNumber" (some (.arr [.str "latest", .bool false])) "block" some
    Attempt.ofExcept (blockBaseFee block)

/-- Everything that a transaction needs besides its call. -/
def fill (a : Account) (contract : Address) (input : Bytes) (value : Amount) :
    Work Transaction := do
  let draft := Json.obj [("from", a.address.toJson), ("to", contract.toJson),
    ("input", input.toJson), ("value", value.toJson)]
  let gas ← call "eth_estimateGas" (some (.arr [draft, .str "pending"])) "gas" (natFromJson? 64)
  let history ← call "eth_feeHistory" none "fee history" feeHistoryFromJson?
  let baseFee ← baseFee history
  let nonce ← call "eth_getTransactionCount"
    (some (.arr [a.address.toJson, .str "pending"])) "number" (natFromJson? 64)
  let chainId ← call "eth_chainId" none "chain id" (natFromJson? 64)
  return {
    chainId
    nonce
    priorityFee := history.priorityFee
    maxFee := history.maxFee baseFee
    gas
    target := contract
    value
    input }

/-- Signs a transaction and sends it. -/
def submit (a : Account) (t : Transaction) : Work Hash :=
  match t.signed? a.key with
  | some bytes =>
    call "eth_sendRawTransaction" (some (.arr [bytes.toJson])) "hash" Hash.fromJson?
  | none => Attempt.ofExcept (.error (.of "signature error"))

/-- Submits a call with an amount attached. -/
def write (a : Account) (contract : Address) (c : Contract.Call) (value : Amount) :
    Work Hash :=
  wrap ("Failed to send " ++ c.method ++ " on " ++ a.chain) do
    let t ← a.fill contract c.calldata value
    a.submit t

def text (a : Account) : String :=
  "EvmChainSigner \x7b chain: " ++ Text.quote a.chain ++ ", rpc_url: " ++ Text.quote a.url.text ++
    ", address: " ++ a.address.text ++ " \x7d"

end Account

end TokenBridge.Rpc
