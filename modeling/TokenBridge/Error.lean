import TokenBridge.Chain
import TokenBridge.Number.Span
import TokenBridge.Text.Quoted

/-!
# Failures

A `Report` is a message with the causes behind it, outermost first. A
`RelayError` is a failure of the delivery index or of waiting on it; "not
indexed yet" is a case of its own. A `BridgeError` is a failure of a transfer:
the first seven cases are found before anything is asked of a chain
(`isValidation`), the others name the chain and the step.
-/

namespace TokenBridge

/-- A message and the causes behind it, outermost first. -/
structure Report where
  message : String
  causes : List String
  deriving DecidableEq, Repr

namespace Report

def of (message : String) : Report := ⟨message, []⟩

def wrap (message : String) (r : Report) : Report := ⟨message, r.message :: r.causes⟩

/-- The whole chain on one line. -/
def text (r : Report) : String := ": ".intercalate (r.message :: r.causes)

end Report

/-! ## Relay failures -/

inductive RelayError where
  | notFound (guid : String)
  | transport (detail : String)
  | status (code : Nat) (body : String)
  | decode (detail : String)
  | messageFailed (guid : String)
  | messageBlocked (guid : String)
  | timeout (guid : String) (after : Number.Span)
  | cancelled (guid : String)
  deriving DecidableEq, Repr

namespace RelayError

def message : RelayError → String
  | notFound guid => "message not found: " ++ guid
  | transport detail => "relay request failed: " ++ detail
  | status code body =>
    "LayerZero Scan API error: " ++ Number.decimal code ++ " " ++ body
  | decode detail => "failed to decode relay response: " ++ detail
  | messageFailed guid => "bridge message failed: " ++ guid
  | messageBlocked guid => "bridge message blocked by DVN: " ++ guid
  | timeout guid after =>
    "timeout after " ++ after.text ++ " waiting for message delivery: " ++ guid
  | cancelled guid => "waiting for message delivery cancelled: " ++ guid

def isNotFound : RelayError → Bool
  | notFound _ => true
  | _ => false

/-- The relay itself reported that the message will not arrive. -/
def isTerminalFailure : RelayError → Bool
  | messageFailed _ | messageBlocked _ => true
  | _ => false

end RelayError

/-! ## Transfer failures -/

inductive BridgeError where
  | invalidAmount
  | sameChain
  | unsupportedChain (chain supported : String)
  | sourceChainMismatch (expected got : String)
  | invalidAddress (field value reason : String)
  | cannotRoute (source destination supported : String)
  | chainNotConfigured (chain : String)
  | chainCall (chain step : String) (cause : Report)
  | decode (what detail : String)
  | transactionReverted (chain : String) (hash : Hash)
  | missingSentEvent (hash : Hash)
  | noRoute (amount : Amount) (destination : String)
  | relay (e : RelayError)
  deriving DecidableEq, Repr

namespace BridgeError

def message : BridgeError → String
  | invalidAmount => "amount must be greater than 0"
  | sameChain => "source and destination chains must be different"
  | unsupportedChain chain supported =>
    "chain " ++ Text.quote chain ++ " does not support USDT0 bridging. Supported chains: " ++
      supported
  | sourceChainMismatch expected got =>
    "source chain mismatch: bridge initialized for " ++ Text.quote expected ++ " but got " ++
      Text.quote got
  | invalidAddress field value reason =>
    "invalid " ++ field ++ " address " ++ Text.quote value ++ ": " ++ reason
  | cannotRoute source destination supported =>
    "cannot route payment from " ++ Text.quote source ++ " to " ++ Text.quote destination ++
      ". Supported chains: " ++ supported
  | chainNotConfigured chain =>
    "chain " ++ Text.quote chain ++ " is not configured for this wallet"
  | chainCall chain step cause =>
    "failed to " ++ step ++ " on " ++ chain ++ ": " ++ cause.message
  | decode what detail => "unexpected " ++ what ++ " response format: " ++ detail
  | transactionReverted chain hash =>
    "bridge transaction reverted on " ++ chain ++ ": " ++ hash.text
  | missingSentEvent hash =>
    "failed to extract message GUID from transaction " ++ hash.text ++
      ": the OFTSent event was not found in the transaction receipt"
  | noRoute amount destination =>
    "no available route for amount " ++ amount.decimal ++ " to chain " ++ destination
  | relay e => e.message

/-- The failures that are told as found before anything is asked of a chain. -/
def isValidation : BridgeError → Bool
  | invalidAmount | sameChain | unsupportedChain .. | sourceChainMismatch .. | invalidAddress ..
  | cannotRoute .. | chainNotConfigured _ => true
  | _ => false

def unsupported (chain : String) : BridgeError := unsupportedChain chain Chain.namesText

end BridgeError

end TokenBridge
