import TokenBridge.Scripted.Signer.Json
import TokenBridge.Scripted.Wallet
import TokenBridge.Settings.Json

/-!
# Scripted wallets in JSON

A description lists the chains in the order in which they are added. A chain
without a signer of its own has one that quotes its fee and has spent nothing of
the greatest allowance. Replacements are filed under the lower-case name and stay
when the chain is given again.
-/

namespace TokenBridge.Scripted.Wallet

def signerFromJson? (w : Wallet) (token : Amount) (v : Json) : Option Signer :=
  match v.member "signer" with
  | .null => do
    return {
      address := w.address
      fee := ← v.default? "fee" 0 Amount.fromDecimalJson?
      tokenBalance := token
      allowance := Amount.maximum }
  | s => Signer.fromJson? w.address s

def file (entries : List (String × String)) (key : String) :
    Option String → List (String × String)
  | some message => (key, message) :: entries
  | none => entries

/-- The wallet with one more chain and its replacements. -/
def addJson? (w : Wallet) (v : Json) : Option Wallet := do
  let name ← v.text? "name"
  let key := Text.lowerCase name
  let token ← v.default? "token" 0 Amount.fromDecimalJson?
  let chain : Chain :=
    { token
      native := ← v.default? "native" 0 Amount.fromDecimalJson?
      failing := ← v.flag? "failing" false
      signer := ← w.signerFromJson? token v }
  let hidden ← v.flag? "hidden" false
  return { w.withChain name chain with
    nativeErrors := file w.nativeErrors key (← v.maybe? "native_error" Json.string?)
    signerErrors := file w.signerErrors key (← v.maybe? "signer_error" Json.string?)
    hidden := if hidden then key :: w.hidden else w.hidden }

def fromJson? (v : Json) : Option Wallet := do
  let w : Wallet :=
    { address := ← v.default? "wallet" .zero Address.fromJson?
      delay := ← v.default? "balance_delay_ms" .zero Number.Span.fromJson?
      extraConfigured := ← v.texts? "extra_configured" }
  (← v.items? "chains" some).foldlM addJson? w

def seenOn (w : Wallet) (key : String) : Nat :=
  ((find? w.chains key).map (·.signer.seen.length)).getD 0

/-- What the signers saw after an earlier state of the wallet, by chain. -/
def eventsJson (before after : Wallet) : Json :=
  .obj (after.chains.filterMap fun c =>
    match c.2.signer.eventsJson (before.seenOn c.1) with
    | [] => none
    | events => some (c.1, .arr events))

end TokenBridge.Scripted.Wallet
