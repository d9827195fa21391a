import TokenBridge.Scripted.Index
import TokenBridge.Settings.Json

/-!
# Scripted delivery indexes in JSON

A script is an array of entries, or one entry under `repeat`. The options of a
wait say what its listener and its token do.
-/

namespace TokenBridge.Scripted

open Number (Span)

def Entry.fromJson? : Json → Option Entry
  | .str "not_found" => some .notFound
  | v =>
    match v.member "status", v.member "http" with
    | .str s, _ => some (.status (.read s))
    | _, code => code.whole?.map .http

/-- A message of a wallet by its id and its status. -/
def messageFromJson? (v : Json) : Option Relay.Message := do
  return message (← v.text? "guid") (.read (← v.text? "status"))

def Index.fromJson? (v : Json) : Option Index := do
  let script ← match v.member "repeat" with
    | .null => v.items? "script" Entry.fromJson?
    | entry => (Entry.fromJson? entry).map ([·])
  return {
    script
    delays := ← v.items? "delays_ms" Span.fromJson?
    walletMessages := ← v.items? "wallet_messages" messageFromJson? }

/-- The cancellation of a token that is cancelled already, or at an instant. -/
def cancellation (already : Bool) (instant : Option Span) : Relay.Cancellation :=
  if already then .before
  else match instant with
    | some t => .at t.nanos
    | none => .never

/-- The options of a wait whose listener cancels when it is told for the time given. -/
def waitOptionsFromJson? (v : Json) : Option Relay.WaitOptions := do
  let cancelOn ← v.maybe? "cancel_on_notify" Json.whole?
  let listens ← v.flag? "callback" true
  let token := cancellation (← v.flag? "cancelled" false) (← v.maybe? "cancel_at_ms" Span.fromJson?)
  let cancellable ← v.flag? "token" true
  return {
    timeout := ← v.maybe? "timeout_ms" Span.fromJson?
    pollInterval := ← v.maybe? "poll_ms" Span.fromJson?
    listener := if listens then some fun told => cancelOn == some told.length else none
    cancellation := if cancellable then some token else none }

/-- The statuses that the listener is told. -/
def toldJson (o : Relay.WaitOptions) (changes : List Relay.Status) : Json :=
  .strs (if o.listener.isSome then changes.map Relay.Status.text else [])

end TokenBridge.Scripted
