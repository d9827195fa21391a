import TokenBridge.Text.Ascii
import TokenBridge.Text.Blank

/-!
# Message statuses

The status of a message on its way, as the delivery index words it. Reading
takes the known words in any case with blanks around them; any other text is a
status of its own, kept as it stands. Delivered, failed and blocked are final.
-/

namespace TokenBridge.Relay

inductive Status where
  | inflight
  | confirming
  | delivered
  | failed
  | blocked
  | unknown (text : String)
  deriving DecidableEq, Repr

namespace Status

def text : Status → String
  | inflight => "INFLIGHT"
  | confirming => "CONFIRMING"
  | delivered => "DELIVERED"
  | failed => "FAILED"
  | blocked => "BLOCKED"
  | unknown s => s

/-- The statuses that have a word of their own. -/
def known : List Status := [inflight, confirming, delivered, failed, blocked]

def read (s : String) : Status :=
  let word := Text.raiseCase (Text.trim s)
  (known.find? fun k => k.text == word).getD (unknown s)

/-- A final status never changes again. -/
def isFinal : Status → Bool
  | delivered | failed | blocked => true
  | _ => false

end Status

/-! ## What a status means for a wait -/

inductive Verdict where
  | pending
  | delivered
  | failed
  | blocked
  deriving DecidableEq, Repr

def Status.verdict : Status → Verdict
  | .delivered => .delivered
  | .failed => .failed
  | .blocked => .blocked
  | .inflight | .confirming | .unknown _ => .pending

/-- The last status seen of one message. -/
structure Observer where
  last : Option Status := none
  deriving DecidableEq, Repr

namespace Observer

def isNews (o : Observer) (s : Status) : Bool := o.last != some s

def observe (_ : Observer) (s : Status) : Observer := ⟨some s⟩

end Observer

end TokenBridge.Relay
