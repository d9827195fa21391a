import TokenBridge.Json.Basic

/-!
# Secrets

A secret is shown as `<redacted>` wherever it is printed or written; only
`secret` gives it away.
-/

namespace TokenBridge

structure Redacted (α : Type) where
  secret : α

namespace Redacted

variable {α : Type}

def text (_ : Redacted α) : String := "<redacted>"

def toJson (r : Redacted α) : Json := .str r.text

end Redacted

end TokenBridge
