import TokenBridge.Bytes
import TokenBridge.Text.Body

/-!
# HTTP exchanges

A request as far as a server sees it here, and a response. Responses of the
statuses 204 and 304 have no body, whatever is sent along with them.
-/

namespace TokenBridge.Http

structure Request where
  method : String
  /-- The host that is asked, with its port. -/
  host : String
  target : String
  accept : String
  deriving DecidableEq, Repr

structure Response where
  status : Nat
  body : Bytes
  deriving DecidableEq, Repr

namespace Response

def isSuccess (r : Response) : Bool := decide (200 ≤ r.status) && decide (r.status < 300)

def content (r : Response) : Bytes := if r.status = 204 ∨ r.status = 304 then [] else r.body

def text (r : Response) : String := Text.ofBody r.content

end Response

end TokenBridge.Http
