import TokenBridge.Json.Member
import TokenBridge.Json.Parser
import TokenBridge.Scripted.Server

/-!
# Scripted servers in JSON
-/

namespace TokenBridge

/-- A response: its status, and its body as text or as hexadecimal digits. -/
def Http.Response.fromJson? (v : Json) : Option Http.Response := do
  let body ← match v.member "body_hex" with
    | .null => (v.text? "body").map Bytes.ofText
    | hex => Bytes.fromJson? hex
  return ⟨← v.need? "status" Json.whole?, body⟩

def Http.Request.toJson (r : Http.Request) : Json := .strs [r.method, r.target, r.accept]

namespace Rpc

def codeFromJson? : Json → Option Int
  | .num (.whole n) => some n
  | .num (.negative n) => some (-n)
  | _ => none

def Reply.fromJson? (v : Json) : Option Reply :=
  match v.member "error", v.member "http" with
  | .null, .null => some (.result (v.member "result"))
  | .null, status => do return .http (← status.whole?) (← v.text? "body")
  | e, _ => do
    return .failure (← e.need? "code" codeFromJson?) (← e.text? "message") (← e.maybe? "data" some)

/-- A request; a question for the history of fees is written without its parameters. -/
def Request.toJson (r : Request) : Json :=
  if r.method = "eth_feeHistory" then .arr [.str r.method]
  else .arr [.str r.method, .opt id r.params]

/-- Requests in the order of their compact texts. -/
def requestsJson (rs : List Request) : Json :=
  .arr (((rs.map fun r => (r.toJson.print, r.toJson)).mergeSort fun a b =>
    Json.keyLe a.1 b.1).map (·.2))

end Rpc

def Scripted.Node.fromJson? : Json → Option Scripted.Node
  | .obj members => do
    return { replies := ← members.mapM fun m => (m.2.list? Rpc.Reply.fromJson?).map (m.1, ·) }
  | .null => some { replies := [] }
  | _ => none

end TokenBridge
