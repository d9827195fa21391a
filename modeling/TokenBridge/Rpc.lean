import TokenBridge.Error
import TokenBridge.Json.Printer
import TokenBridge.Program

/-!
# Calls to a node

A node is asked by method and parameters. It replies with a result, with an
error of its own, or with an HTTP status that is not a success; the last is
told twice in a chain of causes, once by the transport and once by the call.
-/

namespace TokenBridge.Rpc

structure Request where
  method : String
  params : Option Json
  deriving Repr

inductive Reply where
  | result (v : Json)
  | failure (code : Int) (message : String) (data : Option Json)
  | http (status : Nat) (body : String)
  deriving Repr

def interface : Interface where
  Request := Request
  Answer _ := Reply

namespace Reply

/-- The reply of a node that does not know the method. -/
def unknownMethod : Reply := failure (-32601) "Method not found" none

def codeText : Int → String
  | .ofNat n => Number.decimal n
  | .negSucc n => "-" ++ Number.decimal (n + 1)

/-- The result, or why there is none. -/
def toExcept : Reply → Except Report Json
  | result v => .ok v
  | failure code message data =>
    let detail := match data with
      | some v => ", data: " ++ v.print
      | none => ""
    .error (.of ("server returned an error response: error code " ++ codeText code ++ ": " ++
      message ++ detail))
  | http status body =>
    let text := "HTTP error " ++ Number.decimal status ++ " with body: " ++ body
    .error ⟨text, [text]⟩

end Reply

abbrev Work (α : Type) := Attempt interface Report α

/-- A result that is not of the expected form. -/
def malformed (what : String) : Report := .of ("deserialization error: invalid " ++ what)

/-- One call, whose result is read by `read`; `what` names the result. -/
def call {α : Type} (method : String) (params : Option Json) (what : String)
    (read : Json → Option α) : Work α :=
  Attempt.request (I := interface) ⟨method, params⟩ fun (reply : Reply) =>
    match reply.toExcept with
    | .error e => .error e
    | .ok v =>
      match read v with
      | some a => .ok a
      | none => .error (malformed what)

def wrap {α : Type} (message : String) (p : Work α) : Work α :=
  ExceptT.mk (p.run.bind fun x => .done (x.mapError (.wrap message)))

end TokenBridge.Rpc
