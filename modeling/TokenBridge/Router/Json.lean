import TokenBridge.Route.Json
import TokenBridge.Router
import TokenBridge.Transfer.Json

/-!
# Automatic transfers in JSON

The members of the execution stand beside the selected route and the strategy.
Only an object is read.
-/

namespace TokenBridge.Router

def AutoResult.toJson (r : AutoResult) : Json :=
  .obj (r.execution.members ++
    [("selected_route", r.route.toJson), ("strategy", r.strategy.toJson)])

def AutoResult.fromJson? : Json → Option AutoResult
  | .obj members => do
    return {
      execution := ← Transfer.Execution.fromJson? (.obj members)
      route := ← (Json.find? "selected_route" members).bind Route.fromJson?
      strategy := ← (Json.find? "strategy" members).bind Strategy.fromJson? }
  | _ => none

end TokenBridge.Router
