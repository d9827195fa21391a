/-!
# Environment variables
-/

namespace TokenBridge

/-- The variables that are set to Unicode text, each once. One that is set to anything else is read
as if it were not set, and is not held. -/
structure Environment where
  entries : List (String × String)
  deriving Repr

def Environment.get? (env : Environment) (name : String) : Option String :=
  (env.entries.find? fun v => v.1 == name).map (·.2)

end TokenBridge
