import TokenBridge.Json.Reader

/-!
# Tolerant reading of members

The readers behind descriptions and requests, where members may be left out: a
member that is missing and one that is null mean the same.
-/

namespace TokenBridge.Json

variable {α : Type}

/-- The value under a key; null where there is none. -/
def member (v : Json) (key : String) : Json := (v.get? key).getD .null

def need? (v : Json) (key : String) (read : Json → Option α) : Option α := read (v.member key)

def maybe? (v : Json) (key : String) (read : Json → Option α) : Option (Option α) :=
  option? read (v.get? key)

/-- A member with a value for where it is left out. -/
def default? (v : Json) (key : String) (default : α) (read : Json → Option α) : Option α :=
  (v.maybe? key read).map (·.getD default)

def text? (v : Json) (key : String) : Option String := v.default? key "" string?

def flag? (v : Json) (key : String) (default : Bool) : Option Bool := v.default? key default bool?

def items? (v : Json) (key : String) (read : Json → Option α) : Option (List α) :=
  v.default? key [] (list? read)

def texts? (v : Json) (key : String) : Option (List String) := v.items? key string?

def whole? : Json → Option Nat
  | num (.whole n) => some n
  | _ => none

def orNull? (read : Json → Option α) (v : Json) : Option (Option α) := option? read (some v)

end TokenBridge.Json
