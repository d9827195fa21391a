import TokenBridge.Number.Binary64

/-!
# JSON values

A number is kept the way its literal was written: a whole number of 64 bits is
exact, unsigned or negative, and any other literal is a binary64 number. An
object is a list of members without two of one key; a later member of the same
key replaces the earlier value.
-/

namespace TokenBridge

open Number (Binary64)

inductive JsonNumber where
  | whole (n : Nat)
  | negative (n : Nat)
  | real (x : Binary64)
  deriving DecidableEq, Repr

namespace JsonNumber

/-- The number as a binary64 one; `negative n` is the number `-n`. -/
def toBinary64 : JsonNumber → Binary64
  | whole n => Binary64.ofNat n
  | negative n => Binary64.ofRatio true n 1
  | real x => x

end JsonNumber

inductive Json where
  | null
  | bool (b : Bool)
  | num (n : JsonNumber)
  | str (s : String)
  | arr (items : List Json)
  | obj (members : List (String × Json))
  deriving Inhabited, Repr

namespace Json

def kind : Json → String
  | null => "null"
  | bool _ => "bool"
  | num _ => "number"
  | str _ => "string"
  | arr _ => "array"
  | obj _ => "object"

def find? (key : String) (members : List (String × Json)) : Option Json :=
  (members.find? fun m => m.1 == key).map (·.2)

/-- The members with one more, in the place of an earlier one of its key. -/
def insert (members : List (String × Json)) (key : String) (v : Json) : List (String × Json) :=
  if members.any (·.1 == key) then members.map fun m => if m.1 == key then (key, v) else m
  else members ++ [(key, v)]

/-- The value under a key; `none` too if the value is no object. -/
def get? (key : String) : Json → Option Json
  | obj members => find? key members
  | _ => none

/-! ## Shorthands for building values -/

def nat (n : Nat) : Json := num (.whole n)

def strs (xs : List String) : Json := arr (xs.map str)

def opt (f : α → Json) : Option α → Json
  | some a => f a
  | none => null

end Json

end TokenBridge
