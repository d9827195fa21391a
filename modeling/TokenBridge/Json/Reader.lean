import TokenBridge.Json.Basic

/-!
# Strict reading of JSON values

The readers behind the exact forms of the library's own values. A record is an
object with its fields by name, further members being ignored, or an array of
the fields in order. A whole number has to be written as one and to fit its
width.
-/

namespace TokenBridge.Json

def string? : Json → Option String
  | str s => some s
  | _ => none

def bool? : Json → Option Bool
  | bool b => some b
  | _ => none

/-- A whole number of the given width. -/
def word? (width : Nat) : Json → Option (BitVec width)
  | num (.whole n) => if n < 2 ^ width then some (BitVec.ofNat width n) else none
  | _ => none

def binary64? : Json → Option Number.Binary64
  | num n => some n.toBinary64
  | _ => none

def list? {α : Type} (read : Json → Option α) : Json → Option (List α)
  | arr items => items.mapM read
  | _ => none

def option? {α : Type} (read : Json → Option α) : Option Json → Option (Option α)
  | none => some none
  | some null => some none
  | some v => (read v).map some

/-- The values of the named fields; the last `spare` of them may be missing from an array. -/
def fields? (names : List String) (spare : Nat) : Json → Option (List (Option Json))
  | obj members => some (names.map (find? · members))
  | arr items =>
    if names.length ≤ items.length + spare ∧ items.length ≤ names.length then
      some (items.map some ++ List.replicate (names.length - items.length) none)
    else none
  | _ => none

def word {width : Nat} (w : BitVec width) : Json := nat w.toNat

end TokenBridge.Json
