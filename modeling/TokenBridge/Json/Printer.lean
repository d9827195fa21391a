import TokenBridge.Json.Basic
import TokenBridge.Number.Binary64.Shortest

/-!
# Writing JSON

The compact form: no blanks, the members of an object in the order of their
keys, and only the characters that JSON forbids inside a string escaped.
-/

namespace TokenBridge.Json

def unitDigits (n : Nat) : List Char :=
  let ds := Nat.toDigits 16 n
  List.replicate (4 - ds.length) '0' ++ ds

def printChar (c : Char) : List Char :=
  if c = '"' then ['\\', '"']
  else if c = '\\' then ['\\', '\\']
  else if c = '\x08' then ['\\', 'b']
  else if c = '\x0c' then ['\\', 'f']
  else if c = '\n' then ['\\', 'n']
  else if c = '\r' then ['\\', 'r']
  else if c = '\t' then ['\\', 't']
  else if c.toNat < 0x20 then '\\' :: 'u' :: unitDigits c.toNat
  else [c]

def printString (s : String) : String := String.ofList ('"' :: s.toList.flatMap printChar ++ ['"'])

/-- A number that is not whole keeps a fraction part; JSON has no word for one that is not
finite. -/
def printReal (x : Number.Binary64) : String :=
  if !x.isFinite then "null"
  else
    let t := x.text
    if t.contains '.' then t else t ++ ".0"

def printNumber : JsonNumber → String
  | .whole n => Number.decimal n
  | .negative n => "-" ++ Number.decimal n
  | .real x => printReal x

/-- The order of keys: by code point, which is the order of their UTF-8 bytes. -/
def keyLe (a b : String) : Bool := decide (a ≤ b)

def commaJoin (xs : List String) : String := ",".intercalate xs

def print : Json → String
  | null => "null"
  | bool true => "true"
  | bool false => "false"
  | num n => printNumber n
  | str s => printString s
  | arr items => "[" ++ commaJoin (items.attach.map fun ⟨v, _⟩ => print v) ++ "]"
  | obj members =>
    let texts := members.attach.map fun ⟨m, _⟩ => (m.1, printString m.1 ++ ":" ++ print m.2)
    "\x7b" ++ commaJoin ((texts.mergeSort fun a b => keyLe a.1 b.1).map (·.2)) ++ "\x7d"
  termination_by v => sizeOf v
  decreasing_by
    · have := List.sizeOf_lt_of_mem ‹_ ∈ items›
      simp; omega
    · rename_i h
      have := List.sizeOf_lt_of_mem h
      have : sizeOf m.2 < sizeOf m := by
        cases m; simp only [Prod.mk.sizeOf_spec]; omega
      simp; omega

end TokenBridge.Json
