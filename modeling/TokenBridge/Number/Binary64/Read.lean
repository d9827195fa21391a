import TokenBridge.Number.Binary64
import TokenBridge.Number.Unsigned
import TokenBridge.Text.Ascii

/-!
# Binary64 from decimal text

The numerals are an optional sign, then `inf`, `infinity` or `nan` in any case,
or digits with an optional point and an optional exponent, at least one digit
standing before the exponent. The value is the number nearest to the numeral.
-/

namespace TokenBridge.Number.Binary64

/-- A decimal numeral: `coefficient * 10 ^ exponent`. -/
structure Numeral where
  coefficient : Nat
  exponent : Int
  deriving DecidableEq, Repr

/-- The number nearest to a numeral. A magnitude whose decimal exponent lies outside the format
is decided before any power of ten is taken. -/
def ofNumeral (negative : Bool) (n : Numeral) : Binary64 :=
  let top := n.exponent + ((Nat.toDigits 10 n.coefficient).length : Int)
  if n.coefficient = 0 then zero negative
  else if 400 < top then infinity negative
  else if top < -400 then zero negative
  else match n.exponent with
    | .ofNat e => ofRatio negative (n.coefficient * 10 ^ e) 1
    | .negSucc e => ofRatio negative n.coefficient (10 ^ (e + 1))

/-- The exponent part of a numeral: nothing, or `e` with a signed run of digits. -/
def readExponent? : List Char → Option Int
  | [] => some 0
  | c :: rest =>
    if c = 'e' ∨ c = 'E' then
      let (negative, digits) := match rest with
        | '-' :: ds => (true, ds)
        | '+' :: ds => (false, ds)
        | ds => (false, ds)
      match digits with
      | [] => none
      | _ => (digitsValue? digits).map fun n => if negative then -(n : Int) else (n : Int)
    else none

def isDigit (c : Char) : Bool := decide ('0' ≤ c) && decide (c ≤ '9')

def readNumeral? (cs : List Char) : Option Numeral :=
  let whole := cs.takeWhile isDigit
  let rest := cs.dropWhile isDigit
  let (part, tail) := match rest with
    | '.' :: r => (r.takeWhile isDigit, r.dropWhile isDigit)
    | r => ([], r)
  if whole.isEmpty && part.isEmpty then none
  else match digitsValue? (whole ++ part), readExponent? tail with
    | some n, some e => some ⟨n, e - part.length⟩
    | _, _ => none

def read? (s : String) : Option Binary64 :=
  let (negative, cs) := match s.toList with
    | '-' :: rest => (true, rest)
    | '+' :: rest => (false, rest)
    | cs => (false, cs)
  let word := Text.foldCase (String.ofList cs)
  if word = "inf" ∨ word = "infinity" then some (infinity negative)
  else if word = "nan" then some (nan negative)
  else (readNumeral? cs).map (ofNumeral negative)

end TokenBridge.Number.Binary64
