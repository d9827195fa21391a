import TokenBridge.Number.Power

/-!
# Binary64 numbers

A number of the IEEE 754 binary64 format is its 64 bits. A finite magnitude is
a whole number of *units* of `2 ^ -1074`, the least positive number of the
format, so comparison, products, quotients and rounding are arithmetic of
natural numbers: `ofRatio` gives the number nearest to an exact quotient, a tie
going to the even neighbour and an overflow to infinity, and every operation is
`ofRatio` of the exact result.
-/

namespace TokenBridge.Number

/-- A binary64 number by its bit pattern. -/
structure Binary64 where
  bits : BitVec 64
  deriving DecidableEq, Repr

namespace Binary64

/-! ## The fields of the pattern -/

def negative (x : Binary64) : Bool := x.bits.msb

/-- The biased exponent, 0 to 2047. -/
def biased (x : Binary64) : Nat := x.bits.toNat / 2 ^ 52 % 2048

def fraction (x : Binary64) : Nat := x.bits.toNat % 2 ^ 52

def isFinite (x : Binary64) : Bool := x.biased != 2047

def isNaN (x : Binary64) : Bool := x.biased == 2047 && x.fraction != 0

/-- The significand with its hidden bit. -/
def significand (x : Binary64) : Nat :=
  if x.biased = 0 then x.fraction else 2 ^ 52 + x.fraction

/-- The power of two that scales the significand to units. -/
def scale (x : Binary64) : Nat := x.biased - 1

/-- The magnitude of a finite number in units of `2 ^ -1074`. -/
def units (x : Binary64) : Nat := x.significand * 2 ^ x.scale

def unitsPerOne : Nat := 2 ^ 1074

/-! ## Construction -/

/-- The pattern with the given sign and the given magnitude bits. -/
def ofMagnitude (negative : Bool) (m : Nat) : Binary64 :=
  ⟨BitVec.ofNat 64 (if negative then 2 ^ 63 + m else m)⟩

def infinity (negative : Bool) : Binary64 := ofMagnitude negative (2047 * 2 ^ 52)

def nan (negative : Bool) : Binary64 := ofMagnitude negative (2047 * 2 ^ 52 + 2 ^ 51)

def zero (negative : Bool) : Binary64 := ofMagnitude negative 0

/-- The nearest natural number to `num / den`, a tie going to the even one. -/
def roundEven (num den : Nat) : Nat :=
  let q := num / den
  let r := num % den
  if 2 * r < den then q else if den < 2 * r then q + 1 else q + q % 2

/-- The number nearest to `num / den`, where `den` is positive. -/
def ofRatio (negative : Bool) (num den : Nat) : Binary64 :=
  let n := num * unitsPerOne
  let k := (n / den).log2 - 52
  ofMagnitude negative (min (k * 2 ^ 52 + roundEven n (den * 2 ^ k)) (2047 * 2 ^ 52))

def ofNat (n : Nat) : Binary64 := ofRatio false n 1

/-! ## Order and arithmetic -/

def signedUnits (x : Binary64) : Int := if x.negative then -(x.units : Int) else x.units

/-- The strict order; nothing is below or above a NaN. -/
def lt (x y : Binary64) : Bool :=
  if x.isNaN || y.isNaN then false
  else match x.isFinite, y.isFinite with
    | true, true => decide (x.signedUnits < y.signedUnits)
    | true, false => !y.negative
    | false, true => x.negative
    | false, false => x.negative && !y.negative

def isPositive (x : Binary64) : Bool := (zero false).lt x

def neg (x : Binary64) : Binary64 := ⟨x.bits ^^^ (1#64 <<< 63)⟩

def mul (x y : Binary64) : Binary64 :=
  let sign := x.negative != y.negative
  if x.isNaN || y.isNaN then nan false
  else if x.isFinite && y.isFinite then
    ofRatio sign (x.units * y.units) (unitsPerOne * unitsPerOne)
  else if x.units = 0 ∧ x.isFinite ∨ y.units = 0 ∧ y.isFinite then nan false
  else infinity sign

def div (x y : Binary64) : Binary64 :=
  let sign := x.negative != y.negative
  if x.isNaN || y.isNaN then nan false
  else match x.isFinite, y.isFinite with
    | true, true =>
      if y.units = 0 then (if x.units = 0 then nan false else infinity sign)
      else ofRatio sign x.units y.units
    | true, false => zero sign
    | false, true => infinity sign
    | false, false => nan false

/-! ## Whole numbers -/

/-- The nearest whole number, a half going away from zero, held to 0 and `2 ^ 64 - 1`; zero for
a NaN. -/
def roundUnsigned64 (x : Binary64) : Nat :=
  if x.isNaN || x.negative then 0
  else if x.isFinite then min ((2 * x.units + unitsPerOne) / (2 * unitsPerOne)) (2 ^ 64 - 1)
  else 2 ^ 64 - 1

/-- The whole part, held to 0 and `2 ^ 64 - 1`; zero for a NaN. -/
def truncateUnsigned64 (x : Binary64) : Nat :=
  if x.isNaN || x.negative then 0
  else if x.isFinite then min (x.units / unitsPerOne) (2 ^ 64 - 1)
  else 2 ^ 64 - 1

end Binary64

end TokenBridge.Number
