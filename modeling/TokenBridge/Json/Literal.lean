import TokenBridge.Json.Basic
import TokenBridge.Number.Binary64.Read

/-!
# JSON number literals

A literal without fraction and exponent is exact while it fits in 64 bits. Any
other is a significand times a power of ten: as many leading digits as fit in
64 bits, rounded to binary64, then multiplied or divided by the rounded power.
Each of the two steps rounds, so the result may differ from the nearest number
in its last bit. A magnitude that overflows makes the literal invalid.
-/

namespace TokenBridge.JsonNumber

open Number

def powerOfTen (e : Nat) : Binary64 := Binary64.ofRatio false (10 ^ e) 1

/-- Scales a rounded significand by a power of ten; powers beyond 308 are taken in steps. -/
def scaleBy : (steps : Nat) → Binary64 → Int → Option Binary64
  | 0, x, _ => some x
  | steps + 1, x, e =>
    if e.natAbs ≤ 308 then
      if 0 ≤ e then
        let y := x.mul (powerOfTen e.natAbs)
        if y.isFinite then some y else none
      else some (x.div (powerOfTen e.natAbs))
    else if x.units = 0 then some x
    else if 0 ≤ e then none
    else scaleBy steps (x.div (powerOfTen 308)) (e + 308)

/-- The number `± significand * 10 ^ exponent`. -/
def ofParts (minus : Bool) (significand : Nat) (exponent : Int) : Option JsonNumber :=
  (scaleBy 4 (Binary64.ofNat significand) exponent).map fun x =>
    .real (if minus then x.neg else x)

/-- One more digit, unless the significand leaves 64 bits. -/
def push? (n : Nat) (c : Char) : Option Nat :=
  match digitValue? c with
  | some d => if 10 * n + d < 2 ^ 64 then some (10 * n + d) else none
  | none => none

/-- The digits that still fit, how many they are, and the rest of the text. -/
def takeDigits : (n count : Nat) → List Char → Nat × Nat × List Char
  | n, count, c :: rest =>
    match push? n c with
    | some m => takeDigits m (count + 1) rest
    | none => (n, count, c :: rest)
  | n, count, [] => (n, count, [])

def readTail (minus : Bool) (n : Nat) (e : Int) (cs : List Char) :
    Option (JsonNumber × List Char) :=
  match cs with
  | c :: rest =>
    if c = 'e' ∨ c = 'E' then
      let (down, rest) := match rest with
        | '-' :: r => (true, r)
        | '+' :: r => (false, r)
        | r => (false, r)
      let digits := rest.takeWhile Binary64.isDigit
      match digits, digitsValue? digits with
      | _ :: _, some k =>
        (ofParts minus n (if down then e - k else e + k)).map (·, rest.dropWhile Binary64.isDigit)
      | _, _ => none
    else (ofParts minus n e).map (·, cs)
  | [] => (ofParts minus n e).map (·, [])

def readFraction (minus : Bool) (n : Nat) (e : Int) (cs : List Char) :
    Option (JsonNumber × List Char) :=
  match cs with
  | c :: _ =>
    if Binary64.isDigit c then
      let (n, count, rest) := takeDigits n 0 cs
      readTail minus n (e - count) (rest.dropWhile Binary64.isDigit)
    else none
  | [] => none

/-- A whole significand that no fraction or exponent follows. -/
def ofWhole (minus : Bool) (n : Nat) : JsonNumber :=
  if !minus then .whole n
  else if n = 0 ∨ 2 ^ 63 < n then .real (Binary64.ofRatio true n 1)
  else .negative n

/-- The digits before the point, the sign already read. -/
def readMagnitude (minus : Bool) (cs : List Char) : Option (JsonNumber × List Char) :=
  let leadingZero := match cs with
    | '0' :: d :: _ => Binary64.isDigit d
    | _ => false
  match cs with
  | [] => none
  | c :: _ =>
    if leadingZero || !Binary64.isDigit c then none
    else
      let (n, _, rest) := takeDigits 0 0 cs
      let extra := rest.takeWhile Binary64.isDigit
      let rest := rest.dropWhile Binary64.isDigit
      match rest with
      | '.' :: r => readFraction minus n extra.length r
      | 'e' :: _ => readTail minus n extra.length rest
      | 'E' :: _ => readTail minus n extra.length rest
      | _ => if extra.isEmpty then some (ofWhole minus n, rest)
             else readTail minus n extra.length rest

def read? : List Char → Option (JsonNumber × List Char)
  | '-' :: rest => readMagnitude true rest
  | cs => readMagnitude false cs

end TokenBridge.JsonNumber
