import TokenBridge.Number.Unsigned

/-!
# Spans of time

A span is a number of nanoseconds. Shown, it takes the largest of the units
`s`, `ms`, `µs` and `ns` in which it is at least one, and its fraction drops
trailing zeros; the empty span is `0ns`.
-/

namespace TokenBridge.Number

/-- A length of time in nanoseconds. -/
structure Span where
  nanos : Nat
  deriving DecidableEq, Repr

namespace Span

def zero : Span := ⟨0⟩

def ofMillis (n : Nat) : Span := ⟨n * 1000000⟩

def ofSeconds (n : Nat) : Span := ⟨n * 1000000000⟩

/-- The longest span there is: its seconds fill 64 bits. -/
def greatest : Span := ⟨(2 ^ 64 - 1) * 1000000000 + 999999999⟩

/-- The nanoseconds that a clock counts from its zero on if its seconds are signed numbers of 64
bits. -/
def clockReach : Nat := (2 ^ 63 - 1) * 1000000000 + 999999999

def millis (d : Span) : Nat := d.nanos / 1000000

/-- The digits of a fraction of `places` places, without trailing zeros. -/
def fractionDigits (places n : Nat) : List Char :=
  let ds := Nat.toDigits 10 n
  let padded := List.replicate (places - ds.length) '0' ++ ds
  (padded.reverse.dropWhile (· == '0')).reverse

/-- A number of nanoseconds in a unit of `10 ^ places` of them. -/
def textIn (places : Nat) (unit : String) (n : Nat) : String :=
  let whole := decimal (n / 10 ^ places)
  match fractionDigits places (n % 10 ^ places) with
  | [] => whole ++ unit
  | ds => whole ++ "." ++ String.ofList ds ++ unit

def text (d : Span) : String :=
  if 1000000000 ≤ d.nanos then textIn 9 "s" d.nanos
  else if 1000000 ≤ d.nanos then textIn 6 "ms" d.nanos
  else if 1000 ≤ d.nanos then textIn 3 "µs" d.nanos
  else textIn 0 "ns" d.nanos

end Span

end TokenBridge.Number
