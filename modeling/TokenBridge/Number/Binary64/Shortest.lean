import TokenBridge.Number.Binary64
import TokenBridge.Number.Unsigned

/-!
# Shortest decimal text of a binary64 number

Of all decimals that read back as the number, the text has one with the fewest
digits, and among those the nearest, the upper one on a tie. It is written
positionally, however large or small, without an exponent and without a point
where there is no fraction; zero keeps its sign.
-/

namespace TokenBridge.Number.Binary64

/-- The reals that round to a finite number, as bounds over a common denominator. -/
structure Basin where
  low : Nat
  centre : Nat
  high : Nat
  closed : Bool
  deriving Repr

/-- The denominator of every basin: a quarter of a unit. -/
def basinDenominator : Nat := 4 * unitsPerOne

def basin (x : Binary64) : Basin :=
  let gap := 2 ^ x.scale
  let below := if x.fraction = 0 ∧ 1 < x.biased then gap else 2 * gap
  ⟨4 * x.units - below, 4 * x.units, 4 * x.units + 2 * gap, x.significand % 2 == 0⟩

/-- A decimal `digits * 10 ^ power` as numerator and denominator. -/
def decimalRatio (digits : Nat) : Int → Nat × Nat
  | .ofNat e => (digits * 10 ^ e, 1)
  | .negSucc e => (digits, 10 ^ (e + 1))

def Basin.contains (b : Basin) (digits : Nat) (power : Int) : Bool :=
  let (n, d) := decimalRatio digits power
  let v := n * basinDenominator
  if b.closed then decide (b.low * d ≤ v) && decide (v ≤ b.high * d)
  else decide (b.low * d < v) && decide (v < b.high * d)

/-- The whole part of the centre on the grid of step `10 ^ power`. -/
def Basin.floorOn (b : Basin) : Int → Nat
  | .ofNat e => b.centre / (basinDenominator * 10 ^ e)
  | .negSucc e => b.centre * 10 ^ (e + 1) / basinDenominator

def Basin.prefersUpper (b : Basin) (digits : Nat) (power : Int) : Bool :=
  let (n, d) := decimalRatio (2 * digits + 1) power
  decide (n * basinDenominator ≤ 2 * b.centre * d)

/-- The decimal exponent of the leading digit of a positive number. -/
def Basin.leading (b : Basin) : Int :=
  ((Nat.toDigits 10 (b.centre * 10 ^ 400 / basinDenominator)).length : Int) - 401

/-- The best decimal on the grid of step `10 ^ power`, if one of the two neighbours reads back. -/
def Basin.onGrid (b : Basin) (power : Int) : Option (Nat × Int) :=
  let q := b.floorOn power
  match b.contains q power && decide (0 < q), b.contains (q + 1) power with
  | true, true => some (if b.prefersUpper q power then q + 1 else q, power)
  | true, false => some (q, power)
  | false, true => some (q + 1, power)
  | false, false => none

/-- The first grid with a decimal that reads back; `count` grids are left to try. -/
def Basin.search (b : Basin) : (count : Nat) → (power : Int) → Nat × Int
  | 0, power => (b.floorOn power, power)
  | count + 1, power =>
    match b.onGrid power with
    | some r => r
    | none => b.search count (power - 1)

def shortest (x : Binary64) : Nat × Int := x.basin.search 17 x.basin.leading

def positional (digits : Nat) (power : Int) : List Char :=
  let ds := Nat.toDigits 10 digits
  match power with
  | .ofNat e => ds ++ List.replicate e '0'
  | .negSucc e =>
    let places := e + 1
    let padded := List.replicate (places + 1 - ds.length) '0' ++ ds
    let whole := padded.take (padded.length - places)
    let part := (padded.drop (padded.length - places)).reverse.dropWhile (· == '0')
    if part.isEmpty then whole else whole ++ '.' :: part.reverse

def text (x : Binary64) : String :=
  let sign := if x.negative then "-" else ""
  if x.isNaN then "NaN"
  else if !x.isFinite then sign ++ "inf"
  else if x.units = 0 then sign ++ "0"
  else sign ++ String.ofList (positional x.shortest.1 x.shortest.2)

def bitsText (x : Binary64) : String :=
  let ds := Nat.toDigits 16 x.bits.toNat
  String.ofList (List.replicate (16 - ds.length) '0' ++ ds)

end TokenBridge.Number.Binary64
