import TokenBridge.Number.Power

/-!
# Unsigned numerals

Decimal and other positional readings of natural numbers. `readUnsigned` is the
strict one: an optional plus sign, at least one ASCII digit, nothing else, and
a value below the bound of the type that is read. `readRadix` is the one for
256-bit amounts: underscores are skipped anywhere, no digit at all is zero, and
the first offending byte or the first digit that overflows decides the error.
-/

namespace TokenBridge.Number

def decimal (n : Nat) : String := String.ofList (Nat.toDigits 10 n)

def digitValue? (c : Char) : Option Nat :=
  if '0' ≤ c ∧ c ≤ '9' then some (c.toNat - 48) else none

/-- The value of a run of decimal digits; `none` if some character is no digit. -/
def digitsValue? (cs : List Char) : Option Nat :=
  cs.foldlM (fun n c => (digitValue? c).map (10 * n + ·)) 0

def readUnsigned (bound : Nat) (s : String) : Option Nat :=
  let digits := match s.toList with
    | '+' :: rest => rest
    | cs => cs
  match digits with
  | [] => none
  | _ => match digitsValue? digits with
    | some n => if n < bound then some n else none
    | none => none

def readUnsigned64 : String → Option Nat := readUnsigned (2 ^ 64)

/-! ## Numerals of any radix -/

inductive RadixError where
  | badDigit (c : Char)
  | tooLarge
  deriving DecidableEq, Repr

def RadixError.message : RadixError → String
  | .badDigit c => "invalid digit: " ++ String.singleton c
  | .tooLarge => "the value is too large to fit the target type"

/-- Digits and letters of either case, up to 35. -/
def anyDigitValue? (c : Char) : Option Nat :=
  if '0' ≤ c ∧ c ≤ '9' then some (c.toNat - 48)
  else if 'a' ≤ c ∧ c ≤ 'z' then some (c.toNat - 87)
  else if 'A' ≤ c ∧ c ≤ 'Z' then some (c.toNat - 55)
  else none

def radixStep (radix bound : Nat) (n : Nat) (c : Char) : Except RadixError Nat :=
  if c = '_' then .ok n
  else match anyDigitValue? c with
    | some d =>
      if radix ≤ d then .error (.badDigit c)
      else if bound ≤ radix * n + d then .error .tooLarge
      else .ok (radix * n + d)
    | none => .error (.badDigit c)

/-- A numeral of the given radix below `bound`; a byte outside ASCII is named by the character of
its number. -/
def readRadix (radix bound : Nat) (s : String) : Except RadixError Nat :=
  (s.toUTF8.toList.map fun b => Char.ofNat b.toNat).foldlM (radixStep radix bound) 0

/-- A numeral whose radix is given by its mark: `0x`, `0o` and `0b` in either case, else ten. -/
def readMarked (bound : Nat) (s : String) : Except RadixError Nat :=
  match s.toList with
  | '0' :: m :: rest =>
    if m = 'x' ∨ m = 'X' then readRadix 16 bound (String.ofList rest)
    else if m = 'o' ∨ m = 'O' then readRadix 8 bound (String.ofList rest)
    else if m = 'b' ∨ m = 'B' then readRadix 2 bound (String.ofList rest)
    else readRadix 10 bound s
  | _ => readRadix 10 bound s

end TokenBridge.Number
