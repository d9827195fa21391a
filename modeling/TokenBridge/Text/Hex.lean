/-!
# Hexadecimal text

Bytes as pairs of hexadecimal digits. Writing uses small letters; reading takes
either case and says what is wrong with a text it refuses: an odd number of
digits, or the first byte that is no digit together with its position. The
bytes of a text are its UTF-8 bytes, and an offending byte is named by the
character of that number.
-/

namespace TokenBridge.Text

/-- Why a text is not hexadecimal. -/
inductive HexError where
  | oddLength
  | badLength
  | badDigit (c : Char) (position : Nat)
  deriving DecidableEq, Repr

def hexDigit (n : Nat) : Char := if n < 10 then Char.ofNat (48 + n) else Char.ofNat (87 + n)

def hexValue? (c : Char) : Option Nat :=
  if '0' ≤ c ∧ c ≤ '9' then some (c.toNat - 48)
  else if 'a' ≤ c ∧ c ≤ 'f' then some (c.toNat - 87)
  else if 'A' ≤ c ∧ c ≤ 'F' then some (c.toNat - 55)
  else none

def hexPair (b : UInt8) : List Char := [hexDigit (b.toNat / 16), hexDigit (b.toNat % 16)]

/-- The digits of a byte string, two a byte. -/
def hexOfBytes (bs : List UInt8) : String := String.ofList (bs.flatMap hexPair)

/-- The same with the mark `0x` in front. -/
def prefixedHex (bs : List UInt8) : String := String.ofList ('0' :: 'x' :: bs.flatMap hexPair)

/-- The UTF-8 bytes of a text as the characters of those numbers. -/
def byteChars (s : String) : List Char := s.toUTF8.toList.map fun b => Char.ofNat b.toNat

/-- Pairs of digits as bytes; `position` is that of the first character given. -/
def bytesOfPairs : List Char → (position : Nat) → Except HexError (List UInt8)
  | [], _ => .ok []
  | [_], _ => .error .oddLength
  | c :: d :: rest, position =>
    match hexValue? c, hexValue? d with
    | none, _ => .error (.badDigit c position)
    | some _, none => .error (.badDigit d (position + 1))
    | some hi, some lo =>
      match bytesOfPairs rest (position + 2) with
      | .ok bs => .ok (UInt8.ofNat (16 * hi + lo) :: bs)
      | .error e => .error e

def readHex (s : String) : Except HexError (List UInt8) :=
  let cs := byteChars s
  if cs.length % 2 = 1 then .error .oddLength else bytesOfPairs cs 0

/-- Reading of digits that have to make exactly `n` bytes. -/
def readHexExactly (n : Nat) (s : String) : Except HexError (List UInt8) :=
  let cs := byteChars s
  if cs.length ≠ 2 * n then .error .badLength else bytesOfPairs cs 0

/-- The text without one leading `0x`. -/
def dropHexMark (s : String) : String :=
  match s.toList with
  | '0' :: 'x' :: rest => String.ofList rest
  | _ => s

end TokenBridge.Text
