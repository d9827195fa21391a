import TokenBridge.Text.Utf8

/-!
# Text of a message body

A body is UTF-8 unless it begins with the byte order mark of UTF-16. A mark is
not part of the text, and what is malformed becomes `U+FFFD`.
-/

namespace TokenBridge.Text

/-- The 16-bit units of a byte string in either byte order; a single byte at the end is none. -/
def units16 (bigEndian : Bool) : List UInt8 → List (Option Nat)
  | [] => []
  | [_] => [none]
  | a :: b :: rest =>
    some (if bigEndian then a.toNat * 256 + b.toNat else b.toNat * 256 + a.toNat) ::
      units16 bigEndian rest

def isHighSurrogate (n : Nat) : Bool := decide (0xD800 ≤ n) && decide (n < 0xDC00)

def isLowSurrogate (n : Nat) : Bool := decide (0xDC00 ≤ n) && decide (n < 0xE000)

/-- The character that stands for what is malformed. -/
def replacement : Char := Char.ofNat 0xFFFD

def charsOfUnits : List (Option Nat) → List Char
  | [] => []
  | none :: rest => replacement :: charsOfUnits rest
  | [some n] =>
    [if isHighSurrogate n || isLowSurrogate n then replacement else Char.ofNat n]
  | some hi :: some lo :: rest =>
    if isHighSurrogate hi then
      if isLowSurrogate lo then
        Char.ofNat (0x10000 + (hi - 0xD800) * 0x400 + (lo - 0xDC00)) :: charsOfUnits rest
      else replacement :: charsOfUnits (some lo :: rest)
    else (if isLowSurrogate hi then replacement else Char.ofNat hi) ::
      charsOfUnits (some lo :: rest)
  | some n :: none :: rest =>
    (if isHighSurrogate n || isLowSurrogate n then replacement else Char.ofNat n) ::
      charsOfUnits (none :: rest)

def ofBody : List UInt8 → String
  | 0xEF :: 0xBB :: 0xBF :: rest => utf8Replacing rest
  | 0xFF :: 0xFE :: rest => String.ofList (charsOfUnits (units16 false rest))
  | 0xFE :: 0xFF :: rest => String.ofList (charsOfUnits (units16 true rest))
  | bs => utf8Replacing bs

end TokenBridge.Text
