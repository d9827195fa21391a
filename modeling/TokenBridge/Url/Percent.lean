import TokenBridge.Text.Hex
import TokenBridge.Text.Utf8

/-!
# Percent-encoding

A character that must not stand in a part of a URL is written as its UTF-8
bytes, each `%` and two capital hexadecimal digits. Control characters and
everything outside ASCII never stand; what else does not depends on the part.
Decoding leaves a `%` alone that two digits do not follow.
-/

namespace TokenBridge.Url

/-- A part of a URL with rules of its own. -/
inductive Part where
  | userinfo
  | path
  | verbatim
  | query
  | specialQuery
  | fragment
  deriving DecidableEq, Repr

namespace Part

/-- The printable ASCII characters that are encoded in a part. -/
def reserved : Part → List Char
  | verbatim => []
  | fragment => [' ', '"', '<', '>', '`']
  | query => [' ', '"', '#', '<', '>']
  | specialQuery => [' ', '"', '#', '<', '>', '\'']
  | path => [' ', '"', '<', '>', '`', '#', '?', '\x7b', '\x7d']
  | userinfo =>
    [' ', '"', '<', '>', '`', '#', '?', '\x7b', '\x7d', '/', ':', ';', '=', '@', '[', '\\', ']',
      '^', '|']

/-- The character stands in the part as it is. -/
def stands (p : Part) (c : Char) : Bool :=
  decide (0x20 ≤ c.toNat) && decide (c.toNat < 0x7F) && !p.reserved.contains c

end Part

def encodeByte (b : UInt8) : List Char := '%' :: (Text.hexPair b).map Char.toUpper

def encodeChar (p : Part) (c : Char) : List Char :=
  if p.stands c then [c] else (String.singleton c).toUTF8.toList.flatMap encodeByte

/-- A text as it stands in a part. -/
def encode (p : Part) (cs : List Char) : String := String.ofList (cs.flatMap (encodeChar p))

/-- The value of a byte that is a hexadecimal digit. -/
def digitOfByte? (b : UInt8) : Option Nat := Text.hexValue? (Char.ofNat b.toNat)

/-- The bytes with every `%` and two digits replaced by the byte they name. -/
def decodeBytes : List UInt8 → List UInt8
  | [] => []
  | [b] => [b]
  | [b, c] => [b, c]
  | b :: c :: d :: rest =>
    if b = 0x25 then
      match digitOfByte? c, digitOfByte? d with
      | some hi, some lo => UInt8.ofNat (16 * hi + lo) :: decodeBytes rest
      | _, _ => b :: decodeBytes (c :: d :: rest)
    else b :: decodeBytes (c :: d :: rest)

/-- The text behind an encoded one; none if its bytes are not UTF-8. -/
def decode? (cs : List Char) : Option String :=
  Text.utf8? (decodeBytes (String.ofList cs).toUTF8.toList)

end TokenBridge.Url
