import TokenBridge.Json.Reader
import TokenBridge.Word

/-!
# Amounts, hashes and addresses in JSON

An amount is written as `0x` and its digits without leading zeros; it is read
from a numeral of any radix, or from a whole number of 64 bits. It has a decimal
form too, which is a string of decimal digits. A hash is written as `0x` and 64
digits; it is read from 64 digits in either case, with or without `0x`, or from
an array of its 32 bytes. Addresses and byte strings are `0x` and their digits.
-/

namespace TokenBridge

def Amount.toJson (a : Amount) : Json := .str a.hex

def Amount.fromJson? : Json → Option Amount
  | .str s => (Amount.read s).toOption
  | .num (.whole n) => if n < 2 ^ 64 then some (BitVec.ofNat 256 n) else none
  | _ => none

def Amount.toDecimalJson (a : Amount) : Json := .str a.decimal

def Amount.fromDecimalJson? : Json → Option Amount
  | .str s => (Amount.readDecimal s).toOption
  | _ => none

def Hash.toJson (h : Hash) : Json := .str h.text

def byteFromJson? (v : Json) : Option UInt8 := (v.word? 8).map fun b => UInt8.ofNat b.toNat

def Hash.fromJson? : Json → Option Hash
  | .str s => ((Text.readHexExactly 32 (Text.dropHexMark s)).map Hash.ofBytes).toOption
  | .arr items =>
    match items.mapM byteFromJson? with
    | some bs => if bs.length = 32 then some (Hash.ofBytes bs) else none
    | none => none
  | _ => none

def Address.toJson (a : Address) : Json := .str a.text

def Address.fromJson? : Json → Option Address
  | .str s => (Address.read s).toOption
  | _ => none

def Bytes.toJson (bs : Bytes) : Json := .str (Text.prefixedHex bs)

/-- A byte string, whose mark may be missing. -/
def Bytes.fromJson? : Json → Option Bytes
  | .str s => (Text.readHex (Text.dropHexMark s)).toOption
  | _ => none

end TokenBridge
