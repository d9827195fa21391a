import TokenBridge.Crypto.Keccak
import TokenBridge.Number.Unsigned
import TokenBridge.Text.Ascii
import TokenBridge.Text.Hex
import TokenBridge.Text.Quoted

/-!
# Amounts, hashes and addresses

Amounts are 256-bit words whose sum, difference and product wrap. A hash is 32
bytes, an address 20, and an address stands in a hash behind twelve zero bytes.
The checksummed form of an address raises those letters whose place in the
digest of the lower-case form holds a digit of 8 or more.
-/

namespace TokenBridge

/-- A 256-bit amount; its arithmetic wraps. -/
abbrev Amount := BitVec 256

structure Hash where
  value : BitVec 256
  deriving DecidableEq, Repr

structure Address where
  value : BitVec 160
  deriving DecidableEq, Repr

/-! ## Amounts -/

namespace Amount

def maximum : Amount := BitVec.allOnes 256

/-- The sum, or the greatest amount where it overflows. -/
def saturatingAdd (a b : Amount) : Amount :=
  if a.toNat + b.toNat < 2 ^ 256 then a + b else maximum

def decimal (a : Amount) : String := Number.decimal a.toNat

/-- `0x` and the digits without leading zeros. -/
def hex (a : Amount) : String := "0x" ++ String.ofList (Nat.toDigits 16 a.toNat)

def bytes (a : Amount) : Bytes := Bytes.ofNat 32 a.toNat

/-- An amount from a numeral with or without a radix mark. -/
def read (s : String) : Except Number.RadixError Amount :=
  (Number.readMarked (2 ^ 256) s).map (BitVec.ofNat 256)

def readDecimal (s : String) : Except Number.RadixError Amount :=
  (Number.readRadix 10 (2 ^ 256) s).map (BitVec.ofNat 256)

end Amount

/-! ## Hashes -/

namespace Hash

def zero : Hash := ⟨0⟩

def bytes (h : Hash) : Bytes := Bytes.ofNat 32 h.value.toNat

def ofBytes (bs : Bytes) : Hash := ⟨BitVec.ofNat 256 bs.toNat⟩

def text (h : Hash) : String := Text.prefixedHex h.bytes

end Hash

/-! ## Addresses -/

namespace Address

def zero : Address := ⟨0⟩

def bytes (a : Address) : Bytes := Bytes.ofNat 20 a.value.toNat

def ofBytes (bs : Bytes) : Address := ⟨BitVec.ofNat 160 bs.toNat⟩

def text (a : Address) : String := Text.prefixedHex a.bytes

/-- The hash that holds the address behind twelve zero bytes. -/
def toHash (a : Address) : Hash := ⟨a.value.setWidth 256⟩

/-- The address in the last twenty bytes of a hash. -/
def ofHash (h : Hash) : Address := ⟨h.value.setWidth 160⟩

def nibbles (bs : Bytes) : List Nat := bs.flatMap fun b => [b.toNat / 16, b.toNat % 16]

/-- The mixed-case form, whose letters carry a checksum. -/
def checksummed (a : Address) : String :=
  let digits := a.bytes.flatMap Text.hexPair
  let marks := nibbles (Crypto.Keccak.hash (digits.map fun c => c.toNat.toUInt8))
  let raise (c : Char) (n : Nat) : Char := if 8 ≤ n then Text.raiseChar c else c
  String.ofList ('0' :: 'x' :: List.zipWith raise digits marks)

/-- Why a text is no address. -/
inductive ReadError where
  | hex (e : Text.HexError)
  | wrongLength (bytes : Nat)
  deriving DecidableEq, Repr

def ReadError.message : ReadError → String
  | .hex .oddLength => "invalid address: Odd number of digits"
  | .hex .badLength => "invalid address: Invalid string length"
  | .hex (.badDigit c position) =>
    "invalid address: Invalid character " ++ Text.quoteSingle c ++ " at position " ++
      Number.decimal position
  | .wrongLength bytes =>
    "invalid address length: expected 20 bytes, got " ++ Number.decimal bytes

/-- An address from its digits in either case, `0x` before them or not. -/
def read (s : String) : Except ReadError Address :=
  match Text.readHex (Text.dropHexMark s) with
  | .error e => .error (.hex e)
  | .ok bs => if bs.length = 20 then .ok (ofBytes bs) else .error (.wrongLength bs.length)

end Address

/-! ## Laws of the two forms -/

theorem Address.ofHash_toHash (a : Address) : Address.ofHash a.toHash = a := by
  simp [Address.ofHash, Address.toHash, BitVec.setWidth_setWidth_of_le]

end TokenBridge
