import TokenBridge.Crypto.Keccak
import TokenBridge.Crypto.Secp256k1
import TokenBridge.Error

/-!
# Signing keys

A key is read from 64 hexadecimal digits, with or without `0x`, and has to be a
number from 1 to the order of the curve less one. Its address is the last
twenty bytes of the digest of its public point.
-/

namespace TokenBridge

inductive KeyError where
  | hex (e : Text.HexError)
  | outOfRange
  deriving DecidableEq, Repr

namespace KeyError

def message : KeyError → String
  | hex (.badDigit c position) =>
    "invalid character " ++ Text.quoteSingle c ++ " at position " ++ Number.decimal position
  | hex _ => "invalid string length"
  | outOfRange => "signature error"

/-- The failure of a signer whose key is refused. -/
def report (e : KeyError) : Report := .of ("Invalid private key: " ++ e.message)

end KeyError

namespace Crypto.Secp256k1.PrivateKey

def read (s : String) : Except KeyError PrivateKey :=
  match Text.readHexExactly 32 (Text.dropHexMark s) with
  | .error e => .error (.hex e)
  | .ok bs =>
    match PrivateKey.ofNat? (Bytes.toNat bs) with
    | some k => .ok k
    | none => .error .outOfRange

def address (k : PrivateKey) : Address :=
  let (x, y) := k.publicPoint
  Address.ofBytes ((Crypto.Keccak.hash (Bytes.ofNat 32 x ++ Bytes.ofNat 32 y)).drop 12)

end Crypto.Secp256k1.PrivateKey

end TokenBridge
