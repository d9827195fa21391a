import TokenBridge.Bytes

/-!
# Recursive length encoding

The encoding of nested byte strings in which transactions are signed and sent.
A single byte below `80` is itself; a short string has its length added to
`80`, a long one the length of its length added to `b7`; lists the same from
`c0` and `f7`.
-/

namespace TokenBridge.Rlp

inductive Item where
  | bytes (bs : Bytes)
  | list (items : List Item)

/-- The header of a payload, counted from `base`. -/
def header (base : Nat) (length : Nat) : Bytes :=
  if length < 56 then [UInt8.ofNat (base + length)]
  else
    let digits := Bytes.ofNatMinimal length
    UInt8.ofNat (base + 55 + digits.length) :: digits

def encodeBytes (bs : Bytes) : Bytes :=
  match bs with
  | [b] => if b < 0x80 then [b] else header 0x80 1 ++ [b]
  | _ => header 0x80 bs.length ++ bs

mutual

def encode : Item → Bytes
  | .bytes bs => encodeBytes bs
  | .list items =>
    let payload := encodeAll items
    header 0xC0 payload.length ++ payload

def encodeAll : List Item → Bytes
  | [] => []
  | item :: rest => encode item ++ encodeAll rest

end

/-- A whole number: its big-endian form without leading zeros. -/
def Item.nat (n : Nat) : Item := .bytes (Bytes.ofNatMinimal n)

end TokenBridge.Rlp
