import TokenBridge.Proofs.Text.Hex

/-!
# Addresses as text

The checksum moves letters between the two cases only, so the text of an
address reads as the address (`Address.read_checksummed`).
-/

namespace TokenBridge

namespace Crypto.Keccak

theorem length_littleEndian (x : UInt64) : (littleEndian x).length = 8 := by
  simp [littleEndian]

theorem length_hash (message : Bytes) : (hash message).length = 32 := by
  simp only [hash, List.length_flatMap, length_littleEndian]
  rfl

end Crypto.Keccak

namespace Address

open Text (hexPair hexValue? raiseChar)

theorem ofBytes_bytes (a : Address) : ofBytes a.bytes = a := by
  have h : a.value.toNat % 256 ^ 20 = a.value.toNat := Nat.mod_eq_of_lt a.value.isLt
  rw [ofBytes, bytes, Bytes.toNat_ofNat, h, BitVec.ofNat_toNat, BitVec.setWidth_eq]

theorem length_bytes (a : Address) : a.bytes.length = 20 := Bytes.length_ofNat 20 _

theorem map_hexValue?_raise {digits : List Char} (marks : List Nat)
    (h : digits.length ≤ marks.length) :
    (List.zipWith (fun c n => if 8 ≤ n then raiseChar c else c) digits marks).map hexValue? =
      digits.map hexValue? := by
  induction digits generalizing marks with
  | nil => rfl
  | cons c cs ih =>
    cases marks with
    | nil => simp at h
    | cons n ns =>
      have hc : hexValue? (if 8 ≤ n then raiseChar c else c) = hexValue? c := by
        split
        · exact Text.hexValue?_raiseChar c
        · rfl
      rw [List.zipWith_cons_cons, List.map_cons, List.map_cons, hc, ih ns (by simpa using h)]

theorem read_raised (a : Address) {marks : List Nat} (h : 40 ≤ marks.length) :
    read (String.ofList ('0' :: 'x' :: List.zipWith (fun c n => if 8 ≤ n then raiseChar c else c)
      (a.bytes.flatMap hexPair) marks)) = .ok a := by
  have hdigits : (a.bytes.flatMap hexPair).length = 40 := by
    rw [← List.length_map (f := hexValue?), Text.map_hexValue?_hexPair, List.length_map,
      Text.length_nibbles, length_bytes]
  have hvalues := map_hexValue?_raise marks (Nat.le_trans (Nat.le_of_eq hdigits) h)
  rw [Text.map_hexValue?_hexPair] at hvalues
  have hread := Text.readHex_ofList hvalues
  simp only [read, Text.dropHexMark, String.toList_ofList, hread, length_bytes,
    if_pos, ofBytes_bytes]

/-- The checksummed text of an address is read as the address. -/
theorem read_checksummed (a : Address) : read a.checksummed = .ok a := by
  have hlen : ∀ message, 40 ≤ (nibbles (Crypto.Keccak.hash message)).length := by
    intro message
    rw [Text.length_nibbles, Crypto.Keccak.length_hash]
    decide
  unfold checksummed
  exact a.read_raised (hlen _)

end Address

end TokenBridge
