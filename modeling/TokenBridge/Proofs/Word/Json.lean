import TokenBridge.Proofs.Json.Parser
import TokenBridge.Proofs.Json.Reader
import TokenBridge.Proofs.Word.Address
import TokenBridge.Word.Json

/-!
# Amounts and hashes read back

The digits of an amount, without leading zeros, are read as the amount, and the
64 digits of a hash as the hash.
-/

namespace TokenBridge

open Json (MemberOrder Writable arranged)

namespace Amount

@[simp] theorem arranged_toJson (o : MemberOrder) (a : Amount) : arranged o a.toJson = a.toJson :=
  Json.arranged_str _

theorem writable {depth : Nat} (a : Amount) : Writable depth a.toJson := .str _

theorem read_hex (a : Amount) : read a.hex = .ok a := by
  rw [read, hex, Number.readMarked_hex a.isLt, Except.map, BitVec.ofNat_toNat, BitVec.setWidth_eq]

theorem fromJson?_toJson (a : Amount) : fromJson? a.toJson = some a := by
  rw [toJson, fromJson?, read_hex]
  rfl

end Amount

namespace Hash

@[simp] theorem arranged_toJson (o : MemberOrder) (h : Hash) : arranged o h.toJson = h.toJson :=
  Json.arranged_str _

theorem writable {depth : Nat} (h : Hash) : Writable depth h.toJson := .str _

theorem ofBytes_bytes (h : Hash) : ofBytes h.bytes = h := by
  have hvalue : h.value.toNat % 256 ^ 32 = h.value.toNat := Nat.mod_eq_of_lt h.value.isLt
  rw [ofBytes, bytes, Bytes.toNat_ofNat, hvalue, BitVec.ofNat_toNat, BitVec.setWidth_eq]

theorem readHexExactly_text (h : Hash) :
    Text.readHexExactly 32 (Text.dropHexMark h.text) = .ok h.bytes := by
  have hlength : h.bytes.length = 32 := Bytes.length_ofNat 32 _
  have hread := Text.readHexExactly_ofList (Text.map_hexValue?_hexPair h.bytes)
  rw [hlength] at hread
  rw [text, Text.prefixedHex, Text.dropHexMark, String.toList_ofList]
  exact hread

theorem fromJson?_toJson (h : Hash) : fromJson? h.toJson = some h := by
  rw [toJson, fromJson?, readHexExactly_text, Except.map, ofBytes_bytes]
  rfl

end Hash

end TokenBridge
