import TokenBridge.Proofs.Bytes
import TokenBridge.Proofs.Text.HexDigit
import TokenBridge.Proofs.Transfer

/-!
# Recipients as text

A recipient is spelt by forty hexadecimal digits (`Address.Spells`), and the hash
that is made of it holds the bytes of these digits behind twelve zero bytes
(`Hash.Holds`). Nothing else is taken for a recipient, and nothing else is made
of one (`recipientHash_eq_ok_iff`). A hash with twelve zero bytes in front is
that of the text of its address (`recipientHash_ofHash`).
-/

namespace TokenBridge

open Text (foldChar hexPair)

variable {a : Address} {hash : Hash} {text text' : String} {digits digits' : List Char}

/-! ## Addresses and hashes as bytes -/

namespace Address

theorem bytes_ofBytes {bs : Bytes} (h : bs.length = 20) : (ofBytes bs).bytes = bs := by
  have hlt : bs.toNat < 2 ^ 160 := Nat.lt_of_lt_of_eq (h ▸ bs.toNat_lt) (by decide)
  rw [ofBytes, bytes, BitVec.toNat_ofNat, Nat.mod_eq_of_lt hlt, ← h, Bytes.ofNat_toNat]

theorem toNat_bytes (a : Address) : a.bytes.toNat = a.value.toNat := by
  have hmod : a.value.toNat % 256 ^ 20 = a.value.toNat := Nat.mod_eq_of_lt a.value.isLt
  rw [bytes, Bytes.toNat_ofNat, hmod]

/-- An address stands in its hash behind twelve zero bytes. -/
theorem bytes_toHash (a : Address) : a.toHash.bytes = List.replicate 12 0 ++ a.bytes := by
  have hlength : (List.replicate 12 0 ++ a.bytes).length = 32 := by
    rw [List.length_append, List.length_replicate, a.length_bytes]
  have hzeros : Bytes.toNat (List.replicate 12 0) = 0 := rfl
  have hnumber : Bytes.toNat (List.replicate 12 0 ++ a.bytes) = a.toHash.value.toNat := by
    have hlt := a.value.isLt
    rw [Bytes.toNat_append, hzeros, Nat.zero_mul, Nat.zero_add, toNat_bytes, toHash,
      BitVec.toNat_setWidth]
    omega
  rw [Hash.bytes, ← hnumber, ← hlength, Bytes.ofNat_toNat]

theorem toHash_ofHash (h : hash.bytes.take 12 = List.replicate 12 0) :
    (ofHash hash).toHash = hash := by
  have hmod : hash.value.toNat % 256 ^ 32 = hash.value.toNat := Nat.mod_eq_of_lt hash.value.isLt
  have hnumber : hash.bytes.toNat = hash.value.toNat := by rw [Hash.bytes, Bytes.toNat_ofNat, hmod]
  have hlength : hash.bytes.length = 12 + 20 := Bytes.length_ofNat 32 _
  have hlt : hash.value.toNat < 256 ^ 20 := by
    rw [← hnumber, ← Bytes.all_take_eq_zero 12 20 hlength, h]
    rfl
  have hvalue : (hash.value.setWidth 160).setWidth 256 = hash.value := by
    apply BitVec.eq_of_toNat_eq
    simp only [BitVec.toNat_setWidth]
    omega
  rw [ofHash, toHash, hvalue]

/-! ## Spelling -/

/-- The text is these forty digits, with the mark `0x` in front of them or not. -/
structure Spells (text : String) (digits : List Char) : Prop where
  marked : text.toList = digits ∨ text.toList = '0' :: 'x' :: digits
  length : digits.length = 40
  hex : ∀ d ∈ digits, Text.IsHexDigit d

theorem not_isHexDigit_mark : ¬ Text.IsHexDigit 'x' := by
  rw [← Text.isSome_hexValue?]
  decide

theorem Spells.toList_dropHexMark (h : Spells text digits) :
    (Text.dropHexMark text).toList = digits := by
  unfold Text.dropHexMark
  rcases h.marked with hplain | hmarked
  · split
    · next rest hrest =>
      -- The mark is no digit, so a text of digits does not start with it.
      have hmem : 'x' ∈ digits := by
        rw [← hplain, hrest]
        simp
      exact absurd (h.hex 'x' hmem) not_isHexDigit_mark
    · exact hplain
  · rw [hmarked]
    exact String.toList_ofList

theorem Spells.unique (h : Spells text digits) (h' : Spells text digits') : digits = digits' :=
  h.toList_dropHexMark.symm.trans h'.toList_dropHexMark

theorem marked_dropHexMark (text : String) :
    text.toList = (Text.dropHexMark text).toList ∨
      text.toList = '0' :: 'x' :: (Text.dropHexMark text).toList := by
  unfold Text.dropHexMark
  split
  · next rest hrest =>
    right
    rw [hrest, String.toList_ofList]
  · exact .inl rfl

/-! ## Reading -/

theorem read_eq_ok_iff_readHex :
    read text = .ok a ↔ Text.readHex (Text.dropHexMark text) = .ok a.bytes := by
  unfold read
  cases Text.readHex (Text.dropHexMark text) with
  | error e => simp
  | ok bs =>
    by_cases hlength : bs.length = 20
    · simp only [if_pos hlength, Except.ok.injEq]
      constructor
      · intro h
        rw [← h, bytes_ofBytes hlength]
      · intro h
        rw [h, ofBytes_bytes]
    · simp only [if_neg hlength, Except.ok.injEq]
      constructor
      · intro h
        cases h
      · intro h
        exact absurd (h ▸ a.length_bytes) hlength

theorem read_eq_ok_iff :
    read text = .ok a ↔ ∃ digits, Spells text digits ∧ digits.map foldChar =
      a.bytes.flatMap hexPair := by
  rw [read_eq_ok_iff_readHex, Text.readHex_eq_ok_iff]
  constructor
  · intro h
    obtain ⟨hlength, hhex⟩ := Text.exists_flatMap_hexPair_iff.1 ⟨a.bytes, a.length_bytes, h⟩
    exact ⟨_, ⟨marked_dropHexMark text, hlength, hhex⟩, h⟩
  · rintro ⟨digits, hs, h⟩
    rwa [hs.toList_dropHexMark]

theorem Spells.exists_read (h : Spells text digits) : ∃ a, read text = .ok a := by
  have hcount : digits.length = 2 * 20 := h.length
  obtain ⟨bs, hlength, hbs⟩ := Text.exists_flatMap_hexPair_iff.2 ⟨hcount, h.hex⟩
  refine ⟨ofBytes bs, read_eq_ok_iff.2 ⟨digits, h, ?_⟩⟩
  rw [bytes_ofBytes hlength, hbs]

theorem Spells.read_eq_ok_iff (h : Spells text digits) :
    read text = .ok a ↔ digits.map foldChar = a.bytes.flatMap hexPair := by
  rw [Address.read_eq_ok_iff]
  constructor
  · rintro ⟨digits', h', hbytes⟩
    rwa [h.unique h']
  · intro hbytes
    exact ⟨digits, h, hbytes⟩

theorem read_text (a : Address) : read a.text = .ok a :=
  read_eq_ok_iff_readHex.2 (Text.readHex_prefixedHex a.bytes)

end Address

open Address (Spells)

/-- Behind twelve zero bytes the hash holds the bytes that are written with these digits, in small
letters, and its address has these bytes. -/
structure Hash.Holds (hash : Hash) (digits : List Char) : Prop where
  zeros : hash.bytes.take 12 = List.replicate 12 0
  written : (hash.bytes.drop 12).flatMap hexPair = digits.map foldChar
  address : (Address.ofHash hash).bytes = hash.bytes.drop 12

theorem Address.holds_toHash : a.toHash.Holds digits ↔
    digits.map foldChar = a.bytes.flatMap hexPair := by
  have htake : a.toHash.bytes.take 12 = List.replicate 12 0 := by
    rw [bytes_toHash, List.take_left' List.length_replicate]
  have hdrop : a.toHash.bytes.drop 12 = a.bytes := by
    rw [bytes_toHash, List.drop_left' List.length_replicate]
  constructor
  · intro h
    rw [← h.written, hdrop]
  · intro h
    refine ⟨htake, ?_, ?_⟩
    · rw [hdrop, h]
    · rw [hdrop, ofHash_toHash]

/-! ## Recipients -/

namespace Transfer

theorem recipientHash_eq_ok_iff :
    recipientHash text = .ok hash ↔ ∃ digits, Spells text digits ∧ hash.Holds digits := by
  constructor
  · intro h
    obtain ⟨a, ha, rfl⟩ := recipientHash_eq_ok h
    obtain ⟨digits, hs, hbytes⟩ := Address.read_eq_ok_iff.1 ha
    exact ⟨digits, hs, Address.holds_toHash.2 hbytes⟩
  · rintro ⟨digits, hs, hh⟩
    have hhash := Address.toHash_ofHash hh.zeros
    rw [← hhash] at hh ⊢
    exact recipientHash_of_read (hs.read_eq_ok_iff.2 (Address.holds_toHash.1 hh))

theorem exists_recipientHash_iff :
    (∃ hash, recipientHash text = .ok hash) ↔ ∃ digits, Spells text digits := by
  constructor
  · rintro ⟨hash, h⟩
    obtain ⟨digits, hs, -⟩ := recipientHash_eq_ok_iff.1 h
    exact ⟨digits, hs⟩
  · rintro ⟨digits, hs⟩
    obtain ⟨a, ha⟩ := hs.exists_read
    exact ⟨a.toHash, recipientHash_of_read ha⟩

/-- Two recipients are the same if their digits are, up to the case of letters. -/
theorem recipientHash_eq_iff (hs : Spells text digits) (hs' : Spells text' digits') :
    recipientHash text = recipientHash text' ↔ digits.map foldChar = digits'.map foldChar := by
  obtain ⟨a, ha⟩ := hs.exists_read
  obtain ⟨a', ha'⟩ := hs'.exists_read
  have hdigits := hs.read_eq_ok_iff.1 ha
  constructor
  · intro h
    rw [recipientHash_of_read ha, recipientHash_of_read ha', Except.ok.injEq] at h
    have haddress : a = a' := by
      rw [← Address.ofHash_toHash a, h, Address.ofHash_toHash]
    rw [hdigits, haddress, hs'.read_eq_ok_iff.1 ha']
  · intro h
    have hread : Address.read text' = .ok a := hs'.read_eq_ok_iff.2 (h ▸ hdigits)
    rw [recipientHash_of_read ha, recipientHash_of_read hread]

/-- The text of an address is that of the hash which holds it, with the checksum or without. -/
theorem recipientHash_ofHash (h : hash.bytes.take 12 = List.replicate 12 0) :
    recipientHash (Address.ofHash hash).checksummed = .ok hash ∧
      recipientHash (Address.ofHash hash).text = .ok hash := by
  have hhash := Address.toHash_ofHash h
  constructor
  · rw [recipientHash_checksummed, hhash]
  · rw [recipientHash_of_read (Address.read_text _), hhash]

end Transfer

end TokenBridge
