import TokenBridge.Word

/-!
# Reading hexadecimal text

The bytes of an ASCII text are its characters (`byteChars_ofList`), and a text
whose digits have the values of a byte string's half bytes reads as that byte
string, whatever the case of its letters (`readHex_ofList`).
-/

namespace TokenBridge.Text

open Address (nibbles)

/-! ## Bytes of a text -/

theorem toList_loop (bs : ByteArray) (i : Nat) (r : List UInt8) :
    ByteArray.toList.loop bs i r = r.reverse ++ bs.data.toList.drop i := by
  fun_induction ByteArray.toList.loop bs i r with
  | case1 i r hi ih =>
    have hlt : i < bs.data.toList.length := by simpa using hi
    have hget : bs.get! i = bs.data.toList[i] := by
      rw [ByteArray.get!, getElem!_pos bs.data i (by simpa using hi), Array.getElem_toList]
    rw [ih, hget, List.reverse_cons, List.append_assoc, List.singleton_append,
      List.getElem_cons_drop]
  | case2 i r hi =>
    rw [List.drop_eq_nil_of_le (by simpa using hi), List.append_nil]

theorem toList_toUTF8 (cs : List Char) :
    (String.ofList cs).toUTF8.toList = cs.flatMap String.utf8EncodeChar := by
  rw [ByteArray.toList, toList_loop]
  simp [String.toUTF8, List.utf8Encode]

theorem utf8EncodeChar_of_ascii {c : Char} (h : c.toNat < 128) :
    String.utf8EncodeChar c = [UInt8.ofNat c.toNat] := by
  have hval : c.val ≤ 0x7f := UInt32.le_iff_toNat_le.2 (Nat.le_of_lt_succ h)
  rw [String.utf8EncodeChar_eq_singleton (if_pos hval)]
  rfl

theorem byteChars_ofList {cs : List Char} (h : ∀ c ∈ cs, c.toNat < 128) :
    byteChars (String.ofList cs) = cs := by
  rw [byteChars, toList_toUTF8]
  induction cs with
  | nil => rfl
  | cons c cs ih =>
    have hc := h c (List.mem_cons_self ..)
    rw [List.flatMap_cons, utf8EncodeChar_of_ascii hc, List.singleton_append, List.map_cons,
      ih fun d hd => h d (List.mem_cons_of_mem _ hd)]
    congr 1
    rw [UInt8.toNat_ofNat', Nat.mod_eq_of_lt (by omega), Char.ofNat_toNat]

/-! ## Digits and their values -/

/-- A statement about the characters of ASCII by a check of their numbers. -/
theorem forall_ascii {p : Char → Prop} (h : ∀ n < 128, p (Char.ofNat n)) {c : Char}
    (hc : c.toNat < 128) : p c := by
  rw [← Char.ofNat_toNat c]
  exact h c.toNat hc

theorem hexValue?_raiseChar (c : Char) : hexValue? (raiseChar c) = hexValue? c := by
  by_cases hc : c.toNat < 128
  · exact forall_ascii (p := fun c => hexValue? (raiseChar c) = hexValue? c) (by decide +kernel) hc
  · have hnot : ¬ ('a' ≤ c ∧ c ≤ 'z') := by
      rintro ⟨-, hz⟩
      have : c.toNat ≤ 'z'.toNat := hz
      have : 'z'.toNat = 122 := rfl
      omega
    rw [raiseChar, if_neg hnot]

theorem hexValue?_hexDigit {n : Nat} (h : n < 16) : hexValue? (hexDigit n) = some n := by
  revert n
  decide +kernel

theorem length_nibbles (bs : List UInt8) : (nibbles bs).length = 2 * bs.length := by
  induction bs with
  | nil => rfl
  | cons b bs ih =>
    rw [nibbles, List.flatMap_cons, List.length_append]
    change 2 + (nibbles bs).length = _
    rw [ih, List.length_cons]
    omega

theorem map_hexValue?_hexPair (bs : List UInt8) :
    (bs.flatMap hexPair).map hexValue? = (nibbles bs).map some := by
  induction bs with
  | nil => rfl
  | cons b bs ih =>
    have hb := b.toNat_lt
    rw [nibbles, List.flatMap_cons, List.flatMap_cons, List.map_append, List.map_append, ih]
    congr 1
    simp only [hexPair, List.map_cons, List.map_nil]
    rw [hexValue?_hexDigit (by omega), hexValue?_hexDigit (by omega)]

theorem bytesOfPairs_of_values {cs : List Char} {bs : List UInt8}
    (h : cs.map hexValue? = (nibbles bs).map some) (position : Nat) :
    bytesOfPairs cs position = .ok bs := by
  induction bs generalizing cs position with
  | nil =>
    obtain rfl := List.map_eq_nil_iff.1 h
    rfl
  | cons b bs ih =>
    obtain ⟨c, cs, rfl, hc, h⟩ := List.map_eq_cons_iff.1 h
    obtain ⟨d, cs, rfl, hd, h⟩ := List.map_eq_cons_iff.1 h
    have hb : 16 * (b.toNat / 16) + b.toNat % 16 = b.toNat := Nat.div_add_mod ..
    simp only [bytesOfPairs, hc, hd, ih h, hb, UInt8.ofNat_toNat]

theorem ascii_of_hexValue? {c : Char} {n : Nat} (h : hexValue? c = some n) : c.toNat < 128 := by
  refine Nat.lt_of_not_le fun hc => ?_
  have hlow : ∀ d : Char, d.toNat < 128 → ¬ c ≤ d := fun d hd hle => by
    have : c.toNat ≤ d.toNat := hle
    omega
  have h9 := hlow '9' (by decide)
  have hf := hlow 'f' (by decide)
  have hF := hlow 'F' (by decide)
  simp [hexValue?, h9, hf, hF] at h

section Values

variable {cs : List Char} {bs : List UInt8}

theorem byteChars_of_values (h : cs.map hexValue? = (nibbles bs).map some) :
    byteChars (String.ofList cs) = cs := by
  refine byteChars_ofList fun c hc => ?_
  have hmem : hexValue? c ∈ (nibbles bs).map some := h ▸ List.mem_map_of_mem hc
  obtain ⟨n, -, hn⟩ := List.mem_map.1 hmem
  exact ascii_of_hexValue? hn.symm

theorem length_of_values (h : cs.map hexValue? = (nibbles bs).map some) :
    cs.length = 2 * bs.length := by
  rw [← List.length_map (f := hexValue?), h, List.length_map, length_nibbles]

theorem readHex_ofList (h : cs.map hexValue? = (nibbles bs).map some) :
    readHex (String.ofList cs) = .ok bs := by
  have hlen := length_of_values h
  rw [readHex, byteChars_of_values h, if_neg (by omega)]
  exact bytesOfPairs_of_values h 0

theorem readHexExactly_ofList (h : cs.map hexValue? = (nibbles bs).map some) :
    readHexExactly bs.length (String.ofList cs) = .ok bs := by
  rw [readHexExactly, byteChars_of_values h, if_neg (not_not_intro (length_of_values h))]
  exact bytesOfPairs_of_values h 0

end Values

theorem readHex_prefixedHex (bs : List UInt8) :
    readHex (dropHexMark (prefixedHex bs)) = .ok bs := by
  rw [prefixedHex, dropHexMark, String.toList_ofList]
  exact readHex_ofList (map_hexValue?_hexPair bs)

end TokenBridge.Text
