import TokenBridge.Proofs.Text.Hex
import TokenBridge.Text.Utf8

/-!
# UTF-8 read back

The bytes of a character are read as the character, whatever comes next
(`utf8Chars_encodeChar`), so those of a text are read as the text
(`utf8?_toUTF8`). The first byte holds the bits that do not fit in the bytes
behind it; its bounds on the second byte leave out surrogates and long forms,
which no character has.
-/

namespace TokenBridge.Text

variable {t more least greatest bits : Nat} {b : UInt8} {rest : List UInt8}

/-! ## First bytes -/

theorem toNat_ofNat_add {k : Nat} (h : t + k < 256) : (UInt8.ofNat (t + k)).toNat = t + k :=
  UInt8.toNat_ofNat_of_lt' h

theorem lead?_one (h : t < 0x80) : lead? (UInt8.ofNat t) = some ⟨0, 0x80, 0xBF, t⟩ := by
  unfold lead?
  simp only [UInt8.toNat_ofNat_of_lt' (Nat.lt_trans h (by decide))]
  rw [if_pos h]

theorem lead?_two (hlow : 2 ≤ t) (h : t < 32) :
    lead? (UInt8.ofNat (t + 192)) = some ⟨1, 0x80, 0xBF, t⟩ := by
  unfold lead?
  simp only [toNat_ofNat_add (by omega : t + 192 < 256)]
  rw [if_neg (by omega), if_pos (by omega), Nat.add_sub_cancel]

theorem lead?_three (h : t < 16) : lead? (UInt8.ofNat (t + 224)) =
    some ⟨2, if t = 0 then 0xA0 else 0x80, if t = 13 then 0x9F else 0xBF, t⟩ := by
  unfold lead?
  simp only [toNat_ofNat_add (by omega : t + 224 < 256)]
  rw [if_neg (by omega), if_neg (by omega)]
  by_cases hfirst : t = 0
  · subst hfirst
    rfl
  by_cases hsurrogates : t = 13
  · subst hsurrogates
    rfl
  rw [if_neg (by omega), if_neg (by omega), if_pos (by omega), if_neg hfirst,
    if_neg hsurrogates, Nat.add_sub_cancel]

theorem lead?_four (h : t ≤ 4) : lead? (UInt8.ofNat (t + 240)) =
    some ⟨3, if t = 0 then 0x90 else 0x80, if t = 4 then 0x8F else 0xBF, t⟩ := by
  obtain rfl | rfl | rfl | rfl | rfl : t = 0 ∨ t = 1 ∨ t = 2 ∨ t = 3 ∨ t = 4 := by omega
  all_goals rfl

/-! ## Characters -/

theorem utf8Chars_cons (h : lead? b = some ⟨more, least, greatest, bits⟩) :
    utf8Chars (b :: rest) = (continueChar more least greatest bits rest).1 ::
      utf8Chars (continueChar more least greatest bits rest).2 := by
  rw [utf8Chars, h]

theorem continueChar_cons (hleast : least ≤ t + 128) (hgreatest : t + 128 ≤ greatest) (h : t < 64) :
    continueChar (more + 1) least greatest bits (UInt8.ofNat (t + 128) :: rest) =
      continueChar more 0x80 0xBF (bits * 64 + t) rest := by
  rw [continueChar, toNat_ofNat_add (by omega), if_pos ⟨hleast, hgreatest⟩, Nat.add_sub_cancel]

theorem utf8Chars_encodeChar (c : Char) (rest : List UInt8) :
    utf8Chars (String.utf8EncodeChar c ++ rest) = some c :: utf8Chars rest := by
  have hc : c.val.toNat < 0xD800 ∨ 0xDFFF < c.val.toNat ∧ c.val.toNat < 0x110000 := c.valid
  have hread : Char.ofNat c.val.toNat = c := Char.ofNat_toNat c
  unfold String.utf8EncodeChar
  -- From here on only the number counts: six of its bits in each byte but the first.
  generalize c.val.toNat = v at hc hread
  dsimp only
  split
  · next hone =>
    rw [List.singleton_append, utf8Chars_cons (lead?_one (by omega)), continueChar, hread]
  split
  · next htwo =>
    have hbits : v / 64 % 32 * 64 + v % 64 = v := by omega
    rw [List.cons_append, List.singleton_append,
      utf8Chars_cons (lead?_two (by omega) (by omega)),
      continueChar_cons (by omega) (by omega) (by omega), continueChar, hbits, hread]
  split
  · next hthree =>
    have hbits : (v / 4096 % 16 * 64 + v / 64 % 64) * 64 + v % 64 = v := by omega
    rw [List.cons_append, List.cons_append, List.singleton_append,
      utf8Chars_cons (lead?_three (by omega)),
      continueChar_cons (by split <;> omega) (by split <;> omega) (by omega),
      continueChar_cons (by omega) (by omega) (by omega), continueChar, hbits, hread]
  · next hfour =>
    have hbits : ((v / 262144 % 8 * 64 + v / 4096 % 64) * 64 + v / 64 % 64) * 64 + v % 64 = v := by
      omega
    rw [List.cons_append, List.cons_append, List.cons_append, List.singleton_append,
      utf8Chars_cons (lead?_four (by omega)),
      continueChar_cons (by split <;> omega) (by split <;> omega) (by omega),
      continueChar_cons (by omega) (by omega) (by omega),
      continueChar_cons (by omega) (by omega) (by omega), continueChar, hbits, hread]

theorem utf8Chars_flatMap (cs : List Char) :
    utf8Chars (cs.flatMap String.utf8EncodeChar) = cs.map some := by
  induction cs with
  | nil => rw [List.flatMap_nil, utf8Chars, List.map_nil]
  | cons c cs ih => rw [List.flatMap_cons, utf8Chars_encodeChar, ih, List.map_cons]

theorem mapM_map_some {α : Type} (xs : List α) : (xs.map some).mapM id = some xs := by
  induction xs with
  | nil => rfl
  | cons x xs ih =>
    rw [List.map_cons, List.mapM_cons, ih]
    rfl

theorem utf8?_toUTF8 (s : String) : utf8? s.toUTF8.toList = some s := by
  rw [← String.ofList_toList (s := s), toList_toUTF8, utf8?, utf8Chars_flatMap, mapM_map_some]
  rfl

end TokenBridge.Text
