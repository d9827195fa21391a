import TokenBridge.Bytes
import TokenBridge.Proofs.Text.Utf8

/-!
# The order of texts

Texts are compared character by character. The bytes of a less character are less
than those of a greater one, whatever comes next (`encodeChar_append_lt`), so the
order of texts is that of their bytes (`ofText_lt_iff`).
-/

namespace TokenBridge

namespace Text

variable {x y : List UInt8}

/-! ## Characters -/

/-- The first byte decides, unless it is the same. -/
theorem ofNat_cons_lt_cons {a b : Nat} (hle : a ≤ b) (hb : b < 256) (hrest : a = b → x < y) :
    UInt8.ofNat a :: x < UInt8.ofNat b :: y := by
  rw [List.cons_lt_cons_iff, UInt8.lt_iff_toNat_lt, ← UInt8.toNat_inj,
    UInt8.toNat_ofNat_of_lt' (Nat.lt_of_le_of_lt hle hb), UInt8.toNat_ofNat_of_lt' hb]
  rcases Nat.lt_or_eq_of_le hle with hlt | heq
  · exact .inl hlt
  · exact .inr ⟨heq, hrest heq⟩

/-- The bytes of a less character are less, whatever comes next. -/
theorem encodeChar_append_lt {c d : Char} (h : c < d) (x y : List UInt8) :
    String.utf8EncodeChar c ++ x < String.utf8EncodeChar d ++ y := by
  have hd : d.val.toNat < 0xD800 ∨ 0xDFFF < d.val.toNat ∧ d.val.toNat < 0x110000 := d.valid
  have hlt : c.val.toNat < d.val.toNat := h
  unfold String.utf8EncodeChar
  -- From here on only the numbers count. The first byte tells how many bytes there are, and among
  -- as many bytes the higher bits come first.
  generalize c.val.toNat = v at hlt
  generalize d.val.toNat = w at hd hlt
  dsimp only
  split
  · next hone =>
    split
    · exact ofNat_cons_lt_cons (by omega) (by omega) fun _ => by omega
    split
    · exact ofNat_cons_lt_cons (by omega) (by omega) fun _ => by omega
    split <;> exact ofNat_cons_lt_cons (by omega) (by omega) fun _ => by omega
  split
  · next htwo =>
    rw [if_neg (by omega : ¬ w ≤ 0x7f)]
    split
    · exact ofNat_cons_lt_cons (by omega) (by omega) fun _ =>
        ofNat_cons_lt_cons (by omega) (by omega) fun _ => by omega
    split <;> exact ofNat_cons_lt_cons (by omega) (by omega) fun _ => by omega
  split
  · next hthree =>
    rw [if_neg (by omega : ¬ w ≤ 0x7f), if_neg (by omega : ¬ w ≤ 0x7ff)]
    split
    · exact ofNat_cons_lt_cons (by omega) (by omega) fun _ =>
        ofNat_cons_lt_cons (by omega) (by omega) fun _ =>
          ofNat_cons_lt_cons (by omega) (by omega) fun _ => by omega
    · exact ofNat_cons_lt_cons (by omega) (by omega) fun _ => by omega
  · next hfour =>
    rw [if_neg (by omega : ¬ w ≤ 0x7f), if_neg (by omega : ¬ w ≤ 0x7ff),
      if_neg (by omega : ¬ w ≤ 0xffff)]
    exact ofNat_cons_lt_cons (by omega) (by omega) fun _ =>
      ofNat_cons_lt_cons (by omega) (by omega) fun _ =>
        ofNat_cons_lt_cons (by omega) (by omega) fun _ =>
          ofNat_cons_lt_cons (by omega) (by omega) fun _ => by omega

/-! ## Texts -/

theorem flatMap_encodeChar_lt {cs ds : List Char} (h : cs < ds) :
    cs.flatMap String.utf8EncodeChar < ds.flatMap String.utf8EncodeChar := by
  induction h with
  | @nil d ds =>
    rw [List.flatMap_nil, List.flatMap_cons]
    cases hbytes : String.utf8EncodeChar d with
    | nil => exact absurd hbytes String.utf8EncodeChar_ne_nil
    | cons b bs => exact List.nil_lt_cons b _
  | rel h => exact encodeChar_append_lt h _ _
  | cons _ ih => exact List.append_left_lt ih

end Text

namespace Bytes

variable {s t : String}

theorem ofText_eq (s : String) : ofText s = s.toList.flatMap String.utf8EncodeChar := by
  rw [ofText, ← Text.toList_toUTF8, String.ofList_toList]

theorem ofText_lt (h : s < t) : ofText s < ofText t := by
  rw [ofText_eq, ofText_eq]
  exact Text.flatMap_encodeChar_lt (String.lt_iff.1 h)

/-- Texts are ordered as their bytes are. -/
theorem ofText_lt_iff : ofText s < ofText t ↔ s < t := by
  constructor
  · intro h
    apply String.not_le.1
    intro hle
    rcases Std.le_iff_lt_or_eq.1 hle with hlt | rfl
    · exact List.lt_asymm h (ofText_lt hlt)
    · exact List.lt_irrefl _ h
  · exact ofText_lt

theorem ofText_le_iff : ofText s ≤ ofText t ↔ s ≤ t := by
  rw [← String.not_lt, ← List.not_lt, ofText_lt_iff]

end Bytes

end TokenBridge
