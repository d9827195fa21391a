import TokenBridge.Proofs.Text.Hex
import TokenBridge.Proofs.Text.LowerCase

/-!
# Hexadecimal digits

`IsHexDigit` names the sixteen digits in both cases. What is read as a byte
string is its written form in some case of letters, and nothing else is
(`readHex_eq_ok_iff`). A character beyond ASCII has a byte that is no digit, so
the digits of a text can be counted in characters as well as in bytes; those of
so many bytes are twice as many (`exists_flatMap_hexPair_iff`).
-/

namespace TokenBridge.Text

open Address (nibbles)

variable {c : Char} {n : Nat} {cs : List Char} {bs : List UInt8} {s : String}

/-! ## Digits -/

/-- One of the characters `0` to `9`, `a` to `f` and `A` to `F`. -/
def IsHexDigit (c : Char) : Prop :=
  ('0' ≤ c ∧ c ≤ '9') ∨ ('a' ≤ c ∧ c ≤ 'f') ∨ ('A' ≤ c ∧ c ≤ 'F')

theorem isSome_hexValue? {c : Char} : (hexValue? c).isSome = true ↔ IsHexDigit c := by
  simp only [hexValue?, IsHexDigit]
  by_cases hdigit : '0' ≤ c ∧ c ≤ '9'
  · simp [hdigit]
  by_cases hsmall : 'a' ≤ c ∧ c ≤ 'f'
  · simp [hdigit, hsmall]
  by_cases hcapital : 'A' ≤ c ∧ c ≤ 'F'
  · simp [hdigit, hsmall, hcapital]
  · simp [hdigit, hsmall, hcapital]

theorem exists_hexValue?_iff : (∃ n, hexValue? c = some n) ↔ IsHexDigit c := by
  rw [← isSome_hexValue?, Option.isSome_iff_exists]

theorem foldChar_of_hexValue? (h : hexValue? c = some n) : n < 16 ∧ foldChar c = hexDigit n :=
  forall_ascii (p := fun c => ∀ n ∈ hexValue? c, n < 16 ∧ foldChar c = hexDigit n)
    (by decide +kernel) (ascii_of_hexValue? h) n h

theorem hexValue?_foldChar (c : Char) : hexValue? (foldChar c) = hexValue? c := by
  by_cases hc : isCapital c
  · have hascii : c.toNat < 128 := by
      have := isCapital_iff.1 hc
      omega
    exact forall_ascii (p := fun c => hexValue? (foldChar c) = hexValue? c) (by decide +kernel)
      hascii
  · rw [foldChar_of_not_isCapital hc]

theorem hexValue?_eq_some : hexValue? c = some n ↔ foldChar c = hexDigit n ∧ n < 16 := by
  constructor
  · intro h
    exact (foldChar_of_hexValue? h).symm
  · rintro ⟨hfold, hlt⟩
    rw [← hexValue?_foldChar, hfold, hexValue?_hexDigit hlt]

/-! ## Digits of bytes -/

theorem nibbles_lt (bs : List UInt8) : ∀ n ∈ nibbles bs, n < 16 := by
  intro n hn
  obtain ⟨b, -, hb⟩ := List.mem_flatMap.1 hn
  have := b.toNat_lt
  simp only [List.mem_cons, List.not_mem_nil, or_false] at hb
  omega

theorem flatMap_hexPair (bs : List UInt8) : bs.flatMap hexPair = (nibbles bs).map hexDigit := by
  rw [nibbles, List.map_flatMap]
  rfl

theorem map_hexValue?_eq_map_some {ns : List Nat} :
    cs.map hexValue? = ns.map some ↔ cs.map foldChar = ns.map hexDigit ∧ ∀ n ∈ ns, n < 16 := by
  induction cs generalizing ns with
  | nil => cases ns <;> simp
  | cons c cs ih =>
    cases ns with
    | nil => simp
    | cons n ns =>
      simp only [List.map_cons, List.cons.injEq, List.forall_mem_cons, hexValue?_eq_some, ih,
        and_and_and_comm]

theorem nibbles_ofNat {hi lo : Nat} (hhi : hi < 16) (hlo : lo < 16) (bs : List UInt8) :
    nibbles (UInt8.ofNat (16 * hi + lo) :: bs) = hi :: lo :: nibbles bs := by
  have hlt : 16 * hi + lo < 256 := by omega
  have hbyte : (UInt8.ofNat (16 * hi + lo)).toNat = 16 * hi + lo := UInt8.toNat_ofNat_of_lt' hlt
  have hdiv : (16 * hi + lo) / 16 = hi := by omega
  have hmod : (16 * hi + lo) % 16 = lo := by omega
  rw [nibbles, List.flatMap_cons, hbyte, hdiv, hmod]
  rfl

theorem map_hexValue?_eq_iff :
    cs.map hexValue? = (nibbles bs).map some ↔ cs.map foldChar = bs.flatMap hexPair := by
  rw [map_hexValue?_eq_map_some, flatMap_hexPair, and_iff_left (nibbles_lt bs)]

theorem exists_map_hexValue?_eq {k : Nat} (hlen : cs.length = 2 * k) (h : ∀ c ∈ cs, IsHexDigit c) :
    ∃ bs : List UInt8, bs.length = k ∧ cs.map hexValue? = (nibbles bs).map some := by
  induction k generalizing cs with
  | zero =>
    obtain rfl := List.length_eq_zero_iff.1 hlen
    exact ⟨[], rfl, rfl⟩
  | succ k ih =>
    obtain ⟨c, cs, rfl⟩ := List.exists_cons_of_length_pos (l := cs) (by omega)
    rw [List.length_cons] at hlen
    obtain ⟨d, cs, rfl⟩ := List.exists_cons_of_length_pos (l := cs) (by omega)
    rw [List.length_cons] at hlen
    obtain ⟨hc, h⟩ := List.forall_mem_cons.1 h
    obtain ⟨hd, h⟩ := List.forall_mem_cons.1 h
    obtain ⟨hi, hhi⟩ := exists_hexValue?_iff.2 hc
    obtain ⟨lo, hlo⟩ := exists_hexValue?_iff.2 hd
    obtain ⟨bs, hbs, hvalues⟩ := ih (by omega) h
    refine ⟨UInt8.ofNat (16 * hi + lo) :: bs, congrArg (· + 1) hbs, ?_⟩
    rw [nibbles_ofNat (foldChar_of_hexValue? hhi).1 (foldChar_of_hexValue? hlo).1, List.map_cons,
      List.map_cons, List.map_cons, List.map_cons, hhi, hlo, hvalues]

/-- Hexadecimal digits, two a byte, are written for some bytes, and only such are. -/
theorem exists_flatMap_hexPair_iff {k : Nat} :
    (∃ bs : List UInt8, bs.length = k ∧ cs.map foldChar = bs.flatMap hexPair) ↔
      cs.length = 2 * k ∧ ∀ c ∈ cs, IsHexDigit c := by
  simp only [← map_hexValue?_eq_iff]
  constructor
  · rintro ⟨bs, rfl, h⟩
    refine ⟨length_of_values h, fun c hc => ?_⟩
    obtain ⟨n, -, hn⟩ := List.mem_map.1 (h ▸ List.mem_map_of_mem (f := hexValue?) hc)
    exact exists_hexValue?_iff.1 ⟨n, hn.symm⟩
  · rintro ⟨hlen, h⟩
    exact exists_map_hexValue?_eq hlen h

/-! ## Reading -/

theorem values_of_bytesOfPairs {position : Nat} (h : bytesOfPairs cs position = .ok bs) :
    cs.map hexValue? = (nibbles bs).map some := by
  fun_induction bytesOfPairs cs position generalizing bs with
  | case1 =>
    cases h
    rfl
  | case2 | case3 | case4 | case6 => cases h
  | case5 c d rest position hi lo hlo hhi bs' hrest ih =>
    obtain ⟨hhi16, -⟩ := foldChar_of_hexValue? hhi
    obtain ⟨hlo16, -⟩ := foldChar_of_hexValue? hlo
    cases h
    rw [nibbles_ofNat hhi16 hlo16, List.map_cons, List.map_cons, List.map_cons, List.map_cons,
      hhi, hlo, ih hrest]

/-- The first byte of a character beyond ASCII is beyond ASCII. -/
theorem exists_high_of_not_ascii (h : 128 ≤ c.toNat) :
    ∃ b ∈ String.utf8EncodeChar c, 128 ≤ b.toNat := by
  have hc : 128 ≤ c.val.toNat := h
  unfold String.utf8EncodeChar
  generalize c.val.toNat = v at hc
  dsimp only
  rw [if_neg (by omega)]
  split
  · exact ⟨_, List.mem_cons_self, by rw [UInt8.toNat_ofNat']; omega⟩
  split
  · exact ⟨_, List.mem_cons_self, by rw [UInt8.toNat_ofNat']; omega⟩
  · exact ⟨_, List.mem_cons_self, by rw [UInt8.toNat_ofNat']; omega⟩

theorem byteChars_of_ascii (h : ∀ c ∈ byteChars s, c.toNat < 128) : byteChars s = s.toList := by
  have hascii : ∀ c ∈ s.toList, c.toNat < 128 := by
    intro c hc
    refine Nat.lt_of_not_le fun hhigh => ?_
    obtain ⟨b, hb, hbhigh⟩ := exists_high_of_not_ascii hhigh
    have hmem : Char.ofNat b.toNat ∈ byteChars s := by
      rw [byteChars, ← String.ofList_toList (s := s), toList_toUTF8]
      exact List.mem_map_of_mem (List.mem_flatMap.2 ⟨c, hc, hb⟩)
    have hvalid : b.toNat.isValidChar := .inl (Nat.lt_trans b.toNat_lt (by decide))
    have hlt := h _ hmem
    rw [toNat_ofNat hvalid] at hlt
    omega
  have hbytes := byteChars_ofList hascii
  rwa [String.ofList_toList] at hbytes

/-- A text is read as bytes exactly if its characters are the digits of these in some case. -/
theorem readHex_eq_ok_iff : readHex s = .ok bs ↔ s.toList.map foldChar = bs.flatMap hexPair := by
  rw [← map_hexValue?_eq_iff]
  constructor
  · intro h
    unfold readHex at h
    simp only at h
    split at h
    · cases h
    · have hvalues := values_of_bytesOfPairs h
      have hbytes : byteChars s = s.toList := by
        apply byteChars_of_ascii
        intro c hc
        obtain ⟨n, -, hn⟩ := List.mem_map.1 (hvalues ▸ List.mem_map_of_mem hc)
        exact ascii_of_hexValue? hn.symm
      rwa [hbytes] at hvalues
  · intro h
    have hread := readHex_ofList h
    rwa [String.ofList_toList] at hread

end TokenBridge.Text
