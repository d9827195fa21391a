import TokenBridge.Json.Literal
import TokenBridge.Proofs.Text.Hex

/-!
# Numerals read back

The digits of a number are those of its quotient by the radix and one more. So a
reader that takes digits from the left comes to the number, if its bound is not
passed: the reader of 256-bit numerals (`readRadix_toDigits`) and that of JSON
literals, which stops at the first character that is no digit
(`readMagnitude_toDigits`).
-/

namespace TokenBridge.Number

variable {b n d : Nat}

/-- What holds of one digit, and of a numeral with one more digit, holds of every numeral. -/
theorem toDigits_induction {P : Nat → List Char → Prop} (hb : 1 < b)
    (hone : ∀ d < b, P d [Nat.digitChar d])
    (hmore : ∀ n d, 0 < n → d < b → P n (Nat.toDigits b n) →
      P (b * n + d) (Nat.toDigits b n ++ [Nat.digitChar d])) (n : Nat) :
    P n (Nat.toDigits b n) := by
  induction n using Nat.strongRecOn with
  | ind n ih =>
    rw [Nat.toDigits_eq_if hb]
    split
    · next hlt => exact hone n hlt
    · next hle =>
      have hdiv : 0 < n / b := Nat.div_pos (Nat.le_of_not_lt hle) (by omega)
      have hless : n / b < n := Nat.div_lt_self (by omega) hb
      have hmod : n % b < b := Nat.mod_lt n (by omega)
      have := hmore (n / b) (n % b) hdiv hmod (ih (n / b) hless)
      rwa [Nat.div_add_mod] at this

theorem ascii_digitChar (h : d < 16) : (Nat.digitChar d).toNat < 128 := by
  revert d
  decide

theorem ascii_of_mem_toDigits (hb : 1 < b) (hmax : b ≤ 16) {c : Char}
    (h : c ∈ Nat.toDigits b n) : c.toNat < 128 := by
  revert c
  refine toDigits_induction (P := fun _ cs => ∀ {c}, c ∈ cs → c.toNat < 128) hb ?_ ?_ n
  · intro d hd c hc
    rw [List.mem_singleton.1 hc]
    exact ascii_digitChar (by omega)
  · intro n d _ hd ih c hc
    rcases List.mem_append.1 hc with hc | hc
    · exact ih hc
    · rw [List.mem_singleton.1 hc]
      exact ascii_digitChar (by omega)

/-! ## Numerals of any radix -/

theorem radixStep_digitChar {bound : Nat} (hmax : b ≤ 16) (hd : d < b) (hn : b * n + d < bound) :
    radixStep b bound n (Nat.digitChar d) = .ok (b * n + d) := by
  have hvalue : ∀ d < 16, Nat.digitChar d ≠ '_' ∧ anyDigitValue? (Nat.digitChar d) = some d := by
    decide
  obtain ⟨hmark, hvalue⟩ := hvalue d (by omega)
  rw [radixStep, if_neg hmark, hvalue]
  simp only [if_neg (Nat.not_le.2 hd), if_neg (Nat.not_le.2 hn)]

theorem foldlM_toDigits {bound : Nat} (hb : 1 < b) (hmax : b ≤ 16) (hn : n < bound) :
    (Nat.toDigits b n).foldlM (radixStep b bound) 0 = .ok n := by
  refine toDigits_induction
    (P := fun n cs => n < bound → cs.foldlM (radixStep b bound) 0 = .ok n) hb ?_ ?_ n hn
  · intro d hd hbound
    have hstep : radixStep b bound 0 (Nat.digitChar d) = .ok (b * 0 + d) :=
      radixStep_digitChar hmax hd (by omega)
    rw [Nat.mul_zero, Nat.zero_add] at hstep
    rw [List.foldlM_cons, hstep]
    rfl
  · intro n d _ hd ih hbound
    have hle : n ≤ b * n := Nat.le_mul_of_pos_left n (by omega)
    rw [List.foldlM_append, ih (by omega)]
    change List.foldlM (radixStep b bound) n [Nat.digitChar d] = _
    rw [List.foldlM_cons, radixStep_digitChar hmax hd hbound]
    rfl

theorem readRadix_toDigits {bound : Nat} (hb : 1 < b) (hmax : b ≤ 16) (hn : n < bound) :
    readRadix b bound (String.ofList (Nat.toDigits b n)) = .ok n := by
  have hascii := Text.byteChars_ofList fun _ hc => ascii_of_mem_toDigits (n := n) hb hmax hc
  rw [Text.byteChars] at hascii
  rw [readRadix, hascii, foldlM_toDigits hb hmax hn]

theorem readMarked_hex {bound : Nat} (hn : n < bound) :
    readMarked bound ("0x" ++ String.ofList (Nat.toDigits 16 n)) = .ok n := by
  have hmark : ("0x" ++ String.ofList (Nat.toDigits 16 n)).toList =
      '0' :: 'x' :: Nat.toDigits 16 n := by
    simp
  simp only [readMarked, hmark]
  exact readRadix_toDigits (by decide) (by decide) hn

end TokenBridge.Number

namespace TokenBridge.JsonNumber

open Number

variable {n d : Nat} {rest : List Char}

/-! ## Literals -/

theorem isDigit_digitChar (h : d < 10) : Binary64.isDigit (Nat.digitChar d) = true := by
  revert d
  decide

theorem push?_digitChar (hd : d < 10) (hn : 10 * n + d < 2 ^ 64) :
    push? n (Nat.digitChar d) = some (10 * n + d) := by
  have hvalue : ∀ d < 10, digitValue? (Nat.digitChar d) = some d := by decide
  simp only [push?, hvalue d hd, if_pos hn]

theorem takeDigits_toDigits (hn : n < 2 ^ 64) (rest : List Char) :
    takeDigits 0 0 (Nat.toDigits 10 n ++ rest) =
      takeDigits n (Nat.toDigits 10 n).length rest := by
  revert rest
  refine toDigits_induction (P := fun n cs => n < 2 ^ 64 → ∀ rest,
    takeDigits 0 0 (cs ++ rest) = takeDigits n cs.length rest) (by decide) ?_ ?_ n hn
  · intro d hd hbound rest
    have hpush := push?_digitChar (n := 0) hd (by omega)
    rw [Nat.mul_zero, Nat.zero_add] at hpush
    rw [List.singleton_append, takeDigits, hpush]
    rfl
  · intro n d _ hd ih hbound rest
    rw [List.append_assoc, ih (by omega), List.singleton_append, takeDigits,
      push?_digitChar hd hbound, List.length_append]
    rfl

/-- A numeral starts with a digit, and with zero only if it is that of zero. -/
theorem exists_toDigits_eq_cons (n : Nat) : ∃ c cs, Nat.toDigits 10 n = c :: cs ∧
    Binary64.isDigit c = true ∧ (c = '0' → n = 0) := by
  refine toDigits_induction (P := fun n ds => ∃ c cs, ds = c :: cs ∧
    Binary64.isDigit c = true ∧ (c = '0' → n = 0)) (by decide) ?_ ?_ n
  · intro d hd
    have hzero : ∀ d < 10, Nat.digitChar d = '0' → d = 0 := by decide
    exact ⟨_, [], rfl, isDigit_digitChar hd, hzero d hd⟩
  · rintro n d hn - ⟨c, cs, heq, hdigit, hzero⟩
    refine ⟨c, cs ++ [Nat.digitChar d], ?_, hdigit, fun hc => ?_⟩
    · rw [heq]
      rfl
    · exact absurd (hzero hc) (Nat.pos_iff_ne_zero.1 hn)

/-- The text goes on with something that belongs to no number. -/
def Stops (rest : List Char) : Prop :=
  ∀ c ∈ rest.head?, Binary64.isDigit c = false ∧ c ≠ '.' ∧ c ≠ 'e' ∧ c ≠ 'E'

theorem push?_of_not_digit {c : Char} (h : Binary64.isDigit c = false) : push? n c = none := by
  rw [Binary64.isDigit, ← Bool.decide_and, decide_eq_false_iff_not] at h
  rw [push?, digitValue?, if_neg h]

theorem takeDigits_of_stops (h : Stops rest) (n count : Nat) :
    takeDigits n count rest = (n, count, rest) := by
  cases rest with
  | nil => rfl
  | cons c cs => rw [takeDigits, push?_of_not_digit (h c rfl).1]

theorem readMagnitude_toDigits (minus : Bool) (hn : n < 2 ^ 64) (h : Stops rest) :
    readMagnitude minus (Nat.toDigits 10 n ++ rest) = some (ofWhole minus n, rest) := by
  have htake : takeDigits 0 0 (Nat.toDigits 10 n ++ rest) =
      (n, (Nat.toDigits 10 n).length, rest) :=
    (takeDigits_toDigits hn rest).trans (takeDigits_of_stops h _ _)
  obtain ⟨c, cs, heq, hdigit, hzero⟩ := exists_toDigits_eq_cons n
  rw [heq, List.cons_append] at htake ⊢
  unfold readMagnitude
  simp only [htake]
  rw [if_neg ?_]
  · cases rest with
    | nil => rfl
    | cons d rest =>
      obtain ⟨hdigit, hpoint, hsmall, hlarge⟩ := h d rfl
      rw [List.dropWhile_cons_of_neg (by rw [hdigit]; decide),
        List.takeWhile_cons_of_neg (by rw [hdigit]; decide)]
      split
      · next heq => exact absurd (List.cons.inj heq).1 hpoint
      · next heq => exact absurd (List.cons.inj heq).1 hsmall
      · next heq => exact absurd (List.cons.inj heq).1 hlarge
      · rfl
  -- A leading zero stands alone, and what follows it is no digit.
  · rw [hdigit, Bool.not_true, Bool.or_false]
    split
    · next d _ hd =>
      obtain ⟨hc, hd⟩ := List.cons.inj hd
      have hnil : [] = cs := by
        rw [hzero hc, Nat.toDigits_of_lt_base (by decide)] at heq
        exact (List.cons.inj heq).2
      rw [← hnil, List.nil_append] at hd
      rw [(h d (by rw [hd]; rfl)).1]
      decide
    · decide

theorem read?_toDigits (hn : n < 2 ^ 64) (h : Stops rest) :
    read? (Nat.toDigits 10 n ++ rest) = some (.whole n, rest) := by
  obtain ⟨c, cs, heq, hdigit, -⟩ := exists_toDigits_eq_cons n
  have hread := readMagnitude_toDigits false hn h
  rw [heq, List.cons_append] at hread ⊢
  have hsign : c ≠ '-' := by
    rintro rfl
    cases hdigit
  unfold read?
  split
  · next heq => exact absurd (List.cons.inj heq).1 hsign
  · exact hread

theorem read?_minus_toDigits (hpos : 0 < n) (hn : n ≤ 2 ^ 63) (h : Stops rest) :
    read? ('-' :: (Nat.toDigits 10 n ++ rest)) = some (.negative n, rest) := by
  have hread := readMagnitude_toDigits true (Nat.lt_of_le_of_lt hn (by decide)) h
  rw [ofWhole, if_neg (by decide), if_neg (by omega)] at hread
  exact hread

end TokenBridge.JsonNumber
