import TokenBridge.Number.Unsigned

/-!
# Decimal numerals

What a text has to be to be a numeral of a number, said of its characters
(`IsNumeral`): the strict reader takes exactly the numerals of the numbers below
its bound (`readUnsigned_eq_some_iff`). A number that is written in front of a
mark which is no digit can be told from the text (`decimal_append_injective`).
-/

namespace TokenBridge.Number

variable {c : Char} {cs : List Char} {s t : String} {bound init m n : Nat}

/-! ## The strict reader -/

theorem digitValue?_eq (c : Char) :
    digitValue? c = if c.isDigit = true then some (c.toNat - '0'.toNat) else none := by
  have hdigit : ('0' ≤ c ∧ c ≤ '9') ↔ c.isDigit = true := by
    simp only [Char.isDigit, Bool.and_eq_true, decide_eq_true_eq]
    exact Iff.rfl
  simp only [digitValue?, hdigit]
  rfl

theorem foldlM_digitValue?_eq_some_iff :
    cs.foldlM (fun n c => (digitValue? c).map (10 * n + ·)) init = some n ↔
      (∀ c ∈ cs, c.isDigit = true) ∧ Nat.ofDigitChars 10 cs init = n := by
  induction cs generalizing init with
  | nil => simp
  | cons c cs ih =>
    rw [List.foldlM_cons, List.forall_mem_cons, Nat.ofDigitChars_cons, digitValue?_eq]
    by_cases hc : c.isDigit = true
    · simp only [hc, if_true, Option.map_some, Option.bind_eq_bind, Option.bind_some, ih, true_and]
    · simp [hc]

/-- The text is a decimal numeral of the number: one digit or more, and perhaps a plus sign in front
of them. -/
def IsNumeral (s : String) (n : Nat) : Prop :=
  ∃ digits : List Char, (s.toList = digits ∨ s.toList = '+' :: digits) ∧ digits ≠ [] ∧
    (∀ d ∈ digits, d.isDigit = true) ∧ Nat.ofDigitChars 10 digits 0 = n

/-- What the reader takes for the digits of a text. -/
def unsignedDigits (s : String) : List Char :=
  match s.toList with
  | '+' :: rest => rest
  | cs => cs

def readDigits (bound : Nat) (digits : List Char) : Option Nat :=
  match digits with
  | [] => none
  | _ => match digitsValue? digits with
    | some n => if n < bound then some n else none
    | none => none

theorem readUnsigned_eq (bound : Nat) (s : String) :
    readUnsigned bound s = readDigits bound (unsignedDigits s) := rfl

theorem readDigits_eq_some_iff :
    readDigits bound cs = some n ↔ cs ≠ [] ∧ digitsValue? cs = some n ∧ n < bound := by
  unfold readDigits
  cases cs with
  | nil => simp
  | cons c cs =>
    cases digitsValue? (c :: cs) with
    | none => simp
    | some m =>
      simp only [Option.ite_none_right_eq_some, Option.some.injEq, ne_eq, reduceCtorEq,
        not_false_eq_true, true_and]
      constructor
      · rintro ⟨hlt, rfl⟩
        exact ⟨rfl, hlt⟩
      · rintro ⟨rfl, hlt⟩
        exact ⟨hlt, rfl⟩

theorem unsignedDigits_eq_iff (hc : ∀ d ∈ cs, d.isDigit = true) (hne : cs ≠ []) :
    unsignedDigits s = cs ↔ s.toList = cs ∨ s.toList = '+' :: cs := by
  unfold unsignedDigits
  split
  · next rest hs =>
    rw [hs, List.cons.injEq, and_iff_right rfl, or_iff_right]
    rintro rfl
    exact absurd (hc '+' List.mem_cons_self) (by decide)
  · next hs => exact ⟨.inl, fun h => h.resolve_right (hs cs)⟩

theorem readUnsigned_eq_some_iff :
    readUnsigned bound s = some n ↔ IsNumeral s n ∧ n < bound := by
  rw [readUnsigned_eq, readDigits_eq_some_iff, digitsValue?, foldlM_digitValue?_eq_some_iff,
    ← and_assoc, IsNumeral]
  refine and_congr_left fun _ => ⟨?_, ?_⟩
  · rintro ⟨hne, hdigits, hvalue⟩
    exact ⟨_, (unsignedDigits_eq_iff hdigits hne).1 rfl, hne, hdigits, hvalue⟩
  · rintro ⟨digits, hs, hne, hdigits, hvalue⟩
    obtain rfl := (unsignedDigits_eq_iff hdigits hne).2 hs
    exact ⟨hne, hdigits, hvalue⟩

theorem readUnsigned_eq_none_iff :
    readUnsigned bound s = none ↔ ∀ n < bound, ¬ IsNumeral s n := by
  rw [Option.eq_none_iff_forall_ne_some]
  simp only [ne_eq, readUnsigned_eq_some_iff, not_and']

/-! ## Numbers inside a text -/

theorem takeWhile_decimal_append (hc : c.isDigit = false) (n : Nat) (cs : List Char) :
    ((decimal n).toList ++ c :: cs).takeWhile Char.isDigit = (decimal n).toList := by
  have hdigits : ∀ d ∈ (decimal n).toList, d.isDigit = true := by
    rw [decimal, String.toList_ofList]
    exact fun d hd => Nat.isDigit_of_mem_toDigits (by decide) (by decide) hd
  rw [List.takeWhile_append_of_pos hdigits, List.takeWhile_cons_of_neg (Bool.eq_false_iff.1 hc),
    List.append_nil]

theorem decimal_injective (h : decimal m = decimal n) : m = n := by
  have hdigits : Nat.toDigits 10 m = Nat.toDigits 10 n := by
    simpa only [decimal, String.toList_ofList] using congrArg String.toList h
  calc
    m = Nat.ofDigitChars 10 (Nat.toDigits 10 m) 0 := Nat.ofDigitChars_ten_toDigits.symm
    _ = Nat.ofDigitChars 10 (Nat.toDigits 10 n) 0 := by rw [hdigits]
    _ = n := Nat.ofDigitChars_ten_toDigits

/-- A number ends where the first character stands that is no digit. -/
theorem decimal_append_injective (hc : c.isDigit = false)
    (h : (decimal m).toList ++ c :: s.toList = (decimal n).toList ++ c :: t.toList) :
    m = n ∧ s = t := by
  have hnumber : (decimal m).toList = (decimal n).toList := by
    rw [← takeWhile_decimal_append hc m s.toList, h, takeWhile_decimal_append hc]
  rw [hnumber] at h
  have hrest := (List.cons.inj (List.append_cancel_left h)).2
  exact ⟨decimal_injective (String.toList_injective hnumber), String.toList_injective hrest⟩

end TokenBridge.Number
