import Mathlib.Algebra.Order.Floor.Semifield
import Mathlib.Data.Rat.Floor
import TokenBridge.Json.Basic
import TokenBridge.Number.Unsigned

/-!
# The values of JSON numbers

Every finite number has an exact value, a rational (`JsonNumber.value?`). A JSON
value denotes a number if it is that number or its decimal numeral of 64 bits
(`Json.Denotes`), and no other number (`Json.Denotes.unique`).
-/

namespace TokenBridge

/-! ## Binary64 numbers -/

namespace Number

namespace Binary64

variable {x : Binary64} {q : ℚ}

def value? (x : Binary64) : Option ℚ :=
  if x.isFinite then some ((x.signedUnits : ℚ) / (unitsPerOne : ℚ)) else none

theorem value?_eq_none : x.value? = none ↔ x.isFinite = false := by
  unfold value?
  cases x.isFinite with
  | true => exact iff_of_false nofun nofun
  | false => exact iff_of_true rfl rfl

theorem isNaN_of_isFinite (h : x.isFinite = true) : x.isNaN = false := by
  have hbiased : x.biased ≠ 2047 := by simpa [isFinite] using h
  simp [isNaN, hbiased]

/-- The value is cut towards zero, and what is negative goes to zero. -/
theorem truncateUnsigned64_of_value? (h : x.value? = some q) :
    x.truncateUnsigned64 = min ⌊q⌋₊ (2 ^ 64 - 1) := by
  unfold value? at h
  split at h
  · next hfinite =>
    cases h
    rw [truncateUnsigned64, isNaN_of_isFinite hfinite, hfinite]
    cases hsign : x.negative with
    | false =>
      rw [signedUnits, hsign]
      simp only [Bool.or_self, Bool.false_eq_true, if_false, if_true, Int.cast_natCast,
        Nat.floor_div_eq_div]
    | true =>
      have hvalue : (x.signedUnits : ℚ) / unitsPerOne ≤ 0 := by
        rw [signedUnits, hsign, if_pos rfl, Int.cast_neg, Int.cast_natCast]
        exact div_nonpos_of_nonpos_of_nonneg (neg_nonpos.2 (Nat.cast_nonneg _))
          (Nat.cast_nonneg _)
      rw [Nat.floor_of_nonpos hvalue]
      rfl
  · cases h

end Binary64

/-! ## Numerals -/

theorem readUnsigned_lt {bound n : Nat} {s : String} (h : readUnsigned bound s = some n) :
    n < bound := by
  simp only [readUnsigned] at h
  split at h
  · cases h
  · split at h
    · split at h
      · next hlt =>
        cases h
        exact hlt
      · cases h
    · cases h

end Number

/-! ## JSON -/

def JsonNumber.value? : JsonNumber → Option ℚ
  | whole n => some (n : ℚ)
  | negative n => some (-(n : ℚ))
  | real x => x.value?

namespace Json

/-- The value denotes a number: it is that number, or its decimal numeral of 64 bits. -/
inductive Denotes : Json → ℚ → Prop where
  | number {k : JsonNumber} {q : ℚ} : k.value? = some q → Denotes (num k) q
  | numeral {s : String} {n : Nat} : Number.readUnsigned64 s = some n → Denotes (str s) n

/-- The value denotes a whole number of 64 bits. -/
def DenotesWhole (v : Json) : Prop := ∃ n : Nat, n < 2 ^ 64 ∧ Denotes v n

/-- The value is a number, or a decimal numeral of 64 bits. -/
inductive IsNumeric : Json → Prop where
  | number (k : JsonNumber) : IsNumeric (num k)
  | numeral {s : String} {n : Nat} : Number.readUnsigned64 s = some n → IsNumeric (str s)

variable {v : Json} {p q : ℚ}

theorem Denotes.isNumeric (h : Denotes v q) : IsNumeric v := by
  cases h with
  | number => exact .number _
  | numeral hs => exact .numeral hs

theorem DenotesWhole.isNumeric (h : DenotesWhole v) : IsNumeric v := by
  obtain ⟨_, -, h⟩ := h
  exact h.isNumeric

theorem Denotes.unique (hp : Denotes v p) (hq : Denotes v q) : p = q := by
  cases hp with
  | number hp =>
    cases hq with
    | number hq => exact Option.some.inj (hp.symm.trans hq)
  | numeral hp =>
    cases hq with
    | numeral hq => exact congrArg Nat.cast (Option.some.inj (hp.symm.trans hq))

theorem denotes_whole (n : Nat) : Denotes (num (.whole n)) n := .number rfl

end Json

end TokenBridge
