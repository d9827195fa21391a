import TokenBridge.Text.Ascii
import TokenBridge.Text.LowerCase

/-!
# Lower case and ASCII capitals

A lower-case form holds no ASCII capital (`not_isCapital_of_mem_lowerCase`): the
table moves no code point onto one. So folding the ASCII letters of a lower-case
form changes nothing (`map_foldChar_lowerCase`).
-/

namespace TokenBridge.Text

/-- One of the 26 ASCII capitals. -/
def isCapital (c : Char) : Prop := 'A' ≤ c ∧ c ≤ 'Z'

instance (c : Char) : Decidable (isCapital c) := inferInstanceAs (Decidable (_ ∧ _))

theorem isCapital_iff {c : Char} : isCapital c ↔ 65 ≤ c.toNat ∧ c.toNat ≤ 90 := Iff.rfl

theorem foldChar_of_not_isCapital {c : Char} (h : ¬ isCapital c) : foldChar c = c := if_neg h

theorem toNat_ofNat {n : Nat} (hv : n.isValidChar) : (Char.ofNat n).toNat = n := by
  have hn : Char.ofNat n = Char.ofNatAux n hv := dif_pos hv
  rw [hn]
  rfl

/-- The character of a number outside the capitals is no capital. -/
theorem not_isCapital_ofNat {n : Nat} (h : n < 65 ∨ 90 < n) : ¬ isCapital (Char.ofNat n) := by
  by_cases hv : n.isValidChar
  · rw [isCapital_iff, toNat_ofNat hv]
    omega
  · have hn : Char.ofNat n = Char.ofNat 0 := dif_neg hv
    rw [hn]
    decide

theorem lowerRuns_above : ∀ r ∈ lowerRuns, 0x80 ≤ r.2.1 → (90 : Int) < r.1 + r.2.2.2 := by
  decide +kernel

theorem lt_add_lowerShift {n : Nat} (h : 0x80 ≤ n) : (90 : Int) < n + lowerShift n := by
  rw [lowerShift]
  split
  · next r hr =>
    have hin := List.find?_some hr
    simp only [Bool.and_eq_true, decide_eq_true_eq] at hin
    have := lowerRuns_above r (List.mem_of_find?_eq_some hr) (by omega)
    omega
  · omega

theorem not_isCapital_lowerPoint (c : Char) : ¬ isCapital (lowerPoint c) := by
  rw [lowerPoint]
  split
  · split
    · next h =>
      have := isCapital_iff.1 h
      exact not_isCapital_ofNat (by omega)
    · next h => exact h
  · next h =>
    have := lt_add_lowerShift (n := c.toNat) (by omega)
    exact not_isCapital_ofNat (by omega)

/-- What holds of the lower-case forms of single characters holds of every character of a lower-case
form. -/
theorem forall_mem_lowerFrom {P : Char → Prop} (hi : P 'i') (hdot : P (Char.ofNat 0x307))
    (hfinal : P 'ς') (hsigma : P 'σ') (hpoint : ∀ c, c ≠ 'İ' → c ≠ 'Σ' → P (lowerPoint c))
    {before cs : List Char} {c : Char} (h : c ∈ lowerFrom before cs) : P c := by
  induction cs generalizing before with
  | nil => cases h
  | cons d cs ih =>
    rcases List.mem_append.1 h with h | h
    · split at h
      · rcases List.mem_cons.1 h with rfl | h
        · exact hi
        · rw [List.mem_singleton.1 h]
          exact hdot
      · next hd =>
        split at h
        · split at h <;> rw [List.mem_singleton.1 h]
          · exact hfinal
          · exact hsigma
        · next hd' =>
          rw [List.mem_singleton.1 h]
          exact hpoint d hd hd'
    · exact ih h

theorem not_isCapital_of_mem_lowerCase {s : String} {c : Char} (h : c ∈ (lowerCase s).toList) :
    ¬ isCapital c := by
  rw [lowerCase, String.toList_ofList] at h
  exact forall_mem_lowerFrom (P := fun c => ¬ isCapital c) (by decide)
    (not_isCapital_ofNat (by decide)) (by decide) (by decide)
    (fun d _ _ => not_isCapital_lowerPoint d) h

theorem map_foldChar_lowerCase (s : String) :
    (lowerCase s).toList.map foldChar = (lowerCase s).toList :=
  (List.map_congr_left fun _ hc => foldChar_of_not_isCapital
    (not_isCapital_of_mem_lowerCase hc)).trans (List.map_id' _)

end TokenBridge.Text
