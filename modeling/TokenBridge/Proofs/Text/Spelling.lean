import TokenBridge.Proofs.Text.Hex
import TokenBridge.Proofs.Text.LowerCase

/-!
# Spellings of a name

Two facts about the lower-case form of a text. It does not depend on the case of
ASCII letters (`lowerCase_eq_of_sameText`): the two forms of a letter have one
lower-case form, and the rule of the final sigma takes both for letters. And it
is its own lower-case form (`lowerCase_lowerCase`): no run of the table leads
into another one.
-/

namespace TokenBridge.Text

variable {c : Char} {s t : String}

/-! ## The case of ASCII letters -/

theorem foldChar_of_isCapital (h : isCapital c) : foldChar c = Char.ofNat (c.toNat + 32) := if_pos h

theorem apply_foldChar {β : Type} {f : Char → β}
    (h : ∀ k < 26, f (Char.ofNat (97 + k)) = f (Char.ofNat (65 + k))) (c : Char) :
    f (foldChar c) = f c := by
  by_cases hc : isCapital c
  · obtain ⟨hlow, hhigh⟩ := isCapital_iff.1 hc
    have hk := h (c.toNat - 65) (by omega)
    have hsmall : 97 + (c.toNat - 65) = c.toNat + 32 := by omega
    have hcapital : 65 + (c.toNat - 65) = c.toNat := by omega
    rw [hsmall, hcapital, Char.ofNat_toNat] at hk
    rwa [foldChar_of_isCapital hc]
  · rw [foldChar_of_not_isCapital hc]

theorem lowerPoint_foldChar (c : Char) : lowerPoint (foldChar c) = lowerPoint c :=
  apply_foldChar (by decide +kernel) c

theorem isCased_foldChar (c : Char) : isCased (foldChar c) = isCased c :=
  apply_foldChar (by decide +kernel) c

/-- No ASCII letter is among the case-ignorable characters. -/
theorem caseIgnorableRanges_beside :
    ∀ r ∈ caseIgnorableRanges, r.2 < 65 ∨ (90 < r.1 ∧ r.2 < 97) ∨ 122 < r.1 := by
  decide +kernel

theorem isCaseIgnorable_eq_false (h : 65 ≤ c.toNat ∧ c.toNat ≤ 90 ∨ 97 ≤ c.toNat ∧ c.toNat ≤ 122) :
    isCaseIgnorable c = false := by
  refine List.any_eq_false.2 fun r hr => ?_
  have := caseIgnorableRanges_beside r hr
  simp only [Bool.and_eq_true, decide_eq_true_eq]
  omega

theorem isCaseIgnorable_foldChar (c : Char) : isCaseIgnorable (foldChar c) = isCaseIgnorable c := by
  by_cases hc : isCapital c
  · have hrange := isCapital_iff.1 hc
    have hsmall : (foldChar c).toNat = c.toNat + 32 := by
      rw [foldChar_of_isCapital hc, toNat_ofNat (.inl (by omega))]
    rw [isCaseIgnorable_eq_false (.inl hrange), isCaseIgnorable_eq_false (.inr (by omega))]
  · rw [foldChar_of_not_isCapital hc]

theorem casedFollows_map_foldChar (cs : List Char) :
    casedFollows (cs.map foldChar) = casedFollows cs := by
  have hskip : (cs.map foldChar).dropWhile isCaseIgnorable =
      (cs.dropWhile isCaseIgnorable).map foldChar := by
    rw [List.dropWhile_map]
    congr 2
    exact funext isCaseIgnorable_foldChar
  rw [casedFollows, casedFollows, hskip]
  cases cs.dropWhile isCaseIgnorable with
  | nil => rfl
  | cons c _ => exact isCased_foldChar c

theorem lowerFrom_map_foldChar (before cs : List Char) :
    lowerFrom (before.map foldChar) (cs.map foldChar) = lowerFrom before cs := by
  induction cs generalizing before with
  | nil => rfl
  | cons c cs ih =>
    have hdot : (foldChar c = 'İ') = (c = 'İ') :=
      apply_foldChar (f := (· = 'İ')) (by decide +kernel) c
    have hsigma : (foldChar c = 'Σ') = (c = 'Σ') :=
      apply_foldChar (f := (· = 'Σ')) (by decide +kernel) c
    rw [List.map_cons, lowerFrom, lowerFrom, ← List.map_cons, ih]
    simp only [hdot, hsigma, casedFollows_map_foldChar, lowerPoint_foldChar]

/-- Names that differ in the case of ASCII letters have one lower-case form. -/
theorem lowerCase_eq_of_sameText (h : sameText s t = true) : lowerCase s = lowerCase t := by
  rw [lowerCase, lowerCase, ← lowerFrom_map_foldChar [] s.toList,
    ← lowerFrom_map_foldChar [] t.toList, sameText_iff.1 h]

/-! ## Lower case of lower case -/

/-- Lower-casing keeps the character. -/
def IsLow (c : Char) : Prop := c ≠ 'İ' ∧ c ≠ 'Σ' ∧ lowerPoint c = c

instance (c : Char) : Decidable (IsLow c) := inferInstanceAs (Decidable (_ ∧ _))

/-- The code point is one of those that a run of the table moves. -/
def InRun (r : Nat × Nat × Nat × Int) (n : Nat) : Prop :=
  r.1 ≤ n ∧ n ≤ r.2.1 ∧ (n - r.1) % r.2.2.1 = 0

/-- The places to which the first run moves its code points lie beside the second run, or between
the places of one that takes every second. -/
def misses (r s : Nat × Nat × Nat × Int) : Bool :=
  let first := (r.1 + r.2.2.2).toNat
  let last := (r.2.1 + r.2.2.2).toNat
  decide (last < s.1) || decide (s.2.1 < first) ||
    (s.2.2.1 == 2 && (r.2.2.1 == 2 || r.1 == r.2.1) && first % 2 != s.1 % 2)

/-- No run of the table leads into a run, or to `İ`. -/
theorem lowerRuns_misses :
    (lowerRuns.all fun r => ((0x130, 0x130, 1, 0) :: lowerRuns).all (misses r)) = true := by
  decide +kernel

theorem not_inRun_of_misses {r s : Nat × Nat × Nat × Int} {n : Nat} (h : misses r s = true)
    (hr : InRun r n) (hpos : 0 ≤ r.1 + r.2.2.2) : ¬ InRun s (n + r.2.2.2).toNat := by
  obtain ⟨hfirst, hlast, hstep⟩ := hr
  simp only [misses, Bool.or_eq_true, Bool.and_eq_true, decide_eq_true_eq, beq_iff_eq,
    bne_iff_ne] at h
  rintro ⟨hfirst', hlast', hstep'⟩
  rcases h with (h | h) | ⟨⟨htwo, hone⟩, hodd⟩
  · omega
  · omega
  · rw [htwo] at hstep'
    have heven : (n - r.1) % 2 = 0 := by
      rcases hone with hone | hone
      · rwa [hone] at hstep
      · omega
    omega

theorem lowerShift_cases (n : Nat) :
    lowerShift n = 0 ∨ ∃ r ∈ lowerRuns, InRun r n ∧ lowerShift n = r.2.2.2 := by
  rw [lowerShift]
  split
  · next r hr =>
    have hin := List.find?_some hr
    simp only [Bool.and_eq_true, decide_eq_true_eq] at hin
    exact .inr ⟨r, List.mem_of_find?_eq_some hr, ⟨hin.1.1, hin.1.2, hin.2⟩, rfl⟩
  · exact .inl rfl

theorem isLow_ofNat {n : Nat} (h : ∀ s ∈ (0x130, 0x130, 1, 0) :: lowerRuns, ¬ InRun s n) :
    IsLow (Char.ofNat n) := by
  have hcapital : ¬ (0x41 ≤ n ∧ n ≤ 0x5A ∧ (n - 0x41) % 1 = 0) :=
    h (0x41, 0x5A, 1, 32) (by decide +kernel)
  have hsigma : ¬ (0x3A3 ≤ n ∧ n ≤ 0x3AB ∧ (n - 0x3A3) % 1 = 0) :=
    h (0x3A3, 0x3AB, 1, 32) (by decide +kernel)
  have hdot : ¬ (0x130 ≤ n ∧ n ≤ 0x130 ∧ (n - 0x130) % 1 = 0) := h _ List.mem_cons_self
  by_cases hv : n.isValidChar
  · have hn : (Char.ofNat n).toNat = n := toNat_ofNat hv
    refine ⟨?_, ?_, ?_⟩
    · intro heq
      have : n = 0x130 := hn.symm.trans (congrArg Char.toNat heq)
      omega
    · intro heq
      have : n = 0x3A3 := hn.symm.trans (congrArg Char.toNat heq)
      omega
    · rw [lowerPoint, hn]
      split
      · rw [if_neg]
        intro hupper
        have := isCapital_iff.1 hupper
        omega
      · rcases lowerShift_cases n with hzero | ⟨r, hr, hin, -⟩
        · rw [hzero, Int.add_zero, Int.toNat_natCast]
        · exact absurd hin (h r (List.mem_cons_of_mem _ hr))
  · have hn : Char.ofNat n = Char.ofNat 0 := dif_neg hv
    rw [hn]
    decide +kernel

theorem isLow_lowerPoint (c : Char) (hdot : c ≠ 'İ') (hsigma : c ≠ 'Σ') : IsLow (lowerPoint c) := by
  by_cases hc : c.toNat < 128
  · exact forall_ascii (p := fun c => IsLow (lowerPoint c)) (by decide +kernel) hc
  have hpoint : lowerPoint c = Char.ofNat (c.toNat + lowerShift c.toNat).toNat := if_neg hc
  rcases lowerShift_cases c.toNat with hzero | ⟨r, hr, hin, hshift⟩
  · have hself : lowerPoint c = c := by
      rw [hpoint, hzero, Int.add_zero, Int.toNat_natCast, Char.ofNat_toNat]
    rw [hself]
    exact ⟨hdot, hsigma, hself⟩
  · rw [hpoint, hshift]
    refine isLow_ofNat fun s hs => not_inRun_of_misses ?_ hin ?_
    · exact List.all_eq_true.1 (List.all_eq_true.1 lowerRuns_misses r hr) s hs
    · have := lowerRuns_above r hr (Nat.le_trans (Nat.le_of_not_lt hc) hin.2.1)
      omega

theorem lowerFrom_eq_self {before cs : List Char} (h : ∀ c ∈ cs, IsLow c) :
    lowerFrom before cs = cs := by
  induction cs generalizing before with
  | nil => rfl
  | cons c cs ih =>
    obtain ⟨hdot, hsigma, hpoint⟩ := h c List.mem_cons_self
    rw [lowerFrom, if_neg hdot, if_neg hsigma, hpoint,
      ih fun d hd => h d (List.mem_cons_of_mem _ hd), List.singleton_append]

theorem lowerCase_lowerCase (s : String) : lowerCase (lowerCase s) = lowerCase s := by
  have hlow : ∀ c ∈ lowerFrom [] s.toList, IsLow c := fun c hc =>
    forall_mem_lowerFrom (P := IsLow) (by decide +kernel) (by decide +kernel) (by decide +kernel)
      (by decide +kernel) isLow_lowerPoint hc
  rw [lowerCase, lowerCase, String.toList_ofList, lowerFrom_eq_self hlow]

end TokenBridge.Text
