import TokenBridge.Proofs.Text.Spelling

/-!
# Blanks and lower case

Lower-casing makes no blank of a character that is none (`isBlank_lowerPoint`):
no run of the table leads to one. So a text without blanks at its ends has a
lower-case form without them, and trimming that form changes nothing
(`trim_lowerCase_trim`).
-/

namespace TokenBridge.Text

variable {c : Char} {cs : List Char}

/-! ## One character -/

/-- No run of the table leads to a blank. -/
theorem lowerRuns_beside_blanks : ∀ r ∈ lowerRuns, ∀ b ∈ blankRanges,
    (r.2.1 + r.2.2.2).toNat < b.1 ∨ b.2 < (r.1 + r.2.2.2).toNat := by
  decide +kernel

theorem isBlank_eq_false_iff :
    isBlank c = false ↔ ∀ b ∈ blankRanges, c.toNat < b.1 ∨ b.2 < c.toNat := by
  rw [isBlank, inRanges, List.any_eq_false]
  refine forall₂_congr fun b _ => ?_
  rw [Bool.and_eq_true, decide_eq_true_eq, decide_eq_true_eq]
  omega

theorem isBlank_lowerPoint (h : isBlank c = false) : isBlank (lowerPoint c) = false := by
  by_cases hc : c.toNat < 128
  · exact forall_ascii (p := fun c => isBlank c = false → isBlank (lowerPoint c) = false)
      (by decide +kernel) hc h
  have hpoint : lowerPoint c = Char.ofNat (c.toNat + lowerShift c.toNat).toNat := if_neg hc
  rcases lowerShift_cases c.toNat with hzero | ⟨r, hr, ⟨hfirst, hlast, -⟩, hshift⟩
  · rwa [hpoint, hzero, Int.add_zero, Int.toNat_natCast, Char.ofNat_toNat]
  · rw [hpoint, hshift]
    by_cases hv : (c.toNat + r.2.2.2).toNat.isValidChar
    · refine isBlank_eq_false_iff.2 fun b hb => ?_
      rw [toNat_ofNat hv]
      have := lowerRuns_beside_blanks r hr b hb
      omega
    · have hnull : Char.ofNat (c.toNat + r.2.2.2).toNat = Char.ofNat 0 := dif_neg hv
      rw [hnull]
      decide +kernel

/-- Each character is replaced by one or two, which are no blanks if it is none. -/
theorem exists_lowerFrom_cons (before : List Char) (c : Char) (cs : List Char) :
    ∃ low, lowerFrom before (c :: cs) = low ++ lowerFrom (c :: before) cs ∧ low ≠ [] ∧
      (isBlank c = false → ∀ d ∈ low, isBlank d = false) := by
  rw [lowerFrom]
  by_cases hdot : c = 'İ'
  · have hlow : ∀ d ∈ ['i', Char.ofNat 0x307], isBlank d = false :=
      List.forall_mem_cons.2 ⟨by decide +kernel, List.forall_mem_singleton.2 (by decide +kernel)⟩
    rw [if_pos hdot]
    exact ⟨_, rfl, List.cons_ne_nil _ _, fun _ => hlow⟩
  rw [if_neg hdot]
  by_cases hsigma : c = 'Σ'
  · rw [if_pos hsigma]
    split
    · exact ⟨_, rfl, List.cons_ne_nil _ _, fun _ => List.forall_mem_singleton.2 (by decide +kernel)⟩
    · exact ⟨_, rfl, List.cons_ne_nil _ _, fun _ => List.forall_mem_singleton.2 (by decide +kernel)⟩
  · rw [if_neg hsigma]
    exact ⟨_, rfl, List.cons_ne_nil _ _, fun hc =>
      List.forall_mem_singleton.2 (isBlank_lowerPoint hc)⟩

/-! ## The ends of a text -/

/-- There is no blank at either end. -/
structure Trimmed (cs : List Char) : Prop where
  head : ∀ c ∈ cs.head?, isBlank c = false
  last : ∀ c ∈ cs.getLast?, isBlank c = false

theorem head?_dropWhile {p : Char → Bool} : ∀ c ∈ (cs.dropWhile p).head?, p c = false := by
  intro c hc
  have := List.head?_dropWhile_not p cs
  rwa [Option.mem_def.1 hc] at this

theorem dropWhile_eq_self {p : Char → Bool} (h : ∀ c ∈ cs.head?, p c = false) :
    cs.dropWhile p = cs := by
  cases cs with
  | nil => rfl
  | cons c cs => exact List.dropWhile_cons_of_neg (Bool.eq_false_iff.1 (h c rfl))

theorem head?_trimEnd : ∀ c ∈ (trimEnd cs).head?, c ∈ cs.head? := by
  intro c hc
  have hsplit : trimEnd cs ++ (cs.reverse.takeWhile isBlank).reverse = cs := by
    rw [trimEnd, ← List.reverse_append, List.takeWhile_append_dropWhile, List.reverse_reverse]
  rw [← hsplit, List.head?_append, Option.mem_def.1 hc]
  rfl

theorem trimmed_trim (s : String) : Trimmed (trim s).toList := by
  rw [trim, String.toList_ofList]
  refine ⟨fun c hc => head?_dropWhile c (head?_trimEnd c hc), fun c hc => ?_⟩
  rw [trimEnd, List.getLast?_reverse] at hc
  exact head?_dropWhile c hc

theorem Trimmed.trim_eq {s : String} (h : Trimmed s.toList) : trim s = s := by
  have hstart : trimStart s.toList = s.toList := dropWhile_eq_self h.head
  have hend : s.toList.reverse.dropWhile isBlank = s.toList.reverse :=
    dropWhile_eq_self (List.head?_reverse ▸ h.last)
  rw [trim, hstart, trimEnd, hend, List.reverse_reverse, String.ofList_toList]

theorem lowerFrom_ne_nil {before : List Char} (h : cs ≠ []) : lowerFrom before cs ≠ [] := by
  obtain ⟨c, cs, rfl⟩ := List.exists_cons_of_ne_nil h
  obtain ⟨low, heq, hlow, -⟩ := exists_lowerFrom_cons before c cs
  rw [heq]
  exact List.append_ne_nil_of_left_ne_nil hlow _

theorem head?_lowerFrom {before : List Char} (h : ∀ c ∈ cs.head?, isBlank c = false) :
    ∀ d ∈ (lowerFrom before cs).head?, isBlank d = false := by
  cases cs with
  | nil => exact nofun
  | cons c cs =>
    obtain ⟨low, heq, hlow, hblank⟩ := exists_lowerFrom_cons before c cs
    obtain ⟨e, es, rfl⟩ := List.exists_cons_of_ne_nil hlow
    intro d hd
    rw [heq] at hd
    obtain rfl := Option.some.inj hd
    exact hblank (h c rfl) e List.mem_cons_self

theorem getLast?_lowerFrom {before : List Char} (h : ∀ c ∈ cs.getLast?, isBlank c = false) :
    ∀ d ∈ (lowerFrom before cs).getLast?, isBlank d = false := by
  induction cs generalizing before with
  | nil => exact nofun
  | cons c cs ih =>
    obtain ⟨low, heq, hlow, hblank⟩ := exists_lowerFrom_cons before c cs
    intro d hd
    rw [heq] at hd
    by_cases hcs : cs = []
    · subst hcs
      rw [lowerFrom, List.append_nil] at hd
      exact hblank (h c rfl) d (List.mem_of_mem_getLast? hd)
    · have hne : lowerFrom (c :: before) cs ≠ [] := lowerFrom_ne_nil hcs
      have hlast := List.getLast?_eq_some_getLast hne
      rw [List.getLast?_append, hlast, Option.some_or, ← hlast] at hd
      rw [List.getLast?_cons_of_ne_nil hcs] at h
      exact ih h d hd

/-- The lower-case form of a trimmed text is trimmed. -/
theorem trim_lowerCase_trim (s : String) : trim (lowerCase (trim s)) = lowerCase (trim s) := by
  refine Trimmed.trim_eq ?_
  rw [lowerCase, String.toList_ofList]
  exact ⟨head?_lowerFrom (trimmed_trim s).head, getLast?_lowerFrom (trimmed_trim s).last⟩

end TokenBridge.Text
