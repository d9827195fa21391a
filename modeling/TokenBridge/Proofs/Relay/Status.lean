import TokenBridge.Relay.Status

/-!
# Words of statuses

A status is read from the word of a known one, in any case and with blanks
around it (`Status.read_eq_iff`), and every other text is a status of its own.
So reading the text of a status that was read gives that status again
(`Status.read_text_read`).
-/

namespace TokenBridge.Relay.Status

/-- The status has a word of its own. -/
def IsKnown (k : Status) : Prop := ∀ t, k ≠ unknown t

theorem isKnown_iff_mem {k : Status} : k.IsKnown ↔ k ∈ known := by
  cases k <;> simp [IsKnown, known]

theorem raiseCase_trim_text {k : Status} (h : k.IsKnown) :
    Text.raiseCase (Text.trim k.text) = k.text := by
  cases k with
  | unknown t => exact absurd rfl (h t)
  | _ => decide +kernel

theorem text_injective {k k' : Status} (h : k.IsKnown) (h' : k'.IsKnown)
    (htext : k.text = k'.text) : k = k' := by
  have hwords : ∀ k ∈ known, ∀ k' ∈ known, k.text = k'.text → k = k' := by decide
  exact hwords k (isKnown_iff_mem.1 h) k' (isKnown_iff_mem.1 h') htext

theorem find?_word {word : String} {k : Status} :
    known.find? (fun k => k.text == word) = some k ↔ k.IsKnown ∧ k.text = word := by
  constructor
  · intro hfind
    exact ⟨isKnown_iff_mem.2 (List.mem_of_find?_eq_some hfind), by
      simpa using List.find?_some hfind⟩
  · rintro ⟨hk, rfl⟩
    cases hfind : known.find? fun k' => k'.text == k.text with
    | none => exact absurd BEq.rfl (List.find?_eq_none.1 hfind k (isKnown_iff_mem.1 hk))
    | some k' =>
      have h' : k'.IsKnown := isKnown_iff_mem.2 (List.mem_of_find?_eq_some hfind)
      rw [text_injective h' hk (by simpa using List.find?_some hfind)]

/-- A text is read as the known status whose word it is, or it is kept. -/
theorem read_cases (s : String) :
    (read s).IsKnown ∧ (read s).text = Text.raiseCase (Text.trim s) ∨
      read s = unknown s ∧ ∀ k : Status, k.IsKnown → k.text ≠ Text.raiseCase (Text.trim s) := by
  have hread : read s =
    (known.find? fun k => k.text == Text.raiseCase (Text.trim s)).getD (unknown s) := rfl
  rw [hread]
  generalize Text.raiseCase (Text.trim s) = word
  cases hfind : known.find? fun k => k.text == word with
  | none =>
    refine .inr ⟨rfl, fun k hk hword => ?_⟩
    cases hfind.symm.trans (find?_word.2 ⟨hk, hword⟩)
  | some k => exact .inl (find?_word.1 hfind)

theorem read_eq_iff {s : String} {k : Status} (h : k.IsKnown) :
    read s = k ↔ Text.raiseCase (Text.trim s) = k.text := by
  rcases read_cases s with ⟨hknown, hword⟩ | ⟨hkept, hno⟩
  · rw [← hword]
    exact ⟨congrArg text, text_injective hknown h⟩
  · rw [hkept]
    exact ⟨fun heq => absurd heq.symm (h s), fun heq => absurd heq.symm (hno k h)⟩

theorem read_text_read (s : String) : read (read s).text = read s := by
  rcases read_cases s with ⟨hknown, -⟩ | ⟨hkept, -⟩
  · exact (read_eq_iff hknown).2 (raiseCase_trim_text hknown)
  · rw [hkept]
    exact hkept

/-- The statuses that are read from a text are those that their own text is read as. -/
theorem exists_read_iff {k : Status} : (∃ s, k = read s) ↔ read k.text = k := by
  constructor
  · rintro ⟨s, hk⟩
    rw [hk]
    exact read_text_read s
  · exact fun h => ⟨k.text, h.symm⟩

end TokenBridge.Relay.Status
