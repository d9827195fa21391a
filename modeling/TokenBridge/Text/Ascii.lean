/-!
# ASCII letter case

Chain names, strategies and relay statuses are compared after folding the 26
ASCII letters only: `foldCase` moves `A`–`Z` to `a`–`z` and leaves every other
character alone, so the Kelvin sign is not a `k` here. `sameText` is equality
up to that folding.
-/

namespace TokenBridge.Text

/-- The lower-case form of an ASCII capital; every other character is kept. -/
def foldChar (c : Char) : Char :=
  if 'A' ≤ c ∧ c ≤ 'Z' then Char.ofNat (c.toNat + 32) else c

/-- The upper-case form of an ASCII small letter; every other character is kept. -/
def raiseChar (c : Char) : Char :=
  if 'a' ≤ c ∧ c ≤ 'z' then Char.ofNat (c.toNat - 32) else c

def foldCase (s : String) : String := String.ofList (s.toList.map foldChar)

def raiseCase (s : String) : String := String.ofList (s.toList.map raiseChar)

/-- Equality of texts up to the case of ASCII letters. -/
def sameText (s t : String) : Bool := s.toList.map foldChar == t.toList.map foldChar

/-! ## The equivalence -/

theorem sameText_iff {s t : String} :
    sameText s t = true ↔ s.toList.map foldChar = t.toList.map foldChar := by
  simp [sameText]

@[simp] theorem sameText_refl (s : String) : sameText s s = true := by simp [sameText]

theorem sameText_comm (s t : String) : sameText s t = sameText t s := by
  simp only [sameText, Bool.beq_comm]

theorem sameText_trans {s t u : String} (h : sameText s t = true) (h' : sameText t u = true) :
    sameText s u = true := by
  rw [sameText_iff] at *
  exact h.trans h'

end TokenBridge.Text
