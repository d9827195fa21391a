/-!
# UTF-8

Two readings of a byte string as text. `utf8?` takes well-formed UTF-8 only.
`utf8Replacing` puts `U+FFFD` for every maximal run of bytes that begins a
character and cannot be completed, and for every byte that begins none.
-/

namespace TokenBridge.Text

/-- What a first byte says of its character: how many bytes follow, the bounds on the next one,
and the bits it carries itself. -/
structure Lead where
  more : Nat
  least : Nat
  greatest : Nat
  bits : Nat

/-- The lead of a byte; `none` for a byte that starts no character. -/
def lead? (b : UInt8) : Option Lead :=
  let n := b.toNat
  if n < 0x80 then some ⟨0, 0x80, 0xBF, n⟩
  else if 0xC2 ≤ n ∧ n ≤ 0xDF then some ⟨1, 0x80, 0xBF, n - 0xC0⟩
  else if n = 0xE0 then some ⟨2, 0xA0, 0xBF, 0⟩
  else if n = 0xED then some ⟨2, 0x80, 0x9F, 0xD⟩
  else if 0xE1 ≤ n ∧ n ≤ 0xEF then some ⟨2, 0x80, 0xBF, n - 0xE0⟩
  else if n = 0xF0 then some ⟨3, 0x90, 0xBF, 0⟩
  else if n = 0xF4 then some ⟨3, 0x80, 0x8F, 4⟩
  else if 0xF1 ≤ n ∧ n ≤ 0xF3 then some ⟨3, 0x80, 0xBF, n - 0xF0⟩
  else none

/-- Completes a character from the bytes that follow its lead; gives the bytes not taken. -/
def continueChar : (more least greatest bits : Nat) → List UInt8 → Option Char × List UInt8
  | 0, _, _, bits, rest => (some (Char.ofNat bits), rest)
  | more + 1, least, greatest, bits, b :: rest =>
    if least ≤ b.toNat ∧ b.toNat ≤ greatest then
      continueChar more 0x80 0xBF (bits * 64 + (b.toNat - 0x80)) rest
    else (none, b :: rest)
  | _ + 1, _, _, _, [] => (none, [])

theorem length_continueChar (more least greatest bits : Nat) (bs : List UInt8) :
    (continueChar more least greatest bits bs).2.length ≤ bs.length := by
  induction more generalizing least greatest bits bs with
  | zero => simp [continueChar]
  | succ more ih =>
    cases bs with
    | nil => simp [continueChar]
    | cons b rest =>
      simp only [continueChar]
      split
      · exact Nat.le_trans (ih ..) (by simp)
      · simp

/-- The characters of a byte string, `none` where bytes belong to no character. -/
def utf8Chars : List UInt8 → List (Option Char)
  | [] => []
  | b :: rest =>
    match lead? b with
    | none => none :: utf8Chars rest
    | some l =>
      (continueChar l.more l.least l.greatest l.bits rest).1 ::
        utf8Chars (continueChar l.more l.least l.greatest l.bits rest).2
  termination_by bs => bs.length
  decreasing_by
    · simp
    · have := length_continueChar l.more l.least l.greatest l.bits rest
      simp; omega

/-- The text of well-formed UTF-8. -/
def utf8? (bs : List UInt8) : Option String :=
  ((utf8Chars bs).mapM id).map String.ofList

/-- The text of any bytes, with `U+FFFD` where they are malformed. -/
def utf8Replacing (bs : List UInt8) : String :=
  String.ofList ((utf8Chars bs).map fun c => c.getD (Char.ofNat 0xFFFD))

end TokenBridge.Text
