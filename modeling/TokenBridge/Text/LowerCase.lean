import TokenBridge.Text.Blank
import TokenBridge.Text.LowerCase.Table

/-!
# Unicode lower case

The keys under which a wallet files its chains are lower-cased by the full
Unicode rules: one code point at a time by `lowerRuns`, except that `İ` becomes
`i` and a combining dot, and that a capital sigma becomes the final form `ς`
where a cased letter stands before it and none after it, case-ignorable
characters apart.
-/

namespace TokenBridge.Text

/-- The shift of the run that holds a code point; zero where it is no capital. -/
def lowerShift (n : Nat) : Int :=
  match lowerRuns.find? fun r => decide (r.1 ≤ n) && decide (n ≤ r.2.1) &&
      decide ((n - r.1) % r.2.2.1 = 0) with
  | some r => r.2.2.2
  | none => 0

def lowerPoint (c : Char) : Char :=
  if c.toNat < 0x80 then (if 'A' ≤ c ∧ c ≤ 'Z' then Char.ofNat (c.toNat + 32) else c)
  else Char.ofNat (c.toNat + lowerShift c.toNat).toNat

def isCased (c : Char) : Bool := inRanges casedRanges c.toNat

def isCaseIgnorable (c : Char) : Bool := inRanges caseIgnorableRanges c.toNat

/-- The next character that is not case-ignorable is cased. -/
def casedFollows (cs : List Char) : Bool :=
  match cs.dropWhile isCaseIgnorable with
  | c :: _ => isCased c
  | [] => false

/-- Lower case of a text whose characters already passed are `before`, last first. -/
def lowerFrom (before : List Char) : List Char → List Char
  | [] => []
  | c :: rest =>
    let low :=
      if c = 'İ' then ['i', Char.ofNat 0x307]
      else if c = 'Σ' then
        (if casedFollows before && !casedFollows rest then ['ς'] else ['σ'])
      else [lowerPoint c]
    low ++ lowerFrom (c :: before) rest

def lowerCase (s : String) : String := String.ofList (lowerFrom [] s.toList)

end TokenBridge.Text
