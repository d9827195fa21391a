import TokenBridge.Text.Hex

/-!
# Punycode

The encoding of a label by ASCII letters and digits. The ASCII characters come
first, then a `-`; the others follow in the order of their code points, each
place as a difference in digits of variable length whose thresholds adapt.
-/

namespace TokenBridge.Url.Punycode

def digit (d : Nat) : Char := if d < 26 then Char.ofNat (97 + d) else Char.ofNat (22 + d)

def digitValue? (c : Char) : Option Nat :=
  if 'a' ≤ c ∧ c ≤ 'z' then some (c.toNat - 97)
  else if 'A' ≤ c ∧ c ≤ 'Z' then some (c.toNat - 65)
  else if '0' ≤ c ∧ c ≤ '9' then some (c.toNat - 22)
  else none

/-- From which digit value on a digit is not the last; `k` counts the digits by 36. -/
def threshold (k bias : Nat) : Nat := min 26 (max 1 (k - bias))

theorem threshold_bounds (k bias : Nat) : 1 ≤ threshold k bias ∧ threshold k bias ≤ 26 := by
  unfold threshold
  omega

/-- Scales a difference down for the next bias. -/
def shrink (delta k : Nat) : Nat × Nat :=
  if 455 < delta then shrink (delta / 35) (k + 36) else (delta, k)
  termination_by delta
  decreasing_by exact Nat.div_lt_self (by omega) (by omega)

/-- The bias after a difference; `count` characters are placed. -/
def adapt (delta count : Nat) (first : Bool) : Nat :=
  let d := if first then delta / 700 else delta / 2
  let (d, k) := shrink (d + d / count) 0
  k + 36 * d / (d + 38)

/-! ## Encoding -/

def encodeDelta (bias k q : Nat) : List Char :=
  let t := threshold k bias
  if q < t then [digit q]
  else digit (t + (q - t) % (36 - t)) :: encodeDelta bias (k + 36) ((q - t) / (36 - t))
  termination_by q
  decreasing_by
    have ht := threshold_bounds k bias
    have : (q - threshold k bias) / (36 - threshold k bias) ≤ q - threshold k bias :=
      Nat.div_le_self ..
    omega

structure State where
  out : List Char
  delta : Nat
  bias : Nat
  placed : Nat

/-- Passes one character while the characters of code point `m` are placed. -/
def place (basic m : Nat) (s : State) (c : Char) : State :=
  if c.toNat < m then { s with delta := s.delta + 1 }
  else if c.toNat = m then
    { out := s.out ++ encodeDelta s.bias 36 s.delta
      delta := 0
      bias := adapt s.delta (s.placed + 1) (s.placed == basic)
      placed := s.placed + 1 }
  else s

/-- Places the characters of each code point in turn; `n` is the least one still possible. -/
def placeAll (label : List Char) (basic : Nat) : (points : List Nat) → (n : Nat) → State → State
  | [], _, s => s
  | m :: rest, n, s =>
    let s := label.foldl (place basic m) { s with delta := s.delta + (m - n) * (s.placed + 1) }
    placeAll label basic rest (m + 1) { s with delta := s.delta + 1 }

def isBasic (c : Char) : Bool := c.toNat < 0x80

def encode (label : List Char) : List Char :=
  let basic := label.filter isBasic
  let points := (((label.filter (!isBasic ·)).map Char.toNat).mergeSort
    (fun a b => decide (a ≤ b))).eraseReps
  let s := placeAll label basic.length points 128 ⟨[], 0, 72, basic.length⟩
  basic ++ (if basic.isEmpty then [] else ['-']) ++ s.out

/-! ## Decoding -/

/-- One difference: its value, and the rest of the digits. -/
def decodeDelta? (bias : Nat) : List Char → (k weight : Nat) → Option (Nat × List Char)
  | [], _, _ => none
  | c :: rest, k, weight =>
    match digitValue? c with
    | none => none
    | some d =>
      let t := threshold k bias
      if d < t then some (d * weight, rest)
      else (decodeDelta? bias rest (k + 36) (weight * (36 - t))).map fun r =>
        (d * weight + r.1, r.2)

theorem decodeDelta?_shorter {bias : Nat} {cs : List Char} {k weight : Nat}
    {r : Nat × List Char} (h : decodeDelta? bias cs k weight = some r) :
    r.2.length < cs.length := by
  induction cs generalizing k weight r with
  | nil => simp [decodeDelta?] at h
  | cons c rest ih =>
    simp only [decodeDelta?] at h
    split at h
    · simp at h
    · split at h
      · cases h; simp
      · obtain ⟨r', hr', rfl⟩ := Option.map_eq_some_iff.1 h
        have := ih hr'
        simp only [List.length_cons]
        omega

/-- Inserts the encoded characters into those already placed; `i` runs over all places of all code
points from `n` on. -/
def decodeFrom (cs : List Char) (n i bias : Nat) (out : List Char) : Option (List Char) :=
  match cs with
  | [] => some out
  | c :: rest =>
    match _h : decodeDelta? bias (c :: rest) 36 1 with
    | none => none
    | some (delta, rest') =>
      let count := out.length + 1
      let i' := i + delta
      let point := n + i' / count
      if point < 0x80 ∨ 0x110000 ≤ point ∨ (0xD800 ≤ point ∧ point < 0xE000) then none
      else
        decodeFrom rest' point (i' % count + 1) (adapt delta count (i == 0 && n == 128))
          (out.take (i' % count) ++ Char.ofNat point :: out.drop (i' % count))
  termination_by cs.length
  decreasing_by
    have := decodeDelta?_shorter _h
    simpa using this

def decode? (cs : List Char) : Option (List Char) :=
  let behind := (cs.reverse.takeWhile (· != '-')).reverse
  let basic := cs.take (cs.length - behind.length - 1)
  if cs.all isBasic then decodeFrom behind 128 0 72 basic else none

end TokenBridge.Url.Punycode
