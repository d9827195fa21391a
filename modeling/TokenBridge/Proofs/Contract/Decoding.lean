import TokenBridge.Contract.Encoding

/-!
# Decoding arguments

The reader's side of the call encoding. It goes by the declared types alone: a
word stands in place and must be in range for its type, and an argument of
variable size is looked up at the offset that its word gives. It reads back
every sequence of arguments of those types, whatever follows it, as long as the
encoding is no longer than a word can count (`Parameter.readFields?_encode`).
-/

namespace TokenBridge.Contract

/-! ## Types -/

inductive Scalar where
  | uint32
  | uint256
  | bytes32
  | bool
  | address
  deriving DecidableEq, Repr

namespace Scalar

def text : Scalar → String
  | uint32 => "uint32"
  | uint256 => "uint256"
  | bytes32 => "bytes32"
  | bool => "bool"
  | address => "address"

/-- The low bits of the word that hold the value; the others are zero. -/
def bits : Scalar → Nat
  | uint32 => 32
  | uint256 => 256
  | bytes32 => 256
  | bool => 1
  | address => 160

end Scalar

/-- The type of a parameter. -/
inductive Parameter where
  | scalar (s : Scalar)
  | bytes
  | tuple (fields : List Parameter)
  deriving Repr

namespace Parameter

mutual

def text : Parameter → String
  | scalar s => s.text
  | bytes => "bytes"
  | tuple fields => "(" ++ ",".intercalate (texts fields) ++ ")"

def texts : List Parameter → List String
  | [] => []
  | t :: rest => t.text :: texts rest

end

mutual

def isDynamic : Parameter → Bool
  | scalar _ => false
  | bytes => true
  | tuple fields => anyDynamic fields

def anyDynamic : List Parameter → Bool
  | [] => false
  | t :: rest => t.isDynamic || anyDynamic rest

end

mutual

/-- The bytes of a value among the words of its sequence: those of an offset if it is dynamic. -/
def headSize : Parameter → Nat
  | scalar _ => 32
  | bytes => 32
  | tuple fields => if anyDynamic fields then 32 else headSizes fields

def headSizes : List Parameter → Nat
  | [] => 0
  | t :: rest => t.headSize + headSizes rest

end

/-! ## Reading -/

def firstWord? (data : Bytes) : Option Bytes :=
  if 32 ≤ data.length then some (data.take 32) else none

mutual

/-- The value of a type at the front of a byte string. -/
def read? : Parameter → Bytes → Option Argument
  | scalar s, data => do
    let w ← firstWord? data
    if w.toNat < 2 ^ s.bits then some (.fixed w) else none
  | bytes, data => do
    let count := (← firstWord? data).toNat
    let body := data.drop 32
    if count ≤ body.length then some (.bytes (body.take count)) else none
  | tuple fields, data => do return .tuple (← readFields? fields data data)

/-- The values of a sequence that starts with `data`, from those of its words that are left. -/
def readFields? : List Parameter → (data words : Bytes) → Option (List Argument)
  | [], _, _ => some []
  | t :: rest, data, words => do
    let source ←
      if t.isDynamic then (firstWord? words).map fun offset => data.drop offset.toNat
      else some words
    let a ← t.read? source
    return a :: (← readFields? rest data (words.drop t.headSize))

end

theorem firstWord?_append {w : Bytes} (h : w.length = 32) (rest : Bytes) :
    firstWord? (w ++ rest) = some w := by
  rw [firstWord?, if_pos (by simp [h]), List.take_left' h]

theorem firstWord?_ofNat (n : Nat) (rest : Bytes) :
    firstWord? (Bytes.ofNat 32 n ++ rest) = some (Bytes.ofNat 32 n) :=
  firstWord?_append (Bytes.length_ofNat 32 n) rest

end Parameter

/-! ## Values of a type -/

mutual

/-- The argument is a value of the type. -/
inductive Argument.Fits : Parameter → Argument → Prop where
  | scalar {s : Scalar} {w : Bytes} (length : w.length = 32) (range : w.toNat < 2 ^ s.bits) :
    Fits (.scalar s) (.fixed w)
  | bytes (bs : Bytes) : Fits .bytes (.bytes bs)
  | tuple {types : List Parameter} {fields : List Argument} (all : FitAll types fields) :
    Fits (.tuple types) (.tuple fields)

inductive Argument.FitAll : List Parameter → List Argument → Prop where
  | nil : FitAll [] []
  | cons {t : Parameter} {a : Argument} {types : List Parameter} {fields : List Argument}
    (head : Fits t a) (tail : FitAll types fields) : FitAll (t :: types) (a :: fields)

end

namespace Argument

mutual

theorem Fits.isDynamic {t : Parameter} {a : Argument} : Fits t a → a.isDynamic = t.isDynamic
  | .scalar .. => rfl
  | .bytes _ => rfl
  | .tuple all => all.anyDynamic

theorem FitAll.anyDynamic {types : List Parameter} {fields : List Argument} :
    FitAll types fields → anyDynamic fields = Parameter.anyDynamic types
  | .nil => rfl
  | .cons head tail => by
    rw [Argument.anyDynamic, Parameter.anyDynamic, head.isDynamic, tail.anyDynamic]

end

mutual

theorem Fits.headSize {t : Parameter} {a : Argument} : Fits t a → a.headSize = t.headSize
  | .scalar length _ => length
  | .bytes _ => rfl
  | .tuple all => by
    rw [Argument.headSize, Parameter.headSize, all.anyDynamic, all.headSizes]

theorem FitAll.headSizes {types : List Parameter} {fields : List Argument} :
    FitAll types fields → headSizes fields = Parameter.headSizes types
  | .nil => rfl
  | .cons head tail => by
    rw [Argument.headSizes, Parameter.headSizes, head.headSize, tail.headSizes]

end

theorem headSize_of_isDynamic {a : Argument} (h : a.isDynamic = true) : a.headSize = 32 := by
  cases a with
  | fixed => cases h
  | bytes => rfl
  | tuple fields => exact if_pos h

/-! ### Words and what stands behind them -/

variable {a : Argument} {rest : List Argument} {offset : Nat}

theorem encodeFields_cons_dynamic (h : a.isDynamic = true) :
    encodeFields offset (a :: rest) =
      (Bytes.ofNat 32 offset ++ (encodeFields (offset + a.encode.length) rest).1,
        a.encode ++ (encodeFields (offset + a.encode.length) rest).2) := by
  simp only [encodeFields, h, if_true]

theorem encodeFields_cons_static (h : a.isDynamic = false) :
    encodeFields offset (a :: rest) =
      (a.encode ++ (encodeFields offset rest).1, (encodeFields offset rest).2) := by
  simp only [encodeFields, h, Bool.false_eq_true, if_false]

mutual

theorem length_encode_of_static : (a : Argument) → a.isDynamic = false →
    a.encode.length = a.headSize
  | fixed _, _ => rfl
  | tuple fields, h => by
    rw [encode, headSize, if_neg (by simpa [isDynamic] using h), List.length_append,
      behind_eq_nil fields _ h, length_words, List.length_nil, Nat.add_zero]

theorem behind_eq_nil : (fields : List Argument) → (offset : Nat) → anyDynamic fields = false →
    (encodeFields offset fields).2 = []
  | [], _, _ => rfl
  | a :: rest, offset, h => by
    obtain ⟨ha, hrest⟩ := Bool.or_eq_false_iff.1 h
    rw [encodeFields_cons_static ha, behind_eq_nil rest offset hrest]

/-- The words of a sequence take just the bytes that its offsets count for them. -/
theorem length_words : (fields : List Argument) → (offset : Nat) →
    (encodeFields offset fields).1.length = headSizes fields
  | [], _ => rfl
  | a :: rest, offset => by
    cases ha : a.isDynamic with
    | true =>
      rw [encodeFields_cons_dynamic ha, List.length_append, Bytes.length_ofNat, headSizes,
        headSize_of_isDynamic ha, length_words rest]
    | false =>
      rw [encodeFields_cons_static ha, List.length_append, headSizes,
        length_encode_of_static a ha, length_words rest]

end

end Argument

/-! ## Reading back -/

namespace Parameter

open Argument (encodeFields Fits FitAll)

theorem toNat_ofNat_word {n : Nat} (h : n < 2 ^ 256) : (Bytes.ofNat 32 n).toNat = n := by
  rw [Bytes.toNat_ofNat, Nat.mod_eq_of_lt (by simpa using h)]

mutual

theorem read?_encode {t : Parameter} {a : Argument} : Fits t a → ∀ more : Bytes,
    a.encode.length < 2 ^ 256 → t.read? (a.encode ++ more) = some a
  | .scalar length range => by
    intro more _
    rw [Argument.encode, read?, firstWord?_append length]
    exact if_pos range
  | .bytes bs => by
    intro more hlt
    have hcount : bs.length < 2 ^ 256 := by
      simp only [Argument.encode, Bytes.padRight, List.length_append] at hlt
      omega
    rw [Argument.encode, read?, Bytes.padRight, List.append_assoc, List.append_assoc,
      firstWord?_ofNat, List.drop_left' (Bytes.length_ofNat 32 _)]
    simp [toNat_ofNat_word hcount]
  | @Fits.tuple _ fields all => by
    intro more hlt
    have hwords := Argument.length_words fields (Argument.headSizes fields)
    rw [Argument.encode, List.length_append] at hlt
    rw [Argument.encode, List.append_assoc, read?,
      readFields?_encodeFields all _ _ _ more (by omega) (by omega) (List.drop_left' hwords)]
    rfl

/-- The values of a sequence are read from its words, those of variable size from where the words
say that they start. -/
theorem readFields?_encodeFields {types : List Parameter} {fields : List Argument} :
    FitAll types fields → ∀ (offset : Nat) (data moreWords more : Bytes),
    (encodeFields offset fields).1.length < 2 ^ 256 →
    offset + (encodeFields offset fields).2.length < 2 ^ 256 →
    data.drop offset = (encodeFields offset fields).2 ++ more →
    readFields? types data ((encodeFields offset fields).1 ++ moreWords) = some fields
  | .nil => fun _ _ _ _ _ _ _ => rfl
  | @FitAll.cons _ a _ rest head tail => by
    intro offset data moreWords more hwords hbehind hdata
    rw [readFields?, ← head.isDynamic, ← head.headSize]
    cases ha : a.isDynamic with
    | true =>
      rw [Argument.encodeFields_cons_dynamic ha] at hwords hbehind hdata ⊢
      simp only [List.length_append, Bytes.length_ofNat] at hwords hbehind
      have hoffset : (Bytes.ofNat 32 offset).toNat = offset := toNat_ofNat_word (by omega)
      have hrest := readFields?_encodeFields tail (offset + a.encode.length) data moreWords more
        (by omega) (by omega) (by rw [← List.drop_drop, hdata, List.append_assoc, List.drop_left])
      simp only [List.append_assoc, firstWord?_ofNat, Option.map_some, if_true, hoffset, hdata,
        Argument.headSize_of_isDynamic ha, List.drop_left' (Bytes.length_ofNat 32 _)]
      simp [read?_encode head _ (by omega : a.encode.length < 2 ^ 256), hrest]
    | false =>
      rw [Argument.encodeFields_cons_static ha] at hwords hbehind hdata ⊢
      simp only [List.length_append] at hwords
      have hrest := readFields?_encodeFields tail offset data moreWords more (by omega) hbehind
        hdata
      rw [← Argument.length_encode_of_static a ha, List.append_assoc, List.drop_left]
      simp [read?_encode head _ (by omega : a.encode.length < 2 ^ 256), hrest]

end

theorem readFields?_encode {types : List Parameter} {fields : List Argument}
    (h : FitAll types fields) (hlt : (Argument.tuple fields).encode.length < 2 ^ 256)
    (more : Bytes) :
    readFields? types ((Argument.tuple fields).encode ++ more)
      ((Argument.tuple fields).encode ++ more) = some fields := by
  have hread := read?_encode (.tuple h) more hlt
  simpa [read?, Option.bind_eq_some_iff] using hread

end Parameter

end TokenBridge.Contract
