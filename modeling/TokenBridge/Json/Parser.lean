import TokenBridge.Json.Literal
import TokenBridge.Text.Hex
import TokenBridge.Text.Utf8

/-!
# Reading JSON

Strict JSON: blanks are space, tab, newline and carriage return; a string holds
no control character and no lone surrogate; nothing but blanks may follow the
value. Arrays and objects may nest up to a given depth.
-/

namespace TokenBridge.Json

def isSpace (c : Char) : Bool := c == ' ' || c == '\n' || c == '\t' || c == '\r'

def skipSpace (cs : List Char) : List Char := cs.dropWhile isSpace

def readUnit? : List Char → Option (Nat × List Char)
  | a :: b :: c :: d :: rest =>
    match Text.hexValue? a, Text.hexValue? b, Text.hexValue? c, Text.hexValue? d with
    | some a, some b, some c, some d => some (((a * 16 + b) * 16 + c) * 16 + d, rest)
    | _, _, _, _ => none
  | _ => none

/-- The character of a `\u` escape, whose digits come next: one unit, or a pair of surrogates. -/
def readEscapedPoint? (cs : List Char) : Option (Char × List Char) :=
  match readUnit? cs with
  | none => none
  | some (hi, rest) =>
    if 0xD800 ≤ hi ∧ hi < 0xDC00 then
      match rest with
      | '\\' :: 'u' :: rest =>
        match readUnit? rest with
        | some (lo, rest) =>
          if 0xDC00 ≤ lo ∧ lo < 0xE000 then
            some (Char.ofNat (0x10000 + (hi - 0xD800) * 0x400 + (lo - 0xDC00)), rest)
          else none
        | none => none
      | _ => none
    else if 0xDC00 ≤ hi ∧ hi < 0xE000 then none
    else some (Char.ofNat hi, rest)

def simpleEscape? : Char → Option Char
  | '"' => some '"'
  | '\\' => some '\\'
  | '/' => some '/'
  | 'b' => some '\x08'
  | 'f' => some '\x0c'
  | 'n' => some '\n'
  | 'r' => some '\r'
  | 't' => some '\t'
  | _ => none

/-- The characters of a string up to its closing quote, `done` being those read, last first. -/
def readChars (fuel : Nat) (done : List Char) (cs : List Char) : Option (String × List Char) :=
  match fuel, cs with
  | 0, _ => none
  | _, [] => none
  | fuel + 1, c :: rest =>
    if c = '"' then some (String.ofList done.reverse, rest)
    else if c = '\\' then
      match rest with
      | 'u' :: rest =>
        match readEscapedPoint? rest with
        | some (c, rest) => readChars fuel (c :: done) rest
        | none => none
      | e :: rest =>
        match simpleEscape? e with
        | some c => readChars fuel (c :: done) rest
        | none => none
      | [] => none
    else if c.toNat < 0x20 then none
    else readChars fuel (c :: done) rest

/-- A string whose opening quote is already read. -/
def readString (cs : List Char) : Option (String × List Char) := readChars (cs.length + 1) [] cs

def readWord (word : List Char) (v : Json) (cs : List Char) : Option (Json × List Char) :=
  if word.isPrefixOf cs then some (v, cs.drop word.length) else none

mutual

/-- A value at the start of a text, in at most `depth` further levels of nesting. -/
def readValue : (fuel depth : Nat) → List Char → Option (Json × List Char)
  | 0, _, _ => none
  | fuel + 1, depth, cs =>
    match skipSpace cs with
    | '"' :: rest => (readString rest).map fun r => (str r.1, r.2)
    | '[' :: rest =>
      match depth with
      | 0 => none
      | depth + 1 =>
        match skipSpace rest with
        | ']' :: rest => some (arr [], rest)
        | rest => (readItems fuel depth rest).map fun r => (arr r.1, r.2)
    | '\x7b' :: rest =>
      match depth with
      | 0 => none
      | depth + 1 =>
        match skipSpace rest with
        | '\x7d' :: rest => some (obj [], rest)
        | rest => (readMembers fuel depth [] rest).map fun r => (obj r.1, r.2)
    | 'n' :: rest => readWord ['u', 'l', 'l'] null rest
    | 't' :: rest => readWord ['r', 'u', 'e'] (bool true) rest
    | 'f' :: rest => readWord ['a', 'l', 's', 'e'] (bool false) rest
    | rest => (JsonNumber.read? rest).map fun r => (num r.1, r.2)

def readItems : (fuel depth : Nat) → List Char → Option (List Json × List Char)
  | 0, _, _ => none
  | fuel + 1, depth, cs =>
    match readValue fuel depth cs with
    | none => none
    | some (v, rest) =>
      match skipSpace rest with
      | ',' :: rest => (readItems fuel depth rest).map fun r => (v :: r.1, r.2)
      | ']' :: rest => some ([v], rest)
      | _ => none

/-- The members of an object from the next one on, added to those before it. -/
def readMembers : (fuel depth : Nat) → List (String × Json) → List Char →
    Option (List (String × Json) × List Char)
  | 0, _, _, _ => none
  | fuel + 1, depth, before, cs =>
    match skipSpace cs with
    | '"' :: rest =>
      match readString rest with
      | none => none
      | some (key, rest) =>
        match skipSpace rest with
        | ':' :: rest =>
          match readValue fuel depth rest with
          | none => none
          | some (v, rest) =>
            match skipSpace rest with
            | ',' :: rest => readMembers fuel depth (insert before key v) rest
            | '\x7d' :: rest => some (insert before key v, rest)
            | _ => none
        | _ => none
    | _ => none

end

/-- How deep arrays and objects may nest in a document from outside. -/
def maxDepth : Nat := 127

def parseWithin (depth : Nat) (s : String) : Option Json :=
  let cs := s.toList
  match readValue (2 * cs.length + 2) depth cs with
  | some (v, rest) => if (skipSpace rest).isEmpty then some v else none
  | none => none

def parse (s : String) : Option Json := parseWithin maxDepth s

/-- The value that a byte string holds; the bytes have to be well-formed UTF-8. -/
def parseBytes (bs : List UInt8) : Option Json := (Text.utf8? bs).bind parse

end TokenBridge.Json
