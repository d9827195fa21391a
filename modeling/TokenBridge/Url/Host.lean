import TokenBridge.Number.Unsigned
import TokenBridge.Url.Domain
import TokenBridge.Url.Percent

/-!
# Hosts

A host is a domain name, an IPv4 address or an IPv6 address. A name whose last
part is a number has to be an IPv4 address: up to four numbers in decimal,
octal or hexadecimal digits, of which the last fills all the bytes left. An
IPv6 address stands in brackets; written out, its first longest run of two or
more zero pieces is `::`.
-/

namespace TokenBridge.Url

inductive Error where
  | relative
  | emptyHost
  | invalidName
  | invalidCharacter
  | invalidPort
  | invalidIpv4
  | invalidIpv6
  deriving DecidableEq, Repr

def Error.message : Error → String
  | relative => "relative URL without a base"
  | emptyHost => "empty host"
  | invalidName => "invalid international domain name"
  | invalidCharacter => "invalid domain character"
  | invalidPort => "invalid port number"
  | invalidIpv4 => "invalid IPv4 address"
  | invalidIpv6 => "invalid IPv6 address"

inductive Host where
  | domain (name : String)
  | ipv4 (address : Nat)
  | ipv6 (pieces : List Nat)
  deriving DecidableEq, Repr

/-! ## IPv4 -/

/-- What a part of a host is as a number. -/
inductive Ipv4Part where
  | notNumber
  | tooLarge
  | value (n : Nat)

def digitsIn? (radix : Nat) (cs : List Char) : Option Nat :=
  cs.foldlM (fun n c => match Text.hexValue? c with
    | some d => if d < radix then some (radix * n + d) else none
    | none => none) 0

def ipv4Part (cs : List Char) : Ipv4Part :=
  let (radix, digits) := match cs with
    | '0' :: 'x' :: rest => (16, rest)
    | '0' :: 'X' :: rest => (16, rest)
    | '0' :: d :: rest => (8, d :: rest)
    | _ => (10, cs)
  if cs.isEmpty then .notNumber
  else if digits.isEmpty then .value 0
  else match digitsIn? radix digits with
    | none => .notNumber
    | some n => if n < 2 ^ 32 then .value n else .tooLarge

/-- The parts of a name, without an empty one at the end. -/
def ipv4Parts (name : String) : List (List Char) :=
  let parts := name.toList.splitOn '.'
  if parts.getLast? = some [] then parts.dropLast else parts

/-- The last part of a name, an empty one apart, is a number. -/
def endsInNumber (name : String) : Bool :=
  match (ipv4Parts name).getLast? with
  | none => false
  | some part =>
    (!part.isEmpty && part.all Char.isDigit) ||
      match ipv4Part part with
      | .notNumber => false
      | _ => true

/-- Numbers in the bytes from a place down. -/
def fromPlace (place : Nat) : List Nat → Nat
  | [] => 0
  | n :: rest => n * 256 ^ place + fromPlace (place - 1) rest

def ipv4Of? (numbers : List Nat) : Option Nat :=
  match numbers.getLast? with
  | none => none
  | some last =>
    let first := numbers.dropLast
    if 4 < numbers.length ∨ first.any (255 < ·) ∨ 256 ^ (4 - first.length) ≤ last then none
    else some (fromPlace 3 first + last)

def readIpv4 (name : String) : Except Error Nat :=
  let numbers := (ipv4Parts name).mapM fun part => match ipv4Part part with
    | .value n => some n
    | _ => none
  match numbers.bind ipv4Of? with
  | some n => .ok n
  | none => .error .invalidIpv4

def ipv4Text (n : Nat) : String :=
  ".".intercalate ([3, 2, 1, 0].map fun place => Number.decimal (n / 256 ^ place % 256))

/-! ## IPv6 -/

/-- Pieces read so far, and the number of them before the `::`, if there was one. -/
structure Ipv6State where
  pieces : List Nat
  gap : Option Nat

/-- The number of places taken, the gap being one. -/
def Ipv6State.places (s : Ipv6State) : Nat :=
  s.pieces.length + (if s.gap.isSome then 1 else 0)

/-- Four decimal numbers as the last two pieces. -/
def ipv4Tail? (cs : List Char) : Option (List Nat) :=
  let part (ds : List Char) : Option Nat :=
    match ds with
    | [] => none
    | ['0'] => some 0
    | '0' :: _ => none
    | _ => match Number.digitsValue? ds with
      | some n => if n ≤ 255 then some n else none
      | none => none
  match (cs.splitOn '.').mapM part with
  | some [a, b, c, d] => some [256 * a + b, 256 * c + d]
  | _ => none

def readPieces (fuel : Nat) (s : Ipv6State) (cs : List Char) : Option Ipv6State :=
  match fuel, cs with
  | _, [] => some s
  | 0, _ => none
  | fuel + 1, c :: rest =>
    if s.places = 8 then none
    else if c = ':' then
      if s.gap.isSome then none
      else readPieces fuel { s with gap := some s.pieces.length } rest
    else
      let digits := ((c :: rest).take 4).takeWhile fun d => (Text.hexValue? d).isSome
      let value := (digitsIn? 16 digits).getD 0
      let s' := { s with pieces := s.pieces ++ [value] }
      match (c :: rest).drop digits.length with
      | [] => some s'
      | '.' :: _ =>
        if digits.isEmpty ∨ 6 < s.places then none
        else (ipv4Tail? (c :: rest)).map fun tail => { s with pieces := s.pieces ++ tail }
      | ':' :: [] => none
      | ':' :: rest' => readPieces fuel s' rest'
      | _ => none

def readIpv6 (cs : List Char) : Except Error Host :=
  let start : Option (Ipv6State × List Char) := match cs with
    | ':' :: ':' :: rest => some (⟨[], some 0⟩, rest)
    | ':' :: _ => none
    | _ => some (⟨[], none⟩, cs)
  match start.bind fun (s, rest) => readPieces (rest.length + 1) s rest with
  | none => .error .invalidIpv6
  | some s =>
    match s.gap with
    | none => if s.pieces.length = 8 then .ok (.ipv6 s.pieces) else .error .invalidIpv6
    | some gap =>
      if 8 < s.places then .error .invalidIpv6
      else
        .ok (.ipv6 (s.pieces.take gap ++ List.replicate (8 - s.pieces.length) 0 ++
          s.pieces.drop gap))

/-- The place and the length of the first longest run of zero pieces. -/
def longestZeros (pieces : List Nat) : Nat × Nat :=
  let lengthAt (i : Nat) : Nat := ((pieces.drop i).takeWhile (· == 0)).length
  (List.range pieces.length).foldl
    (fun best i => if best.2 < lengthAt i then (i, lengthAt i) else best) (0, 0)

def ipv6Text (pieces : List Nat) : String :=
  let texts (ps : List Nat) : String :=
    ":".intercalate (ps.map fun p => String.ofList (Nat.toDigits 16 p))
  let (place, length) := longestZeros pieces
  if length < 2 then texts pieces
  else texts (pieces.take place) ++ "::" ++ texts (pieces.drop (place + length))

/-! ## Reading and writing hosts -/

def readBracketed (cs : List Char) : Except Error Host :=
  if cs.getLast? = some ']' then readIpv6 (cs.drop 1).dropLast else .error .invalidIpv6

/-- A host of a URL with a well-known scheme. -/
def readHost (cs : List Char) : Except Error Host :=
  if cs.head? = some '[' then readBracketed cs
  else match (decode? cs).bind domainToAscii? with
    | none => .error .invalidName
    | some name =>
      if name.isEmpty then .error .emptyHost
      else if endsInNumber name then (readIpv4 name).map .ipv4
      else .ok (.domain name)

def isHostDelimiter (c : Char) : Bool :=
  ['\x00', '\t', '\n', '\r', ' ', '#', '/', ':', '<', '>', '?', '@', '[', '\\', ']', '^',
    '|'].contains c

/-- A host of a URL with any other scheme, which stands as it is. -/
def readPlainHost (cs : List Char) : Except Error Host :=
  if cs.head? = some '[' then readBracketed cs
  else if cs.any isHostDelimiter then .error .invalidCharacter
  else .ok (.domain (encode .verbatim cs))

def Host.text : Host → String
  | domain name => name
  | ipv4 n => ipv4Text n
  | ipv6 pieces => "[" ++ ipv6Text pieces ++ "]"

end TokenBridge.Url
