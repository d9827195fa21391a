import TokenBridge.Bytes

/-!
# Keccak-256

The sponge over 25 lanes of 64 bits at a rate of 136 bytes, with the padding
that starts by a byte `01`. It names functions and events by their signatures,
derives addresses from public keys and spells the mixed-case address form.
-/

namespace TokenBridge.Crypto.Keccak

/-- The rotation of each lane in the order in which the permutation of lanes visits them. -/
def rotations : List UInt64 :=
  [1, 3, 6, 10, 15, 21, 28, 36, 45, 55, 2, 14, 27, 41, 56, 8, 25, 43, 62, 18, 39, 61, 20, 44]

def laneOrder : List Nat :=
  [10, 7, 11, 17, 18, 3, 5, 16, 8, 21, 24, 4, 15, 23, 19, 13, 12, 2, 20, 14, 22, 9, 6, 1]

def roundConstants : List UInt64 :=
  [0x0000000000000001, 0x0000000000008082, 0x800000000000808A, 0x8000000080008000,
    0x000000000000808B, 0x0000000080000001, 0x8000000080008081, 0x8000000000008009,
    0x000000000000008A, 0x0000000000000088, 0x0000000080008009, 0x000000008000000A,
    0x000000008000808B, 0x800000000000008B, 0x8000000000008089, 0x8000000000008003,
    0x8000000000008002, 0x8000000000000080, 0x000000000000800A, 0x800000008000000A,
    0x8000000080008081, 0x8000000000008080, 0x0000000080000001, 0x8000000080008008]

/-- The 25 lanes; lane `5 * y + x` stands at column `x` of row `y`. -/
abbrev State := Array UInt64

def lane (s : State) (i : Nat) : UInt64 := s.getD i 0

def rotate (x : UInt64) (n : UInt64) : UInt64 :=
  if n = 0 then x else (x <<< n) ||| (x >>> (64 - n))

/-- Adds to every lane the parities of two neighbouring columns. -/
def theta (s : State) : State :=
  let column (x : Nat) : UInt64 :=
    lane s x ^^^ lane s (x + 5) ^^^ lane s (x + 10) ^^^ lane s (x + 15) ^^^ lane s (x + 20)
  let c := Array.ofFn fun x : Fin 5 => column x.val
  let d := Array.ofFn fun x : Fin 5 =>
    lane c ((x.val + 4) % 5) ^^^ rotate (lane c ((x.val + 1) % 5)) 1
  Array.ofFn fun i : Fin 25 => lane s i.val ^^^ lane d (i.val % 5)

/-- Rotates the lanes and moves each to the next place of the order. -/
def rhoPi (s : State) : State :=
  ((laneOrder.zip rotations).foldl
    (fun (acc : State × UInt64) p =>
      (acc.1.setIfInBounds p.1 (rotate acc.2 p.2), lane s p.1)) (s, lane s 1)).1

/-- Mixes the lanes of each row. -/
def chi (s : State) : State :=
  Array.ofFn fun i : Fin 25 =>
    let row := i.val / 5 * 5
    lane s i.val ^^^ (~~~ lane s (row + (i.val + 1) % 5) &&& lane s (row + (i.val + 2) % 5))

/-- The column of a lane is its number modulo five, as rows are five lanes long. -/
def round (s : State) (constant : UInt64) : State :=
  let t := chi (rhoPi (theta s))
  t.setIfInBounds 0 (lane t 0 ^^^ constant)

def permute (s : State) : State := roundConstants.foldl round s

/-- Bytes taken by one application of the permutation. -/
def rate : Nat := 136

/-- A little-endian word. -/
def word (bs : Bytes) : UInt64 :=
  bs.foldr (fun b n => n <<< 8 ||| b.toUInt64) 0

def absorb (s : State) (block : Bytes) : State :=
  permute (Array.ofFn fun i : Fin 25 =>
    lane s i.val ^^^ word ((block.drop (8 * i.val)).take 8))

/-- The message with its padding: a `01`, zeros, and `80` in the last byte of a block. -/
def pad (message : Bytes) : Bytes :=
  let free := rate - message.length % rate
  if free = 1 then message ++ [0x81]
  else message ++ 0x01 :: List.replicate (free - 2) 0 ++ [0x80]

def blocks : (count : Nat) → Bytes → List Bytes
  | 0, _ => []
  | count + 1, bs => bs.take rate :: blocks count (bs.drop rate)

def littleEndian (x : UInt64) : Bytes :=
  (List.range 8).map fun i => (x >>> (UInt64.ofNat (8 * i))).toUInt8

def hash (message : Bytes) : Bytes :=
  let padded := pad message
  let start : State := Array.replicate 25 0
  let final := (blocks (padded.length / rate) padded).foldl absorb start
  (List.range 4).flatMap fun i => littleEndian (lane final i)

end TokenBridge.Crypto.Keccak
