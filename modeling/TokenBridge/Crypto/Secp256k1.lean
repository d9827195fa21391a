import TokenBridge.Crypto.Sha256

/-!
# Signatures on the curve secp256k1

Points of `y² = x³ + 7` over the prime field, a private key as a scalar between
1 and the group order, and signatures whose nonce is derived from key and
digest by the keyed hash, so that one key signs one digest in one way. Of the
two valid second halves the lower is given, and the recovery bit follows it.
-/

namespace TokenBridge.Crypto.Secp256k1

def prime : Nat := 2 ^ 256 - 2 ^ 32 - 977

def order : Nat := 0xFFFFFFFFFFFFFFFFFFFFFFFFFFFFFFFEBAAEDCE6AF48A03BBFD25E8CD0364141

/-- A point in projective coordinates: the affine point `(x / z², y / z³)`, and infinity where
`z = 0`. -/
structure Point where
  x : Nat
  y : Nat
  z : Nat

namespace Point

def infinity : Point := ⟨1, 1, 0⟩

def generator : Point :=
  ⟨0x79BE667EF9DCBBAC55A06295CE870B07029BFCDB2DCE28D959F2815B16F81798,
    0x483ADA7726A3C4655DA4FBFC0E1108A8FD17B448A68554199C47D08FFB10D4B8, 1⟩

def double (p : Point) : Point :=
  if p.z = 0 ∨ p.y = 0 then infinity
  else
    let yy := p.y * p.y % prime
    let s := 4 * p.x * yy % prime
    let m := 3 * p.x * p.x % prime
    let x := (m * m + 2 * (prime - s)) % prime
    let y := (m * (s + prime - x) + 8 * (prime - yy * yy % prime)) % prime
    ⟨x, y, 2 * p.y * p.z % prime⟩

def add (p q : Point) : Point :=
  if p.z = 0 then q
  else if q.z = 0 then p
  else
    let pz := p.z * p.z % prime
    let qz := q.z * q.z % prime
    let u := p.x * qz % prime
    let s := p.y * qz % prime * q.z % prime
    let h := (q.x * pz % prime + prime - u) % prime
    let r := (q.y * pz % prime * p.z % prime + prime - s) % prime
    if h = 0 then (if r = 0 then double p else infinity)
    else
      let hh := h * h % prime
      let hhh := h * hh % prime
      let v := u * hh % prime
      let x := (r * r + (prime - hhh) + 2 * (prime - v)) % prime
      let y := (r * (v + prime - x) + s * (prime - hhh)) % prime
      ⟨x, y, h * p.z % prime * q.z % prime⟩

/-- A multiple of a point, `bits` bounding the binary length of the factor. -/
def multiple (p : Point) : (bits : Nat) → Nat → Point
  | 0, _ => infinity
  | bits + 1, k =>
    let half := double (multiple p bits (k / 2))
    if k % 2 = 1 then add half p else half

end Point

/-- A power modulo `m`, `bits` bounding the binary length of the exponent. -/
def powMod (b m : Nat) : (bits : Nat) → Nat → Nat
  | 0, _ => 1 % m
  | bits + 1, e =>
    let h := powMod b m bits (e / 2)
    let hh := h * h % m
    if e % 2 = 1 then hh * b % m else hh

/-- The inverse modulo an odd prime. -/
def inverse (m a : Nat) : Nat := powMod a m 256 (m - 2)

def Point.affine (p : Point) : Nat × Nat :=
  let zi := inverse prime p.z
  let zz := zi * zi % prime
  (p.x * zz % prime, p.y * zz % prime * zi % prime)

/-! ## Keys -/

/-- A private key: a scalar of the group other than zero. -/
structure PrivateKey where
  scalar : Nat
  positive : 0 < scalar
  belowOrder : scalar < order

/-- The key of a number, unless it is zero or too large. -/
def PrivateKey.ofNat? (n : Nat) : Option PrivateKey :=
  if h : 0 < n ∧ n < order then some ⟨n, h.1, h.2⟩ else none

def PrivateKey.publicPoint (k : PrivateKey) : Nat × Nat :=
  (Point.generator.multiple 256 k.scalar).affine

/-! ## Signing -/

structure Signature where
  r : Nat
  s : Nat
  odd : Bool
  deriving DecidableEq, Repr

structure NonceState where
  key : Bytes
  value : Bytes

/-- One update with some extra input between the value and nothing. -/
def NonceState.update (t : NonceState) (mark : UInt8) (input : Bytes) : NonceState :=
  let key := Sha256.keyed t.key (t.value ++ mark :: input)
  ⟨key, Sha256.keyed key t.value⟩

/-- The generator seeded with key and digest. -/
def NonceState.seed (k : PrivateKey) (digest : Bytes) : NonceState :=
  let input := Bytes.ofNat 32 k.scalar ++ Bytes.ofNat 32 (Bytes.toNat digest % order)
  let t : NonceState := ⟨List.replicate 32 0, List.replicate 32 1⟩
  (t.update 0 input).update 1 input

/-- The signature with a given nonce; `none` for the nonces that give no signature. -/
def signWith? (k : PrivateKey) (z nonce : Nat) : Option Signature :=
  let (x, y) := (Point.generator.multiple 256 nonce).affine
  let r := x % order
  let s := inverse order nonce * ((z + r * k.scalar) % order) % order
  if nonce = 0 ∨ order ≤ nonce ∨ r = 0 ∨ s = 0 then none
  else if order / 2 < s then some ⟨r, order - s, y % 2 == 0⟩
  else some ⟨r, s, y % 2 == 1⟩

/-- Candidates for the nonce are drawn until one gives a signature. -/
def signFrom (k : PrivateKey) (z : Nat) : (tries : Nat) → NonceState → Option Signature
  | 0, _ => none
  | tries + 1, t =>
    let value := Sha256.keyed t.key t.value
    match signWith? k z (Bytes.toNat value) with
    | some sig => some sig
    | none => signFrom k z tries ((NonceState.mk t.key value).update 0 [])

/-- The signature of a 32-byte digest. The chance that one candidate fails is below `2 ^ -127`. -/
def sign? (k : PrivateKey) (digest : Bytes) : Option Signature :=
  signFrom k (Bytes.toNat digest % order) 16 (NonceState.seed k digest)

end TokenBridge.Crypto.Secp256k1
