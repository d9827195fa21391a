import TokenBridge.Number.Power

/-!
# Byte strings

Byte strings are lists of bytes; whole numbers stand in them big-endian.
-/

namespace TokenBridge

abbrev Bytes := List UInt8

namespace Bytes

/-- The last `width` bytes of the big-endian form of a number. -/
def ofNat : (width : Nat) → Nat → Bytes
  | 0, _ => []
  | width + 1, n => ofNat width (n / 256) ++ [UInt8.ofNat (n % 256)]

def toNat (bs : Bytes) : Nat := bs.foldl (fun n b => 256 * n + b.toNat) 0

/-- The big-endian form without leading zeros; zero has none at all. -/
def ofNatMinimal (n : Nat) : Bytes :=
  if _h : n = 0 then [] else ofNatMinimal (n / 256) ++ [UInt8.ofNat (n % 256)]
  termination_by n
  decreasing_by omega

/-- Zeros at the left up to the given width. -/
def padLeft (width : Nat) (bs : Bytes) : Bytes := List.replicate (width - bs.length) 0 ++ bs

/-- Zeros at the right up to the next multiple of `block`. -/
def padRight (block : Nat) (bs : Bytes) : Bytes :=
  bs ++ List.replicate ((block - bs.length % block) % block) 0

def ofText (s : String) : Bytes := s.toUTF8.toList

theorem length_ofNat (width n : Nat) : (ofNat width n).length = width := by
  induction width generalizing n with
  | zero => rfl
  | succ width ih => simp [ofNat, ih]

theorem toNat_append_singleton (bs : Bytes) (b : UInt8) :
    toNat (bs ++ [b]) = 256 * toNat bs + b.toNat := by
  simp [toNat]

theorem toNat_ofNat (width n : Nat) : toNat (ofNat width n) = n % 256 ^ width := by
  induction width generalizing n with
  | zero => simp [ofNat, toNat, Nat.mod_one]
  | succ width ih =>
    rw [ofNat, toNat_append_singleton, ih, Nat.pow_succ, Nat.mul_comm (256 ^ width),
      Nat.mod_mul]
    have : (UInt8.ofNat (n % 256)).toNat = n % 256 := by
      simp
    omega

end Bytes

end TokenBridge
