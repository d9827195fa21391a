import TokenBridge.Number.Binary64
import TokenBridge.Word

/-!
# Slippage

Slippage is a percentage. One that is not finite and positive is replaced by
the default. What may be lost is counted in whole basis points, rounded from
the percentage and at most 10000, so the least amount to arrive is the amount
less that share of it, rounded down.
-/

namespace TokenBridge.Slippage

open Number (Binary64)

/-- Half a percent. -/
def default : Binary64 := ⟨0x3fe0000000000000⟩

def isUsable (s : Binary64) : Bool := s.isFinite && s.isPositive

def effective (s : Binary64) : Binary64 := if isUsable s then s else default

/-- The basis points that make a whole. -/
def wholeBasisPoints : Nat := 10000

def basisPoints (s : Binary64) : Nat :=
  min ((effective s).mul (Binary64.ofNat 100)).roundUnsigned64 wholeBasisPoints

/-- The least amount to arrive; the product wraps as amounts do. -/
def minAmount (amount : Amount) (s : Binary64) : Amount :=
  amount - amount * BitVec.ofNat 256 (basisPoints s) / BitVec.ofNat 256 wholeBasisPoints

theorem basisPoints_le (s : Binary64) : basisPoints s ≤ wholeBasisPoints := Nat.min_le_right ..

end TokenBridge.Slippage
