import TokenBridge.Slippage

/-!
# What slippage may cost

The product of an amount and its basis points wraps, and wrapping only makes it
smaller. So the amount that may be lost is at most its share in basis points,
rounded down (`loss_le`), which is at most the amount itself: the subtraction
does not wrap. The loss is that share exactly where the product fits in a word
(`minAmount_exact_iff`); where it does not, a transfer tolerates less than it was
asked to, or nothing at all (`minAmount_wraps`).
-/

namespace TokenBridge.Slippage

open Number (Binary64)

theorem isUsable_default : isUsable default = true := by decide +kernel

theorem isUsable_effective (s : Binary64) : isUsable (effective s) = true := by
  cases h : isUsable s with
  | true => rwa [effective, if_pos h]
  | false => simpa [effective, h] using isUsable_default

theorem effective_effective (s : Binary64) : effective (effective s) = effective s :=
  if_pos (isUsable_effective s)

theorem basisPoints_effective (s : Binary64) : basisPoints (effective s) = basisPoints s := by
  rw [basisPoints, effective_effective, basisPoints]

theorem minAmount_effective (amount : Amount) (s : Binary64) :
    minAmount amount (effective s) = minAmount amount s := by
  rw [minAmount, basisPoints_effective, minAmount]

/-- The share that is taken off an amount, in whole numbers. -/
def loss (amount : Amount) (s : Binary64) : Nat :=
  amount.toNat * basisPoints s % 2 ^ 256 / wholeBasisPoints

theorem toNat_loss (amount : Amount) (s : Binary64) :
    (amount * BitVec.ofNat 256 (basisPoints s) / BitVec.ofNat 256 wholeBasisPoints).toNat =
      loss amount s := by
  have hb : basisPoints s < 2 ^ 256 := Nat.lt_of_le_of_lt (basisPoints_le s) (by decide)
  have hw : wholeBasisPoints < 2 ^ 256 := by decide
  rw [BitVec.toNat_udiv, BitVec.toNat_mul, BitVec.toNat_ofNat, BitVec.toNat_ofNat,
    Nat.mod_eq_of_lt hb, Nat.mod_eq_of_lt hw, loss]

theorem loss_le (amount : Amount) (s : Binary64) :
    loss amount s ≤ amount.toNat * basisPoints s / wholeBasisPoints :=
  Nat.div_le_div_right (Nat.mod_le ..)

theorem loss_eq {amount : Amount} {s : Binary64} (h : amount.toNat * basisPoints s < 2 ^ 256) :
    loss amount s = amount.toNat * basisPoints s / wholeBasisPoints := by
  rw [loss, Nat.mod_eq_of_lt h]

theorem loss_le_amount (amount : Amount) (s : Binary64) : loss amount s ≤ amount.toNat := by
  refine Nat.le_trans (loss_le amount s) (Nat.div_le_of_le_mul ?_)
  rw [Nat.mul_comm]
  exact Nat.mul_le_mul_right _ (basisPoints_le s)

/-- The least amount to arrive is the amount less the loss; nothing wraps. -/
theorem toNat_minAmount (amount : Amount) (s : Binary64) :
    (minAmount amount s).toNat = amount.toNat - loss amount s := by
  have hle := loss_le_amount amount s
  have hlt := amount.isLt
  rw [minAmount, BitVec.toNat_sub, toNat_loss]
  omega

/-! ## Products that wrap -/

theorem sub_minAmount (amount : Amount) (s : Binary64) :
    amount.toNat - (minAmount amount s).toNat = loss amount s := by
  rw [toNat_minAmount]
  exact Nat.sub_sub_self (loss_le_amount amount s)

theorem loss_add_le {amount : Amount} {s : Binary64}
    (h : 2 ^ 256 ≤ amount.toNat * basisPoints s) :
    loss amount s + 2 ^ 256 / wholeBasisPoints ≤
      amount.toNat * basisPoints s / wholeBasisPoints := by
  rw [loss, wholeBasisPoints]
  have hrest := Nat.mod_add_div (amount.toNat * basisPoints s) (2 ^ 256)
  have hwraps := (Nat.one_le_div_iff (Nat.two_pow_pos 256)).2 h
  generalize amount.toNat * basisPoints s = product at hrest hwraps
  omega

theorem loss_eq_iff {amount : Amount} {s : Binary64} :
    loss amount s = amount.toNat * basisPoints s / wholeBasisPoints ↔
      amount.toNat * basisPoints s < 2 ^ 256 := by
  refine ⟨fun h => Nat.lt_of_not_le fun hwraps => ?_, loss_eq⟩
  have hle := loss_add_le hwraps
  have hpos : 0 < 2 ^ 256 / wholeBasisPoints := by decide
  omega

/-- With at most one basis point no amount wraps, and with more the greatest does. -/
theorem forall_loss_eq_iff {s : Binary64} :
    (∀ amount : Amount, loss amount s = amount.toNat * basisPoints s / wholeBasisPoints) ↔
      basisPoints s ≤ 1 := by
  constructor
  · intro h
    have hfits := loss_eq_iff.1 (h Amount.maximum)
    rw [Amount.maximum, BitVec.toNat_allOnes] at hfits
    omega
  · intro h amount
    refine loss_eq (Nat.lt_of_le_of_lt (Nat.mul_le_mul_left _ h) ?_)
    rw [Nat.mul_one]
    exact amount.isLt

/-- The least amount to arrive never exceeds the amount, and what is taken off is the share in basis
points of the product as it wraps. It is the share of the amount itself exactly where the product
fits in a word, which it does for every amount only with at most one basis point. Where it does not
fit, less is taken off by at least the share of a whole word. -/
theorem minAmount_exact_iff (s : Binary64) :
    (∀ amount : Amount,
      let product := amount.toNat * basisPoints s
      let lost := amount.toNat - (minAmount amount s).toNat
      (minAmount amount s).toNat ≤ amount.toNat ∧
      lost = product % 2 ^ 256 / wholeBasisPoints ∧
      (lost = product / wholeBasisPoints ↔ product < 2 ^ 256) ∧
      (2 ^ 256 ≤ product → lost + 2 ^ 256 / wholeBasisPoints ≤ product / wholeBasisPoints)) ∧
    ((∀ amount : Amount, amount.toNat - (minAmount amount s).toNat =
        amount.toNat * basisPoints s / wholeBasisPoints) ↔ basisPoints s ≤ 1) := by
  simp only [sub_minAmount]
  refine ⟨fun amount => ⟨?_, rfl, loss_eq_iff, loss_add_le⟩, forall_loss_eq_iff⟩
  rw [toNat_minAmount]
  exact Nat.sub_le ..

/-- Half a percent of half the range of amounts: the product wraps to zero, so nothing is taken
off. -/
theorem minAmount_wraps :
    let amount : Amount := BitVec.twoPow 256 255
    basisPoints default = 50 ∧ minAmount amount default = amount ∧
      amount.toNat - (minAmount amount default).toNat ≠
        amount.toNat * basisPoints default / wholeBasisPoints := by
  decide +kernel

end TokenBridge.Slippage
