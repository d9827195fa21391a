import Mathlib.Data.List.Induction
import TokenBridge.Bytes

/-!
# Numbers in byte strings

A byte string of a given length and its number tell each other
(`ofNat_toNat`). A number has zeros in front just if it is small
(`all_take_eq_zero`).
-/

namespace TokenBridge.Bytes

theorem toNat_append (as bs : Bytes) :
    toNat (as ++ bs) = as.toNat * 256 ^ bs.length + bs.toNat := by
  induction bs using List.reverseRecOn with
  | nil => simp [toNat]
  | append_singleton bs b ih =>
    rw [← List.append_assoc, toNat_append_singleton, ih, toNat_append_singleton,
      List.length_append, List.length_singleton, Nat.pow_succ, ← Nat.mul_assoc]
    omega

theorem toNat_lt (bs : Bytes) : bs.toNat < 256 ^ bs.length := by
  induction bs using List.reverseRecOn with
  | nil => exact Nat.zero_lt_one
  | append_singleton bs b ih =>
    have hb := b.toNat_lt
    rw [toNat_append_singleton, List.length_append, List.length_singleton, Nat.pow_succ]
    omega

theorem ofNat_toNat (bs : Bytes) : ofNat bs.length bs.toNat = bs := by
  induction bs using List.reverseRecOn with
  | nil => rfl
  | append_singleton bs b ih =>
    have hb := b.toNat_lt
    have hdiv : (256 * toNat bs + b.toNat) / 256 = toNat bs := by omega
    have hmod : (256 * toNat bs + b.toNat) % 256 = b.toNat := by omega
    rw [toNat_append_singleton, List.length_append, List.length_singleton, ofNat, hdiv, hmod, ih,
      UInt8.ofNat_toNat]

theorem toNat_eq_zero {bs : Bytes} : bs.toNat = 0 ↔ bs.all (· == 0) = true := by
  induction bs using List.reverseRecOn with
  | nil => exact iff_of_true rfl rfl
  | append_singleton bs b ih =>
    rw [toNat_append_singleton, List.all_append, Bool.and_eq_true, ← ih]
    simp only [List.all_cons, List.all_nil, Bool.and_true, beq_iff_eq, ← UInt8.toNat_inj,
      UInt8.toNat_zero]
    omega

theorem any_ne_zero (bs : Bytes) : bs.any (· != 0) = decide (bs.toNat ≠ 0) := by
  have hall : bs.any (· != 0) = !bs.all (· == 0) := by
    simp only [List.any_eq_not_all_not, bne, Bool.not_not]
  rw [hall, Bool.eq_iff_iff, Bool.not_eq_true', decide_eq_true_iff, ne_eq, toNat_eq_zero,
    Bool.not_eq_true]

/-- Zeros stand in front of the last `low` bytes just if the number fits in these. -/
theorem all_take_eq_zero {bs : Bytes} (high low : Nat) (h : bs.length = high + low) :
    (bs.take high).all (· == 0) = true ↔ bs.toNat < 256 ^ low := by
  have hlow : (bs.drop high).length = low := by
    rw [List.length_drop]
    omega
  have hbs : bs.toNat = toNat (bs.take high) * 256 ^ low + toNat (bs.drop high) := by
    rw [← hlow, ← toNat_append, List.take_append_drop]
  -- All that the last bytes hold is less than one unit of those in front.
  have hlt : toNat (bs.drop high) < 256 ^ low := hlow ▸ toNat_lt _
  rw [← toNat_eq_zero]
  constructor
  · intro hzero
    rw [hbs, hzero]
    omega
  · intro hsmall
    have hmul : toNat (bs.take high) * 256 ^ low < 1 * 256 ^ low := by omega
    exact Nat.lt_one_iff.1 (Nat.lt_of_mul_lt_mul_right hmul)

end TokenBridge.Bytes
