import Mathlib.Algebra.Order.Group.Nat

/-! Signed arithmetic on words that are not negative is arithmetic on natural numbers. -/

namespace Lib

variable {w : Nat} {x y : BitVec w}

/-- The word is not negative as a signed number. -/
def Nonneg (x : BitVec w) : Prop := 2 * x.toNat < 2 ^ w

instance : Decidable (Nonneg x) := by unfold Nonneg; infer_instance

theorem Nonneg.msb (nonneg : Nonneg x) : x.msb = false := by
  rw [BitVec.msb_eq_false_iff_two_mul_lt]
  exact nonneg

theorem Nonneg.toInt (nonneg : Nonneg x) : x.toInt = x.toNat := BitVec.toInt_eq_toNat_of_lt nonneg

theorem Nonneg.toNat_sdiv (nonneg : Nonneg x) (divisor : Nonneg y) :
    (x.sdiv y).toNat = x.toNat / y.toNat := by
  rw [BitVec.sdiv_eq, nonneg.msb, divisor.msb]
  rfl

theorem Nonneg.toNat_srem (nonneg : Nonneg x) (divisor : Nonneg y) :
    (x.srem y).toNat = x.toNat % y.toNat := by
  rw [BitVec.srem_eq, nonneg.msb, divisor.msb]
  rfl

theorem Nonneg.toNat_sshiftRight (nonneg : Nonneg x) (k : Nat) :
    (x.sshiftRight k).toNat = x.toNat / 2 ^ k := by
  rw [BitVec.sshiftRight_eq_of_msb_false nonneg.msb, BitVec.toNat_ushiftRight, Nat.shiftRight_eq_div_pow]

theorem nonneg_of_toInt (least : 0 ≤ x.toInt) : Nonneg x := by
  rw [Nonneg]
  have range := BitVec.toInt_eq_toNat_cond x
  split at range <;> omega

end Lib
