import Mathlib.Algebra.Order.Floor.Div
import Mathlib.Algebra.Order.Floor.Semifield
import Mathlib.Analysis.Real.Sqrt

/-!
The integer part of quotients and of their roots.
-/

namespace Foundation

theorem sqrt_div_mul_self (number : Nat) {divisor : Nat} (positive : 0 < divisor) :
    Nat.sqrt (number / (divisor * divisor)) = Nat.sqrt number / divisor := by
  apply eq_of_forall_le_iff
  intro root
  have square : root * root * (divisor * divisor) = root * divisor * (root * divisor) := by ring
  rw [Nat.le_div_iff_mul_le positive, Nat.le_sqrt, Nat.le_sqrt,
    Nat.le_div_iff_mul_le (Nat.mul_pos positive positive), square]

theorem floor_natCast_div (number divisor : Nat) :
    ⌊(number : ℝ) / divisor⌋ = (number / divisor : Nat) := by
  rw [Int.floor_div_natCast, Int.floor_natCast]
  rfl

theorem ceil_natCast_div (number : Nat) {divisor : Nat} (positive : 0 < divisor) :
    ⌈(number : ℝ) / divisor⌉ = (number ⌈/⌉ divisor : Nat) := by
  have real : (0 : ℝ) < divisor := Nat.cast_pos.mpr positive
  rw [← Int.natCast_ceil_eq_ceil (by positivity), Nat.cast_inj]
  apply eq_of_forall_ge_iff
  intro bound
  rw [Nat.ceil_le, div_le_iff₀ real, ceilDiv_le_iff_le_mul positive, Nat.mul_comm]
  norm_cast

theorem floor_sqrt_div (number : Nat) {divisor : Nat} (positive : 0 < divisor) :
    ⌊√((number : ℝ) / divisor)⌋ = (Nat.sqrt (number / divisor) : Nat) := by
  have real : (0 : ℝ) < divisor := Nat.cast_pos.mpr positive
  rw [← Int.natCast_floor_eq_floor (Real.sqrt_nonneg _), Nat.cast_inj]
  apply eq_of_forall_le_iff
  intro root
  rw [Nat.le_floor_iff (Real.sqrt_nonneg _), Real.le_sqrt (Nat.cast_nonneg root) (by positivity),
    le_div_iff₀ real, Nat.le_sqrt, Nat.le_div_iff_mul_le positive]
  norm_cast
  rw [Nat.pow_two]

end Foundation
