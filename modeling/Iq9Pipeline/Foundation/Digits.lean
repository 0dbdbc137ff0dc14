import Mathlib.Data.Nat.Init

/-!
Numbers of two digits, where the high one may be of any size: their range, and how they
tell their digits.
-/

namespace Foundation

theorem digits_lt {high bound low base : Nat} (less : high < bound) (small : low < base) :
    high * base + low < bound * base :=
  calc high * base + low < high * base + base := Nat.add_lt_add_left small _
    _ = (high + 1) * base := (Nat.succ_mul _ _).symm
    _ ≤ bound * base := Nat.mul_le_mul_right _ less

theorem digits_inj {high high' low low' base : Nat} (small : low < base) (small' : low' < base)
    (same : high * base + low = high' * base + low') : high = high' ∧ low = low' := by
  have positive : 0 < base := by omega
  have quotient := congrArg (· / base) same
  have remainder := congrArg (· % base) same
  simp only [Nat.mul_comm _ base, Nat.mul_add_div positive, Nat.div_eq_of_lt small,
    Nat.div_eq_of_lt small', Nat.add_zero] at quotient
  simp only [Nat.mul_comm _ base, Nat.mul_add_mod, Nat.mod_eq_of_lt small,
    Nat.mod_eq_of_lt small'] at remainder
  exact ⟨quotient, remainder⟩

theorem eq_of_digits {first second base : Nat} (high : first / base = second / base)
    (low : first % base = second % base) : first = second := by
  rw [← Nat.div_add_mod first base, high, low, Nat.div_add_mod]

end Foundation
