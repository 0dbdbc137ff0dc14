import Iq9Pipeline.Foundation.Digits
import Mathlib.Algebra.Order.Monoid.Unbundled.Pow
import Mathlib.Order.Monotone.Basic
import Mathlib.Tactic.Ring

/-!
The magnitude of a binary floating-point number, counted in units of its least subnormal
number: the bits are an exponent above `p` bits of fraction. Each next pattern is the next
larger magnitude.
-/

namespace Foundation.BinaryFloat

def units (p bits : Nat) : Nat :=
  if bits / 2 ^ p = 0 then bits % 2 ^ p else (2 ^ p + bits % 2 ^ p) * 2 ^ (bits / 2 ^ p - 1)

theorem units_mk {p exponent fraction : Nat} (small : fraction < 2 ^ p) :
    units p (exponent * 2 ^ p + fraction) =
      if exponent = 0 then fraction else (2 ^ p + fraction) * 2 ^ (exponent - 1) := by
  have quotient : (exponent * 2 ^ p + fraction) / 2 ^ p = exponent := by
    rw [Nat.mul_comm, Nat.mul_add_div (Nat.two_pow_pos p), Nat.div_eq_of_lt small, Nat.add_zero]
  have remainder : (exponent * 2 ^ p + fraction) % 2 ^ p = fraction := by
    rw [Nat.mul_comm, Nat.mul_add_mod, Nat.mod_eq_of_lt small]
  rw [units, quotient, remainder]

theorem units_subnormal {p bits : Nat} (small : bits < 2 ^ p) : units p bits = bits := by
  rw [units, Nat.div_eq_of_lt small, if_pos rfl, Nat.mod_eq_of_lt small]

theorem units_succ (p bits : Nat) :
    units p (bits + 1) = units p bits + 2 ^ (bits / 2 ^ p - 1) := by
  have split : bits = bits / 2 ^ p * 2 ^ p + bits % 2 ^ p := by
    rw [Nat.mul_comm]
    exact (Nat.div_add_mod bits (2 ^ p)).symm
  have below : bits % 2 ^ p < 2 ^ p := Nat.mod_lt _ (Nat.two_pow_pos p)
  generalize bits / 2 ^ p = exponent at split ⊢
  generalize bits % 2 ^ p = fraction at split below
  subst split
  rw [units_mk below]
  rcases Nat.lt_or_ge (fraction + 1) (2 ^ p) with room | full
  · rw [Nat.add_assoc, units_mk room]
    split
    · next zero => rw [zero, Nat.zero_sub, Nat.pow_zero]
    · ring
  -- The fraction is full, so the next pattern begins the next exponent.
  · have last : fraction + 1 = 2 ^ p := by omega
    have next : exponent * 2 ^ p + fraction + 1 = (exponent + 1) * 2 ^ p + 0 := by
      rw [Nat.add_assoc, last]
      ring
    rw [next, units_mk (Nat.two_pow_pos p), if_neg (Nat.succ_ne_zero exponent), Nat.add_sub_cancel,
      Nat.add_zero]
    split
    · next zero => rw [zero, Nat.zero_sub, Nat.pow_zero, Nat.mul_one, last]
    · next normal =>
        obtain ⟨lower, rfl⟩ := Nat.exists_eq_succ_of_ne_zero normal
        rw [Nat.succ_sub_one, ← last, Nat.pow_succ]
        ring

theorem units_strictMono (p : Nat) : StrictMono (units p) :=
  strictMono_nat_of_lt_succ fun bits => by
    rw [units_succ]
    exact Nat.lt_add_of_pos_right (Nat.two_pow_pos _)

structure Cuts (p k bits amount : Nat) : Prop where
  below : units p bits * 2 ^ k ≤ amount
  above : amount < units p (bits + 1) * 2 ^ k

variable {p k bits other amount more : Nat}

theorem Cuts.le_of_units_le (cuts : Cuts p k bits amount)
    (within : units p other * 2 ^ k ≤ amount) : other ≤ bits := by
  have less := Nat.lt_of_mul_lt_mul_right (Nat.lt_of_le_of_lt within cuts.above)
  exact Nat.lt_succ_iff.mp ((units_strictMono p).lt_iff_lt.mp less)

theorem Cuts.mono (cuts : Cuts p k bits amount) (cuts' : Cuts p k other more)
    (le : amount ≤ more) : bits ≤ other :=
  cuts'.le_of_units_le (cuts.below.trans le)

theorem Cuts.exact (cuts : Cuts p k bits amount) (same : amount = units p other * 2 ^ k) :
    bits = other := by
  apply Nat.le_antisymm
  · apply (units_strictMono p).le_iff_le.mp
    exact Nat.le_of_mul_le_mul_right (same ▸ cuts.below) (Nat.two_pow_pos k)
  · exact cuts.le_of_units_le same.ge

theorem cuts_subnormal {significand down up : Nat} (small : significand / 2 ^ down < 2 ^ p) :
    Cuts p (down + up) (significand / 2 ^ down) (significand * 2 ^ up) := by
  constructor
  · rw [units_subnormal small, Nat.pow_add, ← Nat.mul_assoc]
    exact Nat.mul_le_mul_right _ (Nat.div_mul_le_self _ _)
  · rw [units_succ, units_subnormal small, Nat.div_eq_of_lt small, Nat.zero_sub, Nat.pow_zero,
      Nat.pow_add, ← Nat.mul_assoc]
    exact Nat.mul_lt_mul_of_pos_right (Nat.lt_mul_of_div_lt (Nat.lt_succ_self _)
      (Nat.two_pow_pos _)) (Nat.two_pow_pos _)

theorem cuts_normal {d exponent fraction up : Nat} (normal : exponent ≠ 0)
    (small : fraction < 2 ^ (p + d)) :
    Cuts p (d + up) (exponent * 2 ^ p + fraction / 2 ^ d)
      ((2 ^ (p + d) + fraction) * 2 ^ (exponent - 1 + up)) := by
  have cut : fraction / 2 ^ d < 2 ^ p := by
    rw [Nat.div_lt_iff_lt_mul (Nat.two_pow_pos d), ← Nat.pow_add]
    exact small
  have field : (exponent * 2 ^ p + fraction / 2 ^ d) / 2 ^ p = exponent := by
    rw [Nat.mul_comm, Nat.mul_add_div (Nat.two_pow_pos p), Nat.div_eq_of_lt cut, Nat.add_zero]
  have least := Nat.div_mul_le_self fraction (2 ^ d)
  have most : fraction < (fraction / 2 ^ d + 1) * 2 ^ d :=
    Nat.lt_mul_of_div_lt (Nat.lt_succ_self _) (Nat.two_pow_pos _)
  have scale (significand : Nat) : significand * 2 ^ (exponent - 1) * 2 ^ (d + up) =
      significand * 2 ^ d * 2 ^ (exponent - 1 + up) := by
    ring
  constructor
  · rw [units_mk cut, if_neg normal, scale]
    apply Nat.mul_le_mul_right
    rw [Nat.add_mul, ← Nat.pow_add]
    omega
  · rw [units_succ, field, units_mk cut, if_neg normal, ← Nat.succ_mul, scale]
    apply Nat.mul_lt_mul_of_pos_right _ (Nat.two_pow_pos _)
    rw [Nat.succ_eq_add_one, Nat.add_assoc, Nat.add_mul, ← Nat.pow_add]
    omega

end Foundation.BinaryFloat
