import Iq9Pipeline.Foundation.Numerals
import Mathlib.Algebra.Order.Floor.Ring
import Mathlib.Tactic.Linarith
import Mathlib.Tactic.NormNum

/-!
Rounding to the nearest integer, where halves go away from zero, as `round` of C has it.
-/

namespace Foundation.Rounding

open Numerals

variable {K : Type*} [Field K] [LinearOrder K] [FloorRing K]

def roundAway (value : K) : Int :=
  if 0 ≤ value then ⌊value + 1 / 2⌋ else ⌈value - 1 / 2⌉

variable [IsStrictOrderedRing K] {value : K}

theorem roundAway_natCast (count : Nat) : roundAway (count : K) = count := by
  rw [roundAway, if_pos (Nat.cast_nonneg count), Int.floor_eq_iff]
  constructor
  · push_cast
    linarith
  · push_cast
    linarith

theorem abs_roundAway_sub_le (value : K) : |(roundAway value : K) - value| ≤ 1 / 2 := by
  rw [roundAway, abs_le]
  split
  · have least := Int.floor_le (value + 1 / 2)
    have most := Int.lt_floor_add_one (value + 1 / 2)
    exact ⟨by linarith, by linarith⟩
  · have least := Int.le_ceil (value - 1 / 2)
    have most := Int.ceil_lt_add_one (value - 1 / 2)
    exact ⟨by linarith, by linarith⟩

theorem roundAway_nonpos (below : value < 0) : roundAway value ≤ 0 := by
  rw [roundAway, if_neg below.not_ge, Int.ceil_le]
  push_cast
  linarith

theorem roundAway_nonneg (above : 0 ≤ value) : 0 ≤ roundAway value := by
  rw [roundAway, if_pos above, Int.le_floor]
  push_cast
  linarith

theorem roundAway_lt_iff {bound : Int} (positive : 0 < bound) :
    roundAway value < bound ↔ value < bound - 1 / 2 := by
  have one : (1 : K) ≤ bound := by exact_mod_cast positive
  rw [roundAway]
  split
  · rw [Int.floor_lt]
    exact ⟨fun less => by linarith, fun less => by linarith⟩
  · next below =>
      have under : ⌈value - 1 / 2⌉ ≤ 0 := by
        rw [Int.ceil_le]
        push_cast
        linarith
      exact iff_of_true (under.trans_lt positive) (by linarith)

theorem le_roundAway_iff {bound : Int} (negative : bound < 0) :
    bound ≤ roundAway value ↔ (bound : K) - 1 / 2 < value := by
  have one : (bound : K) ≤ -1 := by exact_mod_cast (show bound ≤ -1 by omega)
  rw [roundAway]
  split
  · next above =>
      have beyond : 0 ≤ ⌊value + 1 / 2⌋ := by
        rw [Int.le_floor]
        push_cast
        linarith
      exact iff_of_true (negative.le.trans beyond) (by linarith)
  · rw [← Int.sub_one_lt_iff, Int.lt_ceil]
    push_cast
    exact ⟨fun less => by linarith, fun less => by linarith⟩

end Foundation.Rounding
