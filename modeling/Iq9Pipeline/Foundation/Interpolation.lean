import Mathlib.Algebra.Order.Floor.Ring
import Mathlib.Algebra.Order.Ring.Defs
import Mathlib.Tactic.Linarith
import Mathlib.Tactic.Ring

/-!
Linear interpolation between samples at the integers, in one direction and in two. Outside
of the samples the nearest one counts, which is the same as moving the place to the edge.
-/

namespace Foundation

section

variable {K : Type*} [CommRing K]

def mix (weight first second : K) : K :=
  (1 - weight) * first + weight * second

@[simp] theorem mix_self (weight value : K) : mix weight value value = value := by
  rw [mix]
  ring

@[simp] theorem mix_zero (first second : K) : mix 0 first second = first := by
  rw [mix]
  ring

theorem mix_mix (row column v00 v01 v10 v11 : K) :
    mix row (mix column v00 v01) (mix column v10 v11) =
      v00 * (1 - column) * (1 - row) + v01 * column * (1 - row) + v10 * (1 - column) * row +
        v11 * column * row := by
  simp only [mix]
  ring

end

variable {K : Type*} [CommRing K] [LinearOrder K] [IsStrictOrderedRing K]

section

variable {weight first second bound : K}

theorem le_mix (positive : 0 ≤ weight) (small : weight ≤ 1) (below : bound ≤ first)
    (under : bound ≤ second) : bound ≤ mix weight first second := by
  have left := mul_le_mul_of_nonneg_left below (sub_nonneg.mpr small)
  have right := mul_le_mul_of_nonneg_left under positive
  rw [mix]
  linarith

theorem mix_le (positive : 0 ≤ weight) (small : weight ≤ 1) (above : first ≤ bound)
    (on_top : second ≤ bound) : mix weight first second ≤ bound := by
  have left := mul_le_mul_of_nonneg_left above (sub_nonneg.mpr small)
  have right := mul_le_mul_of_nonneg_left on_top positive
  rw [mix]
  linarith

end

variable [FloorRing K]

def line (sample : Int → K) (place : K) : K :=
  mix (Int.fract place) (sample ⌊place⌋) (sample (⌊place⌋ + 1))

def surface (sample : Int → Int → K) (row column : K) : K :=
  line (fun index => line (sample index) column) row

def edge (size index : Int) : Int :=
  max 0 (min index (size - 1))

def inside (size : Int) (place : K) : K :=
  max 0 (min place ((size : K) - 1))

section

variable {size : Int} {place : K}

omit [IsStrictOrderedRing K] [FloorRing K] in
theorem edge_of_mem {index : Int} (nonneg : 0 ≤ index) (small : index < size) :
    edge size index = index := by
  rw [edge, min_eq_left (by omega), max_eq_right nonneg]

theorem line_edge (positive : 0 < size) (sample : Int → K) (place : K) :
    line (fun index => sample (edge size index)) place = line sample (inside size place) := by
  have last : (0 : K) ≤ (size : K) - 1 := by
    have counted : (1 : K) ≤ (size : K) := by exact_mod_cast positive
    linarith
  rcases lt_or_ge place 0 with before | nonneg
  · have floor : ⌊place⌋ < 0 := Int.floor_lt.mpr (by exact_mod_cast before)
    have low : edge size ⌊place⌋ = 0 := by rw [edge]; omega
    have next : edge size (⌊place⌋ + 1) = 0 := by rw [edge]; omega
    have moved : inside size place = 0 := by
      rw [inside, min_eq_left (before.le.trans last), max_eq_left before.le]
    simp [line, low, next, moved]
  · rcases lt_or_ge place ((size : K) - 1) with within | beyond
    · have start : 0 ≤ ⌊place⌋ := Int.floor_nonneg.mpr nonneg
      have stop : ⌊place⌋ < size - 1 := Int.floor_lt.mpr (by exact_mod_cast within)
      rw [inside, min_eq_left within.le, max_eq_right nonneg]
      simp only [line, edge_of_mem start (by omega : ⌊place⌋ < size),
        edge_of_mem (by omega : 0 ≤ ⌊place⌋ + 1) (by omega : ⌊place⌋ + 1 < size)]
    · have floor : size - 1 ≤ ⌊place⌋ := Int.le_floor.mpr (by exact_mod_cast beyond)
      have low : edge size ⌊place⌋ = size - 1 := by rw [edge]; omega
      have next : edge size (⌊place⌋ + 1) = size - 1 := by rw [edge]; omega
      have moved : inside size place = ((size - 1 : Int) : K) := by
        rw [inside, min_eq_right beyond, max_eq_right last]
        exact_mod_cast rfl
      simp [line, low, next, moved]

omit [IsStrictOrderedRing K] in
/-- With the weight counted from a lower sample that is moved to the edge, the weight leaves
the unit interval just where both samples are the one at the edge. -/
theorem mix_clamped (positive : 0 < size) (start : -1 ≤ ⌊place⌋) (stop : ⌊place⌋ < size)
    (sample : Int → K) :
    mix (place - (max ⌊place⌋ 0 : Int)) (sample (max ⌊place⌋ 0))
        (sample (min (⌊place⌋ + 1) (size - 1))) =
      line (fun index => sample (edge size index)) place := by
  have upper : edge size (⌊place⌋ + 1) = min (⌊place⌋ + 1) (size - 1) := by rw [edge]; omega
  rcases lt_or_ge ⌊place⌋ 0 with before | nonneg
  · have low : edge size ⌊place⌋ = 0 := by rw [edge]; omega
    have next : min (⌊place⌋ + 1) (size - 1) = 0 := by omega
    simp only [line, upper, low, next, max_eq_right before.le, mix_self]
  · rw [line, upper, edge_of_mem nonneg stop, max_eq_left nonneg, Int.self_sub_floor]

theorem surface_edge {height width : Int} (high : 0 < height) (wide : 0 < width)
    (sample : Int → Int → K) (row column : K) :
    surface (fun i j => sample (edge height i) (edge width j)) row column =
      surface sample (inside height row) (inside width column) := by
  simp only [surface, line_edge wide]
  exact line_edge high (fun index => line (sample index) (inside width column)) row

theorem le_line (sample : Int → K) {bound : K} (lower : bound ≤ sample ⌊place⌋)
    (upper : bound ≤ sample (⌊place⌋ + 1)) : bound ≤ line sample place :=
  le_mix (Int.fract_nonneg place) (Int.fract_lt_one place).le lower upper

theorem line_le (sample : Int → K) {bound : K} (lower : sample ⌊place⌋ ≤ bound)
    (upper : sample (⌊place⌋ + 1) ≤ bound) : line sample place ≤ bound :=
  mix_le (Int.fract_nonneg place) (Int.fract_lt_one place).le lower upper

theorem le_surface {sample : Int → Int → K} {row column bound : K}
    (v00 : bound ≤ sample ⌊row⌋ ⌊column⌋) (v01 : bound ≤ sample ⌊row⌋ (⌊column⌋ + 1))
    (v10 : bound ≤ sample (⌊row⌋ + 1) ⌊column⌋)
    (v11 : bound ≤ sample (⌊row⌋ + 1) (⌊column⌋ + 1)) : bound ≤ surface sample row column :=
  le_line (fun index => line (sample index) column) (le_line _ v00 v01) (le_line _ v10 v11)

theorem surface_le {sample : Int → Int → K} {row column bound : K}
    (v00 : sample ⌊row⌋ ⌊column⌋ ≤ bound) (v01 : sample ⌊row⌋ (⌊column⌋ + 1) ≤ bound)
    (v10 : sample (⌊row⌋ + 1) ⌊column⌋ ≤ bound)
    (v11 : sample (⌊row⌋ + 1) (⌊column⌋ + 1) ≤ bound) : surface sample row column ≤ bound :=
  line_le (fun index => line (sample index) column) (line_le _ v00 v01) (line_le _ v10 v11)

end

end Foundation
