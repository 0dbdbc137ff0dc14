import Mathlib.Algebra.BigOperators.Field
import Mathlib.Algebra.Order.BigOperators.Group.Finset
import Mathlib.Algebra.Order.Field.Basic
import Mathlib.Tactic.FieldSimp
import Mathlib.Tactic.Linarith
import Mathlib.Tactic.LinearCombination
import Mathlib.Tactic.Positivity
import Mathlib.Tactic.Ring

/-!
Maps of the plane that turn, scale and move it, and how well one takes a family of points
to another. The squared error is least exactly where the normal equations hold.
-/

namespace Foundation.Similarity

@[ext] structure Point (K : Type*) where
  x : K
  y : K
deriving DecidableEq

/-- Takes `(x, y)` to `(a x - b y + tx, b x + a y + ty)`. -/
structure Planar (K : Type*) where
  a : K
  b : K
  tx : K
  ty : K
deriving DecidableEq

section

variable {K ι : Type*} [Field K] [Fintype ι]

def Planar.apply (map : Planar K) (point : Point K) : Point K where
  x := map.a * point.x - map.b * point.y + map.tx
  y := map.b * point.x + map.a * point.y + map.ty

def center (points : ι → Point K) : Point K where
  x := (∑ i, (points i).x) / Fintype.card ι
  y := (∑ i, (points i).y) / Fintype.card ι

def centered (points : ι → Point K) (i : ι) : Point K where
  x := (points i).x - (center points).x
  y := (points i).y - (center points).y

def spread (points : ι → Point K) : K :=
  ∑ i, ((centered points i).x * (centered points i).x +
    (centered points i).y * (centered points i).y)

def along (src dst : ι → Point K) : K :=
  ∑ i, ((centered dst i).x * (centered src i).x + (centered dst i).y * (centered src i).y)

def across (src dst : ι → Point K) : K :=
  ∑ i, ((centered dst i).y * (centered src i).x - (centered dst i).x * (centered src i).y)

def squaredError (map : Planar K) (src dst : ι → Point K) : K :=
  ∑ i, (((map.apply (src i)).x - (dst i).x) ^ 2 + ((map.apply (src i)).y - (dst i).y) ^ 2)

def drift (map : Planar K) (src dst : ι → Point K) : Point K where
  x := (map.apply (center src)).x - (center dst).x
  y := (map.apply (center src)).y - (center dst).y

variable [CharZero K] [Nonempty ι] (points src dst : ι → Point K)

theorem card_ne_zero : (Fintype.card ι : K) ≠ 0 :=
  Nat.cast_ne_zero.mpr Fintype.card_ne_zero

@[simp] theorem sum_centered_x : ∑ i, (centered points i).x = 0 := by
  have positive := @card_ne_zero K ι _ _ _ _
  simp only [centered, Finset.sum_sub_distrib, Finset.sum_const, Finset.card_univ, center,
    nsmul_eq_mul]
  field_simp
  ring

@[simp] theorem sum_centered_y : ∑ i, (centered points i).y = 0 := by
  have positive := @card_ne_zero K ι _ _ _ _
  simp only [centered, Finset.sum_sub_distrib, Finset.sum_const, Finset.card_univ, center,
    nsmul_eq_mul]
  field_simp
  ring

theorem squaredError_eq (map : Planar K) :
    squaredError map src dst =
      Fintype.card ι * ((drift map src dst).x ^ 2 + (drift map src dst).y ^ 2) +
        ((map.a ^ 2 + map.b ^ 2) * spread src - 2 * map.a * along src dst -
          2 * map.b * across src dst) + spread dst := by
  let u := (drift map src dst).x
  let v := (drift map src dst).y
  have each (i : ι) :
      ((map.apply (src i)).x - (dst i).x) ^ 2 + ((map.apply (src i)).y - (dst i).y) ^ 2 =
        (u ^ 2 + v ^ 2) +
        (map.a ^ 2 + map.b ^ 2) * ((centered src i).x * (centered src i).x +
          (centered src i).y * (centered src i).y) -
        2 * map.a * ((centered dst i).x * (centered src i).x +
          (centered dst i).y * (centered src i).y) -
        2 * map.b * ((centered dst i).y * (centered src i).x -
          (centered dst i).x * (centered src i).y) +
        ((centered dst i).x * (centered dst i).x + (centered dst i).y * (centered dst i).y) +
        2 * (map.a * u + map.b * v) * (centered src i).x +
        2 * (map.a * v - map.b * u) * (centered src i).y -
        2 * u * (centered dst i).x - 2 * v * (centered dst i).y := by
    simp only [u, v, drift, centered, Planar.apply]
    ring
  simp only [squaredError, each, Finset.sum_add_distrib, Finset.sum_sub_distrib, ← Finset.mul_sum,
    sum_centered_x, sum_centered_y, Finset.sum_const, Finset.card_univ, nsmul_eq_mul]
  simp only [spread, along, across, Finset.sum_add_distrib, Finset.sum_sub_distrib, u, v]
  ring

def moved (map : Planar K) (points : ι → Point K) (i : ι) : Point K :=
  map.apply (points i)

theorem center_moved (map : Planar K) : center (moved map points) = map.apply (center points) := by
  have positive := @card_ne_zero K ι _ _ _ _
  simp only [center, moved, Planar.apply, Finset.sum_add_distrib, Finset.sum_sub_distrib,
    ← Finset.mul_sum, Finset.sum_const, Finset.card_univ, nsmul_eq_mul, Point.mk.injEq]
  constructor <;> field_simp

theorem centered_moved (map : Planar K) (i : ι) :
    centered (moved map points) i =
      ⟨map.a * (centered points i).x - map.b * (centered points i).y,
        map.b * (centered points i).x + map.a * (centered points i).y⟩ := by
  simp only [centered, center_moved, moved, Planar.apply, Point.mk.injEq]
  constructor <;> ring

theorem spread_moved (map : Planar K) :
    spread (moved map points) = (map.a ^ 2 + map.b ^ 2) * spread points := by
  simp only [spread, centered_moved, Finset.mul_sum]
  exact Finset.sum_congr rfl fun i _ => by ring

theorem along_moved (map : Planar K) : along (moved map points) points = map.a * spread points := by
  simp only [along, spread, centered_moved, Finset.mul_sum]
  exact Finset.sum_congr rfl fun i _ => by ring

theorem across_moved (map : Planar K) :
    across (moved map points) points = -map.b * spread points := by
  simp only [across, spread, centered_moved, Finset.mul_sum]
  exact Finset.sum_congr rfl fun i _ => by ring

end

section

variable {K ι : Type*} [Field K] [LinearOrder K] [IsStrictOrderedRing K] [Fintype ι] [Nonempty ι]
  {src dst : ι → Point K} {map : Planar K}

/-- Maps that agree on points which do not coincide have the same turn and scale. -/
theorem turn_eq {map other : Planar K} (apart : 0 < spread src)
    (same : ∀ i, map.apply (src i) = other.apply (src i)) :
    map.a = other.a ∧ map.b = other.b := by
  have moves : moved map src = moved other src := funext same
  have linear (i : ι) : ((map.a - other.a) ^ 2 + (map.b - other.b) ^ 2) *
      ((centered src i).x * (centered src i).x + (centered src i).y * (centered src i).y) = 0 := by
    have each := congrFun (congrArg centered moves) i
    rw [centered_moved, centered_moved, Point.mk.injEq] at each
    obtain ⟨first, second⟩ := each
    have x : (map.a - other.a) * (centered src i).x = (map.b - other.b) * (centered src i).y := by
      linear_combination first
    have y : (map.b - other.b) * (centered src i).x = -(map.a - other.a) * (centered src i).y := by
      linear_combination second
    linear_combination (map.a - other.a) * (centered src i).x * x +
      (map.b - other.b) * (centered src i).x * y +
      (map.a - other.a) * (centered src i).y * y - (map.b - other.b) * (centered src i).y * x
  have product : ((map.a - other.a) ^ 2 + (map.b - other.b) ^ 2) * spread src = 0 := by
    rw [spread, Finset.mul_sum]
    exact Finset.sum_eq_zero fun i _ => linear i
  have zero := (mul_eq_zero.mp product).resolve_right apart.ne'
  obtain ⟨a, b⟩ := (add_eq_zero_iff_of_nonneg (sq_nonneg _) (sq_nonneg _)).mp zero
  exact ⟨sub_eq_zero.mp (pow_eq_zero_iff two_ne_zero |>.mp a),
    sub_eq_zero.mp (pow_eq_zero_iff two_ne_zero |>.mp b)⟩

def Fits (map : Planar K) (src dst : ι → Point K) : Prop :=
  ∀ other : Planar K, squaredError map src dst ≤ squaredError other src dst

structure Normal (map : Planar K) (src dst : ι → Point K) : Prop where
  a : map.a * spread src = along src dst
  b : map.b * spread src = across src dst
  x : (drift map src dst).x = 0
  y : (drift map src dst).y = 0

def defect (map : Planar K) (src dst : ι → Point K) : K :=
  Fintype.card ι * ((drift map src dst).x ^ 2 + (drift map src dst).y ^ 2) +
    ((map.a * spread src - along src dst) ^ 2 + (map.b * spread src - across src dst) ^ 2) /
      spread src

theorem squaredError_eq_defect (apart : 0 < spread src) :
    squaredError map src dst = defect map src dst +
      (spread dst - (along src dst ^ 2 + across src dst ^ 2) / spread src) := by
  have nonzero := apart.ne'
  rw [squaredError_eq, defect]
  field_simp
  ring

theorem defect_nonneg (apart : 0 < spread src) (map : Planar K) : 0 ≤ defect map src dst := by
  rw [defect]
  positivity

theorem defect_eq_zero_iff (apart : 0 < spread src) :
    defect map src dst = 0 ↔ Normal map src dst := by
  have count : (0 : K) < Fintype.card ι := Nat.cast_pos.mpr Fintype.card_pos
  constructor
  · intro zero
    have first : 0 ≤ (Fintype.card ι : K) *
        ((drift map src dst).x ^ 2 + (drift map src dst).y ^ 2) := by positivity
    have second : 0 ≤ ((map.a * spread src - along src dst) ^ 2 +
        (map.b * spread src - across src dst) ^ 2) / spread src := by positivity
    rw [defect] at zero
    have moved := (mul_eq_zero.mp (le_antisymm (by linarith) first)).resolve_left count.ne'
    have turned := (div_eq_zero_iff.mp (le_antisymm (by linarith) second)).resolve_right apart.ne'
    obtain ⟨x, y⟩ := (add_eq_zero_iff_of_nonneg (sq_nonneg _) (sq_nonneg _)).mp moved
    obtain ⟨a, b⟩ := (add_eq_zero_iff_of_nonneg (sq_nonneg _) (sq_nonneg _)).mp turned
    exact ⟨sub_eq_zero.mp (pow_eq_zero_iff two_ne_zero |>.mp a),
      sub_eq_zero.mp (pow_eq_zero_iff two_ne_zero |>.mp b),
      pow_eq_zero_iff two_ne_zero |>.mp x, pow_eq_zero_iff two_ne_zero |>.mp y⟩
  · intro normal
    rw [defect, normal.a, normal.b, normal.x, normal.y]
    ring

def solution (src dst : ι → Point K) : Planar K :=
  let a := along src dst / spread src
  let b := across src dst / spread src
  { a := a
    b := b
    tx := (center dst).x - a * (center src).x + b * (center src).y
    ty := (center dst).y - b * (center src).x - a * (center src).y }

omit [Nonempty ι] in
theorem solution_normal (apart : 0 < spread src) : Normal (solution src dst) src dst where
  a := div_mul_cancel₀ _ apart.ne'
  b := div_mul_cancel₀ _ apart.ne'
  x := by simp [drift, Planar.apply, solution]
  y := by
    simp only [drift, Planar.apply, solution]
    ring

theorem fits_iff_normal (apart : 0 < spread src) :
    Fits map src dst ↔ Normal map src dst := by
  rw [← defect_eq_zero_iff apart]
  constructor
  · intro fits
    have least := fits (solution src dst)
    rw [squaredError_eq_defect apart, squaredError_eq_defect apart,
      (defect_eq_zero_iff apart).mpr (solution_normal apart)] at least
    exact le_antisymm (by linarith) (defect_nonneg apart map)
  · intro zero other
    rw [squaredError_eq_defect apart, squaredError_eq_defect apart, zero]
    linarith [@defect_nonneg K ι _ _ _ _ _ src dst apart other]

end

end Foundation.Similarity
