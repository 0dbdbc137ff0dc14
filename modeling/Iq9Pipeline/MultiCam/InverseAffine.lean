import Iq9Pipeline.Foundation.Similarity
import Mathlib.Algebra.BigOperators.Fin
import Mathlib.Tactic.NormNum.OfScientific

/-!
The alignment of a face (`inverse_affine.hpp`), in exact arithmetic. The map that it fits to
the landmarks turns the wrong way, so that a turned face is not taken back to where it was.
-/

namespace Iq9Pipeline.MultiCam

open Foundation.Similarity

structure InverseAffine (K : Type*) where
  m00 : K
  m01 : K
  m02 : K
  m10 : K
  m11 : K
  m12 : K
deriving DecidableEq

abbrev Landmarks (K : Type*) := Fin 5 → Point K

section

variable {K : Type*} [Field K]

def InverseAffine.apply (inv : InverseAffine K) (point : Point K) : Point K where
  x := inv.m00 * point.x + inv.m01 * point.y + inv.m02
  y := inv.m10 * point.x + inv.m11 * point.y + inv.m12

def kArcfaceRefLandmarks : Landmarks K :=
  ![⟨38.2946, 51.6963⟩, ⟨73.5318, 51.5014⟩, ⟨56.0252, 71.7366⟩, ⟨41.5493, 92.3655⟩,
    ⟨70.7299, 92.2041⟩]

def centroid (points : Landmarks K) : Point K where
  x := (∑ i, (points i).x) / 5
  y := (∑ i, (points i).y) / 5

structure Sums (K : Type*) where
  numA : K
  numB : K
  denom : K

def sums (src : Landmarks K) : Sums K :=
  let s := centroid src
  let d := centroid kArcfaceRefLandmarks
  let sxi := fun i => (src i).x - s.x
  let syi := fun i => (src i).y - s.y
  let dxi := fun i => (kArcfaceRefLandmarks i).x - d.x
  let dyi := fun i => (kArcfaceRefLandmarks i).y - d.y
  { numA := ∑ i, (dxi i * sxi i + dyi i * syi i)
    numB := ∑ i, (dxi i * syi i - dyi i * sxi i)
    denom := ∑ i, (sxi i * sxi i + syi i * syi i) }

def forward (src : Landmarks K) : Planar K :=
  let s := centroid src
  let d := centroid kArcfaceRefLandmarks
  let a := (sums src).numA / (sums src).denom
  let b := (sums src).numB / (sums src).denom
  { a := a
    b := b
    tx := d.x - a * s.x + b * s.y
    ty := d.y - b * s.x - a * s.y }

variable [LinearOrder K]

def inverseOf (map : Planar K) : InverseAffine K :=
  let det := map.a * map.a + map.b * map.b
  let det := if det < 1e-10 then 1e-10 else det
  let invDet := 1 / det
  { m00 := map.a * invDet
    m01 := map.b * invDet
    m02 := -(map.a * map.tx + map.b * map.ty) * invDet
    m10 := -map.b * invDet
    m11 := map.a * invDet
    m12 := (map.b * map.tx - map.a * map.ty) * invDet }

def computeInverseAffine (src : Landmarks K) : InverseAffine K :=
  let s := centroid src
  let d := centroid (kArcfaceRefLandmarks : Landmarks K)
  if (sums src).denom < 1e-10 then ⟨1, 0, s.x - d.x, 0, 1, s.y - d.y⟩
  else inverseOf (forward src)

end

section

variable {K : Type*} [Field K] (src : Landmarks K)

theorem centroid_eq_center : centroid src = center src := by
  simp [centroid, center]

theorem denom_eq : (sums src).denom = spread src := by
  simp only [sums, spread, centered, centroid_eq_center]

theorem numA_eq : (sums src).numA = along src kArcfaceRefLandmarks := by
  simp only [sums, along, centered, centroid_eq_center]

/-- The sum has the other sign than that of the normal equations. -/
theorem numB_eq : (sums src).numB = -across src kArcfaceRefLandmarks := by
  simp only [sums, across, centered, centroid_eq_center, ← Finset.sum_neg_distrib, neg_sub]

/-- The best fit does not turn the landmarks, except around. -/
def Unturned : Prop :=
  ∑ i, (centered kArcfaceRefLandmarks i).y * (centered src i).x =
    ∑ i, (centered kArcfaceRefLandmarks i).x * (centered src i).y

theorem unturned_iff : Unturned src ↔ across src kArcfaceRefLandmarks = 0 := by
  rw [Unturned, across, Finset.sum_sub_distrib, sub_eq_zero]

end

section

variable {K : Type*} [Field K] [LinearOrder K] [IsStrictOrderedRing K]

theorem forward_fits_iff (src : Landmarks K) (apart : 0 < (sums src).denom) :
    Fits (forward src) src kArcfaceRefLandmarks ↔ Unturned src := by
  rw [denom_eq] at apart
  rw [fits_iff_normal apart, unturned_iff]
  have turned : (forward src).b * spread src = -across src kArcfaceRefLandmarks := by
    rw [forward, denom_eq, numB_eq]
    exact div_mul_cancel₀ _ apart.ne'
  constructor
  · intro normal
    have same := normal.b.symm.trans turned
    linarith
  · intro zero
    refine ⟨?_, by rw [turned, zero, neg_zero], ?_, ?_⟩
    · rw [forward, denom_eq, numA_eq]
      exact div_mul_cancel₀ _ apart.ne'
    · simp [drift, Planar.apply, forward, centroid_eq_center]
    · simp only [drift, Planar.apply, forward, centroid_eq_center]
      ring

structure Pose (K : Type*) [Field K] extends Planar K where
  scaled : a ≠ 0 ∨ b ≠ 0

variable (pose : Pose K)

def Pose.landmarks : Landmarks K :=
  moved pose.toPlanar kArcfaceRefLandmarks

def Recovers : Prop :=
  ∀ i, (computeInverseAffine pose.landmarks).apply (kArcfaceRefLandmarks i) = pose.landmarks i

def Pose.size : K :=
  pose.a ^ 2 + pose.b ^ 2

theorem Pose.size_pos : 0 < pose.size := by
  rcases pose.scaled with nonzero | nonzero
  · exact add_pos_of_pos_of_nonneg (by positivity) (sq_nonneg _)
  · exact add_pos_of_nonneg_of_pos (sq_nonneg _) (by positivity)

theorem spread_reference : 1 < spread (kArcfaceRefLandmarks : Landmarks K) := by
  simp only [spread, centered, center, Fin.sum_univ_five, kArcfaceRefLandmarks, Matrix.cons_val,
    Fintype.card_fin]
  norm_num

theorem denom_landmarks :
    (sums pose.landmarks).denom = pose.size * spread kArcfaceRefLandmarks := by
  rw [denom_eq]
  exact spread_moved _ _

/-- The turn of the fitted map is that of the pose, and not the way back. -/
theorem forward_landmarks :
    (forward pose.landmarks).a = pose.a / pose.size ∧
      (forward pose.landmarks).b = pose.b / pose.size := by
  have apart := (zero_lt_one.trans (@spread_reference K _ _ _)).ne'
  have positive := pose.size_pos.ne'
  have along : (sums pose.landmarks).numA = pose.a * spread kArcfaceRefLandmarks := by
    rw [numA_eq]
    exact along_moved _ _
  have across : (sums pose.landmarks).numB = pose.b * spread kArcfaceRefLandmarks := by
    rw [numB_eq, Pose.landmarks, across_moved]
    ring
  constructor
  · simp only [forward, denom_landmarks, along]
    field_simp
  · simp only [forward, denom_landmarks, across]
    field_simp

def det (map : Planar K) : K :=
  map.a * map.a + map.b * map.b

theorem det_forward : det (forward pose.landmarks) = 1 / pose.size := by
  have positive := pose.size_pos.ne'
  rw [det, (forward_landmarks pose).1, (forward_landmarks pose).2]
  field_simp
  rw [Pose.size]

theorem inverse_apply (map : Planar K) (invertible : 1e-10 ≤ det map) (point : Point K) :
    (inverseOf map).apply (map.apply point) = point := by
  have positive : 0 < det map := lt_of_lt_of_le (by norm_num) invertible
  have nonzero : map.a ^ 2 + map.b ^ 2 ≠ 0 := by
    rw [pow_two, pow_two]
    exact positive.ne'
  have guard : ¬ map.a * map.a + map.b * map.b < 1e-10 := invertible.not_gt
  simp only [inverseOf, if_neg guard, InverseAffine.apply, Planar.apply]
  ext
  all_goals
    field_simp
    ring

def InverseAffine.toPlanar (inv : InverseAffine K) : Planar K :=
  ⟨inv.m00, inv.m10, inv.m02, inv.m12⟩

theorem computed_apply (src : Landmarks K) (point : Point K) :
    (computeInverseAffine src).apply point =
      (computeInverseAffine src).toPlanar.apply point := by
  simp only [computeInverseAffine, InverseAffine.apply, InverseAffine.toPlanar, Planar.apply]
  split
  · simp
  · simp only [inverseOf]
    ext
    all_goals ring

def floored (map : Planar K) : K :=
  if det map < 1e-10 then 1e-10 else det map

theorem floored_pos (map : Planar K) : 0 < floored map := by
  have least : (0 : K) < 1e-10 := by norm_num
  rw [floored]
  split
  · exact least
  · next large => exact lt_of_lt_of_le least (not_lt.mp large)

omit [IsStrictOrderedRing K] in
theorem inverse_turn (map : Planar K) :
    (inverseOf map).m00 = map.a / floored map ∧ (inverseOf map).m10 = -map.b / floored map :=
  ⟨mul_one_div _ _, mul_one_div _ _⟩

theorem turn_of_inverse (a : (inverseOf (forward pose.landmarks)).m00 = pose.a)
    (b : (inverseOf (forward pose.landmarks)).m10 = pose.b) :
    pose.b = 0 ∧ 1e-10 * pose.size ≤ 1 := by
  have size := pose.size_pos
  have floor := floored_pos (forward pose.landmarks)
  rw [(inverse_turn _).1, (forward_landmarks pose).1, div_div] at a
  rw [(inverse_turn _).2, (forward_landmarks pose).2, ← neg_div, div_div] at b
  have product := mul_pos size floor
  have unturned : pose.b = 0 := by
    have opposite := (div_eq_iff product.ne').mp b
    have zero : pose.b * (pose.size * floored (forward pose.landmarks) + 1) = 0 := by
      linear_combination -opposite
    exact (mul_eq_zero.mp zero).resolve_right (by positivity)
  refine ⟨unturned, ?_⟩
  have nonzero : pose.a ≠ 0 := pose.scaled.resolve_right (not_not.mpr unturned)
  have unit : pose.size * floored (forward pose.landmarks) = 1 := by
    have same := (div_eq_iff product.ne').mp a
    exact mul_left_cancel₀ nonzero (by rw [← same, mul_one])
  rw [floored, det_forward] at unit
  split at unit
  · linarith
  · next large =>
      rw [not_lt, le_div_iff₀ size] at large
      exact large

/-- Without a turn the fitted map is the way back. -/
theorem forward_apply (unturned : pose.b = 0) (a : (forward pose.landmarks).a * pose.a = 1)
    (b : (forward pose.landmarks).b = 0) (i : Fin 5) :
    (forward pose.landmarks).apply (pose.landmarks i) = kArcfaceRefLandmarks i := by
  let d : Point K := center kArcfaceRefLandmarks
  have s : centroid pose.landmarks = pose.toPlanar.apply d := by
    rw [centroid_eq_center]
    exact center_moved _ _
  have x : (forward pose.landmarks).tx =
      d.x - (forward pose.landmarks).a * (centroid pose.landmarks).x +
        (forward pose.landmarks).b * (centroid pose.landmarks).y := by
    rw [forward, centroid_eq_center kArcfaceRefLandmarks]
  have y : (forward pose.landmarks).ty =
      d.y - (forward pose.landmarks).b * (centroid pose.landmarks).x -
        (forward pose.landmarks).a * (centroid pose.landmarks).y := by
    rw [forward, centroid_eq_center kArcfaceRefLandmarks]
  rw [s, b] at x y
  simp only [Planar.apply, unturned] at x y
  have place : pose.landmarks i = pose.toPlanar.apply (kArcfaceRefLandmarks i) := rfl
  rw [place]
  generalize (kArcfaceRefLandmarks i : Point K) = p
  simp only [Planar.apply, x, y, unturned]
  ext
  · linear_combination (p.x - d.x) * a - (pose.a * p.y + pose.ty) * b
  · linear_combination (p.y - d.y) * a + (pose.a * p.x + pose.tx) * b

omit [LinearOrder K] [IsStrictOrderedRing K] in
theorem unturned_size (unturned : pose.b = 0) : pose.size = pose.a ^ 2 := by
  rw [Pose.size, unturned]
  ring

theorem unturned_forward_apply (unturned : pose.b = 0) (i : Fin 5) :
    (forward pose.landmarks).apply (pose.landmarks i) = kArcfaceRefLandmarks i := by
  have nonzero : pose.a ≠ 0 := pose.scaled.resolve_right (not_not.mpr unturned)
  have a : (forward pose.landmarks).a * pose.a = 1 := by
    rw [(forward_landmarks pose).1, unturned_size pose unturned]
    field_simp
  have b : (forward pose.landmarks).b = 0 := by
    rw [(forward_landmarks pose).2, unturned, zero_div]
  exact forward_apply pose unturned a b i

theorem recovers_iff :
    Recovers pose ↔
      pose.b = 0 ∧ 1e-10 ≤ pose.size * spread kArcfaceRefLandmarks ∧ 1e-10 * pose.size ≤ 1 := by
  have far := @spread_reference K _ _ _
  have apart := zero_lt_one.trans far
  constructor
  · intro recovers
    obtain ⟨a, b⟩ := turn_eq apart fun i => (computed_apply _ _).symm.trans (recovers i)
    simp only [InverseAffine.toPlanar, computeInverseAffine, denom_landmarks] at a b
    split at a
    · next near =>
        rw [if_pos near] at b
        rw [Pose.size, ← a, ← b] at near
        norm_num at near
        linarith
    · next clear =>
        rw [if_neg clear] at b
        obtain ⟨unturned, floor⟩ := turn_of_inverse pose a b
        exact ⟨unturned, not_lt.mp clear, floor⟩
  · intro ⟨unturned, clear, floor⟩ i
    have size := pose.size_pos
    have above : 1e-10 ≤ det (forward pose.landmarks) := by
      rw [det_forward, le_div_iff₀ size]
      exact floor
    rw [computeInverseAffine, denom_landmarks, if_neg clear.not_gt,
      ← unturned_forward_apply pose unturned i]
    exact inverse_apply _ above _

theorem pose_recovery :
    (∀ src : Landmarks K, 1e-10 ≤ (sums src).denom →
        (Fits (forward src) src kArcfaceRefLandmarks ↔ Unturned src)) ∧
      ∀ pose : Pose K, Recovers pose ↔
        pose.b = 0 ∧ 1e-10 ≤ pose.size * spread kArcfaceRefLandmarks ∧ 1e-10 * pose.size ≤ 1 := by
  refine ⟨fun src clear => ?_, recovers_iff⟩
  exact forward_fits_iff src (lt_of_lt_of_le (by norm_num) clear)

end

section

def doubled : Pose ℚ where
  a := 2
  b := 0
  tx := 100
  ty := 50
  scaled := Or.inl (by norm_num)

theorem doubled_recovered : Recovers doubled := by
  have far := @spread_reference ℚ _ _ _
  refine (pose_recovery.2 doubled).mpr ⟨rfl, ?_, ?_⟩
  · norm_num [Pose.size, doubled]
    linarith
  · norm_num [Pose.size, doubled]

def quarterTurn : Pose ℚ where
  a := 0
  b := 1
  tx := 0
  ty := 0
  scaled := Or.inr (by norm_num)

theorem quarterTurn_lost :
    ¬ Recovers quarterTurn ∧
      ¬ Fits (forward quarterTurn.landmarks) quarterTurn.landmarks kArcfaceRefLandmarks := by
  have far := @spread_reference ℚ _ _ _
  constructor
  · intro recovers
    exact one_ne_zero ((recovers_iff quarterTurn).mp recovers).1
  · have spreads : (sums quarterTurn.landmarks).denom = spread kArcfaceRefLandmarks := by
      rw [denom_landmarks]
      norm_num [Pose.size, quarterTurn]
    rw [forward_fits_iff _ (by rw [spreads]; linarith), unturned_iff, Pose.landmarks, across_moved]
    intro zero
    norm_num [quarterTurn] at zero
    linarith

end

end Iq9Pipeline.MultiCam
