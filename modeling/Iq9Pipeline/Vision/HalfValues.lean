import Iq9Pipeline.Foundation.Numerals
import Iq9Pipeline.Vision.HalfFloat
import Mathlib.Data.EReal.Operations
import Mathlib.Tactic.NormNum

/-!
What the half-precision conversions mean: the way down cuts a number to the next half towards
zero, and the way up is exact.
-/

namespace Iq9Pipeline.Vision

open Foundation.BinaryFloat Foundation.Numerals

noncomputable def magnitude (p top scale bits : Nat) : EReal :=
  if bits / 2 ^ p = top then ⊤ else ((units p bits / 2 ^ scale : ℝ) : EReal)

noncomputable def signed (sign : Nat) (size : EReal) : EReal :=
  if sign = 1 then -size else size

noncomputable def floatMagnitude (f32 : UInt32) : EReal :=
  magnitude 23 255 149 (f32.toNat % 2 ^ 31)

noncomputable def floatValue (f32 : UInt32) : EReal :=
  signed (f32.toNat / 2 ^ 31) (floatMagnitude f32)

noncomputable def halfMagnitude (half : UInt16) : EReal :=
  magnitude 10 31 24 (half.toNat % 2 ^ 15)

noncomputable def halfValue (half : UInt16) : EReal :=
  signed (half.toNat / 2 ^ 15) (halfMagnitude half)

def FloatNumber (f32 : UInt32) : Prop :=
  f32.toNat % 2 ^ 31 ≤ 255 * 2 ^ 23

def HalfNumber (half : UInt16) : Prop :=
  half.toNat % 2 ^ 15 ≤ 31 * 2 ^ 10

def HalfFinite (half : UInt16) : Prop :=
  half.toNat % 2 ^ 15 < 31 * 2 ^ 10

section

variable {p top scale bits : Nat}

theorem magnitude_finite (finite : bits < top * 2 ^ p) :
    magnitude p top scale bits = ((units p bits / 2 ^ scale : ℝ) : EReal) :=
  if_neg (Nat.div_lt_of_lt_mul (Nat.mul_comm top _ ▸ finite)).ne

theorem magnitude_top : magnitude p top scale (top * 2 ^ p) = ⊤ :=
  if_pos (Nat.mul_div_cancel _ (Nat.two_pow_pos p))

theorem magnitude_nonneg : 0 ≤ magnitude p top scale bits := by
  rw [magnitude]
  split
  · exact le_top
  · exact_mod_cast div_nonneg (Nat.cast_nonneg _) (by positivity)

/-- The two formats count in units that are `2 ^ 125` apart. -/
theorem half_le_float_iff {half wide : Nat} :
    (units 10 half / 2 ^ 24 : ℝ) ≤ units 23 wide / 2 ^ 149 ↔
      units 10 half * 2 ^ 125 ≤ units 23 wide := by
  have scale : (2 : ℝ) ^ 149 = 2 ^ 125 * 2 ^ 24 := by rw [← pow_add]
  rw [scale, ← div_div, div_le_div_iff_of_pos_right (by positivity), le_div_iff₀ (by positivity)]
  exact_mod_cast Iff.rfl

end

section

variable (f32 : UInt32)

theorem halfBits_le (exponent : Nat) {fraction : Nat} (small : fraction < 2 ^ 23) :
    halfBits exponent fraction ≤ 31 * 2 ^ 10 := by
  rcases Nat.lt_or_ge 142 exponent with huge | within
  · rw [halfBits, if_pos huge]
  · exact (halfBits_cuts small within).2.le

theorem float32ToFloat16_fields :
    (float32ToFloat16 f32).toNat / 2 ^ 15 = f32.toNat / 2 ^ 31 ∧
      (float32ToFloat16 f32).toNat % 2 ^ 15 =
        halfBits (f32.toNat % 2 ^ 31 / 2 ^ 23) (f32.toNat % 2 ^ 31 % 2 ^ 23) := by
  have exponent : f32.toNat / 2 ^ 23 % 2 ^ 8 = f32.toNat % 2 ^ 31 / 2 ^ 23 := by omega
  have fraction : f32.toNat % 2 ^ 23 = f32.toNat % 2 ^ 31 % 2 ^ 23 := by omega
  have most := halfBits_le (f32.toNat / 2 ^ 23 % 2 ^ 8) (Nat.mod_lt f32.toNat (Nat.two_pow_pos 23))
  rw [← exponent, ← fraction, float32ToFloat16_toNat]
  omega

structure Halves (wide half : Nat) : Prop where
  cut : wide < 143 * 2 ^ 23 → Cuts 10 125 half (units 23 wide) ∧ half < 31 * 2 ^ 10
  infinite : 143 * 2 ^ 23 ≤ wide → half = 31 * 2 ^ 10

theorem float32ToFloat16_halves :
    Halves (f32.toNat % 2 ^ 31) ((float32ToFloat16 f32).toNat % 2 ^ 15) := by
  rw [(float32ToFloat16_fields f32).2]
  generalize f32.toNat % 2 ^ 31 = wide
  have small : wide % 2 ^ 23 < 2 ^ 23 := Nat.mod_lt _ (Nat.two_pow_pos 23)
  have whole : wide / 2 ^ 23 * 2 ^ 23 + wide % 2 ^ 23 = wide := by
    rw [Nat.mul_comm]
    exact Nat.div_add_mod _ _
  constructor
  · intro below
    have within : wide / 2 ^ 23 < 143 := Nat.div_lt_of_lt_mul (Nat.mul_comm _ _ ▸ below)
    have cut := halfBits_cuts small (Nat.le_of_lt_succ within)
    rwa [whole] at cut
  · intro above
    have beyond : 143 ≤ wide / 2 ^ 23 := (Nat.le_div_iff_mul_le (Nat.two_pow_pos 23)).mpr above
    exact if_pos (by omega)

end

section

theorem FloatNumber.magnitude_lt_iff {f32 : UInt32} (number : FloatNumber f32) :
    floatMagnitude f32 < ((2 ^ 16 : ℝ) : EReal) ↔ f32.toNat % 2 ^ 31 < 143 * 2 ^ 23 := by
  have limit : units 23 (143 * 2 ^ 23) = 2 ^ 165 := by
    have mark := @units_mk 23 143 0 (Nat.two_pow_pos 23)
    rw [Nat.add_zero, if_neg (by omega), Nat.add_zero, ← Nat.pow_add] at mark
    exact mark
  rw [floatMagnitude]
  rcases number.lt_or_eq with finite | infinite
  · rw [magnitude_finite finite, EReal.coe_lt_coe_iff, div_lt_iff₀ (by positivity), ← pow_add,
      ← (units_strictMono 23).lt_iff_lt, limit]
    exact_mod_cast Iff.rfl
  · rw [infinite, magnitude_top]
    exact iff_of_false not_top_lt (by decide)

theorem floatMagnitude_le {first second : UInt32} (firstNumber : FloatNumber first)
    (secondNumber : FloatNumber second) (le : floatMagnitude first ≤ floatMagnitude second) :
    first.toNat % 2 ^ 31 ≤ second.toNat % 2 ^ 31 := by
  rw [floatMagnitude, floatMagnitude] at le
  rcases secondNumber.lt_or_eq with finite | infinite
  · rcases firstNumber.lt_or_eq with finite' | infinite'
    · rw [magnitude_finite finite, magnitude_finite finite', EReal.coe_le_coe_iff,
        div_le_div_iff_of_pos_right (by positivity), Nat.cast_le] at le
      exact (units_strictMono 23).le_iff_le.mp le
    · rw [infinite', magnitude_top, magnitude_finite finite] at le
      exact absurd le (EReal.coe_lt_top _).not_ge
  · rw [infinite]
    exact firstNumber

theorem halfMagnitude_le {first second : UInt16} (number : HalfNumber second)
    (le : first.toNat % 2 ^ 15 ≤ second.toNat % 2 ^ 15) :
    halfMagnitude first ≤ halfMagnitude second := by
  rw [halfMagnitude, halfMagnitude]
  rcases number.lt_or_eq with finite | infinite
  · rw [magnitude_finite finite, magnitude_finite (le.trans_lt finite), EReal.coe_le_coe_iff,
      div_le_div_iff_of_pos_right (by positivity), Nat.cast_le]
    exact (units_strictMono 10).monotone le
  · rw [infinite, magnitude_top]
    exact le_top

theorem float32ToFloat16_number (f32 : UInt32) : HalfNumber (float32ToFloat16 f32) := by
  have halves := float32ToFloat16_halves f32
  rcases Nat.lt_or_ge (f32.toNat % 2 ^ 31) (143 * 2 ^ 23) with below | above
  · exact (halves.cut below).2.le
  · exact (halves.infinite above).le

theorem float32ToFloat16_magnitude_mono {first second : UInt32} (firstNumber : FloatNumber first)
    (secondNumber : FloatNumber second) (le : floatMagnitude first ≤ floatMagnitude second) :
    halfMagnitude (float32ToFloat16 first) ≤ halfMagnitude (float32ToFloat16 second) := by
  have bits := floatMagnitude_le firstNumber secondNumber le
  have halves := float32ToFloat16_halves first
  have halves' := float32ToFloat16_halves second
  apply halfMagnitude_le (float32ToFloat16_number second)
  rcases Nat.lt_or_ge (second.toNat % 2 ^ 31) (143 * 2 ^ 23) with below | above
  · have cut := (halves.cut (bits.trans_lt below)).1
    exact cut.mono (halves'.cut below).1 ((units_strictMono 23).monotone bits)
  · rw [halves'.infinite above]
    exact float32ToFloat16_number first

/-- No half of a larger magnitude is within that of the number. -/
theorem float32ToFloat16_greatest {f32 : UInt32} (number : FloatNumber f32)
    (small : floatMagnitude f32 < ((2 ^ 16 : ℝ) : EReal)) :
    HalfFinite (float32ToFloat16 f32) ∧
      IsGreatest {size | ∃ half, HalfFinite half ∧ halfMagnitude half = size ∧
        size ≤ floatMagnitude f32} (halfMagnitude (float32ToFloat16 f32)) := by
  have below := number.magnitude_lt_iff.mp small
  obtain ⟨cut, finite⟩ := (float32ToFloat16_halves f32).cut below
  have float := @magnitude_finite 23 255 149 _ (below.trans (by decide))
  refine ⟨finite, ⟨_, finite, rfl, ?_⟩, ?_⟩
  · rw [halfMagnitude, floatMagnitude, magnitude_finite finite, float, EReal.coe_le_coe_iff]
    exact half_le_float_iff.mpr cut.below
  · rintro _ ⟨half, finite', rfl, within⟩
    apply halfMagnitude_le (float32ToFloat16_number f32)
    rw [halfMagnitude, floatMagnitude, magnitude_finite finite', float, EReal.coe_le_coe_iff]
      at within
    exact cut.le_of_units_le (half_le_float_iff.mp within)

theorem signed_mono {sign other : Nat} {size more half halfMore : EReal} (nonneg : 0 ≤ size)
    (nonneg' : 0 ≤ more) (halfNonneg : 0 ≤ half) (halfNonneg' : 0 ≤ halfMore)
    (up : size ≤ more → half ≤ halfMore) (down : more ≤ size → halfMore ≤ half)
    (zero : size = 0 → half = 0) (zero' : more = 0 → halfMore = 0)
    (le : signed sign size ≤ signed other more) : signed sign half ≤ signed other halfMore := by
  rw [signed, signed] at le
  rw [signed, signed]
  split_ifs at le ⊢
  · exact EReal.neg_le_neg_iff.mpr (down (EReal.neg_le_neg_iff.mp le))
  · exact le_trans (EReal.neg_le_zero.mpr halfNonneg) halfNonneg'
  · have both : -more ≤ 0 := EReal.neg_le_zero.mpr nonneg'
    have least : size = 0 := le_antisymm (le.trans both) nonneg
    have blank : more = 0 := by
      rw [least] at le
      exact le_antisymm (EReal.neg_nonneg.mp le) nonneg'
    rw [zero least, zero' blank, neg_zero]
  · exact up le

theorem float32ToFloat16_zero {f32 : UInt32} (number : FloatNumber f32)
    (zero : floatMagnitude f32 = 0) : halfMagnitude (float32ToFloat16 f32) = 0 := by
  have small : floatMagnitude f32 < ((2 ^ 16 : ℝ) : EReal) := by
    rw [zero]
    exact_mod_cast pow_pos (two_pos : (0 : ℝ) < 2) 16
  obtain ⟨half, _, same, within⟩ := (float32ToFloat16_greatest number small).2.1
  rw [zero] at within
  exact le_antisymm within magnitude_nonneg

theorem float32ToFloat16_mono {first second : UInt32} (firstNumber : FloatNumber first)
    (secondNumber : FloatNumber second) (le : floatValue first ≤ floatValue second) :
    halfValue (float32ToFloat16 first) ≤ halfValue (float32ToFloat16 second) := by
  rw [halfValue, halfValue, (float32ToFloat16_fields first).1, (float32ToFloat16_fields second).1]
  exact signed_mono magnitude_nonneg magnitude_nonneg magnitude_nonneg magnitude_nonneg
    (float32ToFloat16_magnitude_mono firstNumber secondNumber)
    (float32ToFloat16_magnitude_mono secondNumber firstNumber)
    (float32ToFloat16_zero firstNumber) (float32ToFloat16_zero secondNumber) le

theorem float16ToFloat32_exact {half : UInt16} (finite : HalfFinite half) :
    ∃ f32, float16ToFloat32 half = some f32 ∧ FloatNumber f32 ∧
      floatValue f32 = halfValue half := by
  obtain ⟨f32, ends, sign, widens⟩ := float16ToFloat32_widens half
  obtain ⟨below, same⟩ := widens.finite finite
  have inside : f32.toNat % 2 ^ 31 < 255 * 2 ^ 23 := below.trans (by decide)
  refine ⟨f32, ends, inside.le, ?_⟩
  have scale : (2 : ℝ) ^ 149 = 2 ^ 24 * 2 ^ 125 := by rw [← pow_add]
  have size : floatMagnitude f32 = halfMagnitude half := by
    rw [floatMagnitude, halfMagnitude, magnitude_finite inside, magnitude_finite finite, same,
      EReal.coe_eq_coe_iff, scale, Nat.cast_mul, Nat.cast_pow, Nat.cast_ofNat]
    exact mul_div_mul_right _ _ (by positivity)
  rw [floatValue, halfValue, sign, size]

/-- A half that is widened is cut back to itself. -/
theorem float32ToFloat16_float16ToFloat32 {half : UInt16} (number : HalfNumber half) :
    ∃ f32, float16ToFloat32 half = some f32 ∧ float32ToFloat16 f32 = half := by
  obtain ⟨f32, ends, sign, widens⟩ := float16ToFloat32_widens half
  have halves := float32ToFloat16_halves f32
  refine ⟨f32, ends, UInt16.toNat_inj.mp ?_⟩
  have rest : (float32ToFloat16 f32).toNat % 2 ^ 15 = half.toNat % 2 ^ 15 := by
    rcases number.lt_or_eq with finite | infinite
    · obtain ⟨below, same⟩ := widens.finite finite
      exact (halves.cut below).1.exact same
    · have wide := widens.other infinite.ge
      rw [infinite, Nat.sub_self, Nat.zero_mul, Nat.add_zero] at wide
      rw [infinite]
      exact halves.infinite (wide ▸ by decide)
  rw [← Nat.div_add_mod (float32ToFloat16 f32).toNat (2 ^ 15), rest,
    (float32ToFloat16_fields f32).1, sign]
  exact Nat.div_add_mod _ _

theorem half_conversions :
    (∀ f32, FloatNumber f32 →
      (float32ToFloat16 f32).toNat / 2 ^ 15 = f32.toNat / 2 ^ 31 ∧
      (floatMagnitude f32 < ((2 ^ 16 : ℝ) : EReal) → HalfFinite (float32ToFloat16 f32) ∧
        IsGreatest {size | ∃ half, HalfFinite half ∧ halfMagnitude half = size ∧
          size ≤ floatMagnitude f32} (halfMagnitude (float32ToFloat16 f32))) ∧
      (((2 ^ 16 : ℝ) : EReal) ≤ floatMagnitude f32 →
        HalfNumber (float32ToFloat16 f32) ∧ halfMagnitude (float32ToFloat16 f32) = ⊤)) ∧
    (∀ first second, FloatNumber first → FloatNumber second →
      floatValue first ≤ floatValue second →
        halfValue (float32ToFloat16 first) ≤ halfValue (float32ToFloat16 second)) ∧
    (∀ half, HalfFinite half → ∃ f32, float16ToFloat32 half = some f32 ∧ FloatNumber f32 ∧
      floatValue f32 = halfValue half) ∧
    ∀ half, HalfNumber half → ∃ f32, float16ToFloat32 half = some f32 ∧
      float32ToFloat16 f32 = half := by
  refine ⟨fun f32 number => ⟨(float32ToFloat16_fields f32).1,
    float32ToFloat16_greatest number, fun large => ⟨float32ToFloat16_number f32, ?_⟩⟩,
    fun _ _ => float32ToFloat16_mono, fun _ => float16ToFloat32_exact,
    fun _ => float32ToFloat16_float16ToFloat32⟩
  have above := Nat.not_lt.mp (mt number.magnitude_lt_iff.mpr large.not_gt)
  rw [halfMagnitude, (float32ToFloat16_halves f32).infinite above]
  exact magnitude_top

/-- The least subnormal half, and back. -/
theorem half_conversions_least :
    ∃ f32, float16ToFloat32 1 = some f32 ∧ float32ToFloat16 f32 = 1 :=
  half_conversions.2.2.2 1 (by unfold HalfNumber; decide)

end

end Iq9Pipeline.Vision
