import Iq9Pipeline.Foundation.Rounding
import Mathlib.Data.Rat.Floor
import Mathlib.Tactic.FieldSimp
import Mathlib.Tactic.LinearCombination

/-!
The quantization of the vision server (`veg_server_combined.cpp`) in exact arithmetic. A
value is rounded and cast to `int` before it is clamped, so it has to be in the range of an
`int` by then.
-/

namespace Iq9Pipeline.Vision

open Foundation.Rounding

/-- A cast of a whole number to `int`, which is defined in its range alone. -/
def castInt (value : Int) : Option Int32 :=
  if -2 ^ 31 ≤ value ∧ value < 2 ^ 31 then some (Int32.ofInt value) else none

def quantizeToUint16 (value scale : ℚ) (offset : Int32) : Option UInt16 := do
  let trueBitWidthMax : ℚ := 65535
  let encodingMin := (offset.toInt : ℚ) * scale
  let encodingMax := (trueBitWidthMax + offset.toInt) * scale
  let encodingRange := encodingMax - encodingMin
  let quantizedValue ← castInt
    (roundAway (trueBitWidthMax * (value - encodingMin) / encodingRange))
  let quantizedValue := if quantizedValue < 0 then 0 else quantizedValue
  let quantizedValue := if quantizedValue > 65535 then 65535 else quantizedValue
  some quantizedValue.toUInt32.toUInt16

def dequantizeFromUint16 (value : UInt16) (scale : ℚ) (offset : Int32) : ℚ :=
  (value.toNat + offset.toInt) * scale

def steps (value scale : ℚ) (offset : Int32) : ℚ :=
  value / scale - offset.toInt

def clampUint16 (quantized : Int) : UInt16 :=
  UInt16.ofNat (min (max 0 quantized) 65535).toNat

section

variable {value scale : ℚ} {offset : Int32}

theorem steps_eq (positive : 0 < scale) :
    65535 * (value - offset.toInt * scale) /
      ((65535 + offset.toInt) * scale - offset.toInt * scale) = steps value scale offset := by
  have nonzero := positive.ne'
  have range : (65535 + (offset.toInt : ℚ)) * scale - offset.toInt * scale = 65535 * scale := by
    ring
  rw [steps, range]
  field_simp

theorem clamp_cast {quantized : Int} {cast : Int32} (same : cast.toInt = quantized) :
    (if (if cast < 0 then 0 else cast) > 65535 then (65535 : Int32)
      else if cast < 0 then 0 else cast).toUInt32.toUInt16 = clampUint16 quantized := by
  have zero : (0 : Int32).toInt = 0 := rfl
  have top : (65535 : Int32).toInt = 65535 := rfl
  rcases lt_or_ge quantized 0 with below | nonneg
  · have negative : cast < 0 := by rwa [Int32.lt_iff_toInt_lt, same, zero]
    rw [if_pos negative, clampUint16, max_eq_left below.le]
    rfl
  · have positive : ¬cast < 0 := by rw [Int32.lt_iff_toInt_lt, same, zero]; omega
    rw [if_neg positive, clampUint16, max_eq_right nonneg]
    rcases le_or_gt quantized 65535 with within | above
    · have inside : ¬cast > 65535 := by rw [gt_iff_lt, Int32.lt_iff_toInt_lt, same, top]; omega
      have count : cast.toUInt32.toNat = quantized.toNat := by
        rw [Int32.toNat_toUInt32_of_le, Int32.toNatClampNeg, same]
        rw [Int32.le_iff_toInt_le, same, zero]
        exact nonneg
      rw [if_neg inside, min_eq_left within, ← UInt16.toNat_inj, UInt32.toNat_toUInt16, count,
        UInt16.toNat_ofNat']
    · have beyond : cast > 65535 := by rw [gt_iff_lt, Int32.lt_iff_toInt_lt, same, top]; exact above
      rw [if_pos beyond, min_eq_right above.le]
      rfl

def Castable (rounded : Int) : Prop :=
  -2 ^ 31 ≤ rounded ∧ rounded < 2 ^ 31

theorem quantize_eq (positive : 0 < scale) :
    (Castable (roundAway (steps value scale offset)) → quantizeToUint16 value scale offset =
      some (clampUint16 (roundAway (steps value scale offset)))) ∧
    (¬Castable (roundAway (steps value scale offset)) →
      quantizeToUint16 value scale offset = none) := by
  simp only [quantizeToUint16, steps_eq positive]
  generalize roundAway (steps value scale offset) = rounded
  constructor
  · intro range
    have defined : castInt rounded = some (Int32.ofInt rounded) := if_pos range
    simp only [defined, Option.bind_eq_bind, Option.bind_some, Option.some.injEq]
    exact clamp_cast (Int32.toInt_ofInt_of_le range.1 range.2)
  · intro outside
    have undefined : castInt rounded = none := if_neg outside
    rw [undefined]
    rfl

theorem castable_iff (value : ℚ) :
    Castable (roundAway value) ↔ -2 ^ 31 - 1 / 2 < value ∧ value < 2 ^ 31 - 1 / 2 := by
  have low := @le_roundAway_iff ℚ _ _ _ _ value (-2 ^ 31) (by norm_num)
  have high := @roundAway_lt_iff ℚ _ _ _ _ value (2 ^ 31) (by norm_num)
  rw [Castable, low, high]
  push_cast
  exact Iff.rfl

theorem steps_dequantize (positive : 0 < scale) (q : UInt16) :
    steps (dequantizeFromUint16 q scale offset) scale offset = q.toNat := by
  rw [steps, dequantizeFromUint16, mul_div_cancel_right₀ _ positive.ne']
  ring

theorem dequantize_lt_iff (positive : 0 < scale) (q : UInt16) :
    dequantizeFromUint16 q scale offset < value ↔ (q.toNat : ℚ) < steps value scale offset := by
  rw [steps, lt_sub_iff_add_lt, lt_div_iff₀ positive, dequantizeFromUint16]

theorem lt_dequantize_iff (positive : 0 < scale) (q : UInt16) :
    value < dequantizeFromUint16 q scale offset ↔ steps value scale offset < (q.toNat : ℚ) := by
  rw [steps, sub_lt_iff_lt_add, div_lt_iff₀ positive, dequantizeFromUint16]

theorem clamp_natCast (q : UInt16) : clampUint16 q.toNat = q := by
  have bound := q.toNat_lt
  rw [clampUint16, max_eq_right (Int.natCast_nonneg _), min_eq_left (by omega), Int.toNat_natCast,
    UInt16.ofNat_toNat]

end

/-- Quantization is right for the value: within the range of the encoding it is off by half a
step at most, and elsewhere it saturates; and it gives each quantized value back. -/
structure InversePair (scale : ℚ) (offset : Int32) (value : ℚ) : Prop where
  back : ∀ q, quantizeToUint16 (dequantizeFromUint16 q scale offset) scale offset = some q
  near : dequantizeFromUint16 0 scale offset ≤ value →
    value ≤ dequantizeFromUint16 65535 scale offset →
      ∃ q, quantizeToUint16 value scale offset = some q ∧
        |dequantizeFromUint16 q scale offset - value| ≤ scale / 2
  below : value < dequantizeFromUint16 0 scale offset →
    quantizeToUint16 value scale offset = some 0
  above : dequantizeFromUint16 65535 scale offset < value →
    quantizeToUint16 value scale offset = some 65535
  defined : quantizeToUint16 value scale offset ≠ none

section

variable {value scale : ℚ} {offset : Int32}

theorem quantize_dequantize (positive : 0 < scale) (q : UInt16) :
    quantizeToUint16 (dequantizeFromUint16 q scale offset) scale offset = some q := by
  have bound := q.toNat_lt
  have rounded := @quantize_eq (dequantizeFromUint16 q scale offset) scale offset positive
  rw [steps_dequantize positive, roundAway_natCast, clamp_natCast] at rounded
  exact rounded.1 ⟨by omega, by omega⟩

theorem clamp_of_nonpos {quantized : Int} (low : quantized ≤ 0) : clampUint16 quantized = 0 := by
  rw [clampUint16, max_eq_left low]
  rfl

theorem clamp_of_le {quantized : Int} (high : 65535 ≤ quantized) :
    clampUint16 quantized = 65535 := by
  rw [clampUint16, max_eq_right (by omega), min_eq_right high]
  rfl

theorem clamp_toNat {quantized : Int} (nonneg : 0 ≤ quantized) (within : quantized ≤ 65535) :
    ((clampUint16 quantized).toNat : ℚ) = quantized := by
  have count : (clampUint16 quantized).toNat = quantized.toNat := by
    rw [clampUint16, max_eq_right nonneg, min_eq_left within, UInt16.toNat_ofNat']
    exact Nat.mod_eq_of_lt (by omega)
  rw [count]
  exact_mod_cast Int.toNat_of_nonneg nonneg

theorem toNat_most : ((65535 : UInt16).toNat : ℚ) = 65535 := by
  have most : (65535 : UInt16).toNat = 65535 := rfl
  rw [most]
  norm_num

theorem dequantize_clamp_sub (positive : 0 < scale)
    (least : 0 ≤ roundAway (steps value scale offset))
    (most : roundAway (steps value scale offset) ≤ 65535) :
    dequantizeFromUint16 (clampUint16 (roundAway (steps value scale offset))) scale offset -
      value = (roundAway (steps value scale offset) - steps value scale offset) * scale := by
  have whole : steps value scale offset * scale = value - offset.toInt * scale := by
    rw [steps, sub_mul, div_mul_cancel₀ _ positive.ne']
  rw [dequantizeFromUint16, clamp_toNat least most]
  linear_combination whole

theorem abs_dequantize_clamp_sub_le (positive : 0 < scale)
    (low : dequantizeFromUint16 0 scale offset ≤ value)
    (high : value ≤ dequantizeFromUint16 65535 scale offset) :
    |dequantizeFromUint16 (clampUint16 (roundAway (steps value scale offset))) scale offset -
      value| ≤ scale / 2 := by
  rw [← not_lt, lt_dequantize_iff positive, not_lt] at low
  rw [← not_lt, dequantize_lt_iff positive, not_lt, toNat_most] at high
  have least : 0 ≤ roundAway (steps value scale offset) :=
    roundAway_nonneg (by exact_mod_cast low)
  have most : roundAway (steps value scale offset) ≤ 65535 := by
    rw [← Int.lt_add_one_iff, roundAway_lt_iff (by omega)]
    push_cast
    linarith
  rw [dequantize_clamp_sub positive least most, abs_mul, abs_of_pos positive]
  have near := mul_le_mul_of_nonneg_right (abs_roundAway_sub_le (steps value scale offset))
    positive.le
  linarith

theorem clamp_of_lt (positive : 0 < scale) (low : value < dequantizeFromUint16 0 scale offset) :
    clampUint16 (roundAway (steps value scale offset)) = 0 := by
  rw [lt_dequantize_iff positive] at low
  exact clamp_of_nonpos (roundAway_nonpos (by exact_mod_cast low))

theorem clamp_of_gt (positive : 0 < scale)
    (high : dequantizeFromUint16 65535 scale offset < value) :
    clampUint16 (roundAway (steps value scale offset)) = 65535 := by
  rw [dequantize_lt_iff positive, toNat_most] at high
  apply clamp_of_le
  by_contra less
  have under := (roundAway_lt_iff (by omega)).mp (not_le.mp less)
  push_cast at under
  linarith

/-- Where the cast is defined everything else follows. -/
theorem inversePair_of_castable (positive : 0 < scale)
    (castable : Castable (roundAway (steps value scale offset))) :
    InversePair scale offset value := by
  have quantized := (quantize_eq positive).1 castable
  constructor
  · exact quantize_dequantize positive
  · exact fun low high => ⟨_, quantized, abs_dequantize_clamp_sub_le positive low high⟩
  · exact fun low => by rw [quantized, clamp_of_lt positive low]
  · exact fun high => by rw [quantized, clamp_of_gt positive high]
  · rw [quantized]
    exact Option.some_ne_none _

theorem inversePair_iff (positive : 0 < scale) :
    InversePair scale offset value ↔
      -2 ^ 31 - 1 / 2 < value / scale - offset.toInt ∧
        value / scale - offset.toInt < 2 ^ 31 - 1 / 2 := by
  have range := castable_iff (steps value scale offset)
  rw [steps] at range
  rw [← range]
  constructor
  · intro pair
    by_contra outside
    exact pair.defined ((quantize_eq positive).2 outside)
  · exact inversePair_of_castable positive

end

theorem inversePair_middle : InversePair (1 / 128) (-32768) 0 := by
  have offset : (-32768 : Int32).toInt = -32768 := by decide
  apply (inversePair_iff (by norm_num)).mpr
  rw [offset]
  norm_num

/-- The least value that is too large for an `int` is not clamped. -/
theorem inversePair_fails :
    ¬InversePair 1 0 (2 ^ 31) ∧ quantizeToUint16 (2 ^ 31) 1 0 = none := by
  have outside : ¬Castable (roundAway (steps (2 ^ 31) 1 0)) := by
    have offset : (0 : Int32).toInt = 0 := rfl
    rw [castable_iff, steps, offset]
    norm_num
  have undefined := (quantize_eq one_pos).2 outside
  exact ⟨fun pair => pair.defined undefined, undefined⟩

end Iq9Pipeline.Vision
