import Iq9Pipeline.Foundation.BinaryFloat
import Mathlib.Data.Nat.Bitwise

/-!
Half-precision numbers of the vision server (`veg_server_combined.cpp`). Both conversions
work on the bits; what the bits say is counted in the least subnormal numbers of the two
formats.
-/

namespace Iq9Pipeline.Vision

open Foundation Foundation.BinaryFloat

def float32ToFloat16 (f32 : UInt32) : UInt16 :=
  let sign := f32 >>> 31 &&& 0x1
  let exponent : Int32 := ((f32 >>> 23 &&& 0xFF) - 127).toInt32
  let mantissa := f32 &&& 0x7FFFFF
  if exponent > 15 then (sign <<< 15 ||| (0x1F : UInt32) <<< 10).toUInt16
  else if exponent < -14 then
    if exponent < -24 then (sign <<< 15).toUInt16
    else
      let mantissa := mantissa ||| 0x800000
      let shift := -14 - exponent
      let mantissa := mantissa >>> shift.toUInt32
      (sign <<< 15 ||| mantissa >>> 13).toUInt16
  else
    let biasedExp := (exponent + 15).toUInt32.toUInt16
    (sign <<< 15 ||| biasedExp.toUInt32 <<< 10 ||| mantissa >>> 13).toUInt16

def normalize : Nat → UInt32 → UInt32 → Option (UInt32 × UInt32)
  | 0, _, _ => none
  | turns + 1, mantissa, exponent =>
      if mantissa &&& 0x400 = 0 then normalize turns (mantissa <<< 1) (exponent - 1)
      else some (mantissa, exponent)

/-- The bits of a half to those of a `float`; there is no result where the loop does not end. -/
def float16ToFloat32 (value : UInt16) : Option UInt32 := do
  let sign := value.toUInt32 >>> 15 &&& 0x1
  let exponent := value.toUInt32 >>> 10 &&& 0x1F
  let mantissa := value.toUInt32 &&& 0x3FF
  if exponent = 0 then
    if mantissa = 0 then some (sign <<< 31)
    else
      let (mantissa, exponent) ← normalize 32 mantissa 1
      let mantissa := mantissa &&& 0x3FF
      some (sign <<< 31 ||| (exponent + 127 - 15) <<< 23 ||| mantissa <<< 13)
  else if exponent = 0x1F then some (sign <<< 31 ||| (0xFF : UInt32) <<< 23 ||| mantissa <<< 13)
  else some (sign <<< 31 ||| (exponent + 127 - 15) <<< 23 ||| mantissa <<< 13)

section

theorem or_eq_add {a b i : Nat} (small : b < 2 ^ i) : a * 2 ^ i ||| b = a * 2 ^ i + b := by
  rw [← Nat.shiftLeft_eq]
  exact (Nat.shiftLeft_add_eq_or_of_lt small a).symm

theorem signed_exponent {field : UInt32} (small : field.toNat < 256) :
    (field - 127).toInt32.toInt = field.toNat - 127 := by
  have same : (field - 127).toInt32 = Int32.ofNat field.toNat - 127 := by
    rw [← Int32.toInt32_toUInt32 (Int32.ofNat field.toNat - 127)]
    simp
  have bias : (127 : Int32).toInt = 127 := by decide
  rw [same, Int32.toInt_sub, Int32.toInt_ofNat_of_lt (by omega), bias]
  apply Int.bmod_eq_of_le <;> omega

theorem toUInt32_toNat {value : Int32} {count : Nat} (same : value.toInt = count) :
    value.toUInt32.toNat = count := by
  have nonneg : 0 ≤ value := by
    rw [Int32.le_iff_toInt_le, same]
    exact Int.natCast_nonneg _
  rw [Int32.toNat_toUInt32_of_le nonneg, Int32.toNatClampNeg, same, Int.toNat_natCast]

variable (f32 : UInt32)

theorem sign_field : (f32 >>> 31 &&& 0x1).toNat = f32.toNat / 2 ^ 31 := by
  rw [UInt32.toNat_and, UInt32.toNat_shiftRight]
  change f32.toNat >>> 31 &&& (2 ^ 1 - 1) = _
  rw [Nat.and_two_pow_sub_one_eq_mod, Nat.shiftRight_eq_div_pow]
  have bound := f32.toNat_lt
  omega

theorem exponent_field : (f32 >>> 23 &&& 0xFF).toNat = f32.toNat / 2 ^ 23 % 2 ^ 8 := by
  rw [UInt32.toNat_and, UInt32.toNat_shiftRight]
  change f32.toNat >>> 23 &&& (2 ^ 8 - 1) = _
  rw [Nat.and_two_pow_sub_one_eq_mod, Nat.shiftRight_eq_div_pow]

theorem mantissa_field : (f32 &&& 0x7FFFFF).toNat = f32.toNat % 2 ^ 23 := by
  rw [UInt32.toNat_and]
  exact Nat.and_two_pow_sub_one_eq_mod _ 23

omit f32 in
theorem toNat_shiftLeft {value count : UInt32} {n : Nat} (same : count.toNat = n) (small : n < 32)
    (fits : value.toNat * 2 ^ n < 2 ^ 32) : (value <<< count).toNat = value.toNat * 2 ^ n := by
  rw [UInt32.toNat_shiftLeft, same, Nat.mod_eq_of_lt small, Nat.shiftLeft_eq, Nat.mod_eq_of_lt fits]

omit f32 in
theorem toNat_shiftRight {value count : UInt32} {n : Nat} (same : count.toNat = n)
    (small : n < 32) : (value >>> count).toNat = value.toNat / 2 ^ n := by
  rw [UInt32.toNat_shiftRight, same, Nat.mod_eq_of_lt small, Nat.shiftRight_eq_div_pow]

omit f32 in
theorem toNat_halfWord {sign rest : UInt32} (one : sign.toNat < 2) (small : rest.toNat < 2 ^ 15) :
    (sign <<< 15 ||| rest).toUInt16.toNat = sign.toNat * 2 ^ 15 + rest.toNat := by
  have moved : (sign <<< 15).toNat = sign.toNat * 2 ^ 15 :=
    toNat_shiftLeft rfl (by omega) (by omega)
  rw [UInt32.toNat_toUInt16, UInt32.toNat_or, moved, or_eq_add small]
  exact Nat.mod_eq_of_lt (by omega)

section

variable {mantissa : UInt32} {exponent : Int32} {field : Nat} (fraction : mantissa.toNat < 2 ^ 23)
  (signed : exponent.toInt = field - 127)

include fraction signed

omit f32 in
theorem toNat_subnormal (low : 103 ≤ field) (high : field < 113) :
    ((mantissa ||| 0x800000) >>> (-14 - exponent).toUInt32 >>> 13).toNat =
      (2 ^ 23 + mantissa.toNat) / 2 ^ (126 - field) := by
  have minus14 : (-14 : Int32).toInt = -14 := by decide
  have thirteen : (13 : UInt32).toNat = 13 := rfl
  have shift : (-14 - exponent).toInt = (113 - field : Nat) := by
    rw [Int32.toInt_sub, minus14, signed, Int.bmod_eq_of_le]
    all_goals omega
  have leading : (mantissa ||| 0x800000).toNat = 2 ^ 23 + mantissa.toNat := by
    rw [UInt32.or_comm, UInt32.toNat_or]
    exact (Nat.two_pow_add_eq_or_of_lt fraction 1).symm
  have down : 126 - field = 113 - field + 13 := by omega
  rw [toNat_shiftRight thirteen (by omega), toNat_shiftRight (toUInt32_toNat shift) (by omega),
    leading, Nat.div_div_eq_div_mul, ← Nat.pow_add, down]

omit f32 in
theorem toNat_normal (low : 113 ≤ field) (high : field < 143) :
    ((exponent + 15).toUInt32.toUInt16.toUInt32 <<< 10 ||| mantissa >>> 13).toNat =
      (field - 112) * 2 ^ 10 + mantissa.toNat / 2 ^ 13 := by
  have fifteen : (15 : Int32).toInt = 15 := by decide
  have sum : (exponent + 15).toInt = (field - 112 : Nat) := by
    rw [Int32.toInt_add, fifteen, signed, Int.bmod_eq_of_le]
    all_goals omega
  have biased : (exponent + 15).toUInt32.toUInt16.toUInt32.toNat = field - 112 := by
    rw [UInt16.toNat_toUInt32, UInt32.toNat_toUInt16, toUInt32_toNat sum]
    exact Nat.mod_eq_of_lt (by omega)
  have below : (mantissa >>> 13).toNat = mantissa.toNat / 2 ^ 13 :=
    toNat_shiftRight rfl (by omega)
  have above : ((exponent + 15).toUInt32.toUInt16.toUInt32 <<< 10).toNat =
      (field - 112) * 2 ^ 10 := by
    rw [← biased]
    exact toNat_shiftLeft rfl (by omega) (by omega)
  rw [UInt32.toNat_or, below, above]
  exact or_eq_add (by omega)

end

def halfBits (exponent fraction : Nat) : Nat :=
  if 142 < exponent then 31 * 2 ^ 10
  else if exponent < 103 then 0
  else if exponent < 113 then (2 ^ 23 + fraction) / 2 ^ (126 - exponent)
  else (exponent - 112) * 2 ^ 10 + fraction / 2 ^ 13

theorem significand_small {exponent fraction : Nat} (small : fraction < 2 ^ 23)
    (subnormal : exponent < 113) : (2 ^ 23 + fraction) / 2 ^ (126 - exponent) < 2 ^ 10 := by
  have least : 2 ^ 14 ≤ 2 ^ (126 - exponent) := Nat.pow_le_pow_right (by omega) (by omega)
  apply Nat.lt_of_le_of_lt (Nat.div_le_div_left least (by omega))
  omega

theorem float32ToFloat16_toNat :
    (float32ToFloat16 f32).toNat = f32.toNat / 2 ^ 31 * 2 ^ 15 +
      halfBits (f32.toNat / 2 ^ 23 % 2 ^ 8) (f32.toNat % 2 ^ 23) := by
  have signs := sign_field f32
  have exponents := exponent_field f32
  have mantissas := mantissa_field f32
  have bound := f32.toNat_lt
  simp only [float32ToFloat16]
  generalize f32 >>> 31 &&& 0x1 = sign at signs ⊢
  generalize f32 >>> 23 &&& 0xFF = field at exponents ⊢
  generalize f32 &&& 0x7FFFFF = mantissa at mantissas ⊢
  have one : sign.toNat < 2 := by omega
  have byte : field.toNat < 256 := by omega
  have fraction : mantissa.toNat < 2 ^ 23 := by omega
  rw [← signs, ← exponents, ← mantissas]
  have signed := signed_exponent byte
  generalize (field - 127).toInt32 = exponent at signed ⊢
  simp only [gt_iff_lt, Int32.lt_iff_toInt_lt, signed]
  have fifteen : (15 : Int32).toInt = 15 := by decide
  have minus14 : (-14 : Int32).toInt = -14 := by decide
  have minus24 : (-24 : Int32).toInt = -24 := by decide
  rw [fifteen, minus14, minus24, halfBits]
  split
  · next huge =>
      rw [if_pos (show 142 < field.toNat by omega), toNat_halfWord one (by decide)]
      rfl
  · next ordinary =>
      rw [if_neg (show ¬142 < field.toNat by omega)]
      split
      · next small =>
          split
          · next tiny =>
              have alone : (sign <<< 15).toNat = sign.toNat * 2 ^ 15 :=
                toNat_shiftLeft rfl (by omega) (by omega)
              rw [if_pos (show field.toNat < 103 by omega), UInt32.toNat_toUInt16, alone]
              omega
          · next subnormal =>
              have rest := toNat_subnormal fraction signed (by omega) (by omega)
              have less := significand_small fraction (show field.toNat < 113 by omega)
              rw [if_neg (show ¬field.toNat < 103 by omega),
                if_pos (show field.toNat < 113 by omega),
                toNat_halfWord one (by rw [rest]; omega), rest]
      · next normal =>
          have rest := toNat_normal fraction signed (by omega) (by omega)
          rw [if_neg (show ¬field.toNat < 103 by omega), if_neg (show ¬field.toNat < 113 by omega),
            UInt32.or_assoc, toNat_halfWord one (by rw [rest]; omega), rest]

end

/-- The magnitude of the half is the last one not above that of the `float`. -/
theorem halfBits_cuts {exponent fraction : Nat} (small : fraction < 2 ^ 23)
    (within : exponent ≤ 142) :
    Cuts 10 125 (halfBits exponent fraction) (units 23 (exponent * 2 ^ 23 + fraction)) ∧
      halfBits exponent fraction < 31 * 2 ^ 10 := by
  rw [units_mk small, halfBits, if_neg (by omega)]
  split
  · next tiny =>
      refine ⟨⟨?_, ?_⟩, by omega⟩
      · rw [units_subnormal (by decide), Nat.zero_mul]
        exact Nat.zero_le _
      · rw [units_subnormal (by decide), Nat.one_mul]
        split
        · exact small.trans (Nat.pow_lt_pow_right (by omega) (by omega))
        · have least : 2 ^ (exponent - 1) ≤ 2 ^ 101 := Nat.pow_le_pow_right (by omega) (by omega)
          calc (2 ^ 23 + fraction) * 2 ^ (exponent - 1) ≤ (2 ^ 23 + fraction) * 2 ^ 101 :=
                Nat.mul_le_mul_left _ least
            _ < 2 ^ 125 := by omega
  · next large =>
      rw [if_neg (show exponent ≠ 0 by omega)]
      split
      · next subnormal =>
          have less := significand_small small subnormal
          have scale : 125 = 126 - exponent + (exponent - 1) := by omega
          refine ⟨?_, by omega⟩
          rw [scale]
          exact cuts_subnormal less
      · next normal =>
          have scale : exponent - 1 = exponent - 112 - 1 + 112 := by omega
          refine ⟨?_, by omega⟩
          rw [scale]
          exact @cuts_normal 10 13 (exponent - 112) fraction 112 (by omega) small

section

theorem leading_clear {mantissa : UInt32} (small : mantissa.toNat < 2 ^ 11) :
    mantissa &&& 0x400 = 0 ↔ mantissa.toNat < 2 ^ 10 := by
  rw [← UInt32.toNat_inj, UInt32.toNat_and]
  change mantissa.toNat &&& 2 ^ 10 = 0 ↔ _
  rw [Nat.and_two_pow, Nat.testBit_eq_decide_div_mod_eq]
  rcases Nat.lt_or_ge mantissa.toNat (2 ^ 10) with below | above
  · have zero : mantissa.toNat / 2 ^ 10 = 0 := Nat.div_eq_of_lt below
    rw [zero]
    exact iff_of_true rfl below
  · have one : mantissa.toNat / 2 ^ 10 = 1 := by omega
    rw [one]
    exact iff_of_false (by decide) (by omega)

theorem sub_one_sub (value count : UInt32) : value - 1 - count = value - (count + 1) := by
  grind

/-- The loop ends once the leading bit is at its place, after as many turns as it was off it. -/
theorem normalize_eq {turns : Nat} {mantissa exponent : UInt32} (nonzero : 0 < mantissa.toNat)
    (small : mantissa.toNat < 2 ^ 11) (enough : 2 ^ 11 ≤ mantissa.toNat * 2 ^ turns) :
    ∃ moved : UInt32, ∃ count : Nat,
      normalize turns mantissa exponent = some (moved, exponent - UInt32.ofNat count) ∧
        moved.toNat = mantissa.toNat * 2 ^ count ∧ 2 ^ 10 ≤ moved.toNat ∧ moved.toNat < 2 ^ 11 := by
  induction turns generalizing mantissa exponent with
  | zero => omega
  | succ turns ih =>
      rw [normalize]
      split
      · next clear =>
          have below := (leading_clear small).mp clear
          have doubled : (mantissa <<< 1).toNat = mantissa.toNat * 2 ^ 1 :=
            toNat_shiftLeft rfl (by omega) (by omega)
          have left : 2 ^ 11 ≤ (mantissa <<< 1).toNat * 2 ^ turns := by
            rw [doubled, Nat.mul_assoc, ← Nat.pow_add, Nat.add_comm]
            exact enough
          obtain ⟨moved, count, ends, shifted, least, most⟩ :=
            @ih (mantissa <<< 1) (exponent - 1) (by omega) (by omega) left
          refine ⟨moved, count + 1, ?_, ?_, least, most⟩
          · have turn :
                exponent - 1 - UInt32.ofNat count = exponent - UInt32.ofNat (count + 1) := by
              rw [UInt32.ofNat_add]
              exact sub_one_sub exponent (UInt32.ofNat count)
            rw [ends, turn]
          · rw [shifted, doubled, Nat.mul_assoc, ← Nat.pow_add, Nat.add_comm]
      · next set =>
          refine ⟨mantissa, 0, ?_, by omega, ?_, small⟩
          · simp
          · have above := mt (leading_clear small).mpr set
            omega

theorem widened_small {fraction : Nat} (small : fraction < 2 ^ 10) :
    fraction * 2 ^ 13 < 2 ^ 23 := by
  have scaled := Nat.mul_lt_mul_of_pos_right small (Nat.two_pow_pos 13)
  rwa [← Nat.pow_add] at scaled

theorem fields_of_word {word sign magnitude : Nat} (same : word = sign * 2 ^ 31 + magnitude)
    (small : magnitude < 2 ^ 31) : word / 2 ^ 31 = sign ∧ word % 2 ^ 31 = magnitude := by
  omega

theorem floatWord_fields {sign exponent mantissa : UInt32} (one : sign.toNat < 2)
    (byte : exponent.toNat < 2 ^ 8) (fraction : mantissa.toNat < 2 ^ 10) :
    (sign <<< 31 ||| exponent <<< 23 ||| mantissa <<< 13).toNat / 2 ^ 31 = sign.toNat ∧
      (sign <<< 31 ||| exponent <<< 23 ||| mantissa <<< 13).toNat % 2 ^ 31 =
        exponent.toNat * 2 ^ 23 + mantissa.toNat * 2 ^ 13 := by
  have signs : (sign <<< 31).toNat = sign.toNat * 2 ^ 31 :=
    toNat_shiftLeft rfl (by omega) (by omega)
  have exponents : (exponent <<< 23).toNat = exponent.toNat * 2 ^ 23 :=
    toNat_shiftLeft rfl (by omega) (by omega)
  have mantissas : (mantissa <<< 13).toNat = mantissa.toNat * 2 ^ 13 :=
    toNat_shiftLeft rfl (by omega) (by omega)
  have low := widened_small fraction
  have middle := digits_lt byte low
  apply fields_of_word _ middle
  rw [UInt32.or_assoc, UInt32.toNat_or, UInt32.toNat_or, signs, exponents, mantissas,
    or_eq_add low]
  exact or_eq_add middle

structure Widens (bits wide : Nat) : Prop where
  finite : bits < 31 * 2 ^ 10 → wide < 143 * 2 ^ 23 ∧ units 23 wide = units 10 bits * 2 ^ 125
  other : 31 * 2 ^ 10 ≤ bits → wide = 255 * 2 ^ 23 + (bits - 31 * 2 ^ 10) * 2 ^ 13

theorem widens_subnormal {fraction count moved : Nat} (shifted : moved = fraction * 2 ^ count)
    (small : fraction < 2 ^ 10) (least : 2 ^ 10 ≤ moved) (most : moved < 2 ^ 11)
    (few : count ≤ 10) : Widens fraction ((113 - count) * 2 ^ 23 + moved % 2 ^ 10 * 2 ^ 13) := by
  have whole : 2 ^ 23 + moved % 2 ^ 10 * 2 ^ 13 = moved * 2 ^ 13 := by omega
  have rest := @widened_small (moved % 2 ^ 10) (Nat.mod_lt _ (by decide))
  have less := digits_lt (show 113 - count < 143 by omega) rest
  constructor
  · intro _
    refine ⟨less, ?_⟩
    have scale : 125 = count + 13 + (113 - count - 1) := by omega
    rw [units_mk rest, if_neg (by omega), units_subnormal small, whole, shifted, scale,
      Nat.pow_add, Nat.pow_add]
    ring
  · intro above
    exact absurd (above.trans_lt small) (by decide)

theorem widens_normal {exponent fraction : Nat} (normal : exponent ≠ 0) (finite : exponent < 31)
    (small : fraction < 2 ^ 10) :
    Widens (exponent * 2 ^ 10 + fraction) ((exponent + 112) * 2 ^ 23 + fraction * 2 ^ 13) := by
  have rest := widened_small small
  have below := digits_lt finite small
  have less := digits_lt (show exponent + 112 < 143 by omega) rest
  constructor
  · intro _
    refine ⟨less, ?_⟩
    have scale : exponent + 112 - 1 = exponent - 1 + 112 := by omega
    rw [units_mk rest, if_neg (Nat.succ_ne_zero _), units_mk small, if_neg normal, scale,
      Nat.pow_add]
    ring
  · intro above
    exact absurd (above.trans_lt below) (Nat.lt_irrefl _)

theorem subnormal_exponent : ∀ count ≤ 10,
    (1 - UInt32.ofNat count + 127 - 15).toNat = 113 - count := by
  decide

theorem normal_exponent : ∀ exponent < 31,
    (UInt32.ofNat exponent + 127 - 15).toNat = exponent + 112 := by
  decide

section

variable {sign mantissa : UInt32} (one : sign.toNat < 2) (fraction : mantissa.toNat < 2 ^ 10)

include one

theorem zero_widens :
    (sign <<< 31).toNat / 2 ^ 31 = sign.toNat ∧ Widens 0 ((sign <<< 31).toNat % 2 ^ 31) := by
  have alone : (sign <<< 31).toNat = sign.toNat * 2 ^ 31 :=
    toNat_shiftLeft rfl (by omega) (by omega)
  obtain ⟨top, rest⟩ := fields_of_word (alone.trans (Nat.add_zero _).symm) (Nat.two_pow_pos 31)
  refine ⟨top, ?_⟩
  rw [rest]
  exact ⟨fun _ => ⟨by decide, by rw [units_subnormal (by decide)]; rfl⟩, by omega⟩

include fraction

theorem subnormal_widens (nonempty : mantissa ≠ 0) :
    ∃ moved exponent f32 : UInt32, normalize 32 mantissa 1 = some (moved, exponent) ∧
      f32 = sign <<< 31 ||| (exponent + 127 - 15) <<< 23 ||| (moved &&& 0x3FF) <<< 13 ∧
      f32.toNat / 2 ^ 31 = sign.toNat ∧ Widens mantissa.toNat (f32.toNat % 2 ^ 31) := by
  have nonzero : 0 < mantissa.toNat := by
    have different := mt (@UInt32.toNat_inj mantissa 0).mp nonempty
    exact Nat.pos_of_ne_zero different
  obtain ⟨moved, count, ends, shifted, least, most⟩ :=
    @normalize_eq 32 mantissa 1 nonzero (by omega) (by omega)
  have few : count ≤ 10 := by
    by_contra many
    have scaled : 2 ^ 11 ≤ 2 ^ count := Nat.pow_le_pow_right (by omega) (by omega)
    have beyond := Nat.mul_le_mul nonzero scaled
    omega
  have biased := subnormal_exponent count few
  have kept : (moved &&& 0x3FF).toNat = moved.toNat % 2 ^ 10 := by
    rw [UInt32.toNat_and]
    exact Nat.and_two_pow_sub_one_eq_mod _ 10
  have fields := @floatWord_fields sign (1 - UInt32.ofNat count + 127 - 15) (moved &&& 0x3FF)
    one (by rw [biased]; omega) (by rw [kept]; exact Nat.mod_lt _ (by decide))
  rw [biased, kept] at fields
  refine ⟨moved, _, _, ends, rfl, fields.1, ?_⟩
  rw [fields.2]
  exact widens_subnormal shifted fraction least most few

theorem full_widens :
    (sign <<< 31 ||| (0xFF : UInt32) <<< 23 ||| mantissa <<< 13).toNat / 2 ^ 31 = sign.toNat ∧
      Widens (31 * 2 ^ 10 + mantissa.toNat)
        ((sign <<< 31 ||| (0xFF : UInt32) <<< 23 ||| mantissa <<< 13).toNat % 2 ^ 31) := by
  have fields := @floatWord_fields sign 0xFF mantissa one (by decide) fraction
  refine ⟨fields.1, ?_⟩
  rw [fields.2]
  exact ⟨fun less => absurd less (by omega), fun _ => by rw [Nat.add_sub_cancel_left]; rfl⟩

theorem normal_widens {exponent : UInt32} (normal : exponent.toNat ≠ 0)
    (finite : exponent.toNat < 31) :
    (sign <<< 31 ||| (exponent + 127 - 15) <<< 23 ||| mantissa <<< 13).toNat / 2 ^ 31 =
        sign.toNat ∧
      Widens (exponent.toNat * 2 ^ 10 + mantissa.toNat)
        ((sign <<< 31 ||| (exponent + 127 - 15) <<< 23 ||| mantissa <<< 13).toNat % 2 ^ 31) := by
  have biased := normal_exponent exponent.toNat finite
  rw [UInt32.ofNat_toNat] at biased
  have fields := @floatWord_fields sign (exponent + 127 - 15) mantissa one (by omega) fraction
  rw [biased] at fields
  refine ⟨fields.1, ?_⟩
  rw [fields.2]
  exact widens_normal normal finite fraction

end

variable (value : UInt16)

theorem half_sign_field : (value.toUInt32 >>> 15 &&& 0x1).toNat = value.toNat / 2 ^ 15 := by
  rw [UInt32.toNat_and, UInt32.toNat_shiftRight, UInt16.toNat_toUInt32]
  change value.toNat >>> 15 &&& (2 ^ 1 - 1) = _
  rw [Nat.and_two_pow_sub_one_eq_mod, Nat.shiftRight_eq_div_pow]
  have bound := value.toNat_lt
  omega

theorem half_exponent_field :
    (value.toUInt32 >>> 10 &&& 0x1F).toNat = value.toNat / 2 ^ 10 % 2 ^ 5 := by
  rw [UInt32.toNat_and, UInt32.toNat_shiftRight, UInt16.toNat_toUInt32]
  change value.toNat >>> 10 &&& (2 ^ 5 - 1) = _
  rw [Nat.and_two_pow_sub_one_eq_mod, Nat.shiftRight_eq_div_pow]

theorem half_mantissa_field : (value.toUInt32 &&& 0x3FF).toNat = value.toNat % 2 ^ 10 := by
  rw [UInt32.toNat_and, UInt16.toNat_toUInt32]
  exact Nat.and_two_pow_sub_one_eq_mod _ 10

/-- The loop ends on every half, and the result says what the half says. -/
theorem float16ToFloat32_widens :
    ∃ f32, float16ToFloat32 value = some f32 ∧ f32.toNat / 2 ^ 31 = value.toNat / 2 ^ 15 ∧
      Widens (value.toNat % 2 ^ 15) (f32.toNat % 2 ^ 31) := by
  have signs := half_sign_field value
  have exponents := half_exponent_field value
  have mantissas := half_mantissa_field value
  have bound := value.toNat_lt
  simp only [float16ToFloat32]
  generalize value.toUInt32 >>> 15 &&& 0x1 = sign at signs ⊢
  generalize value.toUInt32 >>> 10 &&& 0x1F = exponent at exponents ⊢
  generalize value.toUInt32 &&& 0x3FF = mantissa at mantissas ⊢
  have one : sign.toNat < 2 := by omega
  have five : exponent.toNat < 32 := by omega
  have fraction : mantissa.toNat < 2 ^ 10 := by omega
  have whole : value.toNat % 2 ^ 15 = exponent.toNat * 2 ^ 10 + mantissa.toNat := by omega
  rw [← signs, whole]
  split
  · next subnormal =>
      have zero : exponent.toNat = 0 := by rw [subnormal]; rfl
      rw [zero, Nat.zero_mul, Nat.zero_add]
      split
      · next none =>
          have empty : mantissa.toNat = 0 := by rw [none]; rfl
          rw [empty]
          exact ⟨_, rfl, zero_widens one⟩
      · next nonempty =>
          obtain ⟨moved, biased, f32, ends, rfl, widens⟩ :=
            subnormal_widens one fraction nonempty
          exact ⟨_, by rw [ends]; rfl, widens⟩
  · next nonzero =>
      split
      · next full =>
          have top : exponent.toNat = 31 := by rw [full]; rfl
          rw [top]
          exact ⟨_, rfl, full_widens one fraction⟩
      · next finite =>
          have normal : exponent.toNat ≠ 0 := mt (@UInt32.toNat_inj exponent 0).mp nonzero
          have less : exponent.toNat < 31 := by
            have different := mt (@UInt32.toNat_inj exponent 0x1F).mp finite
            have limit : (0x1F : UInt32).toNat = 31 := rfl
            omega
          exact ⟨_, rfl, normal_widens one fraction normal less⟩

end

end Iq9Pipeline.Vision
