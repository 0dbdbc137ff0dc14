import Mathlib.Algebra.Order.Ring.Int
import Mathlib.Data.List.Basic
import Mathlib.Tactic.Linarith
import Mathlib.Tactic.Ring
import Mathlib.Tactic.Zify

/-!
`Nv12ToRgb24` (`nv12_to_rgb.cpp`) as the sequence of its stores. The offsets are
computed in `int`, so a large frame wraps them around; the pointers they are added to
are not.
-/

namespace Iq9Pipeline.FrameCache

def clampU8 (value : Int) : UInt8 :=
  if value < 0 then 0 else if 255 < value then 255 else UInt8.ofNat value.toNat

def rgbOf (y u v : UInt8) : List UInt8 :=
  let yVal : Int := y.toNat
  let uVal : Int := u.toNat - 128
  let vVal : Int := v.toNat - 128
  [clampU8 (yVal + (359 * vVal) >>> (8 : Nat)),
    clampU8 (yVal - (88 * uVal + 183 * vVal) >>> (8 : Nat)),
    clampU8 (yVal + (454 * uVal) >>> (8 : Nat))]

def pixelWrites (nv12 : Int → UInt8) (uvOffset width yStride row col : Int32) :
    List (Int × UInt8) :=
  let yRow := (row * yStride).toInt
  let uvRow := uvOffset.toInt + (row / 2 * yStride).toInt
  let outRow := (row * width * 3).toInt
  let uvCol := col / 2 * 2
  let rgb := rgbOf (nv12 (yRow + col.toInt)) (nv12 (uvRow + uvCol.toInt))
    (nv12 (uvRow + (uvCol + 1).toInt))
  let outIdx := col * 3
  rgb.zipIdx.map fun (byte, channel) => (outRow + (outIdx + Int32.ofNat channel).toInt, byte)

def nv12ToRgb24 (nv12 : Int → UInt8) (uvOffset width height yStride : Int32) :
    List (Int × UInt8) :=
  (List.range height.toInt.toNat).flatMap fun row =>
    (List.range width.toInt.toNat).flatMap fun col =>
      pixelWrites nv12 uvOffset width yStride (Int32.ofNat row) (Int32.ofNat col)

def wrap (value : Int) : Int :=
  value.bmod (2 ^ 32)

theorem wrap_of_small {value : Int} (nonnegative : 0 ≤ value) (small : value < 2 ^ 31) :
    wrap value = value := by
  rw [wrap, Int.bmod_def]
  split <;> omega

theorem wrap_negative {value : Int} (large : 2 ^ 31 ≤ value) (below : value < 2 ^ 32) :
    wrap value = value - 2 ^ 32 := by
  rw [wrap, Int.bmod_def]
  split <;> omega

theorem toInt_ofNat_eq {index : Nat} (small : index < 2 ^ 31) :
    (Int32.ofNat index).toInt = index :=
  Int32.toInt_ofNat_of_lt small

theorem rowOffset {row : Nat} (width : Int32) (small : row < 2 ^ 31) :
    (Int32.ofNat row * width * 3).toInt = wrap (row * width.toInt * 3) := by
  have three : (3 : Int32).toInt = 3 := rfl
  rw [Int32.toInt_mul, Int32.toInt_mul, toInt_ofNat_eq small, three, wrap, Int.bmod_mul_bmod]

theorem colOffset {col channel : Nat} (small : col < 2 ^ 31) (few : channel < 3) :
    (Int32.ofNat col * 3 + Int32.ofNat channel).toInt = wrap (col * 3 + channel) := by
  have three : (3 : Int32).toInt = 3 := rfl
  rw [Int32.toInt_add, Int32.toInt_mul, toInt_ofNat_eq small, three,
    toInt_ofNat_eq (show channel < 2 ^ 31 by omega), wrap, Int.bmod_add_bmod]

theorem mem_pixelWrites {nv12 : Int → UInt8} {uvOffset width yStride : Int32} {row col : Nat}
    {index : Int} (rowSmall : row < 2 ^ 31) (colSmall : col < 2 ^ 31) :
    index ∈ (pixelWrites nv12 uvOffset width yStride (Int32.ofNat row)
        (Int32.ofNat col)).map Prod.fst ↔
      ∃ channel : Nat, channel < 3 ∧
        index = wrap (row * width.toInt * 3) + wrap (col * 3 + channel) := by
  have offsets : (pixelWrites nv12 uvOffset width yStride (Int32.ofNat row)
      (Int32.ofNat col)).map Prod.fst = (List.range 3).map fun (channel : Nat) =>
        (Int32.ofNat row * width * 3).toInt +
          (Int32.ofNat col * 3 + Int32.ofNat channel).toInt := rfl
  rw [offsets, List.mem_map]
  constructor
  · rintro ⟨channel, few, rfl⟩
    rw [List.mem_range] at few
    exact ⟨channel, few, by rw [rowOffset width rowSmall, colOffset colSmall few]⟩
  · rintro ⟨channel, few, rfl⟩
    exact ⟨channel, List.mem_range.mpr few, by
      rw [rowOffset width rowSmall, colOffset colSmall few]⟩

theorem mem_nv12ToRgb24 {nv12 : Int → UInt8} {uvOffset width height yStride : Int32}
    {index : Int} :
    index ∈ (nv12ToRgb24 nv12 uvOffset width height yStride).map Prod.fst ↔
      ∃ row col channel : Nat, row < height.toInt.toNat ∧ col < width.toInt.toNat ∧ channel < 3 ∧
        index = wrap (row * width.toInt * 3) + wrap (col * 3 + channel) := by
  have rows := height.toInt_lt
  have cols := width.toInt_lt
  simp only [nv12ToRgb24, List.map_flatMap, List.mem_flatMap, List.mem_range]
  constructor
  · rintro ⟨row, rowBound, col, colBound, member⟩
    obtain ⟨channel, few, rfl⟩ := (mem_pixelWrites (by omega) (by omega)).mp member
    exact ⟨row, col, channel, rowBound, colBound, few, rfl⟩
  · rintro ⟨row, col, channel, rowBound, colBound, few, rfl⟩
    exact ⟨row, rowBound, col, colBound,
      (mem_pixelWrites (by omega) (by omega)).mpr ⟨channel, few, rfl⟩⟩

theorem exists_wrapping_row (width rows : Nat) (positive : 0 < width)
    (large : 2 ^ 31 ≤ width * rows) :
    ∃ row ≤ rows, 2 ^ 31 ≤ width * row ∧ width * row < 2 ^ 31 + width := by
  refine ⟨(2 ^ 31 + width - 1) / width, ?_, ?_, ?_⟩
  · apply Nat.le_of_lt_succ
    rw [Nat.div_lt_iff_lt_mul positive, Nat.succ_mul, Nat.mul_comm]
    omega
  · have above := Nat.lt_mul_div_succ (2 ^ 31 + width - 1) positive
    rw [Nat.mul_add] at above
    omega
  · have below := Nat.mul_div_le (2 ^ 31 + width - 1) width
    omega

/-- The stores of a frame stay in a window exactly when the frame fits and no offset in
it wraps around. -/
theorem nv12ToRgb24_inside_iff (nv12 : Int → UInt8) (uvOffset yStride : Int32)
    {width height : Int32} (size : Nat) (wide : 0 < width.toInt) (high : 0 < height.toInt) :
    (∀ write ∈ nv12ToRgb24 nv12 uvOffset width height yStride, 0 ≤ write.1 ∧ write.1 < size) ↔
      3 * width.toInt * height.toInt ≤ size ∧ 3 * width.toInt * (height.toInt - 1) < 2 ^ 31 ∧
        3 * width.toInt ≤ 2 ^ 31 := by
  have each : (∀ write ∈ nv12ToRgb24 nv12 uvOffset width height yStride,
      0 ≤ write.1 ∧ write.1 < size) ↔
      ∀ row col channel : Nat, row < height.toInt.toNat → col < width.toInt.toNat → channel < 3 →
        0 ≤ wrap (row * width.toInt * 3) + wrap (col * 3 + channel) ∧
          wrap (row * width.toInt * 3) + wrap (col * 3 + channel) < size := by
    rw [← List.forall_mem_map (f := Prod.fst) (P := fun index => 0 ≤ index ∧ index < (size : Int))]
    constructor
    · intro inside row col channel rowBound colBound few
      exact inside _ (mem_nv12ToRgb24.mpr ⟨row, col, channel, rowBound, colBound, few, rfl⟩)
    · intro inside index member
      obtain ⟨row, col, channel, rowBound, colBound, few, rfl⟩ := mem_nv12ToRgb24.mp member
      exact inside row col channel rowBound colBound few
  rw [each]
  obtain ⟨columns, columnsEq⟩ := Int.eq_ofNat_of_zero_le wide.le
  obtain ⟨rows, rowsEq⟩ := Int.eq_ofNat_of_zero_le high.le
  rw [columnsEq] at wide
  rw [rowsEq] at high
  simp only [columnsEq, rowsEq, Int.toNat_natCast]
  have zero : wrap 0 = 0 := rfl
  constructor
  · intro inside
    have narrow : 3 * (columns : Int) ≤ 2 ^ 31 := by
      by_contra large
      have wrapped := (inside 0 715827882 2 (by omega) (by omega) (by omega)).1
      have negative : wrap ((715827882 : Nat) * 3 + (2 : Nat)) = -2 ^ 31 := by decide
      rw [negative] at wrapped
      simp [zero] at wrapped
    have last : ((rows - 1 : Nat) : Int) = rows - 1 := by omega
    have flat : 3 * (columns : Int) * (rows - 1) < 2 ^ 31 := by
      by_contra large
      obtain ⟨row, atMost, above, below⟩ := exists_wrapping_row (3 * columns) (rows - 1) (by omega)
        (by
          zify
          rw [last]
          omega)
      have wrapped := (inside row 0 0 (by omega) (by omega) (by omega)).1
      have offset : (row : Int) * columns * 3 = ((3 * columns * row : Nat) : Int) := by
        push_cast
        ring
      rw [offset, wrap_negative (by omega) (by omega)] at wrapped
      simp only [Nat.cast_zero, zero_mul, add_zero, zero] at wrapped
      omega
    refine ⟨?_, flat, narrow⟩
    have stored := (inside (rows - 1) (columns - 1) 2 (by omega) (by omega) (by omega)).2
    have offset : ((rows - 1 : Nat) : Int) * columns * 3 = 3 * columns * (rows - 1) := by
      rw [last]
      ring
    have total : 3 * (columns : Int) * (rows - 1) = 3 * columns * rows - 3 * columns := by ring
    have nonnegative : 0 ≤ 3 * (columns : Int) * (rows - 1) :=
      Int.mul_nonneg (by omega) (by omega)
    rw [offset, wrap_of_small nonnegative flat, wrap_of_small (by omega) (by omega)] at stored
    omega
  · rintro ⟨fits, flat, narrow⟩ row col channel rowBound colBound few
    have offset : (row : Int) * columns * 3 = 3 * columns * row := by ring
    have atMost : 3 * (columns : Int) * row ≤ 3 * columns * (rows - 1) :=
      Int.mul_le_mul_of_nonneg_left (by omega) (by omega)
    have nonnegative : 0 ≤ 3 * (columns : Int) * row := Int.mul_nonneg (by omega) (by omega)
    have total : 3 * (columns : Int) * (rows - 1) = 3 * columns * rows - 3 * columns := by ring
    rw [offset, wrap_of_small nonnegative (by omega), wrap_of_small (by omega) (by omega)]
    omega

end Iq9Pipeline.FrameCache
