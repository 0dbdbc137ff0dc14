import Iq9Pipeline.Foundation.LoopNest
import Iq9Pipeline.FrameCache.Nv12ToRgb

/-!
What `Nv12ToRgb24` makes of a frame whose offsets stay in the range of an `int`: its
stores are the bytes of the image in order, and its loads stay in the two planes.
-/

namespace Iq9Pipeline.FrameCache

open Foundation

def bt601 (y u v : UInt8) : List Int :=
  let luma : Int := y.toNat
  let blue : Int := u.toNat - 128
  let red : Int := v.toNat - 128
  [luma + 359 * red / 256, luma - (88 * blue + 183 * red) / 256, luma + 454 * blue / 256].map
    fun value => max 0 (min 255 value)

theorem clampU8_toNat (value : Int) : ((clampU8 value).toNat : Int) = max 0 (min 255 value) := by
  rw [clampU8]
  split
  · have zero : (0 : UInt8).toNat = 0 := rfl
    omega
  · split
    · have full : (255 : UInt8).toNat = 255 := rfl
      omega
    · rw [UInt8.toNat_ofNat_of_lt' (by simp only [UInt8.size]; omega)]
      omega

theorem rgbOf_eq_bt601 (y u v : UInt8) :
    (rgbOf y u v).map (fun byte => (byte.toNat : Int)) = bt601 y u v := by
  simp only [rgbOf, bt601, List.map_cons, List.map_nil, clampU8_toNat, Int.shiftRight_eq_div_pow]
  rfl

def yIndex (yStride row col : Int32) : Int :=
  (row * yStride).toInt + col.toInt

def uIndex (uvOffset yStride row col : Int32) : Int :=
  uvOffset.toInt + (row / 2 * yStride).toInt + (col / 2 * 2).toInt

def vIndex (uvOffset yStride row col : Int32) : Int :=
  uvOffset.toInt + (row / 2 * yStride).toInt + (col / 2 * 2 + 1).toInt

def pixelValue (nv12 : Int → UInt8) (uvOffset yStride row col : Int32) : List UInt8 :=
  rgbOf (nv12 (yIndex yStride row col)) (nv12 (uIndex uvOffset yStride row col))
    (nv12 (vIndex uvOffset yStride row col))

theorem pixelWrites_eq (nv12 : Int → UInt8) (uvOffset width yStride row col : Int32) :
    pixelWrites nv12 uvOffset width yStride row col =
      (pixelValue nv12 uvOffset yStride row col).zipIdx.map fun (byte, channel) =>
        ((row * width * 3).toInt + (col * 3 + Int32.ofNat channel).toInt, byte) :=
  rfl

/-- The offsets that the loops compute in `int` are exact. -/
structure SmallOffsets (width height yStride : Int32) : Prop where
  loads : (height.toInt - 1) * yStride.toInt < 2 ^ 31
  stores : (height.toInt - 1) * (3 * width.toInt) < 2 ^ 31
  columns : 3 * width.toInt ≤ 2 ^ 31

/-- The stores are the bytes of the image, each once and in order, every pixel is converted
from its own luma and the chroma of its block, and no load leaves its plane. -/
structure CoversImage (nv12 : Int → UInt8) (uvOffset width height yStride : Int32) : Prop where
  stores : (nv12ToRgb24 nv12 uvOffset width height yStride).map Prod.fst =
    (List.range (3 * width.toInt.toNat * height.toInt.toNat)).map Int.ofNat
  values : ∀ row col channel : Nat, (row : Int) < height.toInt → (col : Int) < width.toInt →
    channel < 3 → ∃ byte,
      (((3 * (row * width.toInt.toNat + col) + channel : Nat) : Int), byte) ∈
          nv12ToRgb24 nv12 uvOffset width height yStride ∧
        (bt601 (nv12 (row * yStride.toInt + col))
          (nv12 (uvOffset.toInt + (row / 2 : Nat) * yStride.toInt + (col / 2 * 2 : Nat)))
          (nv12 (uvOffset.toInt + (row / 2 : Nat) * yStride.toInt +
            (col / 2 * 2 : Nat) + 1)))[channel]? = some (byte.toNat : Int)
  lumaLoads : ∀ row col : Nat, (row : Int) < height.toInt → (col : Int) < width.toInt →
    0 ≤ yIndex yStride (Int32.ofNat row) (Int32.ofNat col) ∧
      yIndex yStride (Int32.ofNat row) (Int32.ofNat col) < height.toInt * yStride.toInt
  chromaLoads : ∀ row col : Nat, (row : Int) < height.toInt → (col : Int) < width.toInt →
    ∀ index ∈ [uIndex uvOffset yStride (Int32.ofNat row) (Int32.ofNat col),
        vIndex uvOffset yStride (Int32.ofNat row) (Int32.ofNat col)],
      uvOffset.toInt ≤ index ∧
        index < uvOffset.toInt + (height.toInt + 1) / 2 * yStride.toInt

theorem mul_toInt {value : Nat} {factor : Int32} (small : value < 2 ^ 31)
    (nonnegative : 0 ≤ factor.toInt) (product : value * factor.toInt < 2 ^ 31) :
    (Int32.ofNat value * factor).toInt = value * factor.toInt := by
  rw [Int32.toInt_mul, toInt_ofNat_eq small]
  exact wrap_of_small (Int.mul_nonneg (by omega) nonnegative) product

theorem half_toInt {value : Nat} (small : value < 2 ^ 31) :
    Int32.ofNat value / 2 = Int32.ofNat (value / 2) :=
  (Int32.ofNat_div small (by decide)).symm

theorem even_toInt {col : Nat} (small : col < 2 ^ 31) :
    (Int32.ofNat col / 2 * 2).toInt = (col / 2 * 2 : Nat) ∧
      (Int32.ofNat col / 2 * 2 + 1).toInt = (col / 2 * 2 : Nat) + 1 := by
  have two : (2 : Int32).toInt = 2 := rfl
  have one : (1 : Int32).toInt = 1 := rfl
  have even := @mul_toInt (col / 2) 2 (by omega) (by decide) (by rw [two]; omega)
  rw [half_toInt small, Int32.toInt_add, even, two, one]
  refine ⟨by omega, ?_⟩
  have exactly := @wrap_of_small (((col / 2 : Nat) : Int) * 2 + 1) (by omega) (by omega)
  rw [wrap] at exactly
  rw [exactly]
  omega

section

variable {uvOffset width height yStride : Int32} {row col channel : Nat}

theorem SmallOffsets.indices (small : SmallOffsets width height yStride)
    (stride : 0 ≤ yStride.toInt) (inRow : (row : Int) < height.toInt)
    (inColumn : (col : Int) < width.toInt) :
    yIndex yStride (Int32.ofNat row) (Int32.ofNat col) = row * yStride.toInt + col ∧
      uIndex uvOffset yStride (Int32.ofNat row) (Int32.ofNat col) =
        uvOffset.toInt + (row / 2 : Nat) * yStride.toInt + (col / 2 * 2 : Nat) ∧
      vIndex uvOffset yStride (Int32.ofNat row) (Int32.ofNat col) =
        uvOffset.toInt + (row / 2 : Nat) * yStride.toInt + (col / 2 * 2 : Nat) + 1 := by
  have rows := height.toInt_lt
  have columns := width.toInt_lt
  have loads := small.loads
  have last : (row : Int) * yStride.toInt ≤ (height.toInt - 1) * yStride.toInt :=
    Int.mul_le_mul_of_nonneg_right (by omega) stride
  have half : ((row / 2 : Nat) : Int) * yStride.toInt ≤ row * yStride.toInt :=
    Int.mul_le_mul_of_nonneg_right (by omega) stride
  have luma := @mul_toInt row yStride (by omega) stride (by omega)
  have chroma := @mul_toInt (row / 2) yStride (by omega) stride (by omega)
  have even := @even_toInt col (by omega)
  refine ⟨?_, ?_, ?_⟩
  · rw [yIndex, luma, toInt_ofNat_eq (by omega)]
  · rw [uIndex, half_toInt (by omega), chroma, even.1]
  · rw [vIndex, half_toInt (by omega), chroma, even.2, Int.add_assoc _ _ 1]

theorem length_pixelWrites (nv12 : Int → UInt8) (row col : Int32) :
    (pixelWrites nv12 uvOffset width yStride row col).length = 3 := by
  simp [pixelWrites, rgbOf]

theorem SmallOffsets.pixelWrites (small : SmallOffsets width height yStride)
    (nv12 : Int → UInt8) (inRow : (row : Int) < height.toInt)
    (inColumn : (col : Int) < width.toInt) (few : channel < 3) :
    (FrameCache.pixelWrites nv12 uvOffset width yStride (Int32.ofNat row)
        (Int32.ofNat col))[channel]? =
      (pixelValue nv12 uvOffset yStride (Int32.ofNat row) (Int32.ofNat col))[channel]?.map
        fun byte => (row * (3 * width.toInt) + 3 * col + channel, byte) := by
  have rows := height.toInt_lt
  have columns := width.toInt_lt
  have stores := small.stores
  have narrow := small.columns
  have last : (row : Int) * (3 * width.toInt) ≤ (height.toInt - 1) * (3 * width.toInt) :=
    Int.mul_le_mul_of_nonneg_right (by omega) (by omega)
  have nonnegative : 0 ≤ (row : Int) * (3 * width.toInt) := Int.mul_nonneg (by omega) (by omega)
  have order : (row : Int) * width.toInt * 3 = row * (3 * width.toInt) := by ring
  have line := @rowOffset row width (by omega)
  have place := @colOffset col channel (by omega) few
  rw [order, wrap_of_small nonnegative (by omega)] at line
  rw [wrap_of_small (by omega) (by omega)] at place
  rw [pixelWrites_eq, List.getElem?_map, List.getElem?_zipIdx, Option.map_map]
  congr 1
  funext byte
  simp only [Function.comp_apply, Nat.zero_add, line, place, Prod.mk.injEq, and_true]
  omega

theorem nv12ToRgb24_getElem? (nv12 : Int → UInt8) {place : Nat}
    (inside : place < height.toInt.toNat * (width.toInt.toNat * 3)) :
    (nv12ToRgb24 nv12 uvOffset width height yStride)[place]? =
      (FrameCache.pixelWrites nv12 uvOffset width yStride
        (Int32.ofNat (place / (width.toInt.toNat * 3)))
        (Int32.ofNat (place % (width.toInt.toNat * 3) / 3)))[
          place % (width.toInt.toNat * 3) % 3]? := by
  let pixel (row col : Nat) :=
    FrameCache.pixelWrites nv12 uvOffset width yStride (Int32.ofNat row) (Int32.ofNat col)
  have ofPixel (row col : Nat) : (pixel row col).length = 3 := length_pixelWrites nv12 _ _
  have ofRow (row : Nat) : (nest width.toInt.toNat (pixel row)).length = width.toInt.toNat * 3 :=
    length_nest (ofPixel row) _
  have inRow : place % (width.toInt.toNat * 3) < width.toInt.toNat * 3 := by
    apply Nat.mod_lt
    rw [Nat.pos_iff_ne_zero]
    intro zero
    rw [zero, Nat.mul_zero] at inside
    exact absurd inside (Nat.not_lt_zero _)
  have loops : nv12ToRgb24 nv12 uvOffset width height yStride =
      nest height.toInt.toNat fun row => nest width.toInt.toNat (pixel row) := rfl
  rw [loops, getElem?_nest ofRow inside, getElem?_nest (ofPixel _) inRow]

theorem SmallOffsets.getElem? (small : SmallOffsets width height yStride) (nv12 : Int → UInt8)
    (inRow : (row : Int) < height.toInt) (inColumn : (col : Int) < width.toInt)
    (few : channel < 3) :
    (nv12ToRgb24 nv12 uvOffset width height yStride)[3 * (row * width.toInt.toNat + col) +
        channel]? =
      (pixelValue nv12 uvOffset yStride (Int32.ofNat row) (Int32.ofNat col))[channel]?.map
        fun byte => (((3 * (row * width.toInt.toNat + col) + channel : Nat) : Int), byte) := by
  have columns : (width.toInt.toNat : Int) = width.toInt := Int.toNat_of_nonneg (by omega)
  have place : 3 * (row * width.toInt.toNat + col) + channel =
      row * (width.toInt.toNat * 3) + (3 * col + channel) := by ring
  have atRow := Nat.mul_le_mul_right (width.toInt.toNat * 3)
    (show row + 1 ≤ height.toInt.toNat by omega)
  rw [Nat.succ_mul] at atRow
  have inLine : 3 * col + channel < width.toInt.toNat * 3 := by omega
  rw [place, nv12ToRgb24_getElem? nv12 (by omega)]
  have quotient : (row * (width.toInt.toNat * 3) + (3 * col + channel)) /
      (width.toInt.toNat * 3) = row := by
    rw [Nat.mul_comm row, Nat.mul_add_div (by omega), Nat.div_eq_of_lt inLine, Nat.add_zero]
  have remainder : (row * (width.toInt.toNat * 3) + (3 * col + channel)) %
      (width.toInt.toNat * 3) = 3 * col + channel := by
    rw [Nat.mul_comm row, Nat.mul_add_mod, Nat.mod_eq_of_lt inLine]
  have pixel : (3 * col + channel) / 3 = col ∧ (3 * col + channel) % 3 = channel := by omega
  rw [quotient, remainder, pixel.1, pixel.2, small.pixelWrites nv12 inRow inColumn few]
  congr 1
  funext byte
  simp only [Prod.mk.injEq, and_true]
  push_cast
  rw [columns]
  ring

theorem exists_pixel {columns rows place : Nat} (inside : place < 3 * columns * rows) :
    ∃ row < rows, ∃ col < columns, ∃ channel < 3, place = 3 * (row * columns + col) + channel := by
  have pixel : place / 3 < columns * rows := by
    rw [Nat.div_lt_iff_lt_mul (by decide), Nat.mul_comm, ← Nat.mul_assoc]
    exact inside
  have positive : 0 < columns := Nat.pos_of_mul_pos_right (Nat.zero_lt_of_lt pixel)
  have whole := Nat.div_add_mod (place / 3) columns
  rw [Nat.mul_comm columns] at whole
  refine ⟨place / 3 / columns, ?_, place / 3 % columns, Nat.mod_lt _ positive, place % 3,
    Nat.mod_lt _ (by decide), by omega⟩
  rw [Nat.div_lt_iff_lt_mul positive, Nat.mul_comm rows]
  exact pixel

theorem pixelValue_getElem? (nv12 : Int → UInt8) (row col : Int32) (few : channel < 3) :
    ∃ byte, (pixelValue nv12 uvOffset yStride row col)[channel]? = some byte := by
  have length : (pixelValue nv12 uvOffset yStride row col).length = 3 := rfl
  exact ⟨_, List.getElem?_eq_getElem (by omega)⟩

theorem SmallOffsets.stores_eq (small : SmallOffsets width height yStride) (nv12 : Int → UInt8) :
    (nv12ToRgb24 nv12 uvOffset width height yStride).map Prod.fst =
      (List.range (3 * width.toInt.toNat * height.toInt.toNat)).map Int.ofNat := by
  have length : (nv12ToRgb24 nv12 uvOffset width height yStride).length =
      3 * width.toInt.toNat * height.toInt.toNat := by
    have nested : (nv12ToRgb24 nv12 uvOffset width height yStride).length =
        height.toInt.toNat * (width.toInt.toNat * 3) :=
      length_nest (fun row => length_nest (fun col => length_pixelWrites nv12 _ _) _) _
    rw [nested]
    ring
  refine List.ext_getElem? fun place => ?_
  rw [List.getElem?_map, List.getElem?_map]
  by_cases inside : place < 3 * width.toInt.toNat * height.toInt.toNat
  · obtain ⟨row, inRow, col, inColumn, channel, few, rfl⟩ := exists_pixel inside
    obtain ⟨byte, found⟩ := @pixelValue_getElem? uvOffset yStride _ nv12 (Int32.ofNat row)
      (Int32.ofNat col) few
    rw [small.getElem? nv12 (by omega) (by omega) few, found, List.getElem?_range inside]
    rfl
  · rw [List.getElem?_eq_none (by omega), List.getElem?_eq_none (by simpa using inside)]
    rfl

theorem SmallOffsets.coversImage (small : SmallOffsets width height yStride)
    (nv12 : Int → UInt8) (wide : 1 ≤ width.toInt)
    (stride : width.toInt + width.toInt % 2 ≤ yStride.toInt) :
    CoversImage nv12 uvOffset width height yStride := by
  refine ⟨small.stores_eq nv12, ?_, ?_, ?_⟩
  · intro row col channel inRow inColumn few
    obtain ⟨luma, blue, red⟩ := @SmallOffsets.indices uvOffset _ _ _ _ _ small (by omega) inRow
      inColumn
    obtain ⟨byte, found⟩ := @pixelValue_getElem? uvOffset yStride _ nv12 (Int32.ofNat row)
      (Int32.ofNat col) few
    have stored := @SmallOffsets.getElem? uvOffset _ _ _ _ _ _ small nv12 inRow inColumn few
    rw [found, Option.map_some] at stored
    refine ⟨byte, List.mem_of_getElem? stored, ?_⟩
    rw [← luma, ← red, ← blue, ← rgbOf_eq_bt601, List.getElem?_map]
    rw [pixelValue] at found
    rw [found, Option.map_some]
  · intro row col inRow inColumn
    rw [(@SmallOffsets.indices uvOffset _ _ _ _ _ small (by omega) inRow inColumn).1]
    have lines : ((row : Int) + 1) * yStride.toInt ≤ height.toInt * yStride.toInt :=
      Int.mul_le_mul_of_nonneg_right (by omega) (by omega)
    have first : 0 ≤ (row : Int) * yStride.toInt := Int.mul_nonneg (by omega) (by omega)
    rw [Int.add_mul, Int.one_mul] at lines
    omega
  · intro row col inRow inColumn index member
    obtain ⟨_, blue, red⟩ := @SmallOffsets.indices uvOffset _ _ _ _ _ small (by omega) inRow
      inColumn
    have lines : (((row / 2 : Nat) : Int) + 1) * yStride.toInt ≤
        (height.toInt + 1) / 2 * yStride.toInt :=
      Int.mul_le_mul_of_nonneg_right (by omega) (by omega)
    have first : 0 ≤ ((row / 2 : Nat) : Int) * yStride.toInt := Int.mul_nonneg (by omega) (by omega)
    rw [Int.add_mul, Int.one_mul] at lines
    simp only [List.mem_cons, List.not_mem_nil, or_false] at member
    rcases member with rfl | rfl
    · rw [blue]
      omega
    · rw [red]
      omega

/-- With offsets in range, the image is covered exactly, odd sizes included. -/
theorem nv12ToRgb24_coversImage (nv12 : Int → UInt8) (wide : 1 ≤ width.toInt)
    (stride : width.toInt + width.toInt % 2 ≤ yStride.toInt)
    (small : SmallOffsets width height yStride) :
    CoversImage nv12 uvOffset width height yStride :=
  small.coversImage nv12 wide stride

end

/-- A frame of three by three pixels with its chroma behind three lines of four bytes. -/
theorem nv12ToRgb24_coversImage_odd :
    CoversImage (fun index => UInt8.ofNat index.toNat) 12 3 3 4 :=
  nv12ToRgb24_coversImage _ (by decide) (by decide) ⟨by decide, by decide, by decide⟩

end Iq9Pipeline.FrameCache
