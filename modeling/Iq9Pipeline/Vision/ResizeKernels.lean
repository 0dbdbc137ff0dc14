import Iq9Pipeline.Foundation.Interpolation
import Iq9Pipeline.Foundation.Numerals
import Iq9Pipeline.Vision.PatchKernels
import Mathlib.Data.Rat.Floor

/-!
The kernels that resize a frame on the graphics processor (`qwen_vl_opencl_kernels.h`), in
exact arithmetic on `float`. Their indices are `int`.
-/

namespace Iq9Pipeline.Vision.Kernels

open Foundation
open Foundation.Numerals

/-- An overflow of `int` has no defined value. -/
def int32 (value : Int) : Option Int :=
  if -2 ^ 31 ≤ value ∧ value < 2 ^ 31 then some value else none

structure Tap (K : Type) where
  lower : Int
  upper : Int
  weight : K

def Tap.Within {K : Type} (t : Tap K) (size : Int) : Prop :=
  0 ≤ t.lower ∧ t.lower < size ∧ 0 ≤ t.upper ∧ t.upper < size

section

variable {K : Type} [Field K]

def sourcePlace (d srcSize dstSize : Int) : K :=
  ((d : K) + 1 / 2) * (srcSize : K) / (dstSize : K) - 1 / 2

variable [LinearOrder K] [FloorRing K]

def tap (d srcSize dstSize : Int) : Tap K :=
  let s : K := sourcePlace d srcSize dstSize
  let x0 := ⌊s⌋
  let x1 := min (x0 + 1) (srcSize - 1)
  let x0 := max x0 0
  ⟨x0, x1, s - (x0 : K)⟩

def pixelIdx (y srcStride x channels : Int) : Option Int := do
  int32 ((← int32 (y * srcStride)) + (← int32 (x * channels)))

def byteAt (src : Int → Option UInt8) (idx c : Int) : Option K := do
  some (← src (← int32 (idx + c))).toNat

def dstPixelIdx (dy dstWidth dx channels : Int) : Option Int := do
  int32 ((← int32 ((← int32 (dy * dstWidth)) + dx)) * channels)

def toUchar (val : K) : UInt8 :=
  UInt8.ofNat ⌊min (max (val + 1 / 2) 0) 255⌋.toNat

def resizeBilinear (K : Type) [Field K] [LinearOrder K] [FloorRing K]
    (src : Int → Option UInt8)
    (srcWidth srcHeight srcStride dstWidth dstHeight channels : Int) (id : Nat × Nat) :
    Option (List (Nat × UInt8)) :=
  let dy : Int := id.1
  let dx : Int := id.2
  if dy ≥ dstHeight ∨ dx ≥ dstWidth then some []
  else do
    let y : Tap K := tap dy srcHeight dstHeight
    let x : Tap K := tap dx srcWidth dstWidth
    let idx00 ← pixelIdx y.lower srcStride x.lower channels
    let idx01 ← pixelIdx y.lower srcStride x.upper channels
    let idx10 ← pixelIdx y.upper srcStride x.lower channels
    let idx11 ← pixelIdx y.upper srcStride x.upper channels
    let dstIdx ← dstPixelIdx dy dstWidth dx channels
    (List.range channels.toNat).mapM fun (c : Nat) => do
      let v00 : K ← byteAt src idx00 c
      let v01 : K ← byteAt src idx01 c
      let v10 : K ← byteAt src idx10 c
      let v11 : K ← byteAt src idx11 c
      let val := v00 * (1 - x.weight) * (1 - y.weight) + v01 * x.weight * (1 - y.weight) +
        v10 * (1 - x.weight) * y.weight + v11 * x.weight * y.weight
      some ((← int32 (dstIdx + c)).toNat, toUchar val)

def weighted (src : Int → Option UInt8) (idx00 idx01 idx10 idx11 : Int) (w00 w01 w10 w11 : K)
    (c : Int) : Option K := do
  some ((← byteAt src idx00 c) * w00 + (← byteAt src idx01 c) * w01 +
    (← byteAt src idx10 c) * w10 + (← byteAt src idx11 c) * w11)

def resizeBilinearNormalized (src : Int → Option UInt8)
    (srcWidth srcHeight srcStride dstWidth dstHeight : Int) (mean invStd : Rgb K)
    (id : Nat × Nat) : Option (List (Nat × K)) :=
  let dy : Int := id.1
  let dx : Int := id.2
  if dy ≥ dstHeight ∨ dx ≥ dstWidth then some []
  else do
    let y : Tap K := tap dy srcHeight dstHeight
    let x : Tap K := tap dx srcWidth dstWidth
    let idx00 ← pixelIdx y.lower srcStride x.lower 3
    let idx01 ← pixelIdx y.lower srcStride x.upper 3
    let idx10 ← pixelIdx y.upper srcStride x.lower 3
    let idx11 ← pixelIdx y.upper srcStride x.upper 3
    let w00 := (1 - x.weight) * (1 - y.weight)
    let w01 := x.weight * (1 - y.weight)
    let w10 := (1 - x.weight) * y.weight
    let w11 := x.weight * y.weight
    let dstIdx ← dstPixelIdx dy dstWidth dx 3
    let r ← weighted src idx00 idx01 idx10 idx11 w00 w01 w10 w11 0
    let g ← weighted src idx00 idx01 idx10 idx11 w00 w01 w10 w11 1
    let b ← weighted src idx00 idx01 idx10 idx11 w00 w01 w10 w11 2
    some [(dstIdx.toNat, (r / 255 - mean.r) * invStd.r),
      ((← int32 (dstIdx + 1)).toNat, (g / 255 - mean.g) * invStd.g),
      ((← int32 (dstIdx + 2)).toNat, (b / 255 - mean.b) * invStd.b)]

/-- The memory has the bytes of an RGB image in its rows. -/
def HoldsImage (src : Int → Option UInt8) (pixel : Int → Int → Nat → UInt8)
    (srcWidth srcHeight srcStride : Int) : Prop :=
  ∀ (y x : Int) (c : Nat), 0 ≤ y → y < srcHeight → 0 ≤ x → x < srcWidth → c < 3 →
    src (y * srcStride + x * 3 + c) = some (pixel y x c)

def imageRows (pixel : Int → Int → Nat → UInt8) (srcWidth srcHeight srcStride : Int)
    (idx : Int) : Option UInt8 :=
  let y := idx / srcStride
  let x := idx % srcStride / 3
  if 0 ≤ y ∧ y < srcHeight ∧ x < srcWidth then some (pixel y x (idx % srcStride % 3).toNat)
  else none

theorem holdsImage_imageRows (pixel : Int → Int → Nat → UInt8)
    {srcWidth srcHeight srcStride : Int} (wide : 3 * srcWidth ≤ srcStride) :
    HoldsImage (imageRows pixel srcWidth srcHeight srcStride) pixel srcWidth srcHeight
      srcStride := by
  intro y x c high low left right channel
  have split : (y * srcStride + x * 3 + c) / srcStride = y ∧
      (y * srcStride + x * 3 + c) % srcStride = x * 3 + c := by
    apply (Int.ediv_emod_unique (by omega)).mpr
    exact ⟨by ring, by omega, by omega⟩
  have column : (x * 3 + (c : Int)) / 3 = x := by omega
  have rest : ((x * 3 + (c : Int)) % 3).toNat = c := by omega
  simp only [imageRows, split.1, split.2, column, rest]
  rw [if_pos ⟨high, low, right⟩]

/-- What bilinear interpolation of the image says, where indices outside of it stand for the
nearest pixel. -/
def interpolated (K : Type) [Field K] [LinearOrder K] [FloorRing K]
    (pixel : Int → Int → Nat → UInt8) (srcWidth srcHeight dstWidth dstHeight dy dx : Int)
    (c : Nat) : K :=
  surface (fun y x => ((pixel (edge srcHeight y) (edge srcWidth x) c).toNat : K))
    (sourcePlace dy srcHeight dstHeight) (sourcePlace dx srcWidth dstWidth)

section Taps

variable [IsStrictOrderedRing K] {d srcSize dstSize : Int}

theorem sourcePlace_floor (source : 0 < srcSize) (low : 0 ≤ d) (high : d < dstSize) :
    -1 ≤ ⌊(sourcePlace d srcSize dstSize : K)⌋ ∧
      ⌊(sourcePlace d srcSize dstSize : K)⌋ < srcSize := by
  have size : (0 : K) < dstSize := by exact_mod_cast low.trans_lt high
  have start : (0 : K) ≤ d := by exact_mod_cast low
  have stop : (d : K) + 1 ≤ dstSize := by exact_mod_cast high
  have width : (0 : K) < srcSize := by exact_mod_cast source
  constructor
  · have positive : (0 : K) ≤ ((d : K) + 1 / 2) * srcSize / dstSize := by positivity
    apply Int.le_floor.mpr
    rw [sourcePlace]
    push_cast
    linarith
  · have scaled : ((d : K) + 1 / 2) * srcSize / dstSize ≤ srcSize := by
      rw [div_le_iff₀ size, mul_comm]
      exact mul_le_mul_of_nonneg_left (by linarith) width.le
    apply Int.floor_lt.mpr
    rw [sourcePlace]
    linarith

theorem tap_within (source : 0 < srcSize) (low : 0 ≤ d) (high : d < dstSize) :
    (tap d srcSize dstSize : Tap K).Within srcSize := by
  have bounds := sourcePlace_floor (K := K) source low high
  simp only [tap, Tap.Within]
  omega

theorem mix_tap (source : 0 < srcSize) (low : 0 ≤ d) (high : d < dstSize) (sample : Int → K) :
    mix (tap d srcSize dstSize : Tap K).weight (sample (tap d srcSize dstSize : Tap K).lower)
        (sample (tap d srcSize dstSize : Tap K).upper) =
      line (fun index => sample (edge srcSize index)) (sourcePlace d srcSize dstSize) := by
  have bounds := sourcePlace_floor (K := K) source low high
  exact mix_clamped source bounds.1 bounds.2 sample

theorem tap_eq_edge (source : 0 < srcSize) (low : 0 ≤ d) (high : d < dstSize) :
    edge srcSize ⌊(sourcePlace d srcSize dstSize : K)⌋ =
        (tap d srcSize dstSize : Tap K).lower ∧
      edge srcSize (⌊(sourcePlace d srcSize dstSize : K)⌋ + 1) =
        (tap d srcSize dstSize : Tap K).upper := by
  have bounds := sourcePlace_floor (K := K) source low high
  simp only [tap, edge]
  omega

end Taps

structure ResizeSizes (srcWidth srcHeight srcStride dstWidth dstHeight : Int) : Prop where
  srcWidth_pos : 0 < srcWidth
  srcHeight_pos : 0 < srcHeight
  dstWidth_pos : 0 < dstWidth
  dstHeight_pos : 0 < dstHeight
  wide : 3 * srcWidth ≤ srcStride
  source : (srcHeight - 1) * srcStride + 3 * srcWidth ≤ 2 ^ 31
  target : 3 * (dstWidth * dstHeight) ≤ 2 ^ 31

section Indices

variable {srcWidth srcHeight srcStride dstWidth dstHeight : Int}

theorem int32_eq {value : Int} (nonneg : 0 ≤ value) (small : value < 2 ^ 31) :
    int32 value = some value :=
  if_pos ⟨by omega, small⟩

theorem pixelIdx_eq (sizes : ResizeSizes srcWidth srcHeight srcStride dstWidth dstHeight)
    {y x : Int} (high : 0 ≤ y) (low : y < srcHeight) (left : 0 ≤ x) (right : x < srcWidth) :
    pixelIdx y srcStride x 3 = some (y * srcStride + x * 3) ∧
      0 ≤ y * srcStride + x * 3 ∧ y * srcStride + x * 3 + 2 < 2 ^ 31 := by
  have stride : 0 ≤ srcStride := by linarith [sizes.wide, sizes.srcWidth_pos]
  have row : 0 ≤ y * srcStride := Int.mul_nonneg high stride
  have last : y * srcStride ≤ (srcHeight - 1) * srcStride :=
    Int.mul_le_mul_of_nonneg_right (by omega) stride
  have source := sizes.source
  have bound : y * srcStride + x * 3 + 2 < 2 ^ 31 := by omega
  refine ⟨?_, by omega, bound⟩
  simp only [pixelIdx, int32_eq row (by omega), int32_eq (by omega : 0 ≤ x * 3) (by omega),
    int32_eq (by omega : 0 ≤ y * srcStride + x * 3) (by omega), Option.bind_eq_bind,
    Option.bind_some]

theorem dstPixelIdx_eq (sizes : ResizeSizes srcWidth srcHeight srcStride dstWidth dstHeight)
    {dy dx : Nat} (low : (dy : Int) < dstHeight) (right : (dx : Int) < dstWidth) :
    dstPixelIdx dy dstWidth dx 3 = some (((dy * dstWidth.toNat + dx) * 3 : Nat) : Int) ∧
      ∀ c < 3, int32 ((((dy * dstWidth.toNat + dx) * 3 : Nat) : Int) + (c : Nat)) =
        some (((dy * dstWidth.toNat + dx) * 3 + c : Nat) : Int) := by
  obtain ⟨width, rfl⟩ := Int.eq_ofNat_of_zero_le sizes.dstWidth_pos.le
  obtain ⟨height, rfl⟩ := Int.eq_ofNat_of_zero_le sizes.dstHeight_pos.le
  have last : dy * width + dx < height * width := digits_lt (by omega) (by omega)
  have target : 3 * (width * height) ≤ 2 ^ 31 := by exact_mod_cast sizes.target
  rw [Nat.mul_comm width height] at target
  have small {value : Nat} (bound : value < 2 ^ 31) : int32 (value : Int) = some (value : Int) :=
    int32_eq (Int.natCast_nonneg value) (by omega)
  simp only [Int.toNat_natCast]
  constructor
  · have row := small (by omega : dy * width < 2 ^ 31)
    have pixel := small (by omega : dy * width + dx < 2 ^ 31)
    have byte := small (by omega : (dy * width + dx) * 3 < 2 ^ 31)
    rw [dstPixelIdx, ← Int.natCast_mul, row, Option.bind_eq_bind, Option.bind_some,
      ← Int.natCast_add, pixel, Option.bind_some]
    exact byte
  · intro c channel
    rw [← Int.natCast_add]
    exact small (by omega)

omit [LinearOrder K] [FloorRing K] in
theorem byteAt_eq (sizes : ResizeSizes srcWidth srcHeight srcStride dstWidth dstHeight)
    {src : Int → Option UInt8} {pixel : Int → Int → Nat → UInt8}
    (holds : HoldsImage src pixel srcWidth srcHeight srcStride) {y x : Int} {c : Nat}
    (high : 0 ≤ y) (low : y < srcHeight) (left : 0 ≤ x) (right : x < srcWidth) (channel : c < 3) :
    byteAt src (y * srcStride + x * 3) c = some ((pixel y x c).toNat : K) := by
  obtain ⟨_, nonneg, small⟩ := pixelIdx_eq sizes high low left right
  simp only [byteAt, int32_eq (by omega : 0 ≤ y * srcStride + x * 3 + (c : Int)) (by omega),
    Option.bind_eq_bind, Option.bind_some, holds y x c high low left right channel]

end Indices

def pixelStores {α : Type} (dstWidth dy dx : Nat) (value : Nat → α) : List (Nat × α) :=
  (List.range 3).map fun c => ((dy * dstWidth + dx) * 3 + c, value c)

section Kernels

variable [IsStrictOrderedRing K] {srcWidth srcHeight srcStride dstWidth dstHeight : Int}
  {src : Int → Option UInt8} {pixel : Int → Int → Nat → UInt8} {dy dx : Nat}

theorem blended (sizes : ResizeSizes srcWidth srcHeight srcStride dstWidth dstHeight)
    (low : (dy : Int) < dstHeight) (right : (dx : Int) < dstWidth) (c : Nat) :
    let y : Tap K := tap dy srcHeight dstHeight
    let x : Tap K := tap dx srcWidth dstWidth
    mix y.weight
        (mix x.weight ((pixel y.lower x.lower c).toNat : K) (pixel y.lower x.upper c).toNat)
        (mix x.weight ((pixel y.upper x.lower c).toNat : K) (pixel y.upper x.upper c).toNat) =
      interpolated K pixel srcWidth srcHeight dstWidth dstHeight dy dx c := by
  intro y x
  have column (row : Int) := mix_tap (K := K) sizes.srcWidth_pos (Int.natCast_nonneg dx) right
    fun j => ((pixel row j c).toNat : K)
  have rows := mix_tap (K := K) sizes.srcHeight_pos (Int.natCast_nonneg dy) low fun i =>
    line (fun j => ((pixel i (edge srcWidth j) c).toNat : K)) (sourcePlace dx srcWidth dstWidth)
  rw [column, column]
  exact rows

omit [LinearOrder K] [FloorRing K] [IsStrictOrderedRing K] in
theorem weighted_eq (sizes : ResizeSizes srcWidth srcHeight srcStride dstWidth dstHeight)
    (holds : HoldsImage src pixel srcWidth srcHeight srcStride) {y x : Tap K}
    (rows : y.Within srcHeight) (columns : x.Within srcWidth) {c : Nat} (channel : c < 3) :
    weighted src (y.lower * srcStride + x.lower * 3) (y.lower * srcStride + x.upper * 3)
        (y.upper * srcStride + x.lower * 3) (y.upper * srcStride + x.upper * 3)
        ((1 - x.weight) * (1 - y.weight)) (x.weight * (1 - y.weight))
        ((1 - x.weight) * y.weight) (x.weight * y.weight) c =
      some (mix y.weight
        (mix x.weight ((pixel y.lower x.lower c).toNat : K) (pixel y.lower x.upper c).toNat)
        (mix x.weight ((pixel y.upper x.lower c).toNat : K) (pixel y.upper x.upper c).toNat)) := by
  obtain ⟨top, up, bottom, down⟩ := rows
  obtain ⟨first, left, last, beyond⟩ := columns
  rw [weighted, byteAt_eq sizes holds top up first left channel,
    byteAt_eq sizes holds top up last beyond channel,
    byteAt_eq sizes holds bottom down first left channel,
    byteAt_eq sizes holds bottom down last beyond channel, mix_mix]
  simp only [Option.bind_eq_bind, Option.bind_some, Option.some.injEq]
  ring

theorem resizeBilinear_eq (sizes : ResizeSizes srcWidth srcHeight srcStride dstWidth dstHeight)
    (holds : HoldsImage src pixel srcWidth srcHeight srcStride)
    (low : (dy : Int) < dstHeight) (right : (dx : Int) < dstWidth) :
    resizeBilinear K src srcWidth srcHeight srcStride dstWidth dstHeight 3 (dy, dx) =
      some (pixelStores dstWidth.toNat dy dx fun c =>
        toUchar (interpolated K pixel srcWidth srcHeight dstWidth dstHeight dy dx c)) := by
  obtain ⟨top, up, bottom, down⟩ :=
    tap_within (K := K) sizes.srcHeight_pos (Int.natCast_nonneg dy) low
  obtain ⟨first, left, last, beyond⟩ :=
    tap_within (K := K) sizes.srcWidth_pos (Int.natCast_nonneg dx) right
  obtain ⟨stored, bytes⟩ := dstPixelIdx_eq sizes low right
  have guard : ¬((dy : Int) ≥ dstHeight ∨ (dx : Int) ≥ dstWidth) := by omega
  simp only [resizeBilinear, if_neg guard, (pixelIdx_eq sizes top up first left).1,
    (pixelIdx_eq sizes top up last beyond).1, (pixelIdx_eq sizes bottom down first left).1,
    (pixelIdx_eq sizes bottom down last beyond).1, stored, Option.bind_eq_bind, Option.bind_some]
  apply mapM_eq_some
  intro c member
  have channel : c < 3 := List.mem_range.mp member
  simp only [byteAt_eq sizes holds top up first left channel,
    byteAt_eq sizes holds top up last beyond channel,
    byteAt_eq sizes holds bottom down first left channel,
    byteAt_eq sizes holds bottom down last beyond channel, Option.bind_some,
    bytes c channel, Int.toNat_natCast]
  rw [← mix_mix, blended sizes low right c]

theorem resizeBilinearNormalized_eq
    (sizes : ResizeSizes srcWidth srcHeight srcStride dstWidth dstHeight)
    (holds : HoldsImage src pixel srcWidth srcHeight srcStride)
    (low : (dy : Int) < dstHeight) (right : (dx : Int) < dstWidth) (mean invStd : Rgb K) :
    resizeBilinearNormalized src srcWidth srcHeight srcStride dstWidth dstHeight mean invStd
        (dy, dx) =
      some (pixelStores dstWidth.toNat dy dx fun c =>
        (interpolated K pixel srcWidth srcHeight dstWidth dstHeight dy dx c / 255 -
          mean.channel c) * invStd.channel c) := by
  obtain ⟨top, up, bottom, down⟩ :=
    tap_within (K := K) sizes.srcHeight_pos (Int.natCast_nonneg dy) low
  obtain ⟨first, left, last, beyond⟩ :=
    tap_within (K := K) sizes.srcWidth_pos (Int.natCast_nonneg dx) right
  obtain ⟨stored, bytes⟩ := dstPixelIdx_eq sizes low right
  have guard : ¬((dy : Int) ≥ dstHeight ∨ (dx : Int) ≥ dstWidth) := by omega
  simp only [resizeBilinearNormalized, if_neg guard, (pixelIdx_eq sizes top up first left).1,
    (pixelIdx_eq sizes top up last beyond).1, (pixelIdx_eq sizes bottom down first left).1,
    (pixelIdx_eq sizes bottom down last beyond).1, stored, Option.bind_eq_bind, Option.bind_some]
  have channel (c : Nat) (small : c < 3) :=
    (weighted_eq sizes holds ⟨top, up, bottom, down⟩ ⟨first, left, last, beyond⟩ small).trans
      (congrArg some (blended sizes low right c))
  have r := channel 0 (by decide)
  have g := channel 1 (by decide)
  have b := channel 2 (by decide)
  have second := bytes 1 (by decide)
  have third := bytes 2 (by decide)
  simp only [Nat.cast_ofNat, Nat.cast_zero, Nat.cast_one] at r g b second third
  simp only [r, g, b, second, third, Option.bind_some, Int.toNat_natCast]
  rfl

end Kernels

def readPixels (K : Type) [Field K] [LinearOrder K] [FloorRing K]
    (pixel : Int → Int → Nat → UInt8) (srcWidth srcHeight dstWidth dstHeight dy dx : Int)
    (c : Nat) : List K :=
  let y : Tap K := tap dy srcHeight dstHeight
  let x : Tap K := tap dx srcWidth dstWidth
  [(pixel y.lower x.lower c).toNat, (pixel y.lower x.upper c).toNat,
    (pixel y.upper x.lower c).toNat, (pixel y.upper x.upper c).toNat]

/-- Both kernels store bilinear interpolations of the image, each in its own format, and read
no more than the image. -/
structure Resized (K : Type) [Field K] [LinearOrder K] [FloorRing K]
    (pixel : Int → Int → Nat → UInt8) (srcWidth srcHeight srcStride dstWidth dstHeight : Int) :
    Prop where
  bytes : ∀ dy dx : Nat, (dy : Int) < dstHeight → (dx : Int) < dstWidth →
    resizeBilinear K (imageRows pixel srcWidth srcHeight srcStride) srcWidth srcHeight srcStride
        dstWidth dstHeight 3 (dy, dx) =
      some (pixelStores dstWidth.toNat dy dx fun c =>
        toUchar (interpolated K pixel srcWidth srcHeight dstWidth dstHeight dy dx c))
  normalized : ∀ (mean invStd : Rgb K) (dy dx : Nat), (dy : Int) < dstHeight →
    (dx : Int) < dstWidth →
    resizeBilinearNormalized (imageRows pixel srcWidth srcHeight srcStride) srcWidth srcHeight
        srcStride dstWidth dstHeight mean invStd (dy, dx) =
      some (pixelStores dstWidth.toNat dy dx fun c =>
        (interpolated K pixel srcWidth srcHeight dstWidth dstHeight dy dx c / 255 -
          mean.channel c) * invStd.channel c)
  surplus : ∀ (mean invStd : Rgb K) (dy dx : Nat),
    ¬((dy : Int) < dstHeight ∧ (dx : Int) < dstWidth) →
    resizeBilinear K (imageRows pixel srcWidth srcHeight srcStride) srcWidth srcHeight srcStride
        dstWidth dstHeight 3 (dy, dx) = some [] ∧
      resizeBilinearNormalized (imageRows pixel srcWidth srcHeight srcStride) srcWidth srcHeight
        srcStride dstWidth dstHeight mean invStd (dy, dx) = some []
  clamped : ∀ (dy dx : Int) (c : Nat),
    interpolated K pixel srcWidth srcHeight dstWidth dstHeight dy dx c =
      surface (fun y x => ((pixel y x c).toNat : K))
        (inside srcHeight (sourcePlace dy srcHeight dstHeight))
        (inside srcWidth (sourcePlace dx srcWidth dstWidth))
  between : ∀ dy dx : Nat, (dy : Int) < dstHeight → (dx : Int) < dstWidth → ∀ c,
    ∃ low high,
      (readPixels K pixel srcWidth srcHeight dstWidth dstHeight dy dx c).min? = some low ∧
      (readPixels K pixel srcWidth srcHeight dstWidth dstHeight dy dx c).max? = some high ∧
      low ≤ interpolated K pixel srcWidth srcHeight dstWidth dstHeight dy dx c ∧
      interpolated K pixel srcWidth srcHeight dstWidth dstHeight dy dx c ≤ high

section Resizing

variable [IsStrictOrderedRing K] {srcWidth srcHeight srcStride dstWidth dstHeight : Int}

theorem interpolated_between
    (sizes : ResizeSizes srcWidth srcHeight srcStride dstWidth dstHeight)
    (pixel : Int → Int → Nat → UInt8) {dy dx : Nat} (low : (dy : Int) < dstHeight)
    (right : (dx : Int) < dstWidth) (c : Nat) {bound : K} :
    ((∀ read ∈ readPixels K pixel srcWidth srcHeight dstWidth dstHeight dy dx c, bound ≤ read) →
        bound ≤ interpolated K pixel srcWidth srcHeight dstWidth dstHeight dy dx c) ∧
      ((∀ read ∈ readPixels K pixel srcWidth srcHeight dstWidth dstHeight dy dx c, read ≤ bound) →
        interpolated K pixel srcWidth srcHeight dstWidth dstHeight dy dx c ≤ bound) := by
  obtain ⟨top, bottom⟩ := tap_eq_edge (K := K) sizes.srcHeight_pos (Int.natCast_nonneg dy) low
  obtain ⟨first, last⟩ := tap_eq_edge (K := K) sizes.srcWidth_pos (Int.natCast_nonneg dx) right
  simp only [readPixels, List.forall_mem_cons, ← top, ← bottom, ← first, ← last]
  constructor
  · rintro ⟨v00, v01, v10, v11, _⟩
    exact le_surface v00 v01 v10 v11
  · rintro ⟨v00, v01, v10, v11, _⟩
    exact surface_le v00 v01 v10 v11

theorem resize_interpolates
    (sizes : ResizeSizes srcWidth srcHeight srcStride dstWidth dstHeight)
    (pixel : Int → Int → Nat → UInt8) :
    Resized K pixel srcWidth srcHeight srcStride dstWidth dstHeight where
  bytes _ _ low right := resizeBilinear_eq sizes (holdsImage_imageRows pixel sizes.wide) low right
  normalized mean invStd _ _ low right :=
    resizeBilinearNormalized_eq sizes (holdsImage_imageRows pixel sizes.wide) low right mean invStd
  surplus mean invStd dy dx outside := by
    have guard : (dy : Int) ≥ dstHeight ∨ (dx : Int) ≥ dstWidth := by omega
    exact ⟨if_pos guard, if_pos guard⟩
  clamped _ _ c := surface_edge sizes.srcHeight_pos sizes.srcWidth_pos
    (fun y x => ((pixel y x c).toNat : K)) _ _
  between dy dx low right c := by
    obtain ⟨least, minimal⟩ : ∃ least,
        (readPixels K pixel srcWidth srcHeight dstWidth dstHeight dy dx c).min? = some least :=
      ⟨_, rfl⟩
    obtain ⟨most, maximal⟩ : ∃ most,
        (readPixels K pixel srcWidth srcHeight dstWidth dstHeight dy dx c).max? = some most :=
      ⟨_, rfl⟩
    refine ⟨least, most, minimal, maximal, ?_, ?_⟩
    · exact (interpolated_between sizes pixel low right c).1 (List.min?_eq_some_iff.mp minimal).2
    · exact (interpolated_between sizes pixel low right c).2 (List.max?_eq_some_iff.mp maximal).2

end Resizing

end

def slope (y x : Int) (c : Nat) : UInt8 :=
  UInt8.ofNat (40 * (2 * y.toNat + x.toNat) + c)

/-- Two by two pixels that become nine, and that become their mean. -/
theorem resize_interpolates_small :
    Resized ℚ slope 2 2 8 3 3 ∧ Resized ℚ slope 2 2 8 1 1 ∧
      interpolated ℚ slope 2 2 1 1 0 0 0 = 60 :=
  ⟨resize_interpolates
      ⟨by decide, by decide, by decide, by decide, by decide, by decide, by decide⟩ slope,
    resize_interpolates
      ⟨by decide, by decide, by decide, by decide, by decide, by decide, by decide⟩ slope,
    by decide +kernel⟩

def blank (_ _ : Int) (_ : Nat) : UInt8 :=
  0

/-- In the middle of an image of 40000 by 40000 pixels the index of a row is past `int`. -/
theorem largeImage_not_resized : ¬Resized ℚ blank 40000 40000 120000 1 1 := by
  intro resized
  have overflow : resizeBilinear ℚ (imageRows blank 40000 40000 120000) 40000 40000 120000 1 1 3
      (0, 0) = none := by
    decide +kernel
  have stored := resized.bytes 0 0 (by decide) (by decide)
  rw [overflow] at stored
  cases stored

end Iq9Pipeline.Vision.Kernels
