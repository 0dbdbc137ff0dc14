import Iq9Pipeline.Vision.FramePipeline
import Iq9Pipeline.Vision.PatchOrder

/-!
What the frame pipeline returns, compared with resizing, normalizing, repeating and cutting the
frame one after the other.
-/

namespace Iq9Pipeline.Vision

open Foundation Foundation.Numerals Kernels
open Preprocessor (QwenVLPreprocessor QwenVLConfig FloatOps Sizes elementPlace sequenceLength
  transposeToPatchCPU transposeToPatchCPU_flatten exactFloat)

def framePixel (rgbData : List UInt8) (rowStride y x : Int) (c : Nat) : UInt8 :=
  rgbData.getD (y * rowStride + x * 3 + c).toNat 0

section

variable {K : Type} [Field K] [LinearOrder K] [FloorRing K]

def resizedPixel (K : Type) [Field K] [LinearOrder K] [FloorRing K] (rgbData : List UInt8)
    (srcWidth srcHeight rowStride dstWidth dstHeight : Int) (dy dx c : Nat) : K :=
  interpolated K (framePixel rgbData rowStride) srcWidth srcHeight dstWidth dstHeight dy dx c

def resizedFrame (config : QwenVLConfig K) (rgbData : List UInt8)
    (srcWidth srcHeight rowStride dstWidth dstHeight : Int) : List K :=
  let mean := rgbOf config.imageMean
  let std := rgbOf config.imageStd
  (List.range (dstHeight.toNat * dstWidth.toNat * 3)).map fun idx =>
    (resizedPixel K rgbData srcWidth srcHeight rowStride dstWidth dstHeight
        (idx / 3 / dstWidth.toNat) (idx / 3 % dstWidth.toNat) (idx % 3) / 255 -
      mean.channel (idx % 3)) / std.channel (idx % 3)

def framePatches (float : FloatOps K) (preprocessor : QwenVLPreprocessor K)
    (rgbData : List UInt8) (srcWidth srcHeight rowStride dstWidth dstHeight : Int) : List K :=
  let T := preprocessor.config.temporalPatchSize
  let frame := resizedFrame preprocessor.config rgbData srcWidth srcHeight rowStride dstWidth
    dstHeight
  (transposeToPatchCPU float preprocessor.config (List.replicate T.toNat frame).flatten
    preprocessor.inputDim T dstHeight dstWidth 3).flatten

end

section

variable {K : Type} {sizes : Sizes} {config : QwenVLConfig K}

theorem transposeToPatchCPU_patchValues (positive : sizes.Positive) (describes : sizes.Of config)
    (still : sizes.gridT = 1) (float : FloatOps K) (value : Nat → K) :
    (transposeToPatchCPU float config (List.replicate sizes.temporalPatchSize
        ((List.range (sizes.height * sizes.width * sizes.channels)).map value)).flatten
        sizes.inputDim sizes.temporalPatchSize sizes.height sizes.width sizes.channels).flatten =
      patchValues sizes value := by
  have frames : sizes.temporalPatchSize = sizes.frames := by
    rw [Sizes.frames, still, Nat.one_mul]
  have elements : sizes.elements = sizes.framePatches * sizes.inputDim := by
    rw [Sizes.elements, Sizes.patches, still, Nat.one_mul]
  have copies := Sizes.patchCopies_eq positive describes
  rw [← frames] at copies
  rw [transposeToPatchCPU_flatten, copies, List.map_map, patchValues, elements]
  apply List.map_congr_left
  intro dst listed
  have dims := Sizes.inputDim_pos positive
  have patch : dst / sizes.inputDim < sizes.framePatches :=
    (Nat.div_lt_iff_lt_mul dims).mpr (List.mem_range.mp listed)
  obtain ⟨_, frame, _, _⟩ := Sizes.element_lt positive (Nat.mod_lt dst dims)
  have pixel := pixelAt_lt positive patch (Nat.mod_lt dst dims)
  have read := @getElem?_replicate_flatten K
    ((List.range (sizes.height * sizes.width * sizes.channels)).map value) _ _
    (pixelAt sizes (dst / sizes.inputDim) (dst % sizes.inputDim)) frame
  rw [List.length_map, List.length_range] at read
  rw [Function.comp_apply, Int.toNat_natCast, Sizes.sourceOf, sourceAt_eq patch,
    List.getD_eq_getElem?_getD, read pixel, List.getElem?_map, List.getElem?_range pixel]
  rfl

end

section Steps

variable {K : Type}

/-- Every call succeeds, except that for a buffer without a byte. -/
def ClRuntime.Serves (runtime : ClRuntime K) : Prop :=
  ∀ call, call ≠ .createBuffer 0 → runtime.grants call

variable {runtime : ClRuntime K} {preprocessor : QwenVLPreprocessor K} {call : ClCall}
  {buffers next : PersistentBuffers K} {rgbData src : List UInt8} {norm patches : List K}
  {srcWidth srcHeight rowStride dstWidth dstHeight : Int}

theorem enqueue_some (granted : runtime.grants call) :
    enqueue runtime call buffers (some next) = .ok next :=
  if_pos granted

theorem enqueue_none (granted : runtime.grants call) :
    enqueue runtime call buffers none = .error (.outOfBuffer, buffers) :=
  if_pos granted

theorem upload_eq (serves : runtime.Serves) {size : Nat} (counted : srcHeight * rowStride = size)
    (given : size ≤ rgbData.length) (length : src.length = size) :
    upload runtime rgbData
        ⟨srcWidth, srcHeight, rowStride, dstWidth, dstHeight, src, norm, patches⟩ =
      .ok ⟨srcWidth, srcHeight, rowStride, dstWidth, dstHeight, rgbData.take size, norm,
        patches⟩ := by
  have room : size ≤ rgbData.length ∧ size ≤ src.length := ⟨given, length.ge⟩
  simp only [upload, counted, Int.toNat_natCast, if_pos room]
  rw [enqueue_some (serves .enqueueWriteBuffer nofun), List.drop_of_length_le length.le,
    List.append_nil]

theorem holdsImage_bufferAt {size : Nat} (counted : srcHeight * rowStride = size)
    (given : size ≤ rgbData.length) (wide : 3 * srcWidth ≤ rowStride) :
    HoldsImage (bufferAt (rgbData.take size)) (framePixel rgbData rowStride) srcWidth srcHeight
      rowStride := by
  intro y x c high low left right channel
  have row : 0 ≤ y * rowStride := Int.mul_nonneg high (by omega)
  have last : (y + 1) * rowStride ≤ srcHeight * rowStride :=
    Int.mul_le_mul_of_nonneg_right (by omega) (by omega)
  rw [counted, Int.add_mul, Int.one_mul] at last
  have nonneg : 0 ≤ y * rowStride + x * 3 + (c : Int) := by omega
  have small : (y * rowStride + x * 3 + (c : Int)).toNat < size := by omega
  rw [bufferAt, if_pos nonneg, List.getElem?_take_of_lt small,
    getElem?_eq_getD (small.trans_le given), framePixel]

theorem replicateTemporal_eq (serves : runtime.Serves) {frame : List K} {size : Nat}
    (counted : dstHeight * dstWidth * 3 = size) (length : frame.length = size)
    (rest : norm.length = size) :
    replicateTemporal runtime
        ⟨srcWidth, srcHeight, rowStride, dstWidth, dstHeight, src, frame ++ norm, patches⟩ =
      .ok ⟨srcWidth, srcHeight, rowStride, dstWidth, dstHeight, src, frame ++ frame, patches⟩ := by
  have room : size + size ≤ (frame ++ norm).length := by
    rw [List.length_append, length, rest]
  have first : (frame ++ norm).take size = frame := by
    rw [← length, List.take_left]
  have behind : (frame ++ norm).drop (size + size) = [] := by
    rw [List.drop_eq_nil_of_le]
    rw [List.length_append, length, rest]
  simp only [replicateTemporal, counted, Int.toNat_natCast, if_pos room, first, behind,
    List.append_nil]
  exact enqueue_some (serves .enqueueCopyBuffer nofun)

theorem download_eq (serves : runtime.Serves) {seqLength inputDim : Nat}
    (sequence : sequenceLength preprocessor.config preprocessor.config.temporalPatchSize dstHeight
      dstWidth = seqLength)
    (dims : preprocessor.inputDim = inputDim) (length : patches.length = seqLength * inputDim) :
    download runtime preprocessor
        ⟨srcWidth, srcHeight, rowStride, dstWidth, dstHeight, src, norm, patches⟩ =
      .ok (patches, ⟨srcWidth, srcHeight, rowStride, dstWidth, dstHeight, src, norm, patches⟩) := by
  simp only [download, sequence, dims, Int.toNat_natCast, ← length, if_pos (Nat.le_refl _)]
  rw [enqueue_some (serves .enqueueReadBuffer nofun)]
  simp only [Except.map, List.take_length]

variable [Field K] [LinearOrder K] [FloorRing K]

section

variable [IsStrictOrderedRing K] {memory : Int → Option UInt8} {pixel : Int → Int → Nat → UInt8}

/-- The resizing kernel over all pixels of the frame. -/
theorem resizeBilinearNormalized_computes
    (fits : ResizeSizes srcWidth srcHeight rowStride dstWidth dstHeight)
    (holds : HoldsImage memory pixel srcWidth srcHeight rowStride) (mean invStd : Rgb K)
    {items : List (Nat × Nat)}
    (launched : LaunchedOnce items (pixels dstHeight.toNat dstWidth.toNat)) :
    Computes (resizeBilinearNormalized memory srcWidth srcHeight rowStride dstWidth dstHeight mean
        invStd) items
      ((List.range (dstHeight.toNat * dstWidth.toNat * 3)).map fun idx =>
        (interpolated K pixel srcWidth srcHeight dstWidth dstHeight
            (idx / 3 / dstWidth.toNat : Nat) (idx / 3 % dstWidth.toNat : Nat) (idx % 3) / 255 -
          mean.channel (idx % 3)) * invStd.channel (idx % 3)) := by
  have high := fits.dstHeight_pos
  have wide := fits.dstWidth_pos
  apply launched.computes nodup_pixels
  · intro pixel member
    obtain ⟨row, column⟩ := mem_pixels.mp member
    exact resizeBilinearNormalized_eq fits holds (by omega) (by omega) mean invStd
  · intro pixel outside
    have guard : (pixel.1 : Int) ≥ dstHeight ∨ (pixel.2 : Int) ≥ dstWidth := by
      rw [mem_pixels] at outside
      omega
    exact if_pos guard
  · have stores := nest_stores (dstHeight.toNat * dstWidth.toNat) 3 fun place c =>
      (interpolated K pixel srcWidth srcHeight dstWidth dstHeight
          (place / dstWidth.toNat : Nat) (place % dstWidth.toNat : Nat) c / 255 -
        mean.channel c) * invStd.channel c
    rw [← stores, pixels, nest_range, List.flatMap_map]
    simp only [pixelStores, Nat.div_add_mod']
    rfl

theorem resizeNormalized_eq (serves : runtime.Serves)
    (fits : ResizeSizes srcWidth srcHeight rowStride dstWidth dstHeight)
    (holds : HoldsImage (bufferAt src) (framePixel rgbData rowStride) srcWidth srcHeight rowStride)
    (room : dstHeight.toNat * dstWidth.toNat * 3 ≤ norm.length) :
    resizeNormalized runtime preprocessor
        ⟨srcWidth, srcHeight, rowStride, dstWidth, dstHeight, src, norm, patches⟩ =
      .ok ⟨srcWidth, srcHeight, rowStride, dstWidth, dstHeight, src,
        resizedFrame preprocessor.config rgbData srcWidth srcHeight rowStride dstWidth dstHeight ++
          norm.drop (dstHeight.toNat * dstWidth.toNat * 3), patches⟩ := by
  have computes := resizeBilinearNormalized_computes fits holds
    (rgbOf preprocessor.config.imageMean) (rgbOf preprocessor.config.imageStd).inverse
    (.of_perm (runtime.plane_perm dstHeight.toNat dstWidth.toNat) nodup_pixels)
  simp only [Rgb.inverse_channel, ← div_eq_mul_one_div] at computes
  have executed := computes.execute runtime.order_perm norm
  rw [List.length_map, List.length_range] at executed
  simp only [resizeNormalized]
  rw [executed room, Option.map_some]
  exact enqueue_some (serves (.enqueueNDRangeKernel _ _) fun filled => by cases filled)

end

omit [Field K] [LinearOrder K] [FloorRing K] in
theorem getElem?_twice {frame : List K} {which idx : Nat} (two : which < 2)
    (inside : idx < frame.length) :
    (frame ++ frame)[which * frame.length + idx]? = frame[idx]? := by
  have twice : (List.replicate 2 frame).flatten = frame ++ frame := by
    simp [List.replicate_succ]
  rw [← twice, getElem?_replicate_flatten two inside]

section

variable {sizes : Sizes} {value : Nat → K}

omit [Field K] [LinearOrder K] [FloorRing K] in
theorem sequenceLength_still (positive : sizes.Positive)
    (describes : sizes.Of preprocessor.config) (still : sizes.gridT = 1) :
    sequenceLength preprocessor.config sizes.temporalPatchSize sizes.height sizes.width =
      sizes.framePatches := by
  have counted := Sizes.sequenceLength_eq positive describes
  rwa [Sizes.frames, Sizes.patches, still, Nat.one_mul, Nat.one_mul] at counted

omit [Field K] [LinearOrder K] [FloorRing K] in
theorem transposePatches_sizes (positive : sizes.Positive)
    (describes : sizes.Of preprocessor.config) (still : sizes.gridT = 1)
    (dims : preprocessor.inputDim = sizes.inputDim) :
    transposePatches runtime preprocessor
        ⟨srcWidth, srcHeight, rowStride, sizes.width, sizes.height, src, norm, patches⟩ =
      enqueue runtime (.enqueueNDRangeKernel [sizes.framePatches] (some 64))
        ⟨srcWidth, srcHeight, rowStride, sizes.width, sizes.height, src, norm, patches⟩
        ((execute
          (transposeToPatch norm sizes.temporalPatchSize sizes.height sizes.width 3
            sizes.patchSize sizes.mergeSize sizes.temporalPatchSize sizes.inputDim)
          (runtime.row sizes.framePatches) runtime.order patches).map fun patches =>
            ⟨srcWidth, srcHeight, rowStride, sizes.width, sizes.height, src, norm, patches⟩) := by
  simp only [transposePatches, describes.patchSize, describes.mergeSize,
    describes.temporalPatchSize, dims, sequenceLength_still positive describes still,
    Int.toNat_natCast]

omit [Field K] [LinearOrder K] [FloorRing K] in
theorem transposePatches_eq (serves : runtime.Serves) (positive : sizes.Positive)
    (describes : sizes.Of preprocessor.config) (still : sizes.gridT = 1)
    (colors : sizes.channels = 3) (dims : preprocessor.inputDim = sizes.inputDim)
    (few : sizes.temporalPatchSize ≤ 2)
    (length : patches.length = sizes.framePatches * sizes.inputDim) :
    let frame := (List.range (sizes.height * sizes.width * 3)).map value
    transposePatches runtime preprocessor
        ⟨srcWidth, srcHeight, rowStride, sizes.width, sizes.height, src, frame ++ frame,
          patches⟩ =
      .ok ⟨srcWidth, srcHeight, rowStride, sizes.width, sizes.height, src, frame ++ frame,
        patchValues sizes value⟩ := by
  intro frame
  have long : frame.length = sizes.height * sizes.width * 3 := by
    rw [List.length_map, List.length_range]
  have computes : Computes (transposeToPatch (frame ++ frame) sizes.temporalPatchSize sizes.height
      sizes.width sizes.channels sizes.patchSize sizes.mergeSize sizes.temporalPatchSize
      sizes.inputDim) (runtime.row sizes.framePatches) (patchValues sizes value) := by
    apply transposeToPatch_reads positive still
      (.of_perm (runtime.row_perm sizes.framePatches) List.nodup_range)
    intro which first idx inside
    rw [colors] at inside ⊢
    rw [← long, getElem?_twice (first.trans_le few) (by rwa [long]), List.getElem?_map,
      List.getElem?_range inside, Option.map_some]
  have count : (patchValues sizes value).length = patches.length := by
    rw [patchValues, List.length_map, List.length_range, length]
  have executed := computes.execute runtime.order_perm patches count.le
  rw [count, List.drop_length, List.append_nil, colors] at executed
  rw [transposePatches_sizes positive describes still dims, executed, Option.map_some]
  exact enqueue_some (serves (.enqueueNDRangeKernel _ _) fun filled => by cases filled)

omit [Field K] [LinearOrder K] [FloorRing K] in
theorem transposePatches_outside (serves : runtime.Serves) (positive : sizes.Positive)
    (describes : sizes.Of preprocessor.config) (still : sizes.gridT = 1)
    (colors : sizes.channels = 3) (dims : preprocessor.inputDim = sizes.inputDim)
    (many : 2 < sizes.temporalPatchSize) (cut : 0 < sizes.framePatches)
    (short : norm.length = sizes.height * sizes.width * 3 + sizes.height * sizes.width * 3) :
    transposePatches runtime preprocessor
        ⟨srcWidth, srcHeight, rowStride, sizes.width, sizes.height, src, norm, patches⟩ =
      .error (.outOfBuffer,
        ⟨srcWidth, srcHeight, rowStride, sizes.width, sizes.height, src, norm, patches⟩) := by
  let area := sizes.patchSize * sizes.patchSize
  have square : 0 < area := Nat.mul_pos positive.patchSize positive.patchSize
  have layers : 2 * area < sizes.temporalPatchSize * area := Nat.mul_lt_mul_of_pos_right many square
  have element : 2 * area < sizes.inputDim :=
    layers.trans_le (Nat.le_mul_of_pos_left _ positive.channels)
  have third :
      (elementPlace sizes.patchSize sizes.temporalPatchSize (2 * area)).frame = 2 := by
    rw [elementPlace, Nat.mod_eq_of_lt layers, Nat.mul_div_cancel _ square]
  have frames : sizes.frames = sizes.temporalPatchSize := by
    rw [Sizes.frames, still, Nat.one_mul]
  have counted : sizes.patches = sizes.framePatches := by
    rw [Sizes.patches, still, Nat.one_mul]
  have unread : norm[sizes.sourceAt 0 (2 * area)]? = none := by
    rw [sourceAt_eq cut, third, colors]
    apply List.getElem?_eq_none
    omega
  have fails : transposeToPatch norm sizes.temporalPatchSize sizes.height sizes.width 3
      sizes.patchSize sizes.mergeSize sizes.temporalPatchSize sizes.inputDim 0 = none := by
    have kernel := @transposeToPatch_eq K sizes 0 positive norm
    rw [frames, colors, counted, if_neg (Nat.not_le.mpr cut)] at kernel
    rw [kernel]
    apply mapM_eq_none (List.mem_range.mpr element)
    rw [unread, Option.map_none]
  have first : 0 ∈ runtime.row sizes.framePatches :=
    (runtime.row_perm _).mem_iff.mpr (List.mem_range.mpr cut)
  rw [transposePatches_sizes positive describes still dims, execute_eq_none first fails,
    Option.map_none]
  exact enqueue_none (serves (.enqueueNDRangeKernel _ _) fun filled => by cases filled)

end

end Steps

structure FrameSizes {K : Type} (preprocessor : QwenVLPreprocessor K)
    (srcWidth srcHeight rowStride dstWidth dstHeight : Int) : Prop where
  srcWidth_pos : 0 < srcWidth
  srcHeight_pos : 0 < srcHeight
  dstWidth_pos : 0 < dstWidth
  dstHeight_pos : 0 < dstHeight
  wide : 3 * srcWidth ≤ rowStride
  rows : preprocessor.config.patchSize * preprocessor.config.mergeSize ∣ dstHeight
  columns : preprocessor.config.patchSize * preprocessor.config.mergeSize ∣ dstWidth
  channels : preprocessor.config.channels = 3
  source : srcHeight * rowStride < 2 ^ 31
  norm : 2 * dstHeight * dstWidth * 3 < 2 ^ 31
  patches : preprocessor.config.temporalPatchSize * dstHeight * dstWidth * 3 < 2 ^ 31

structure Cut {K : Type} (preprocessor : QwenVLPreprocessor K) (sizes : Sizes)
    (dstWidth dstHeight : Int) : Prop where
  positive : sizes.Positive
  describes : sizes.Of preprocessor.config
  still : sizes.gridT = 1
  colors : sizes.channels = 3
  dims : preprocessor.inputDim = sizes.inputDim
  height : dstHeight = sizes.height
  width : dstWidth = sizes.width

section Frames

variable {K : Type} {preprocessor : QwenVLPreprocessor K}
  {srcWidth srcHeight rowStride dstWidth dstHeight : Int} {sizes : Sizes}

theorem FrameSizes.exists_cut
    (fits : FrameSizes preprocessor srcWidth srcHeight rowStride dstWidth dstHeight) :
    ∃ sizes, Cut preprocessor sizes dstWidth dstHeight := by
  have layering := preprocessor.temporalPatchSize_pos
  obtain ⟨sizes, positive, describes, frames, height, width⟩ := Sizes.exists_of
    (fits.channels ▸ Int.succ_ofNat_pos 2) layering.le fits.dstHeight_pos.le fits.dstWidth_pos.le
    (Int.dvd_refl _) fits.rows fits.columns
  refine ⟨sizes, positive, describes, ?_, ?_, ?_, height, width⟩
  · rw [describes.temporalPatchSize, Nat.cast_inj, Sizes.frames] at frames
    exact Nat.eq_of_mul_eq_mul_right positive.temporalPatchSize
      (by rw [Nat.one_mul]; exact frames.symm)
  · have three := describes.channels
    rw [fits.channels] at three
    exact_mod_cast three.symm
  · rw [preprocessor.inputDim_eq, describes.channels, describes.temporalPatchSize,
      describes.patchSize, Sizes.inputDim]
    push_cast
    ring

theorem Cut.seqLen_eq (cut : Cut preprocessor sizes dstWidth dstHeight) :
    seqLen preprocessor sizes.width sizes.height = sizes.framePatches := by
  have sequence := @QwenVLPreprocessor.sequenceLength_frames K preprocessor sizes.height sizes.width
  rw [cut.describes.temporalPatchSize,
    sequenceLength_still cut.positive cut.describes cut.still] at sequence
  exact sequence.symm

theorem Cut.elements_eq (cut : Cut preprocessor sizes dstWidth dstHeight) :
    sizes.framePatches * sizes.inputDim =
      sizes.temporalPatchSize * sizes.height * sizes.width * 3 := by
  have elements := sizes.elements_eq
  rwa [Sizes.elements, Sizes.patches, Sizes.frames, cut.still, cut.colors, Nat.one_mul,
    Nat.one_mul] at elements

theorem Cut.framePatches_pos (cut : Cut preprocessor sizes dstWidth dstHeight)
    (high : 0 < dstHeight) (wide : 0 < dstWidth) : 0 < sizes.framePatches := by
  rw [cut.height, Int.natCast_pos] at high
  rw [cut.width, Int.natCast_pos] at wide
  have layers := cut.positive.temporalPatchSize
  have elements : 0 < sizes.framePatches * sizes.inputDim := by
    rw [cut.elements_eq]
    positivity
  exact Nat.pos_of_mul_pos_right elements

theorem sizeOf_eq {product : Int} {size : Nat} (counted : product = size) (small : size < 2 ^ 31) :
    sizeOf product = .ok size := by
  have bounds : 0 ≤ product ∧ product < 2 ^ 31 := by omega
  rw [sizeOf, if_pos bounds, counted, Int.toNat_natCast]

theorem request_createBuffer {runtime : ClRuntime K} (serves : runtime.Serves) {size : Nat}
    (positive : 0 < size) : request runtime (.createBuffer size) = .ok () :=
  if_pos (serves _ fun same => positive.ne' (ClCall.createBuffer.inj same))

theorem createBuffers_returns {runtime : ClRuntime K} (serves : runtime.Serves)
    (fits : FrameSizes preprocessor srcWidth srcHeight rowStride dstWidth dstHeight) :
    Returns (createBuffers runtime preprocessor srcWidth srcHeight rowStride dstWidth
      dstHeight) := by
  obtain ⟨sizes, cut⟩ := fits.exists_cut
  have positive := And.intro fits.dstHeight_pos fits.dstWidth_pos
  have norm := fits.norm
  have patches := fits.patches
  rw [cut.height, cut.width, Int.natCast_pos, Int.natCast_pos] at positive
  rw [cut.height, cut.width] at norm patches
  rw [cut.describes.temporalPatchSize] at patches
  obtain ⟨high, wide⟩ := positive
  have layers := cut.positive.temporalPatchSize
  have stride : 0 < rowStride := by linarith [fits.wide, fits.srcWidth_pos]
  have source := Int.mul_pos fits.srcHeight_pos stride
  obtain ⟨size, bytes⟩ := Int.eq_ofNat_of_zero_le source.le
  have small := fits.source
  rw [bytes] at source small
  have srcSize : sizeOf (srcHeight * rowStride) = .ok size := sizeOf_eq bytes (by omega)
  have normCount : sizeOf (2 * (sizes.height : Int) * sizes.width * 3) =
      .ok (2 * sizes.height * sizes.width * 3) :=
    sizeOf_eq (by push_cast; rfl) (by exact_mod_cast norm)
  have patchesCount : sizeOf (seqLen preprocessor sizes.width sizes.height *
      preprocessor.inputDim) = .ok (sizes.framePatches * sizes.inputDim) := by
    apply sizeOf_eq
    · rw [cut.seqLen_eq, cut.dims, ← Int.natCast_mul]
    · rw [cut.elements_eq]
      exact_mod_cast patches
  have allElements : 0 < sizes.framePatches * sizes.inputDim := by
    rw [cut.elements_eq]
    positivity
  have allFloats : 0 < 2 * sizes.height * sizes.width * 3 := by positivity
  have float : 0 < floatSize := Nat.succ_pos 3
  rw [cut.height, cut.width, createBuffers, srcSize, ok_then, normCount, ok_then, patchesCount,
    ok_then, request_createBuffer serves (by omega), ok_then,
    request_createBuffer serves (Nat.mul_pos allFloats float), ok_then,
    request_createBuffer serves (Nat.mul_pos allElements float), ok_then]
  exact returns_pure _

theorem allocatePersistentBuffers_returns {runtime : ClRuntime K} (serves : runtime.Serves)
    (fits : FrameSizes preprocessor srcWidth srcHeight rowStride dstWidth dstHeight)
    (persistent : Option (PersistentBuffers K)) :
    Returns (allocatePersistentBuffers runtime preprocessor persistent srcWidth srcHeight rowStride
      dstWidth dstHeight) := by
  rw [allocatePersistentBuffers]
  split
  · exact returns_ok _
  · exact createBuffers_returns serves fits

theorem FrameSizes.resize
    (fits : FrameSizes preprocessor srcWidth srcHeight rowStride dstWidth dstHeight) :
    ResizeSizes srcWidth srcHeight rowStride dstWidth dstHeight where
  srcWidth_pos := fits.srcWidth_pos
  srcHeight_pos := fits.srcHeight_pos
  dstWidth_pos := fits.dstWidth_pos
  dstHeight_pos := fits.dstHeight_pos
  wide := fits.wide
  source := by
    have source := fits.source
    have wide := fits.wide
    linarith
  target := by
    have norm := fits.norm
    have area := Int.mul_pos fits.dstHeight_pos fits.dstWidth_pos
    linarith [Int.mul_comm dstWidth dstHeight]

variable [Field K] [LinearOrder K] [FloorRing K] [IsStrictOrderedRing K] {runtime : ClRuntime K}
  {buffers : PersistentBuffers K} {rgbData : List UInt8}

theorem frameSteps_eq (serves : runtime.Serves)
    (fits : FrameSizes preprocessor srcWidth srcHeight rowStride dstWidth dstHeight)
    {src : List UInt8} {norm patches : List K}
    (sized : Sized preprocessor
      ⟨srcWidth, srcHeight, rowStride, dstWidth, dstHeight, src, norm, patches⟩)
    (given : srcHeight * rowStride ≤ rgbData.length) :
    let frame := resizedFrame preprocessor.config rgbData srcWidth srcHeight rowStride dstWidth
      dstHeight
    ∃ sent, frameSteps runtime preprocessor rgbData
        ⟨srcWidth, srcHeight, rowStride, dstWidth, dstHeight, src, norm, patches⟩ =
      (transposePatches runtime preprocessor
        ⟨srcWidth, srcHeight, rowStride, dstWidth, dstHeight, sent, frame ++ frame, patches⟩ >>=
          download runtime preprocessor) := by
  intro frame
  have whole := sized.src
  have twice := sized.norm
  simp only at whole twice
  have height := Int.toNat_of_nonneg fits.dstHeight_pos.le
  have width := Int.toNat_of_nonneg fits.dstWidth_pos.le
  have counted : dstHeight * dstWidth * 3 =
      ((dstHeight.toNat * dstWidth.toNat * 3 : Nat) : Int) := by
    push_cast
    rw [height, width]
  have both : norm.length = 2 * (dstHeight.toNat * dstWidth.toNat * 3) := by
    zify
    rw [twice, height, width]
    ring
  have length : frame.length = dstHeight.toNat * dstWidth.toNat * 3 := by
    simp only [frame, resizedFrame, List.length_map, List.length_range]
  have rest : (norm.drop (dstHeight.toNat * dstWidth.toNat * 3)).length =
      dstHeight.toNat * dstWidth.toNat * 3 := by
    rw [List.length_drop]
    omega
  have enough : src.length ≤ rgbData.length := by omega
  refine ⟨rgbData.take src.length, ?_⟩
  rw [frameSteps, upload_eq serves whole.symm enough rfl, ok_then,
    resizeNormalized_eq serves fits.resize
      (holdsImage_bufferAt whole.symm enough fits.wide) (by omega), ok_then,
    replicateTemporal_eq serves counted length rest, ok_then]

omit [IsStrictOrderedRing K] in
theorem Cut.resizedFrame_eq (cut : Cut preprocessor sizes dstWidth dstHeight) :
    ∃ value, resizedFrame preprocessor.config rgbData srcWidth srcHeight rowStride dstWidth
        dstHeight =
      (List.range (sizes.height * sizes.width * 3)).map value := by
  rw [cut.height, cut.width]
  exact ⟨_, rfl⟩

omit [IsStrictOrderedRing K] in
theorem Cut.framePatches_eq (cut : Cut preprocessor sizes dstWidth dstHeight) (float : FloatOps K)
    {value : Nat → K}
    (frame : resizedFrame preprocessor.config rgbData srcWidth srcHeight rowStride dstWidth
        dstHeight =
      (List.range (sizes.height * sizes.width * 3)).map value) :
    framePatches float preprocessor rgbData srcWidth srcHeight rowStride dstWidth dstHeight =
      patchValues sizes value := by
  have values := transposeToPatchCPU_patchValues cut.positive cut.describes cut.still float value
  rw [cut.colors] at values
  simp only [framePatches, frame, cut.describes.temporalPatchSize, cut.dims]
  rw [cut.height, cut.width]
  exact values

omit [Field K] [LinearOrder K] [FloorRing K] [IsStrictOrderedRing K] in
theorem allocatePersistentBuffers_eq {persistent : Option (PersistentBuffers K)}
    (kept : ∀ buffers ∈ persistent, Sized preprocessor buffers) (serves : runtime.Serves)
    (fits : FrameSizes preprocessor srcWidth srcHeight rowStride dstWidth dstHeight) :
    ∃ src norm patches,
      allocatePersistentBuffers runtime preprocessor persistent srcWidth srcHeight rowStride
          dstWidth dstHeight =
        .ok ⟨srcWidth, srcHeight, rowStride, dstWidth, dstHeight, src, norm, patches⟩ ∧
      Sized preprocessor
        ⟨srcWidth, srcHeight, rowStride, dstWidth, dstHeight, src, norm, patches⟩ := by
  obtain ⟨buffers, allocated⟩ := allocatePersistentBuffers_returns serves fits persistent
  obtain ⟨sized, rfl, rfl, rfl, rfl, rfl⟩ := allocatePersistentBuffers_ok kept allocated
  exact ⟨_, _, _, allocated, sized⟩

omit [Field K] [LinearOrder K] [FloorRing K] [IsStrictOrderedRing K] in
theorem Cut.length_patches (cut : Cut preprocessor sizes dstWidth dstHeight) {src : List UInt8}
    {norm patches : List K}
    (sized : Sized preprocessor
      ⟨srcWidth, srcHeight, rowStride, dstWidth, dstHeight, src, norm, patches⟩) :
    patches.length = sizes.framePatches * sizes.inputDim := by
  have counted := sized.patches
  simp only [cut.height, cut.width, cut.seqLen_eq, cut.dims] at counted
  exact_mod_cast counted

/-- The pipeline returns the patches of the frame just if a patch has no more than two frames. -/
theorem preprocessFrameGPU_eq_iff (preprocessor : QwenVLPreprocessor K) (float : FloatOps K)
    {persistent : Option (PersistentBuffers K)}
    (reachable : (accelerator preprocessor).Reachable persistent) {runtime : ClRuntime K}
    (serves : runtime.Serves) {rgbData : List UInt8}
    {srcWidth srcHeight rowStride dstWidth dstHeight : Int}
    (fits : FrameSizes preprocessor srcWidth srcHeight rowStride dstWidth dstHeight)
    (given : srcHeight * rowStride ≤ rgbData.length) :
    (preprocessFrameGPU runtime preprocessor persistent rgbData srcWidth srcHeight rowStride
        dstWidth dstHeight).1 =
        .ok (framePatches float preprocessor rgbData srcWidth srcHeight rowStride dstWidth
          dstHeight) ↔
      preprocessor.config.temporalPatchSize ≤ 2 := by
  obtain ⟨sizes, cut⟩ := fits.exists_cut
  obtain ⟨src, norm, patches, allocated, sized⟩ :=
    allocatePersistentBuffers_eq (sized_run reachable) serves fits
  obtain ⟨sent, stepped⟩ := frameSteps_eq serves fits sized given
  have filled := cut.length_patches sized
  obtain ⟨value, frame⟩ : ∃ value, resizedFrame preprocessor.config rgbData srcWidth srcHeight
      rowStride dstWidth dstHeight = (List.range (sizes.height * sizes.width * 3)).map value :=
    cut.resizedFrame_eq
  rw [cut.framePatches_eq float frame, preprocessFrameGPU, allocated]
  simp only [stepped, frame]
  rw [cut.describes.temporalPatchSize, Nat.cast_le_ofNat, cut.height, cut.width]
  by_cases few : sizes.temporalPatchSize ≤ 2
  · have sequence := sequenceLength_still cut.positive cut.describes cut.still
    rw [← cut.describes.temporalPatchSize] at sequence
    have count : (patchValues sizes value).length = sizes.framePatches * sizes.inputDim := by
      rw [patchValues, List.length_map, List.length_range]
    rw [transposePatches_eq serves cut.positive cut.describes cut.still cut.colors cut.dims few
      filled, ok_then, download_eq serves sequence cut.dims count]
    exact iff_of_true rfl few
  · have filled := cut.framePatches_pos fits.dstHeight_pos fits.dstWidth_pos
    rw [transposePatches_outside serves cut.positive cut.describes cut.still cut.colors cut.dims
      (Nat.lt_of_not_le few) filled (by simp), error_then]
    exact iff_of_false (fun same => by cases same) few

end Frames

def serialRuntime (K : Type) [Field K] : ClRuntime K where
  grants call := call ≠ .createBuffer 0
  bytes size := List.replicate size 0
  bytes_length _ := List.length_replicate
  floats count := List.replicate count 0
  floats_length _ := List.length_replicate
  plane := pixels
  plane_perm _ _ := .refl _
  row := List.range
  row_perm _ := .refl _
  order := id
  order_perm _ := .refl _

theorem serialRuntime_serves (K : Type) [Field K] : (serialRuntime K).Serves :=
  fun _ filled => decide_eq_true filled

def pixelPreprocessor (K : Type) [Field K] (temporalPatchSize : Nat)
    (positive : 0 < temporalPatchSize) : QwenVLPreprocessor K where
  config := ⟨1, temporalPatchSize, 1, 1, 1, 3, 1, List.replicate 3 (1 / 2),
    List.replicate 3 (1 / 2)⟩
  patchSize_pos := Int.one_pos
  mergeSize_pos := Int.one_pos
  temporalPatchSize_pos := Int.natCast_pos.mpr positive
  inputDim := 3 * temporalPatchSize
  inputDim_eq := by rw [Int.mul_one, Int.mul_one]

theorem pixel_frameSizes {K : Type} [Field K] {temporalPatchSize : Nat}
    (positive : 0 < temporalPatchSize) (small : temporalPatchSize < 2 ^ 23) :
    FrameSizes (pixelPreprocessor K temporalPatchSize positive) 8 8 24 8 8 where
  srcWidth_pos := by decide
  srcHeight_pos := by decide
  dstWidth_pos := by decide
  dstHeight_pos := by decide
  wide := by decide
  rows := ⟨8, rfl⟩
  columns := ⟨8, rfl⟩
  channels := rfl
  source := by decide
  norm := by decide
  patches := by
    simp only [pixelPreprocessor]
    omega

def square : List UInt8 :=
  (List.range 192).map UInt8.ofNat

theorem preprocessFrameGPU_eq_iff_two :
    (preprocessFrameGPU (serialRuntime ℝ) (pixelPreprocessor ℝ 2 (by decide)) none square 8 8 24 8
        8).1 =
      .ok (framePatches exactFloat (pixelPreprocessor ℝ 2 (by decide)) square 8 8 24 8 8) :=
  (preprocessFrameGPU_eq_iff (pixelPreprocessor ℝ 2 (by decide)) exactFloat (.start rfl)
    (serialRuntime_serves ℝ) (pixel_frameSizes (by decide) (by decide)) (by simp [square])).mpr
    (by decide : (2 : Int) ≤ 2)

def threeFrames : QwenVLPreprocessor ℚ :=
  pixelPreprocessor ℚ 3 (Nat.succ_pos 2)

/-- With patches of three frames, the cutting kernel reads the third where the buffer ends. -/
theorem thirdFrame_outside :
    (preprocessFrameGPU (serialRuntime ℚ) threeFrames none square 8 8 24 8 8).1 =
        .error .outOfBuffer ∧
      ∀ float, (preprocessFrameGPU (serialRuntime ℚ) threeFrames none square 8 8 24 8 8).1 ≠
        .ok (framePatches float threeFrames square 8 8 24 8 8) := by
  have outside : (preprocessFrameGPU (serialRuntime ℚ) threeFrames none square 8 8 24 8 8).1 =
      .error .outOfBuffer := by
    decide +kernel
  refine ⟨outside, fun float same => ?_⟩
  rw [outside] at same
  cases same

end Iq9Pipeline.Vision
