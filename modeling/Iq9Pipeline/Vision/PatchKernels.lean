import Iq9Pipeline.Foundation.Scatter
import Iq9Pipeline.Vision.PatchCopies
import Mathlib.Algebra.Field.Basic

/-!
The kernels that cut an image into patches on the graphics processor
(`qwen_vl_opencl_kernels.h`), in exact arithmetic. A work item is a function of its global
id: what it stores, or nothing where it reads outside of a buffer.
-/

namespace Iq9Pipeline.Vision.Kernels

open Foundation
open Preprocessor (Sizes blockPlace elementPlace)

structure Rgb (K : Type) where
  r : K
  g : K
  b : K

variable {K : Type} [Field K]

def normalizeImage (src : List UInt8) (mean std : Rgb K) (height width channels : Nat)
    (id : Nat × Nat) : Option (List (Nat × K)) :=
  let h := id.1
  let w := id.2
  if h ≥ height ∨ w ≥ width then some []
  else do
    let baseIdx := (h * width + w) * channels
    let pixelR : K := (← src[baseIdx + 0]?).toNat / 255
    let pixelG : K := (← src[baseIdx + 1]?).toNat / 255
    let pixelB : K := (← src[baseIdx + 2]?).toNat / 255
    some [(baseIdx + 0, (pixelR - mean.r) / std.r), (baseIdx + 1, (pixelG - mean.g) / std.g),
      (baseIdx + 2, (pixelB - mean.b) / std.b)]

def transposeToPatch (input : List K) (T H W C patchSize mergeSize temporalPatchSize inputDim : Nat)
    (seqIdx : Nat) : Option (List (Nat × K)) :=
  let gridT := T / temporalPatchSize
  let gridH := H / patchSize
  let gridW := W / patchSize
  let mergedGridH := gridH / mergeSize
  let mergedGridW := gridW / mergeSize
  let seqLength := gridT * mergedGridH * mergedGridW * mergeSize * mergeSize
  if seqIdx ≥ seqLength then some []
  else
    let tIdx := seqIdx / (mergedGridH * mergedGridW * mergeSize * mergeSize)
    let remainder := seqIdx % (mergedGridH * mergedGridW * mergeSize * mergeSize)
    let hIdx := remainder / (mergedGridW * mergeSize * mergeSize)
    let remainder := remainder % (mergedGridW * mergeSize * mergeSize)
    let wIdx := remainder / (mergeSize * mergeSize)
    let remainder := remainder % (mergeSize * mergeSize)
    let mergeH := remainder / mergeSize
    let mergeW := remainder % mergeSize
    (List.range inputDim).mapM fun elemIdx => do
      let cIdx := elemIdx / (temporalPatchSize * patchSize * patchSize)
      let temp := elemIdx % (temporalPatchSize * patchSize * patchSize)
      let tPatchIdx := temp / (patchSize * patchSize)
      let temp := temp % (patchSize * patchSize)
      let patchH := temp / patchSize
      let patchW := temp % patchSize
      let srcT := tIdx * temporalPatchSize + tPatchIdx
      let srcH := hIdx * mergeSize * patchSize + mergeH * patchSize + patchH
      let srcW := wIdx * mergeSize * patchSize + mergeW * patchSize + patchW
      let srcC := cIdx
      let srcIdx := srcT * (H * W * C) + srcH * (W * C) + srcW * C + srcC
      let dstIdx := seqIdx * inputDim + elemIdx
      some (dstIdx, ← input[srcIdx]?)

def transposeToPatchFromUchar (resized : List UInt8)
    (H W patchSize mergeSize temporalPatchSize inputDim : Nat) (mean invStd : Rgb K)
    (seqIdx : Nat) : Option (List (Nat × K)) :=
  let gridH := H / patchSize
  let gridW := W / patchSize
  let mergedGridH := gridH / mergeSize
  let mergedGridW := gridW / mergeSize
  let seqLength := mergedGridH * mergedGridW * mergeSize * mergeSize
  if seqIdx ≥ seqLength then some []
  else
    let hIdx := seqIdx / (mergedGridW * mergeSize * mergeSize)
    let remainder := seqIdx % (mergedGridW * mergeSize * mergeSize)
    let wIdx := remainder / (mergeSize * mergeSize)
    let remainder := remainder % (mergeSize * mergeSize)
    let mergeH := remainder / mergeSize
    let mergeW := remainder % mergeSize
    (List.range inputDim).mapM fun elemIdx => do
      let cIdx := elemIdx / (temporalPatchSize * patchSize * patchSize)
      let temp := elemIdx % (temporalPatchSize * patchSize * patchSize)
      -- The frame of the element, `tPatchIdx`, is not used here: all frames are this image.
      let temp := temp % (patchSize * patchSize)
      let patchH := temp / patchSize
      let patchW := temp % patchSize
      let srcH := hIdx * mergeSize * patchSize + mergeH * patchSize + patchH
      let srcW := wIdx * mergeSize * patchSize + mergeW * patchSize + patchW
      let srcC := cIdx
      let srcIdx := (srcH * W + srcW) * 3 + srcC
      let val : K := (← resized[srcIdx]?).toNat
      let meanVal := if srcC = 0 then mean.r else if srcC = 1 then mean.g else mean.b
      let invStdVal := if srcC = 0 then invStd.r else if srcC = 1 then invStd.g else invStd.b
      some (seqIdx * inputDim + elemIdx, (val / 255 - meanVal) * invStdVal)

def Rgb.channel (rgb : Rgb K) (c : Nat) : K :=
  if c = 0 then rgb.r else if c = 1 then rgb.g else rgb.b

def Rgb.inverse (rgb : Rgb K) : Rgb K where
  r := 1 / rgb.r
  g := 1 / rgb.g
  b := 1 / rgb.b

theorem Rgb.inverse_channel (rgb : Rgb K) (c : Nat) :
    rgb.inverse.channel c = 1 / rgb.channel c := by
  simp only [channel, inverse]
  split
  · rfl
  · split <;> rfl

def normalizedAt (image : List UInt8) (mean std : Rgb K) (idx : Nat) : K :=
  ((image.getD idx 0).toNat / 255 - mean.channel (idx % 3)) / std.channel (idx % 3)

theorem getElem?_eq_getD {image : List UInt8} {idx : Nat} (inside : idx < image.length) :
    image[idx]? = some (image.getD idx 0) := by
  rw [List.getD_eq_getElem?_getD, List.getElem?_eq_getElem inside, Option.getD_some]

section

variable {image : List UInt8} {mean std : Rgb K} {height width : Nat}

theorem normalizeImage_eq {h w : Nat} (sized : image.length = height * width * 3)
    (row : h < height) (column : w < width) :
    normalizeImage image mean std height width 3 (h, w) =
      some ((List.range 3).map fun c =>
        ((h * width + w) * 3 + c, normalizedAt image mean std ((h * width + w) * 3 + c))) := by
  have read {c : Nat} (channel : c < 3) : image[(h * width + w) * 3 + c]? =
      some (image.getD ((h * width + w) * 3 + c) 0) := by
    apply getElem?_eq_getD
    rw [sized]
    exact digits_lt (digits_lt row column) channel
  have guard : ¬(h ≥ height ∨ w ≥ width) := by omega
  simp only [normalizeImage, if_neg guard, read (show 0 < 3 by decide),
    read (show 1 < 3 by decide), read (show 2 < 3 by decide), Option.bind_eq_bind,
    Option.bind_some, normalizedAt, Nat.mul_add_mod_self_right]
  rfl

def pixels (height width : Nat) : List (Nat × Nat) :=
  nest height fun h => (List.range width).map fun w => (h, w)

theorem mem_pixels {pixel : Nat × Nat} :
    pixel ∈ pixels height width ↔ pixel.1 < height ∧ pixel.2 < width := by
  simp only [pixels, mem_nest, List.mem_map, List.mem_range]
  constructor
  · rintro ⟨h, row, w, column, rfl⟩
    exact ⟨row, column⟩
  · intro inside
    exact ⟨pixel.1, inside.1, pixel.2, inside.2, rfl⟩

theorem nodup_pixels : (pixels height width).Nodup := by
  have product : pixels height width = List.range height ×ˢ List.range width := rfl
  rw [product]
  exact List.nodup_range.product List.nodup_range

theorem normalizeImage_computes {items : List (Nat × Nat)}
    (sized : image.length = height * width * 3)
    (launched : LaunchedOnce items (pixels height width)) :
    Computes (normalizeImage image mean std height width 3) items
      ((List.range (height * width * 3)).map (normalizedAt image mean std)) := by
  apply launched.computes nodup_pixels
  · intro pixel member
    obtain ⟨row, column⟩ := mem_pixels.mp member
    exact normalizeImage_eq sized row column
  · intro pixel outside
    have guard : pixel.1 ≥ height ∨ pixel.2 ≥ width := by
      rw [mem_pixels] at outside
      omega
    simp only [normalizeImage, if_pos guard]
  · have stores := nest_stores (height * width) 3 fun pixel c =>
      normalizedAt image mean std (pixel * 3 + c)
    simp only [Nat.div_add_mod'] at stores
    rw [← stores, pixels, nest_range, List.flatMap_map]
    simp only [Nat.div_add_mod']
    rfl

end

def pixelAt (sizes : Sizes) (seqIdx elemIdx : Nat) : Nat :=
  let place := blockPlace sizes.mergeSize sizes.mergedW seqIdx
  let element := elementPlace sizes.patchSize sizes.temporalPatchSize elemIdx
  ((place.1 * sizes.patchSize + element.row) * sizes.width +
    (place.2 * sizes.patchSize + element.column)) * sizes.channels + element.channel

section

variable {sizes : Sizes} {seqIdx elemIdx : Nat}

theorem sourceAt_eq (inside : seqIdx < sizes.framePatches) :
    sizes.sourceAt seqIdx elemIdx =
      (elementPlace sizes.patchSize sizes.temporalPatchSize elemIdx).frame *
        (sizes.height * sizes.width * sizes.channels) + pixelAt sizes seqIdx elemIdx := by
  simp only [Sizes.sourceAt, pixelAt, Nat.mod_eq_of_lt inside, Nat.div_eq_of_lt inside]
  ring

theorem pixelAt_lt (positive : sizes.Positive) (inside : seqIdx < sizes.framePatches)
    (element : elemIdx < sizes.inputDim) :
    pixelAt sizes seqIdx elemIdx < sizes.height * sizes.width * sizes.channels := by
  obtain ⟨channel, _, row, column⟩ := Sizes.element_lt positive element
  obtain ⟨rows, columns⟩ := @Preprocessor.blockPlace_lt _ sizes.mergedH _ _ inside
  exact digits_lt (digits_lt (digits_lt rows row) (digits_lt columns column)) channel

theorem getElem?_replicate_flatten {α : Type} {frame : List α} {copies copy idx : Nat}
    (which : copy < copies) (inside : idx < frame.length) :
    (List.replicate copies frame).flatten[copy * frame.length + idx]? = frame[idx]? := by
  have nested : (List.replicate copies frame).flatten = nest copies fun _ => frame := by
    rw [nest, List.flatMap_def, List.map_const', List.length_range]
  have positive : 0 < frame.length := Nat.lt_of_le_of_lt (Nat.zero_le _) inside
  rw [nested, getElem?_nest (fun _ => rfl) (digits_lt which inside), Nat.mul_comm,
    Nat.mul_add_mod, Nat.mod_eq_of_lt inside]

theorem grid_eq (positive : sizes.Positive) :
    sizes.height / sizes.patchSize / sizes.mergeSize = sizes.mergedH ∧
      sizes.width / sizes.patchSize / sizes.mergeSize = sizes.mergedW := by
  simp only [Sizes.height, Sizes.width, Nat.mul_div_cancel _ positive.patchSize,
    Nat.mul_div_cancel _ positive.mergeSize, and_self]

omit [Field K] in
theorem transposeToPatch_eq (positive : sizes.Positive) (input : List K) :
    transposeToPatch input sizes.frames sizes.height sizes.width sizes.channels sizes.patchSize
        sizes.mergeSize sizes.temporalPatchSize sizes.inputDim seqIdx =
      if seqIdx ≥ sizes.patches then some []
      else (List.range sizes.inputDim).mapM fun elemIdx =>
        input[sizes.sourceAt seqIdx elemIdx]?.map fun value =>
          (seqIdx * sizes.inputDim + elemIdx, value) := by
  obtain ⟨high, wide⟩ := grid_eq positive
  have times : sizes.frames / sizes.temporalPatchSize = sizes.gridT :=
    Nat.mul_div_cancel _ positive.temporalPatchSize
  simp only [transposeToPatch, high, wide, times, Sizes.patches, Sizes.framePatches, Sizes.square,
    Sizes.sourceAt, blockPlace, elementPlace, Nat.mul_assoc, Option.bind_eq_bind,
    Option.map_eq_bind]
  congr 2
  funext elemIdx
  congr 2
  ring

theorem transposeToPatchFromUchar_eq (positive : sizes.Positive) (colors : sizes.channels = 3)
    (resized : List UInt8) (mean invStd : Rgb K) :
    transposeToPatchFromUchar resized sizes.height sizes.width sizes.patchSize sizes.mergeSize
        sizes.temporalPatchSize sizes.inputDim mean invStd seqIdx =
      if seqIdx ≥ sizes.framePatches then some []
      else (List.range sizes.inputDim).mapM fun elemIdx =>
        (resized[pixelAt sizes seqIdx elemIdx]?.map fun byte =>
          let channel := (elementPlace sizes.patchSize sizes.temporalPatchSize elemIdx).channel
          ((byte.toNat : K) / 255 - mean.channel channel) * invStd.channel channel).map
            fun element => (seqIdx * sizes.inputDim + elemIdx, element) := by
  obtain ⟨high, wide⟩ := grid_eq positive
  simp only [Option.map_map]
  simp only [transposeToPatchFromUchar, high, wide, Sizes.framePatches, Sizes.square, pixelAt,
    blockPlace, elementPlace, Nat.mul_assoc, Option.bind_eq_bind, Option.map_eq_bind, colors,
    Rgb.channel]
  congr 2
  funext elemIdx
  congr 2
  ring

def patchValues (sizes : Sizes) (value : Nat → K) : List K :=
  (List.range (sizes.framePatches * sizes.inputDim)).map fun dst =>
    value (pixelAt sizes (dst / sizes.inputDim) (dst % sizes.inputDim))

omit [Field K] in
theorem patchValues_computes {items : List Nat} {value : Nat → K}
    {kernel : Nat → Option (List (Nat × K))} {read : Nat → Nat → Option K}
    (launched : LaunchedOnce items (List.range sizes.framePatches))
    (kernel_eq : ∀ seqIdx, kernel seqIdx =
      if seqIdx ≥ sizes.framePatches then some []
      else (List.range sizes.inputDim).mapM fun elemIdx =>
        (read seqIdx elemIdx).map fun element => (seqIdx * sizes.inputDim + elemIdx, element))
    (reads : ∀ seqIdx < sizes.framePatches, ∀ elemIdx < sizes.inputDim,
      read seqIdx elemIdx = some (value (pixelAt sizes seqIdx elemIdx))) :
    Computes kernel items (patchValues sizes value) := by
  apply launched.computes List.nodup_range
  · intro seqIdx member
    have inside := List.mem_range.mp member
    rw [kernel_eq, if_neg (Nat.not_le.mpr inside)]
    have each : ∀ elemIdx ∈ List.range sizes.inputDim,
        ((read seqIdx elemIdx).map fun element => (seqIdx * sizes.inputDim + elemIdx, element)) =
          some (seqIdx * sizes.inputDim + elemIdx, value (pixelAt sizes seqIdx elemIdx)) := by
      intro elemIdx element
      rw [reads seqIdx inside elemIdx (List.mem_range.mp element), Option.map_some]
    exact mapM_eq_some each
  · intro seqIdx outside
    rw [kernel_eq, if_pos (Nat.not_lt.mp (mt List.mem_range.mpr outside))]
  · exact nest_stores sizes.framePatches sizes.inputDim fun seqIdx elemIdx =>
      value (pixelAt sizes seqIdx elemIdx)

omit [Field K] in
/-- Where the frames are the same image, only the image counts. -/
theorem transposeToPatch_reads (positive : sizes.Positive) (still : sizes.gridT = 1)
    {items : List Nat} (launched : LaunchedOnce items (List.range sizes.framePatches))
    {input : List K} {value : Nat → K}
    (frames : ∀ frame < sizes.temporalPatchSize,
      ∀ idx < sizes.height * sizes.width * sizes.channels,
        input[frame * (sizes.height * sizes.width * sizes.channels) + idx]? = some (value idx)) :
    Computes (transposeToPatch input sizes.temporalPatchSize sizes.height sizes.width
        sizes.channels sizes.patchSize sizes.mergeSize sizes.temporalPatchSize sizes.inputDim)
      items (patchValues sizes value) := by
  have times : sizes.frames = sizes.temporalPatchSize := by
    rw [Sizes.frames, still, Nat.one_mul]
  have patches : sizes.patches = sizes.framePatches := by
    rw [Sizes.patches, still, Nat.one_mul]
  apply patchValues_computes launched
  · intro seqIdx
    rw [← patches]
    nth_rewrite 1 [← times]
    exact transposeToPatch_eq positive input
  · intro seqIdx inside elemIdx element
    obtain ⟨_, frame, _, _⟩ := Sizes.element_lt positive element
    rw [sourceAt_eq inside]
    exact frames _ frame _ (pixelAt_lt positive inside element)

omit [Field K] in
theorem transposeToPatch_computes (positive : sizes.Positive) (still : sizes.gridT = 1)
    {items : List Nat} (launched : LaunchedOnce items (List.range sizes.framePatches))
    (value : Nat → K) :
    Computes (transposeToPatch (List.replicate sizes.temporalPatchSize
        ((List.range (sizes.height * sizes.width * sizes.channels)).map value)).flatten
        sizes.temporalPatchSize sizes.height sizes.width sizes.channels sizes.patchSize
        sizes.mergeSize sizes.temporalPatchSize sizes.inputDim)
      items (patchValues sizes value) := by
  apply transposeToPatch_reads positive still launched
  intro frame which idx inside
  have read := @getElem?_replicate_flatten K
    ((List.range (sizes.height * sizes.width * sizes.channels)).map value) _ _ idx which
  rw [List.length_map, List.length_range] at read
  rw [read inside, List.getElem?_map, List.getElem?_range inside, Option.map_some]

theorem transposeToPatchFromUchar_computes (positive : sizes.Positive)
    (colors : sizes.channels = 3) {items : List Nat}
    (launched : LaunchedOnce items (List.range sizes.framePatches)) {resized : List UInt8}
    (sized : resized.length = sizes.height * sizes.width * 3) (mean std : Rgb K) :
    Computes (transposeToPatchFromUchar resized sizes.height sizes.width sizes.patchSize
        sizes.mergeSize sizes.temporalPatchSize sizes.inputDim mean std.inverse)
      items (patchValues sizes (normalizedAt resized mean std)) := by
  apply patchValues_computes launched
  · intro seqIdx
    exact transposeToPatchFromUchar_eq positive colors resized mean std.inverse
  · intro seqIdx inside elemIdx element
    obtain ⟨channel, _, _, _⟩ := Sizes.element_lt positive element
    have pixel := pixelAt_lt positive inside element
    rw [colors] at channel
    rw [colors, ← sized] at pixel
    have which : pixelAt sizes seqIdx elemIdx % 3 =
        (elementPlace sizes.patchSize sizes.temporalPatchSize elemIdx).channel := by
      rw [pixelAt, colors, Nat.mul_add_mod_self_right, Nat.mod_eq_of_lt channel]
    simp only [getElem?_eq_getD pixel, Option.map_some, normalizedAt, which, Rgb.inverse_channel,
      ← div_eq_mul_one_div]

end

end Iq9Pipeline.Vision.Kernels
