import Iq9Pipeline.Vision.PatchOrder

/-!
The copies that cut an image into patches. The index that is read and the index that is
written are numbers of the same nine digits in two orders, so the copies are a permutation.
-/

namespace Iq9Pipeline.Vision.Preprocessor

open Foundation

section

variable {F : Type} (config : QwenVLConfig F)

def sourceIndex (mergedGridH mergedGridW H W C seqIdx elemIdx : Int) : Int :=
  let square := config.mergeSize * config.mergeSize
  let tIdx := seqIdx.tdiv (mergedGridH * mergedGridW * square)
  let remainder := seqIdx.tmod (mergedGridH * mergedGridW * square)
  let hIdx := remainder.tdiv (mergedGridW * square)
  let remainder := remainder.tmod (mergedGridW * square)
  let wIdx := remainder.tdiv square
  let remainder := remainder.tmod square
  let mergeH := remainder.tdiv config.mergeSize
  let mergeW := remainder.tmod config.mergeSize
  let area := config.patchSize * config.patchSize
  let cIdx := elemIdx.tdiv (config.temporalPatchSize * area)
  let temp := elemIdx.tmod (config.temporalPatchSize * area)
  let tPatchIdx := temp.tdiv area
  let temp := temp.tmod area
  let patchH := temp.tdiv config.patchSize
  let patchW := temp.tmod config.patchSize
  let srcT := tIdx * config.temporalPatchSize + tPatchIdx
  let srcH := hIdx * config.mergeSize * config.patchSize + mergeH * config.patchSize + patchH
  let srcW := wIdx * config.mergeSize * config.patchSize + mergeW * config.patchSize + patchW
  srcT * H * W * C + srcH * W * C + srcW * C + cIdx

def patchCopies (inputDim T H W C : Int) : List (Int × Int) :=
  let mergedGridH := (H.tdiv config.patchSize).tdiv config.mergeSize
  let mergedGridW := (W.tdiv config.patchSize).tdiv config.mergeSize
  nest (sequenceLength config T H W).toNat fun seqIdx =>
    (List.range inputDim.toNat).map fun (elemIdx : Nat) =>
      (seqIdx * inputDim + elemIdx,
        sourceIndex config mergedGridH mergedGridW H W C seqIdx elemIdx)

/-- The patches are what the copies bring. -/
theorem transposeToPatchCPU_flatten (float : FloatOps F) (normalizedImage : List F)
    (inputDim T H W C : Int) :
    (transposeToPatchCPU float config normalizedImage inputDim T H W C).flatten =
      (patchCopies config inputDim T H W C).map fun copy =>
        normalizedImage.getD copy.2.toNat (float.ofInt 0) := by
  simp only [transposeToPatchCPU, patchCopies, nest, List.map_flatMap, List.map_map,
    ← List.flatMap_def, patchAt]
  congr 1
  funext seqIdx
  apply List.map_congr_left
  intro elemIdx _
  simp only [Function.comp_apply, sourceIndex, patchPlace]
  congr 2
  ring

end

structure ElementPlace where
  channel : Nat
  frame : Nat
  row : Nat
  column : Nat

def elementPlace (patchSize temporalPatchSize elemIdx : Nat) : ElementPlace :=
  let area := patchSize * patchSize
  let temp := elemIdx % (temporalPatchSize * area)
  { channel := elemIdx / (temporalPatchSize * area)
    frame := temp / area
    row := temp % area / patchSize
    column := temp % area % patchSize }

structure Sizes where
  patchSize : Nat
  mergeSize : Nat
  temporalPatchSize : Nat
  channels : Nat
  gridT : Nat
  mergedH : Nat
  mergedW : Nat

namespace Sizes

variable (sizes : Sizes)

def square : Nat := sizes.mergeSize * sizes.mergeSize

def frames : Nat := sizes.gridT * sizes.temporalPatchSize

def height : Nat := sizes.mergedH * sizes.mergeSize * sizes.patchSize

def width : Nat := sizes.mergedW * sizes.mergeSize * sizes.patchSize

def framePatches : Nat := sizes.mergedH * (sizes.mergedW * sizes.square)

def patches : Nat := sizes.gridT * sizes.framePatches

def inputDim : Nat :=
  sizes.channels * (sizes.temporalPatchSize * (sizes.patchSize * sizes.patchSize))

def elements : Nat := sizes.patches * sizes.inputDim

def sourceAt (seqIdx elemIdx : Nat) : Nat :=
  let place := blockPlace sizes.mergeSize sizes.mergedW (seqIdx % sizes.framePatches)
  let element := elementPlace sizes.patchSize sizes.temporalPatchSize elemIdx
  (((seqIdx / sizes.framePatches * sizes.temporalPatchSize + element.frame) * sizes.height +
    (place.1 * sizes.patchSize + element.row)) * sizes.width +
      (place.2 * sizes.patchSize + element.column)) * sizes.channels + element.channel

structure Positive : Prop where
  patchSize : 0 < sizes.patchSize
  mergeSize : 0 < sizes.mergeSize
  temporalPatchSize : 0 < sizes.temporalPatchSize
  channels : 0 < sizes.channels

theorem elements_eq :
    sizes.elements = sizes.frames * sizes.height * sizes.width * sizes.channels := by
  simp only [elements, patches, framePatches, square, inputDim, frames, height, width]
  ring

end Sizes

theorem blockPlace_lt {mergeSize mergedH mergedW place : Nat}
    (inside : place < mergedH * (mergedW * (mergeSize * mergeSize))) :
    (blockPlace mergeSize mergedW place).1 < mergedH * mergeSize ∧
      (blockPlace mergeSize mergedW place).2 < mergedW * mergeSize := by
  have row : 0 < mergedW * (mergeSize * mergeSize) := by
    apply Nat.pos_of_ne_zero
    intro zero
    rw [zero, Nat.mul_zero] at inside
    exact Nat.not_lt_zero _ inside
  have square : 0 < mergeSize * mergeSize := Nat.pos_of_mul_pos_left row
  have merging : 0 < mergeSize := Nat.pos_of_mul_pos_left square
  have inBlock := Nat.mod_lt (place % (mergedW * (mergeSize * mergeSize))) square
  constructor
  · exact digits_lt ((Nat.div_lt_iff_lt_mul row).mpr inside)
      ((Nat.div_lt_iff_lt_mul merging).mpr inBlock)
  · exact digits_lt ((Nat.div_lt_iff_lt_mul square).mpr (Nat.mod_lt _ row))
      (Nat.mod_lt _ merging)

theorem blockPlace_inj {mergeSize mergedW place other : Nat} (positive : 0 < mergeSize)
    (same : blockPlace mergeSize mergedW place = blockPlace mergeSize mergedW other) :
    place = other := by
  have square := Nat.mul_pos positive positive
  simp only [blockPlace, Prod.mk.injEq] at same
  obtain ⟨rows, columns⟩ := same
  have high (inRow : Nat) : inRow % (mergeSize * mergeSize) / mergeSize < mergeSize :=
    (Nat.div_lt_iff_lt_mul positive).mpr (Nat.mod_lt _ square)
  obtain ⟨blockRow, inBlockRow⟩ := digits_inj (high _) (high _) rows
  obtain ⟨blockColumn, inBlockColumn⟩ :=
    digits_inj (Nat.mod_lt _ positive) (Nat.mod_lt _ positive) columns
  exact eq_of_digits blockRow (eq_of_digits blockColumn (eq_of_digits inBlockRow inBlockColumn))

theorem elementPlace_inj {patchSize temporalPatchSize element other : Nat}
    (same : elementPlace patchSize temporalPatchSize element =
      elementPlace patchSize temporalPatchSize other) : element = other := by
  simp only [elementPlace, ElementPlace.mk.injEq] at same
  obtain ⟨channel, frame, row, column⟩ := same
  exact eq_of_digits channel (eq_of_digits frame (eq_of_digits row column))

namespace Sizes

variable {sizes : Sizes} {seqIdx elemIdx seqIdx' elemIdx' : Nat}

theorem element_lt (positive : sizes.Positive) (inside : elemIdx < sizes.inputDim) :
    (elementPlace sizes.patchSize sizes.temporalPatchSize elemIdx).channel < sizes.channels ∧
      (elementPlace sizes.patchSize sizes.temporalPatchSize elemIdx).frame <
        sizes.temporalPatchSize ∧
      (elementPlace sizes.patchSize sizes.temporalPatchSize elemIdx).row < sizes.patchSize ∧
      (elementPlace sizes.patchSize sizes.temporalPatchSize elemIdx).column < sizes.patchSize := by
  have area := Nat.mul_pos positive.patchSize positive.patchSize
  have volume := Nat.mul_pos positive.temporalPatchSize area
  simp only [elementPlace]
  refine ⟨(Nat.div_lt_iff_lt_mul volume).mpr inside, ?_, ?_, Nat.mod_lt _ positive.patchSize⟩
  · exact (Nat.div_lt_iff_lt_mul area).mpr (Nat.mod_lt _ volume)
  · exact (Nat.div_lt_iff_lt_mul positive.patchSize).mpr (Nat.mod_lt _ area)

theorem framePatches_pos (inside : seqIdx < sizes.patches) : 0 < sizes.framePatches := by
  apply Nat.pos_of_ne_zero
  intro zero
  rw [patches, zero, Nat.mul_zero] at inside
  exact Nat.not_lt_zero _ inside

theorem row_lt (positive : sizes.Positive) (inside : seqIdx < sizes.patches)
    (element : elemIdx < sizes.inputDim) :
    (blockPlace sizes.mergeSize sizes.mergedW (seqIdx % sizes.framePatches)).1 * sizes.patchSize +
        (elementPlace sizes.patchSize sizes.temporalPatchSize elemIdx).row < sizes.height ∧
      (blockPlace sizes.mergeSize sizes.mergedW (seqIdx % sizes.framePatches)).2 *
          sizes.patchSize +
        (elementPlace sizes.patchSize sizes.temporalPatchSize elemIdx).column < sizes.width := by
  obtain ⟨rows, columns⟩ := @blockPlace_lt sizes.mergeSize sizes.mergedH sizes.mergedW _
    (Nat.mod_lt seqIdx (framePatches_pos inside))
  obtain ⟨_, _, row, column⟩ := element_lt positive element
  exact ⟨digits_lt rows row, digits_lt columns column⟩

theorem sourceAt_lt (positive : sizes.Positive) (inside : seqIdx < sizes.patches)
    (element : elemIdx < sizes.inputDim) : sizes.sourceAt seqIdx elemIdx < sizes.elements := by
  obtain ⟨channel, frame, _, _⟩ := element_lt positive element
  obtain ⟨row, column⟩ := row_lt positive inside element
  have frames : seqIdx / sizes.framePatches < sizes.gridT :=
    (Nat.div_lt_iff_lt_mul (framePatches_pos inside)).mpr inside
  rw [elements_eq]
  exact digits_lt (digits_lt (digits_lt (digits_lt frames frame) row) column) channel

theorem sourceAt_inj (positive : sizes.Positive) (inside : seqIdx < sizes.patches)
    (inside' : seqIdx' < sizes.patches) (element : elemIdx < sizes.inputDim)
    (element' : elemIdx' < sizes.inputDim)
    (same : sizes.sourceAt seqIdx elemIdx = sizes.sourceAt seqIdx' elemIdx') :
    seqIdx = seqIdx' ∧ elemIdx = elemIdx' := by
  obtain ⟨channel, frame, row, column⟩ := element_lt positive element
  obtain ⟨channel', frame', row', column'⟩ := element_lt positive element'
  obtain ⟨high, wide⟩ := row_lt positive inside element
  obtain ⟨high', wide'⟩ := row_lt positive inside' element'
  obtain ⟨pixels, channels⟩ := digits_inj channel channel' same
  obtain ⟨lines, inLine⟩ := digits_inj wide wide' pixels
  obtain ⟨layers, inColumn⟩ := digits_inj high high' lines
  obtain ⟨times, frames⟩ := digits_inj frame frame' layers
  obtain ⟨placeColumn, columns⟩ := digits_inj column column' inLine
  obtain ⟨placeRow, rows⟩ := digits_inj row row' inColumn
  constructor
  · exact eq_of_digits times (blockPlace_inj positive.mergeSize (Prod.ext placeRow placeColumn))
  · apply @elementPlace_inj sizes.patchSize sizes.temporalPatchSize
    simp only [ElementPlace.mk.injEq, elementPlace] at channels frames rows columns ⊢
    exact ⟨channels, frames, rows, columns⟩

def sourceOf (sizes : Sizes) (dst : Nat) : Nat :=
  sizes.sourceAt (dst / sizes.inputDim) (dst % sizes.inputDim)

theorem inputDim_pos (positive : sizes.Positive) : 0 < sizes.inputDim :=
  Nat.mul_pos positive.channels (Nat.mul_pos positive.temporalPatchSize
    (Nat.mul_pos positive.patchSize positive.patchSize))

theorem sourceOf_perm (positive : sizes.Positive) :
    ((List.range sizes.elements).map sizes.sourceOf).Perm (List.range sizes.elements) := by
  have dims := inputDim_pos positive
  have patch {dst : Nat} (inside : dst < sizes.elements) : dst / sizes.inputDim < sizes.patches :=
    (Nat.div_lt_iff_lt_mul dims).mpr inside
  apply perm_range
  · exact fun dst inside => sourceAt_lt positive (patch inside) (Nat.mod_lt _ dims)
  · intro dst inside other inside' same
    obtain ⟨high, low⟩ := sourceAt_inj positive (patch inside) (patch inside')
      (Nat.mod_lt _ dims) (Nat.mod_lt _ dims) same
    exact eq_of_digits high low

structure Of {F : Type} (sizes : Sizes) (config : QwenVLConfig F) : Prop where
  patchSize : config.patchSize = sizes.patchSize
  mergeSize : config.mergeSize = sizes.mergeSize
  temporalPatchSize : config.temporalPatchSize = sizes.temporalPatchSize
  channels : config.channels = sizes.channels

variable {F : Type} {config : QwenVLConfig F}

theorem sequenceLength_eq (positive : sizes.Positive) (describes : sizes.Of config) :
    sequenceLength config sizes.frames sizes.height sizes.width = sizes.patches := by
  have grid (count : Nat) :
      ((count * sizes.mergeSize * sizes.patchSize : Nat) : Int).tdiv sizes.patchSize =
        (count * sizes.mergeSize : Nat) := by
    rw [← Int.ofNat_tdiv, Nat.mul_div_cancel _ positive.patchSize]
  have merged (count : Nat) :
      ((count * sizes.mergeSize : Nat) : Int).tdiv sizes.mergeSize = count := by
    rw [← Int.ofNat_tdiv, Nat.mul_div_cancel _ positive.mergeSize]
  have times : ((sizes.gridT * sizes.temporalPatchSize : Nat) : Int).tdiv sizes.temporalPatchSize =
      sizes.gridT := by
    rw [← Int.ofNat_tdiv, Nat.mul_div_cancel _ positive.temporalPatchSize]
  simp only [sequenceLength, describes.patchSize, describes.mergeSize, describes.temporalPatchSize,
    frames, height, width, grid, merged, times, patches, framePatches, square]
  push_cast
  ring

theorem sourceIndex_eq (describes : sizes.Of config) (seqIdx elemIdx : Nat) :
    sourceIndex config sizes.mergedH sizes.mergedW sizes.height sizes.width sizes.channels seqIdx
      elemIdx = sizes.sourceAt seqIdx elemIdx := by
  simp only [sourceIndex, describes.patchSize, describes.mergeSize, describes.temporalPatchSize,
    ← Int.natCast_mul, ← Int.ofNat_tdiv, ← Int.ofNat_tmod, ← Int.natCast_add, Nat.cast_inj,
    sourceAt, blockPlace, elementPlace, framePatches, square, Nat.mul_assoc]
  ring

theorem exists_blocks {patchSize mergeSize : Nat} {side : Int} (nonneg : 0 ≤ side)
    (whole : (patchSize * mergeSize : Int) ∣ side) :
    ∃ blocks : Nat, side = (blocks * mergeSize * patchSize : Nat) := by
  obtain ⟨length, rfl⟩ := Int.eq_ofNat_of_zero_le nonneg
  rw [← Int.natCast_mul, Int.natCast_dvd_natCast] at whole
  refine ⟨length / (patchSize * mergeSize), ?_⟩
  rw [Nat.mul_assoc, Nat.mul_comm mergeSize, Nat.div_mul_cancel whole]

theorem exists_of {preprocessor : QwenVLPreprocessor F} {T H W : Int}
    (channels : 0 < preprocessor.config.channels) (frames : 0 ≤ T) (high : 0 ≤ H) (wide : 0 ≤ W)
    (layers : preprocessor.config.temporalPatchSize ∣ T)
    (rows : preprocessor.config.patchSize * preprocessor.config.mergeSize ∣ H)
    (columns : preprocessor.config.patchSize * preprocessor.config.mergeSize ∣ W) :
    ∃ sizes : Sizes, sizes.Positive ∧ sizes.Of preprocessor.config ∧ T = sizes.frames ∧
      H = sizes.height ∧ W = sizes.width := by
  have patching := preprocessor.patchSize_pos
  have merging := preprocessor.mergeSize_pos
  have layering := preprocessor.temporalPatchSize_pos
  obtain ⟨C, colors⟩ := Int.eq_ofNat_of_zero_le (Int.le_of_lt channels)
  obtain ⟨P, patches⟩ := Int.eq_ofNat_of_zero_le (Int.le_of_lt patching)
  obtain ⟨M, merged⟩ := Int.eq_ofNat_of_zero_le (Int.le_of_lt merging)
  obtain ⟨L, layered⟩ := Int.eq_ofNat_of_zero_le (Int.le_of_lt layering)
  rw [colors, Int.natCast_pos] at channels
  rw [patches, Int.natCast_pos] at patching
  rw [merged, Int.natCast_pos] at merging
  rw [layered, Int.natCast_pos] at layering
  rw [patches, merged] at rows columns
  obtain ⟨N, rfl⟩ := Int.eq_ofNat_of_zero_le frames
  rw [layered, Int.natCast_dvd_natCast] at layers
  obtain ⟨mergedH, rfl⟩ := exists_blocks high rows
  obtain ⟨mergedW, rfl⟩ := exists_blocks wide columns
  refine ⟨⟨P, M, L, C, N / L, mergedH, mergedW⟩, ⟨patching, merging, layering, channels⟩,
    ⟨patches, merged, layered, colors⟩, ?_, rfl, rfl⟩
  simp only [Sizes.frames, Nat.div_mul_cancel layers]

theorem patchCopies_eq (positive : sizes.Positive) (describes : sizes.Of config) :
    patchCopies config sizes.inputDim sizes.frames sizes.height sizes.width sizes.channels =
      (List.range sizes.elements).map fun dst : Nat =>
        ((dst : Int), (sizes.sourceOf dst : Int)) := by
  have merged (count : Nat) :
      (((count * sizes.mergeSize * sizes.patchSize : Nat) : Int).tdiv sizes.patchSize).tdiv
        sizes.mergeSize = count := by
    rw [← Int.ofNat_tdiv, Nat.mul_div_cancel _ positive.patchSize, ← Int.ofNat_tdiv,
      Nat.mul_div_cancel _ positive.mergeSize]
  have count := sequenceLength_eq positive describes
  have source := sourceIndex_eq describes
  simp only [height, width] at count source
  simp only [patchCopies, describes.patchSize, describes.mergeSize, height, width, count, merged,
    Int.toNat_natCast, source, elements]
  rw [nest_range]
  apply List.map_congr_left
  intro dst _
  have whole : ((dst / sizes.inputDim : Nat) : Int) * sizes.inputDim +
      (dst % sizes.inputDim : Nat) = dst := by
    rw [← Int.natCast_mul, ← Int.natCast_add, Nat.div_add_mod']
  rw [whole, sourceOf]

end Sizes

/-- The copies take each element of the frames to a place of its own. -/
theorem patchCopies_permutation {F : Type} (preprocessor : QwenVLPreprocessor F)
    (float : FloatOps F) (normalizedImage : List F) (T H W : Int)
    (channels : 0 < preprocessor.config.channels) (frames : 0 ≤ T) (high : 0 ≤ H) (wide : 0 ≤ W)
    (layers : preprocessor.config.temporalPatchSize ∣ T)
    (rows : preprocessor.config.patchSize * preprocessor.config.mergeSize ∣ H)
    (columns : preprocessor.config.patchSize * preprocessor.config.mergeSize ∣ W) :
    let C := preprocessor.config.channels
    let elements := T * H * W * C
    let copies := patchCopies preprocessor.config preprocessor.inputDim T H W C
    sequenceLength preprocessor.config T H W * preprocessor.inputDim = elements ∧
      copies.map Prod.fst = (List.range elements.toNat).map Nat.cast ∧
      (copies.map Prod.snd).Perm ((List.range elements.toNat).map Nat.cast) ∧
      (transposeToPatchCPU float preprocessor.config normalizedImage preprocessor.inputDim T H W
          C).flatten =
        copies.map fun copy => normalizedImage.getD copy.2.toNat (float.ofInt 0) := by
  obtain ⟨sizes, positive, describes, rfl, rfl, rfl⟩ :=
    Sizes.exists_of channels frames high wide layers rows columns
  have dims : preprocessor.inputDim = sizes.inputDim := by
    rw [preprocessor.inputDim_eq, describes.channels, describes.temporalPatchSize,
      describes.patchSize, Sizes.inputDim]
    push_cast
    ring
  have whole : (sizes.frames * sizes.height * sizes.width * sizes.channels : Int) =
      sizes.elements := by
    rw [Sizes.elements_eq]
    push_cast
    rfl
  intro C elements copies
  have listed : copies = (List.range sizes.elements).map fun dst : Nat =>
      ((dst : Int), (sizes.sourceOf dst : Int)) := by
    rw [← Sizes.patchCopies_eq positive describes, ← dims, ← describes.channels]
  have counted : elements = sizes.elements := by
    rw [← whole, ← describes.channels]
  rw [counted, Int.toNat_natCast]
  refine ⟨?_, ?_, ?_, transposeToPatchCPU_flatten _ _ _ _ _ _ _ _⟩
  · rw [Sizes.sequenceLength_eq positive describes, dims, ← Int.natCast_mul]
    rfl
  · rw [listed, List.map_map]
    rfl
  · have permuted := (Sizes.sourceOf_perm positive).map (Nat.cast : Nat → Int)
    rw [listed, List.map_map]
    rwa [List.map_map] at permuted

/-- Two frames of two by one blocks. -/
theorem patchCopies_permutation_qwen3VL :
    sequenceLength qwen3VL.config 2 64 32 * qwen3VL.inputDim = 2 * 64 * 32 * 3 ∧
      ((patchCopies qwen3VL.config qwen3VL.inputDim 2 64 32 3).map Prod.snd).Perm
        ((List.range 12288).map Nat.cast) ∧
      (transposeToPatchCPU exactFloat qwen3VL.config (List.replicate 12288 1) qwen3VL.inputDim 2
          64 32 3).flatten =
        (patchCopies qwen3VL.config qwen3VL.inputDim 2 64 32 3).map fun copy =>
          (List.replicate 12288 1).getD copy.2.toNat (exactFloat.ofInt 0) := by
  obtain ⟨length, _, permuted, copied⟩ := patchCopies_permutation qwen3VL exactFloat
    (List.replicate 12288 1) 2 64 32 (by decide) (by decide) (by decide) (by decide) (by decide)
    (by decide) (by decide)
  exact ⟨length, permuted, copied⟩

end Iq9Pipeline.Vision.Preprocessor
