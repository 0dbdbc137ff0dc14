import Iq9Pipeline.Foundation.LoopNest
import Iq9Pipeline.Foundation.Returns
import Mathlib.Algebra.Ring.Int.Defs
import Mathlib.Algebra.Ring.Nat

/-!
The image preprocessor of the vision encoder (`qwen_vl_preprocessor.cpp`), on the processor:
an image is resized, normalized and cut into patches, and comes with the position
embeddings of the patches. An image row, a patch and an embedding are lists.
-/

namespace Iq9Pipeline.Vision.Preprocessor

open Foundation

/-- Why there is no result. An overflow has no defined behaviour. -/
inductive Failure
  | overflow
  | lengthError
  | invalidSequenceLength (seqLen : Int)
  | only448
deriving DecidableEq

def int32 (value : Int) : Except Failure Int :=
  if -2 ^ 31 ≤ value ∧ value < 2 ^ 31 then .ok value else .error .overflow

def int64 (value : Int) : Except Failure Int :=
  if -2 ^ 63 ≤ value ∧ value < 2 ^ 63 then .ok value else .error .overflow

def vectorSize (size : Int) : Except Failure Nat :=
  if 0 ≤ size then .ok size.toNat else .error .lengthError

structure FloatOps (F : Type) where
  ofInt : Int → F
  sub : F → F → F
  mul : F → F → F
  div : F → F → F
  pow : F → F → F
  cos : F → F
  sin : F → F

/-- The operations on `double` that it uses; the conversion back is partial. -/
structure DoubleOps (D : Type) where
  ofInt : Int → D
  mul : D → D → D
  div : D → D → D
  round : D → D
  floor : D → D
  ceil : D → D
  sqrt : D → D
  toInt : D → Option Int

structure QwenVLConfig (F : Type) where
  patchSize : Int
  temporalPatchSize : Int
  mergeSize : Int
  minImageTokens : Int
  maxImageTokens : Int
  channels : Int
  vitPosEmbDim : Int
  imageMean : List F
  imageStd : List F

structure QwenVLPreprocessor (F : Type) where
  config : QwenVLConfig F
  patchSize_pos : 0 < config.patchSize
  mergeSize_pos : 0 < config.mergeSize
  temporalPatchSize_pos : 0 < config.temporalPatchSize
  inputDim : Int
  inputDim_eq : inputDim =
    config.channels * config.temporalPatchSize * config.patchSize * config.patchSize

structure PreprocessedData (F : Type) where
  pixelValues : List (List F)
  positionIdsCos : List (List F)
  positionIdsSin : List (List F)
  imageGridThw : List Int
  seqLen : Int
  resizedHeight : Int
  resizedWidth : Int

/-- The number formats, the resizing library, and the tables that are generated for it. -/
structure Library (F D : Type) where
  float : FloatOps F
  double : DoubleOps D
  stbirResize : List UInt8 → Int → Int → Int → Int → List UInt8
  ropeCosTable448 : List (List F)
  ropeSinTable448 : List (List F)

def ropeSeqLen448 : Int := 784

def ropeDim : Int := 32

section Resizing

variable {D : Type} (double : DoubleOps D)

def toInt (value : D) : Except Failure Int :=
  match double.toInt value with
  | some converted => .ok converted
  | none => .error .overflow

def byFactor (rounding : D → D) (value factor : Int) : Except Failure Int :=
  toInt double (double.mul
    (rounding (double.div (double.ofInt value) (double.ofInt factor))) (double.ofInt factor))

def roundByFactor : Int → Int → Except Failure Int :=
  byFactor double double.round

def floorByFactor : Int → Int → Except Failure Int :=
  byFactor double double.floor

def ceilByFactor : Int → Int → Except Failure Int :=
  byFactor double double.ceil

def narrow (value : Int) : Int :=
  value.bmod (2 ^ 32)

variable {F : Type} (config : QwenVLConfig F)

def getResizedImageSize (height width : Int) : Except Failure (Int × Int) := do
  let factor ← int32 (config.patchSize * config.mergeSize)
  let minPixels ← int64 (config.minImageTokens * factor) >>= fun tokens => int64 (tokens * factor)
  let maxPixels ← int64 (config.maxImageTokens * factor) >>= fun tokens => int64 (tokens * factor)
  let roundedH ← roundByFactor double height factor
  let hBar := max factor roundedH
  let roundedW ← roundByFactor double width factor
  let wBar := max factor roundedW
  let pixels ← int64 (hBar * wBar)
  if maxPixels < pixels then
    let area ← int32 (height * width)
    let beta := double.sqrt (double.div (double.ofInt area) (double.ofInt maxPixels))
    let h ← toInt double (double.div (double.ofInt height) beta)
    let hBar ← floorByFactor double h factor
    let w ← toInt double (double.div (double.ofInt width) beta)
    let wBar ← floorByFactor double w factor
    pure (narrow hBar, narrow wBar)
  else if pixels < minPixels then
    let area ← int32 (height * width)
    let beta := double.sqrt (double.div (double.ofInt minPixels) (double.ofInt area))
    let h ← toInt double (double.mul (double.ofInt height) beta)
    let hBar ← ceilByFactor double h factor
    let w ← toInt double (double.mul (double.ofInt width) beta)
    let wBar ← ceilByFactor double w factor
    pure (narrow hBar, narrow wBar)
  else pure (narrow hBar, narrow wBar)

def resizedSize (height width targetSize : Int) : Except Failure (Int × Int) := do
  let own ← getResizedImageSize double config height width
  if 0 < targetSize then
    let factor ← int32 (config.patchSize * config.mergeSize)
    let size ← int32 (targetSize.tdiv factor * factor)
    pure (size, size)
  else pure own

end Resizing

section Patches

variable {F : Type} (float : FloatOps F) (config : QwenVLConfig F)

def normalizePixel (src : List UInt8) (idx c : Nat) : F :=
  let pixel := float.div (float.ofInt (src.getD idx 0).toNat) (float.ofInt 255)
  float.div (float.sub pixel (config.imageMean.getD c (float.ofInt 0)))
    (config.imageStd.getD c (float.ofInt 0))

def normalizeImageCPU (src : List UInt8) (height width channels : Nat) : List F :=
  nest height fun h => nest width fun w => (List.range channels).map fun c =>
    normalizePixel float config src (h * width * channels + w * channels + c) c

def patchAt (normalizedImage : List F) (inputDim H W C : Int) (t h w : Int) : List F :=
  (List.range inputDim.toNat).map fun (elemIdx : Nat) =>
    let area := config.patchSize * config.patchSize
    let cIdx := (elemIdx : Int).tdiv (config.temporalPatchSize * area)
    let temp := (elemIdx : Int).tmod (config.temporalPatchSize * area)
    let tPatchIdx := temp.tdiv area
    let temp := temp.tmod area
    let srcT := t * config.temporalPatchSize + tPatchIdx
    let srcH := h * config.patchSize + temp.tdiv config.patchSize
    let srcW := w * config.patchSize + temp.tmod config.patchSize
    let srcIdx := srcT * H * W * C + srcH * W * C + srcW * C + cIdx
    normalizedImage.getD srcIdx.toNat (float.ofInt 0)

def patchPlace (mergedGridH mergedGridW : Int) (seqIdx : Int) : Int × Int × Int :=
  let square := config.mergeSize * config.mergeSize
  let tIdx := seqIdx.tdiv (mergedGridH * mergedGridW * square)
  let remainder := seqIdx.tmod (mergedGridH * mergedGridW * square)
  let hIdx := remainder.tdiv (mergedGridW * square)
  let remainder := remainder.tmod (mergedGridW * square)
  let wIdx := remainder.tdiv square
  let remainder := remainder.tmod square
  let mergeH := remainder.tdiv config.mergeSize
  let mergeW := remainder.tmod config.mergeSize
  (tIdx, hIdx * config.mergeSize + mergeH, wIdx * config.mergeSize + mergeW)

def sequenceLength (T H W : Int) : Int :=
  let gridT := T.tdiv config.temporalPatchSize
  let mergedGridH := (H.tdiv config.patchSize).tdiv config.mergeSize
  let mergedGridW := (W.tdiv config.patchSize).tdiv config.mergeSize
  gridT * mergedGridH * mergedGridW * config.mergeSize * config.mergeSize

def transposeToPatchCPU (normalizedImage : List F) (inputDim T H W C : Int) : List (List F) :=
  let mergedGridH := (H.tdiv config.patchSize).tdiv config.mergeSize
  let mergedGridW := (W.tdiv config.patchSize).tdiv config.mergeSize
  (List.range (sequenceLength config T H W).toNat).map fun (seqIdx : Nat) =>
    let place := patchPlace config mergedGridH mergedGridW seqIdx
    patchAt float config normalizedImage inputDim H W C place.1 place.2.1 place.2.2

end Patches

section Rotary

variable {F : Type} (float : FloatOps F)

def frequency (dim : Nat) (pos j : Nat) : F :=
  float.mul (float.ofInt pos) (float.div (float.ofInt 1)
    (float.pow (float.ofInt 10000)
      (float.div (float.ofInt ((2 * j : Nat) : Int)) (float.ofInt dim))))

def rotaryRow (function : F → F) (dim h w : Nat) : List F :=
  ((List.range (dim / 2)).map fun j => function (frequency float dim h j)) ++
    ((List.range (dim / 2)).map fun j => function (frequency float dim w j)) ++
      List.replicate (dim % 2) (float.ofInt 0)

def computeRotaryPosEmbCPU (function : F → F) (mergeSize dim gridH gridW : Nat) : List (List F) :=
  let written := nest (gridH / mergeSize) fun br => nest (gridW / mergeSize) fun bc =>
    nest mergeSize fun ir => (List.range mergeSize).map fun ic =>
      rotaryRow float function dim (br * mergeSize + ir) (bc * mergeSize + ic)
  written ++ List.replicate (gridH * gridW - written.length)
    (List.replicate dim (float.ofInt 0))

end Rotary

namespace QwenVLPreprocessor

variable {F D : Type} (preprocessor : QwenVLPreprocessor F) (library : Library F D)

def resizeImage (src : List UInt8) (srcH srcW dstH dstW : Int) : Except Failure (List UInt8) := do
  let size ← int32 (dstH * dstW) >>= fun area => int32 (area * 3)
  let _ ← vectorSize size
  pure (library.stbirResize src srcH srcW dstH dstW)

def normalizedImage (rgbData : List UInt8) (height width resizedH resizedW : Int) :
    Except Failure (List F) := do
  let T := preprocessor.config.temporalPatchSize
  let resized ← if height ≠ resizedH ∨ width ≠ resizedW then
      resizeImage library rgbData height width resizedH resizedW
    else do
      let size ← int32 (height * width) >>= fun area => int32 (area * 3)
      let count ← vectorSize size
      pure (rgbData.take count)
  let size ← int32 (T * resizedH) >>= fun rows => int32 (rows * resizedW) >>= fun area =>
    int32 (area * 3)
  let _ ← vectorSize size
  let frame :=
    normalizeImageCPU library.float preprocessor.config resized resizedH.toNat resizedW.toNat 3
  pure (List.replicate T.toNat frame).flatten

def validateSequenceLength (seqLen : Int) : Except Failure Unit :=
  if seqLen ≤ 0 ∨ 10000 < seqLen then .error (.invalidSequenceLength seqLen) else .ok ()

def positionEmbeddings (posSeqLen : Int) : Except Failure (List (List F) × List (List F)) := do
  let size ← int32 (posSeqLen * preprocessor.config.vitPosEmbDim)
  let _ ← vectorSize size
  if posSeqLen = ropeSeqLen448 ∧ preprocessor.config.vitPosEmbDim = ropeDim then
    pure (library.ropeCosTable448.take posSeqLen.toNat,
      library.ropeSinTable448.take posSeqLen.toNat)
  else .error .only448

def preprocessImage (rgbData : List UInt8) (height width targetSize : Int) :
    Except Failure (PreprocessedData F) := do
  let (resizedH, resizedW) ←
    resizedSize library.double preprocessor.config height width targetSize
  let normalized ← preprocessor.normalizedImage library rgbData height width resizedH resizedW
  let T := preprocessor.config.temporalPatchSize
  let gridT := T.tdiv preprocessor.config.temporalPatchSize
  let gridH := resizedH.tdiv preprocessor.config.patchSize
  let gridW := resizedW.tdiv preprocessor.config.patchSize
  let seqLen ← int32 (sequenceLength preprocessor.config T resizedH resizedW)
  let _ ← validateSequenceLength seqLen
  let size ← int32 (seqLen * preprocessor.inputDim)
  let _ ← vectorSize size
  let pixelValues := transposeToPatchCPU library.float preprocessor.config normalized
    preprocessor.inputDim T resizedH resizedW 3
  let posSeqLen ← int32 (gridT * gridH * gridW)
  let (cos, sin) ← preprocessor.positionEmbeddings library posSeqLen
  pure ⟨pixelValues, cos, sin, [gridT, gridH, gridW], seqLen, resizedH, resizedW⟩

end QwenVLPreprocessor

end Iq9Pipeline.Vision.Preprocessor
