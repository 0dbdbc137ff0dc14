import Iq9Pipeline.Foundation.Machine
import Iq9Pipeline.Foundation.Returns
import Iq9Pipeline.Vision.ResizeKernels

/-!
The frame pipeline of the graphics processor (`qwen_vl_opencl_accelerator.cpp`): one upload,
the resizing kernel, one copy inside a buffer, the cutting kernel and one download. The
buffers stay allocated for frames of the same sizes.
-/

namespace Iq9Pipeline.Vision

open Foundation Kernels
open Preprocessor (QwenVLPreprocessor QwenVLConfig FloatOps Sizes sequenceLength
  transposeToPatchCPU)

inductive ClCall
  | createBuffer (size : Nat)
  | enqueueWriteBuffer
  | enqueueNDRangeKernel (globalSize : List Nat) (localSize : Option Nat)
  | enqueueCopyBuffer
  | enqueueReadBuffer
deriving DecidableEq

/-- What the OpenCL implementation decides: the calls that succeed, what is in a new buffer,
and in which order the work items of a launch start and their stores arrive. -/
structure ClRuntime (K : Type) where
  grants : ClCall → Bool
  bytes : Nat → List UInt8
  bytes_length : ∀ size, (bytes size).length = size
  floats : Nat → List K
  floats_length : ∀ count, (floats count).length = count
  plane : Nat → Nat → List (Nat × Nat)
  plane_perm : ∀ height width, (plane height width).Perm (pixels height width)
  row : Nat → List Nat
  row_perm : ∀ count, (row count).Perm (List.range count)
  order : List (Nat × K) → List (Nat × K)
  order_perm : ∀ stores, (order stores).Perm stores

/-- Why there is no frame. What happens after an overflow, or outside of a buffer, is unknown. -/
inductive FrameError
  | overflow
  | refused (call : ClCall)
  | outOfBuffer
deriving DecidableEq

structure PersistentBuffers (K : Type) where
  srcWidth : Int
  srcHeight : Int
  srcStride : Int
  dstWidth : Int
  dstHeight : Int
  src : List UInt8
  norm : List K
  patches : List K

def sizeOf (product : Int) : Except FrameError Nat :=
  if 0 ≤ product ∧ product < 2 ^ 31 then .ok product.toNat else .error .overflow

def floatSize : Nat := 4

section

variable {K : Type} (runtime : ClRuntime K) (preprocessor : QwenVLPreprocessor K)

def request (call : ClCall) : Except FrameError Unit :=
  if runtime.grants call then .ok () else .error (.refused call)

def seqLen (dstWidth dstHeight : Int) : Int :=
  let gridH := dstHeight.tdiv preprocessor.config.patchSize
  let gridW := dstWidth.tdiv preprocessor.config.patchSize
  let mergedGridH := gridH.tdiv preprocessor.config.mergeSize
  let mergedGridW := gridW.tdiv preprocessor.config.mergeSize
  mergedGridH * mergedGridW * preprocessor.config.mergeSize * preprocessor.config.mergeSize

def createBuffers (srcWidth srcHeight srcStride dstWidth dstHeight : Int) :
    Except FrameError (PersistentBuffers K) := do
  let srcSize ← sizeOf (srcHeight * srcStride)
  -- Two frames, whatever the configuration says.
  let normCount ← sizeOf (2 * dstHeight * dstWidth * 3)
  let patchesCount ← sizeOf (seqLen preprocessor dstWidth dstHeight * preprocessor.inputDim)
  request runtime (.createBuffer srcSize)
  request runtime (.createBuffer (normCount * floatSize))
  request runtime (.createBuffer (patchesCount * floatSize))
  pure ⟨srcWidth, srcHeight, srcStride, dstWidth, dstHeight, runtime.bytes srcSize,
    runtime.floats normCount, runtime.floats patchesCount⟩

def allocatePersistentBuffers (persistent : Option (PersistentBuffers K))
    (srcWidth srcHeight srcStride dstWidth dstHeight : Int) :
    Except FrameError (PersistentBuffers K) :=
  match persistent.filter fun buffers =>
    buffers.srcWidth = srcWidth ∧ buffers.srcHeight = srcHeight ∧
      buffers.srcStride = srcStride ∧ buffers.dstWidth = dstWidth ∧
      buffers.dstHeight = dstHeight with
  | some buffers => .ok buffers
  | none => createBuffers runtime preprocessor srcWidth srcHeight srcStride dstWidth dstHeight

/-- An enqueued command: an error leaves the buffers as they were. -/
def enqueue (call : ClCall) (buffers : PersistentBuffers K)
    (done : Option (PersistentBuffers K)) :
    Except (FrameError × PersistentBuffers K) (PersistentBuffers K) :=
  if runtime.grants call then
    match done with
    | some next => .ok next
    | none => .error (.outOfBuffer, buffers)
  else .error (.refused call, buffers)

def upload (rgbData : List UInt8) (buffers : PersistentBuffers K) :
    Except (FrameError × PersistentBuffers K) (PersistentBuffers K) :=
  let srcSize := (buffers.srcHeight * buffers.srcStride).toNat
  enqueue runtime .enqueueWriteBuffer buffers
    (if srcSize ≤ rgbData.length ∧ srcSize ≤ buffers.src.length then
      some { buffers with src := rgbData.take srcSize ++ buffers.src.drop srcSize }
    else none)

def bufferAt (buffer : List UInt8) (idx : Int) : Option UInt8 :=
  if 0 ≤ idx then buffer[idx.toNat]? else none

def rgbOf (values : List K) [Field K] : Rgb K :=
  ⟨values.getD 0 0, values.getD 1 0, values.getD 2 0⟩

section

variable [Field K] [LinearOrder K] [FloorRing K]

def resizeNormalized (buffers : PersistentBuffers K) :
    Except (FrameError × PersistentBuffers K) (PersistentBuffers K) :=
  let mean := rgbOf preprocessor.config.imageMean
  let invStd := (rgbOf preprocessor.config.imageStd).inverse
  enqueue runtime
    (.enqueueNDRangeKernel [buffers.dstHeight.toNat, buffers.dstWidth.toNat] none) buffers
    ((execute
      (resizeBilinearNormalized (bufferAt buffers.src) buffers.srcWidth buffers.srcHeight
        buffers.srcStride buffers.dstWidth buffers.dstHeight mean invStd)
      (runtime.plane buffers.dstHeight.toNat buffers.dstWidth.toNat) runtime.order
      buffers.norm).map fun norm => { buffers with norm := norm })

end

def replicateTemporal (buffers : PersistentBuffers K) :
    Except (FrameError × PersistentBuffers K) (PersistentBuffers K) :=
  let frame := (buffers.dstHeight * buffers.dstWidth * 3).toNat
  enqueue runtime .enqueueCopyBuffer buffers
    (if frame + frame ≤ buffers.norm.length then
      some { buffers with
        norm := buffers.norm.take frame ++ buffers.norm.take frame ++
          buffers.norm.drop (frame + frame) }
    else none)

def transposePatches (buffers : PersistentBuffers K) :
    Except (FrameError × PersistentBuffers K) (PersistentBuffers K) :=
  let config := preprocessor.config
  let T := config.temporalPatchSize
  let seqLength := (sequenceLength config T buffers.dstHeight buffers.dstWidth).toNat
  enqueue runtime (.enqueueNDRangeKernel [seqLength] (some 64)) buffers
    ((execute
      (transposeToPatch buffers.norm T.toNat buffers.dstHeight.toNat buffers.dstWidth.toNat 3
        config.patchSize.toNat config.mergeSize.toNat config.temporalPatchSize.toNat
        preprocessor.inputDim.toNat)
      (runtime.row seqLength) runtime.order buffers.patches).map fun patches =>
        { buffers with patches := patches })

def download (buffers : PersistentBuffers K) :
    Except (FrameError × PersistentBuffers K) (List K × PersistentBuffers K) :=
  let config := preprocessor.config
  let seqLength := (sequenceLength config config.temporalPatchSize buffers.dstHeight
    buffers.dstWidth).toNat
  let count := seqLength * preprocessor.inputDim.toNat
  (enqueue runtime .enqueueReadBuffer buffers
    (if count ≤ buffers.patches.length then some buffers else none)).map fun buffers =>
      (buffers.patches.take count, buffers)

variable [Field K] [LinearOrder K] [FloorRing K]

def frameSteps (rgbData : List UInt8) (buffers : PersistentBuffers K) :
    Except (FrameError × PersistentBuffers K) (List K × PersistentBuffers K) := do
  let buffers ← upload runtime rgbData buffers
  let buffers ← resizeNormalized runtime preprocessor buffers
  let buffers ← replicateTemporal runtime buffers
  let buffers ← transposePatches runtime preprocessor buffers
  download runtime preprocessor buffers

def preprocessFrameGPU (persistent : Option (PersistentBuffers K)) (rgbData : List UInt8)
    (srcWidth srcHeight rowStride dstWidth dstHeight : Int) :
    Except FrameError (List K) × Option (PersistentBuffers K) :=
  match allocatePersistentBuffers runtime preprocessor persistent srcWidth srcHeight rowStride
    dstWidth dstHeight with
  | .error error => (.error error, none)
  | .ok buffers =>
      match frameSteps runtime preprocessor rgbData buffers with
      | .error (error, buffers) => (.error error, some buffers)
      | .ok (patches, buffers) => (.ok patches, some buffers)

structure FrameCall (K : Type) where
  runtime : ClRuntime K
  rgbData : List UInt8
  srcWidth : Int
  srcHeight : Int
  rowStride : Int
  dstWidth : Int
  dstHeight : Int

/-- The buffers over the frames of a run, whether they succeed or not. -/
def accelerator (preprocessor : QwenVLPreprocessor K) :
    Machine (Option (PersistentBuffers K)) (FrameCall K) where
  start persistent := persistent = none
  step persistent call := some (preprocessFrameGPU call.runtime preprocessor persistent
    call.rgbData call.srcWidth call.srcHeight call.rowStride call.dstWidth call.dstHeight).2

end

section Shapes

variable {K : Type}

def PersistentBuffers.shape (buffers : PersistentBuffers K) :
    (Int × Int × Int × Int × Int) × Nat × Nat × Nat :=
  ((buffers.srcWidth, buffers.srcHeight, buffers.srcStride, buffers.dstWidth, buffers.dstHeight),
    buffers.src.length, buffers.norm.length, buffers.patches.length)

structure Sized (preprocessor : QwenVLPreprocessor K) (buffers : PersistentBuffers K) : Prop where
  src : (buffers.src.length : Int) = buffers.srcHeight * buffers.srcStride
  norm : (buffers.norm.length : Int) = 2 * buffers.dstHeight * buffers.dstWidth * 3
  patches : (buffers.patches.length : Int) =
    seqLen preprocessor buffers.dstWidth buffers.dstHeight * preprocessor.inputDim

theorem Sized.of_shape {preprocessor : QwenVLPreprocessor K} {buffers next : PersistentBuffers K}
    (sized : Sized preprocessor buffers) (same : next.shape = buffers.shape) :
    Sized preprocessor next := by
  simp only [PersistentBuffers.shape, Prod.mk.injEq] at same
  obtain ⟨⟨_, srcHeight, srcStride, dstWidth, dstHeight⟩, src, norm, patches⟩ := same
  constructor
  · rw [src, srcHeight, srcStride]
    exact sized.src
  · rw [norm, dstHeight, dstWidth]
    exact sized.norm
  · rw [patches, dstHeight, dstWidth]
    exact sized.patches

theorem sizeOf_ok {product : Int} {size : Nat} (fits : sizeOf product = .ok size) :
    (size : Int) = product := by
  rw [sizeOf] at fits
  split at fits
  · rename_i bounds
    rw [← Except.ok.inj fits, Int.toNat_of_nonneg bounds.1]
  · cases fits

variable {runtime : ClRuntime K} {preprocessor : QwenVLPreprocessor K}
  {buffers : PersistentBuffers K} {srcWidth srcHeight srcStride dstWidth dstHeight : Int}

theorem createBuffers_ok
    (created : createBuffers runtime preprocessor srcWidth srcHeight srcStride dstWidth dstHeight =
      .ok buffers) :
    Sized preprocessor buffers ∧ buffers.srcWidth = srcWidth ∧ buffers.srcHeight = srcHeight ∧
      buffers.srcStride = srcStride ∧ buffers.dstWidth = dstWidth ∧
      buffers.dstHeight = dstHeight := by
  simp only [createBuffers, then_eq_ok] at created
  obtain ⟨srcSize, src, normCount, norm, patchesCount, patches, _, _, _, _, _, _, made⟩ := created
  obtain rfl := Except.ok.inj made
  refine ⟨⟨?_, ?_, ?_⟩, rfl, rfl, rfl, rfl, rfl⟩
  · rw [← sizeOf_ok src, runtime.bytes_length]
  · rw [← sizeOf_ok norm, runtime.floats_length]
  · rw [← sizeOf_ok patches, runtime.floats_length]

theorem allocatePersistentBuffers_ok {persistent : Option (PersistentBuffers K)}
    (kept : ∀ buffers ∈ persistent, Sized preprocessor buffers)
    (allocated : allocatePersistentBuffers runtime preprocessor persistent srcWidth srcHeight
      srcStride dstWidth dstHeight = .ok buffers) :
    Sized preprocessor buffers ∧ buffers.srcWidth = srcWidth ∧ buffers.srcHeight = srcHeight ∧
      buffers.srcStride = srcStride ∧ buffers.dstWidth = dstWidth ∧
      buffers.dstHeight = dstHeight := by
  simp only [allocatePersistentBuffers] at allocated
  split at allocated
  · rename_i old found
    obtain ⟨listed, same⟩ := Option.filter_eq_some_iff.mp found
    obtain rfl := Except.ok.inj allocated
    exact ⟨kept old listed, of_decide_eq_true same⟩
  · exact createBuffers_ok allocated

def Keeps {α : Type} (buffers : PersistentBuffers K) (left : α → PersistentBuffers K) :
    Except (FrameError × PersistentBuffers K) α → Prop
  | .error failure => failure.2.shape = buffers.shape
  | .ok done => (left done).shape = buffers.shape

theorem keeps_enqueue {call : ClCall} {done : Option (PersistentBuffers K)}
    (same : ∀ next ∈ done, next.shape = buffers.shape) :
    Keeps buffers id (enqueue runtime call buffers done) := by
  unfold enqueue
  split
  · cases done with
    | none => rfl
    | some next => exact same next rfl
  · rfl

theorem Keeps.then {α : Type} {left : α → PersistentBuffers K}
    {first : Except (FrameError × PersistentBuffers K) (PersistentBuffers K)}
    {next : PersistentBuffers K → Except (FrameError × PersistentBuffers K) α}
    (begins : Keeps buffers id first) (continues : ∀ middle, Keeps middle left (next middle)) :
    Keeps buffers left (first >>= next) := by
  cases first with
  | error failure => exact begins
  | ok middle =>
      have later := continues middle
      rw [ok_then]
      cases stepped : next middle with
      | error failure =>
          rw [stepped] at later
          exact Eq.trans later begins
      | ok done =>
          rw [stepped] at later
          exact Eq.trans later begins

theorem keeps_upload (rgbData : List UInt8) :
    Keeps buffers id (upload runtime rgbData buffers) := by
  apply keeps_enqueue
  intro next done
  obtain ⟨room, made⟩ := Option.ite_none_right_eq_some.mp done
  obtain rfl := Option.some.inj made
  simp only [PersistentBuffers.shape, List.length_append, List.length_take, List.length_drop]
  congr 2
  omega

theorem keeps_replicateTemporal : Keeps buffers id (replicateTemporal runtime buffers) := by
  apply keeps_enqueue
  intro next done
  obtain ⟨room, made⟩ := Option.ite_none_right_eq_some.mp done
  obtain rfl := Option.some.inj made
  simp only [PersistentBuffers.shape, List.length_append, List.length_take, List.length_drop]
  congr 3
  omega

theorem keeps_transposePatches :
    Keeps buffers id (transposePatches runtime preprocessor buffers) := by
  apply keeps_enqueue
  intro next done
  obtain ⟨patches, executed, rfl⟩ := Option.map_eq_some_iff.mp done
  simp only [PersistentBuffers.shape, length_execute executed]

theorem Keeps.map {α : Type} {left : α → PersistentBuffers K}
    {first : Except (FrameError × PersistentBuffers K) (PersistentBuffers K)}
    {result : PersistentBuffers K → α} (begins : Keeps buffers id first)
    (same : ∀ middle, left (result middle) = middle) : Keeps buffers left (first.map result) := by
  cases first with
  | error failure => exact begins
  | ok middle => exact (congrArg PersistentBuffers.shape (same middle)).trans begins

theorem keeps_download : Keeps buffers Prod.snd (download runtime preprocessor buffers) := by
  refine Keeps.map (keeps_enqueue fun next done => ?_) fun _ => rfl
  obtain ⟨_, made⟩ := Option.ite_none_right_eq_some.mp done
  rw [Option.some.inj made]

variable [Field K] [LinearOrder K] [FloorRing K]

theorem keeps_resizeNormalized :
    Keeps buffers id (resizeNormalized runtime preprocessor buffers) := by
  apply keeps_enqueue
  intro next done
  obtain ⟨norm, executed, rfl⟩ := Option.map_eq_some_iff.mp done
  simp only [PersistentBuffers.shape, length_execute executed]

theorem keeps_frameSteps (rgbData : List UInt8) :
    Keeps buffers Prod.snd (frameSteps runtime preprocessor rgbData buffers) :=
  (keeps_upload rgbData).then fun _ => keeps_resizeNormalized.then fun _ =>
    keeps_replicateTemporal.then fun _ => keeps_transposePatches.then fun _ => keeps_download

/-- The buffers always have the sizes that they were made for. -/
theorem sized_run {persistent : Option (PersistentBuffers K)}
    (reachable : (accelerator preprocessor).Reachable persistent) :
    ∀ buffers ∈ persistent, Sized preprocessor buffers := by
  apply reachable.invariant fun persistent : Option (PersistentBuffers K) =>
    ∀ buffers ∈ persistent, Sized preprocessor buffers
  · rintro _ rfl buffers listed
    cases listed
  · intro persistent call next kept stepped after listed
    obtain rfl := Option.some.inj stepped
    simp only [preprocessFrameGPU] at listed
    split at listed
    · cases listed
    · rename_i buffers allocated
      have sized := (allocatePersistentBuffers_ok kept allocated).1
      have keeps := @keeps_frameSteps K call.runtime preprocessor buffers _ _ _ call.rgbData
      split at listed
      · rename_i failed
        rw [failed] at keeps
        obtain rfl := Option.some.inj listed
        exact sized.of_shape keeps
      · rename_i done
        rw [done] at keeps
        obtain rfl := Option.some.inj listed
        exact sized.of_shape keeps

end Shapes

end Iq9Pipeline.Vision
