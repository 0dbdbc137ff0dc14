import Iq9Pipeline.Foundation.Scatter
import Iq9Pipeline.Vision.PatchCopies

/-!
The positions that the embeddings are computed for. The loops of `computeRotaryPosEmbCPU`
count the rows that they fill; the row of a position is the one of the patch that is there.
-/

namespace Iq9Pipeline.Vision.Preprocessor

open Foundation

def positions (mergeSize gridH gridW : Nat) : List (Nat × Nat) :=
  nest (gridH / mergeSize) fun br => nest (gridW / mergeSize) fun bc =>
    nest mergeSize fun ir => (List.range mergeSize).map fun ic =>
      (br * mergeSize + ir, bc * mergeSize + ic)

/-- The counter, and the rows that have been filled, with what they have been filled from. -/
structure RotaryLoop where
  patchIdx : Nat
  filled : List (Nat × Nat × Nat)

def RotaryLoop.fill (loop : RotaryLoop) (position : Nat × Nat) : RotaryLoop where
  patchIdx := loop.patchIdx + 1
  filled := loop.filled ++ [(loop.patchIdx, position)]

def rotaryLoop (mergeSize gridH gridW : Nat) : RotaryLoop :=
  (positions mergeSize gridH gridW).foldl RotaryLoop.fill ⟨0, []⟩

theorem RotaryLoop.foldl_fill (loop : RotaryLoop) (coordinates : List (Nat × Nat)) :
    coordinates.foldl fill loop =
      ⟨loop.patchIdx + coordinates.length,
        loop.filled ++ (coordinates.zipIdx loop.patchIdx).map Prod.swap⟩ := by
  induction coordinates generalizing loop with
  | nil =>
      rw [List.foldl_nil, List.zipIdx_nil, List.map_nil, List.append_nil]
      rfl
  | cons position rest ih =>
      rw [List.foldl_cons, ih]
      simp only [fill, List.length_cons, List.zipIdx_cons, List.map_cons, Prod.swap_prod_mk,
        List.append_assoc, List.singleton_append, RotaryLoop.mk.injEq, and_true]
      omega

theorem positions_eq (mergeSize gridH gridW : Nat) :
    positions mergeSize gridH gridW =
      (List.range (gridH / mergeSize * (gridW / mergeSize * (mergeSize * mergeSize)))).map
        (blockPlace mergeSize (gridW / mergeSize)) := by
  simp only [positions, nest_range]
  rfl

theorem blocks_count {mergeSize gridH gridW : Nat} (rows : mergeSize ∣ gridH)
    (columns : mergeSize ∣ gridW) :
    gridH / mergeSize * (gridW / mergeSize * (mergeSize * mergeSize)) = gridH * gridW :=
  calc gridH / mergeSize * (gridW / mergeSize * (mergeSize * mergeSize))
      = gridH / mergeSize * mergeSize * (gridW / mergeSize * mergeSize) := by ring
    _ = gridH * gridW := by rw [Nat.div_mul_cancel rows, Nat.div_mul_cancel columns]

theorem rotaryLoop_filled {mergeSize gridH gridW : Nat} (rows : mergeSize ∣ gridH)
    (columns : mergeSize ∣ gridW) :
    (rotaryLoop mergeSize gridH gridW).filled = (List.range (gridH * gridW)).map fun place =>
      (place, blockPlace mergeSize (gridW / mergeSize) place) := by
  rw [rotaryLoop, RotaryLoop.foldl_fill, positions_eq, blocks_count rows columns,
    List.nil_append, zipIdx_map_range, List.map_map]
  rfl

section

variable {F : Type} (float : FloatOps F)

theorem computeRotaryPosEmbCPU_eq (function : F → F) {mergeSize gridH gridW : Nat}
    (rows : mergeSize ∣ gridH) (columns : mergeSize ∣ gridW) (dim : Nat) :
    computeRotaryPosEmbCPU float function mergeSize dim gridH gridW =
      (List.range (gridH * gridW)).map fun place =>
        rotaryRow float function dim (blockPlace mergeSize (gridW / mergeSize) place).1
          (blockPlace mergeSize (gridW / mergeSize) place).2 := by
  rw [computeRotaryPosEmbCPU_range, blocks_count rows columns, Nat.sub_self,
    List.replicate_zero, List.append_nil]

/-- The rows of the embeddings are those that the loops fill. -/
theorem computeRotaryPosEmbCPU_scatter (function : F → F) {mergeSize gridH gridW : Nat}
    (rows : mergeSize ∣ gridH) (columns : mergeSize ∣ gridW) (dim : Nat) :
    computeRotaryPosEmbCPU float function mergeSize dim gridH gridW =
      scatter (List.replicate (gridH * gridW) (List.replicate dim (float.ofInt 0)))
        ((rotaryLoop mergeSize gridH gridW).filled.map fun row =>
          (row.1, rotaryRow float function dim row.2.1 row.2.2)) := by
  have computed := computeRotaryPosEmbCPU_eq float function rows columns dim
  have length : (computeRotaryPosEmbCPU float function mergeSize dim gridH gridW).length =
      gridH * gridW := by
    rw [computed, List.length_map, List.length_range]
  symm
  apply scatter_eq
  · rw [computed, zipIdx_map_range, rotaryLoop_filled rows columns, List.map_map, List.map_map]
    rfl
  · rw [List.length_replicate, length]

variable (config : QwenVLConfig F) {mergeSize patchSize gridH gridW : Nat}

theorem transposeToPatchCPU_eq (merges : config.mergeSize = mergeSize)
    (cuts : config.patchSize = patchSize) (patching : 0 < patchSize)
    (layering : 0 < config.temporalPatchSize) (rows : mergeSize ∣ gridH)
    (columns : mergeSize ∣ gridW) (normalizedImage : List F) (inputDim C : Int) :
    transposeToPatchCPU float config normalizedImage inputDim config.temporalPatchSize
        (gridH * config.patchSize) (gridW * config.patchSize) C =
      (List.range (gridH * gridW)).map fun place =>
        patchAt float config normalizedImage inputDim (gridH * config.patchSize)
          (gridW * config.patchSize) C 0 (blockPlace mergeSize (gridW / mergeSize) place).1
          (blockPlace mergeSize (gridW / mergeSize) place).2 := by
  have grid (count : Nat) : ((count : Int) * patchSize).tdiv patchSize = count :=
    Int.mul_tdiv_cancel _ (by omega)
  have frames := Int.tdiv_self (Int.ne_of_gt layering)
  have sequence : (gridH / mergeSize : Nat) * (gridW / mergeSize : Nat) * (mergeSize : Int) *
      mergeSize = (gridH * gridW : Nat) := by
    rw [← blocks_count rows columns]
    push_cast
    ring
  simp only [transposeToPatchCPU, sequenceLength, frames, cuts, grid, merges, ← Int.ofNat_tdiv,
    Int.one_mul, sequence, Int.toNat_natCast]
  apply List.map_congr_left
  intro place member
  have inside : place < gridH / mergeSize * (gridW / mergeSize * (mergeSize * mergeSize)) := by
    rw [blocks_count rows columns]
    exact List.mem_range.mp member
  rw [patchPlace_eq config merges inside]

end

end Iq9Pipeline.Vision.Preprocessor
