import Iq9Pipeline.Vision.Preprocessor
import Mathlib.Analysis.Complex.Trigonometric
import Mathlib.Analysis.SpecialFunctions.Pow.Real
import Mathlib.Tactic.IntervalCases
import Mathlib.Tactic.Linarith

/-!
In which order patches and position embeddings come. The order of the embeddings that
`computeRotaryPosEmbCPU` computes is that of the patches; the order of the tables is only
where the grid is the one that they were generated for.
-/

namespace Iq9Pipeline.Vision.Preprocessor

open Foundation

def blockPlace (mergeSize mergedW place : Nat) : Nat × Nat :=
  let square := mergeSize * mergeSize
  let inRow := place % (mergedW * square)
  let inBlock := inRow % square
  (place / (mergedW * square) * mergeSize + inBlock / mergeSize,
    inRow / square * mergeSize + inBlock % mergeSize)

section

variable {F : Type}

theorem patchPlace_eq (config : QwenVLConfig F) {mergeSize mergedH mergedW place : Nat}
    (merges : config.mergeSize = mergeSize)
    (inside : place < mergedH * (mergedW * (mergeSize * mergeSize))) :
    patchPlace config mergedH mergedW place =
      (0, ((blockPlace mergeSize mergedW place).1 : Int),
        ((blockPlace mergeSize mergedW place).2 : Int)) := by
  rw [← Nat.mul_assoc] at inside
  simp only [patchPlace, merges, blockPlace, ← Int.natCast_mul, ← Int.ofNat_tdiv, ← Int.ofNat_tmod,
    ← Int.natCast_add, Nat.mod_eq_of_lt inside, Nat.div_eq_of_lt inside, Int.natCast_zero]

/-- The four loops as one. -/
theorem computeRotaryPosEmbCPU_range (float : FloatOps F) (function : F → F)
    (mergeSize dim gridH gridW : Nat) :
    let blocks := gridH / mergeSize * (gridW / mergeSize * (mergeSize * mergeSize))
    computeRotaryPosEmbCPU float function mergeSize dim gridH gridW =
      ((List.range blocks).map fun place => rotaryRow float function dim
        (blockPlace mergeSize (gridW / mergeSize) place).1
        (blockPlace mergeSize (gridW / mergeSize) place).2) ++
      List.replicate (gridH * gridW - blocks) (List.replicate dim (float.ofInt 0)) := by
  simp only [computeRotaryPosEmbCPU, nest_range, List.length_map, List.length_range]
  rfl

theorem computeRotaryPosEmbCPU_row (float : FloatOps F) (function : F → F)
    {mergeSize dim gridH gridW place : Nat}
    (inside : place < gridH / mergeSize * (gridW / mergeSize * (mergeSize * mergeSize))) :
    (computeRotaryPosEmbCPU float function mergeSize dim gridH gridW)[place]? =
      some (rotaryRow float function dim
        (blockPlace mergeSize (gridW / mergeSize) place).1
        (blockPlace mergeSize (gridW / mergeSize) place).2) := by
  rw [computeRotaryPosEmbCPU_range, List.getElem?_append_left, List.getElem?_map,
    List.getElem?_range inside, Option.map_some]
  rwa [List.length_map, List.length_range]

theorem blockPlace_first {mergeSize mergedW place : Nat}
    (first : place < mergedW * (mergeSize * mergeSize)) :
    (blockPlace mergeSize mergedW place).1 = place % (mergeSize * mergeSize) / mergeSize := by
  simp only [blockPlace, Nat.div_eq_of_lt first, Nat.mod_eq_of_lt first, Nat.zero_mul,
    Nat.zero_add]

theorem blockPlace_second {mergeSize mergedW : Nat} (positive : 0 < mergeSize)
    (some_column : 0 < mergedW) :
    (blockPlace mergeSize mergedW (mergedW * (mergeSize * mergeSize))).1 = mergeSize := by
  have row := Nat.mul_pos some_column (Nat.mul_pos positive positive)
  simp only [blockPlace, Nat.div_self row, Nat.mod_self, Nat.zero_mod, Nat.zero_div, Nat.one_mul,
    Nat.add_zero]

/-- The order in which a grid of 784 patches is stored is that of the tables only where
blocks of two by two come in rows of 14. -/
theorem blocks_of_order {mergeSize mergedH mergedW : Nat} (positive : 0 < mergeSize)
    (sized : mergedH * (mergedW * (mergeSize * mergeSize)) = 784)
    (ordered : ∀ place < 784, (blockPlace mergeSize mergedW place).1 < 3 →
      (blockPlace 2 14 place).1 < 3 →
      (blockPlace mergeSize mergedW place).1 = (blockPlace 2 14 place).1) :
    mergeSize = 2 ∧ mergedW = 14 := by
  have some_column : 0 < mergedW := by
    apply Nat.pos_of_ne_zero
    rintro rfl
    omega
  have two : mergeSize = 2 := by
    rcases Nat.lt_trichotomy mergeSize 2 with one | two | more
    · -- Rows of single patches: the tables are in the first row of blocks up to 55.
      obtain rfl : mergeSize = 1 := by omega
      exfalso
      rcases Nat.lt_trichotomy mergedW 2 with narrow | narrow | wide
      · obtain rfl : mergedW = 1 := by omega
        exact absurd (ordered 1 (by omega)) (by decide)
      · subst narrow
        exact absurd (ordered 4 (by omega)) (by decide)
      · have here : (blockPlace 1 mergedW 2).1 = 0 := by
          rw [blockPlace_first (by omega)]
        have order := ordered 2 (by omega) (by omega) (by decide)
        rw [here] at order
        exact absurd order (by decide)
    · exact two
    · exfalso
      have square : 3 * 3 ≤ mergeSize * mergeSize := Nat.mul_le_mul more more
      have column : mergeSize * mergeSize ≤ mergedW * (mergeSize * mergeSize) :=
        Nat.le_mul_of_pos_left _ some_column
      have here : (blockPlace mergeSize mergedW 2).1 = 0 := by
        rw [blockPlace_first (by omega), Nat.mod_eq_of_lt (by omega), Nat.div_eq_of_lt more]
      have order := ordered 2 (by omega) (by omega) (by decide)
      rw [here] at order
      exact absurd order (by decide)
  subst two
  refine ⟨rfl, ?_⟩
  rcases Nat.lt_trichotomy mergedW 14 with narrow | same | wide
  · exfalso
    have here := blockPlace_second positive some_column
    have table : (blockPlace 2 14 (mergedW * (2 * 2))).1 = 0 := by
      rw [blockPlace_first (by omega), Nat.mul_mod_left]
    have order := ordered (mergedW * (2 * 2)) (by omega) (by omega) (by omega)
    omega
  · exact same
  · exfalso
    have here : (blockPlace 2 mergedW 56).1 = 0 := by
      rw [blockPlace_first (by omega)]
    have order := ordered 56 (by omega) (by omega) (by decide)
    rw [here] at order
    exact absurd order (by decide)

structure Library.Generated {D : Type} (library : Library F D) : Prop where
  cos : library.ropeCosTable448 =
    computeRotaryPosEmbCPU library.float library.float.cos 2 32 28 28
  sin : library.ropeSinTable448 =
    computeRotaryPosEmbCPU library.float library.float.sin 2 32 28 28

/-- The cosines of the first three positions are different numbers. -/
def FloatOps.Distinguishes (float : FloatOps F) : Prop :=
  ∀ pos < 3, ∀ other < 3,
    float.cos (frequency float 32 pos 0) = float.cos (frequency float 32 other 0) → pos = other

theorem FloatOps.Distinguishes.row {float : FloatOps F} (distinguishes : float.Distinguishes)
    {h w h' w' : Nat} (low : h < 3) (low' : h' < 3)
    (same : rotaryRow float float.cos 32 h w = rotaryRow float float.cos 32 h' w') : h = h' := by
  apply distinguishes h low h' low'
  have first := congrArg List.head? same
  simpa [rotaryRow, List.range_succ_eq_map] using first

theorem length_computeRotaryPosEmbCPU_448 (float : FloatOps F) (function : F → F) :
    (computeRotaryPosEmbCPU float function 2 32 28 28).length = 784 := by
  rw [computeRotaryPosEmbCPU_range, List.length_append, List.length_map, List.length_range,
    List.length_replicate]

theorem computeRotaryPosEmbCPU_448_row (float : FloatOps F) (function : F → F) {place : Nat}
    (inside : place < 784) :
    ((computeRotaryPosEmbCPU float function 2 32 28 28).take 784)[place]? =
      some (rotaryRow float function 32 (blockPlace 2 14 place).1 (blockPlace 2 14 place).2) := by
  rw [List.getElem?_take_of_lt inside]
  exact computeRotaryPosEmbCPU_row float function inside

theorem blockPlace_448 {place : Nat} (inside : place < 784) :
    (blockPlace 2 14 place).1 < 28 ∧ (blockPlace 2 14 place).2 < 28 := by
  simp only [blockPlace]
  omega

end

namespace QwenVLPreprocessor

variable {F D : Type} (preprocessor : QwenVLPreprocessor F) (library : Library F D)

/-- The embeddings have a row for each patch, and it is that of the patch's coordinates. -/
structure Accompanied (rgbData : List UInt8) (height width : Int) (data : PreprocessedData F) :
    Prop where
  cosRows : (data.positionIdsCos.length : Int) = data.seqLen
  sinRows : (data.positionIdsSin.length : Int) = data.seqLen
  rows : ∃ gridT gridH gridW normalized, data.imageGridThw = [gridT, gridH, gridW] ∧
    preprocessor.normalizedImage library rgbData height width data.resizedHeight
      data.resizedWidth = .ok normalized ∧
    ∀ place : Nat, (place : Int) < data.seqLen → ∃ t h w : Nat,
      patchPlace preprocessor.config (gridH.tdiv preprocessor.config.mergeSize)
        (gridW.tdiv preprocessor.config.mergeSize) place = ((t : Int), (h : Int), (w : Int)) ∧
      (h : Int) < gridH ∧ (w : Int) < gridW ∧
      data.pixelValues[place]? = some (patchAt library.float preprocessor.config normalized
        preprocessor.inputDim data.resizedHeight data.resizedWidth 3 t h w) ∧
      data.positionIdsCos[place]? = some (rotaryRow library.float library.float.cos
        preprocessor.config.vitPosEmbDim.toNat h w) ∧
      data.positionIdsSin[place]? = some (rotaryRow library.float library.float.sin
        preprocessor.config.vitPosEmbDim.toNat h w)

def Grid448 (height width targetSize : Int) : Prop :=
  preprocessor.config.mergeSize = 2 ∧ ∃ resizedH resizedW,
    resizedSize library.double preprocessor.config height width targetSize =
      .ok (resizedH, resizedW) ∧
    resizedH.tdiv preprocessor.config.patchSize = 28 ∧
    resizedW.tdiv preprocessor.config.patchSize = 28

variable {preprocessor library}

theorem positionEmbeddings_ok {posSeqLen : Int} {embeddings : List (List F) × List (List F)}
    (returned : preprocessor.positionEmbeddings library posSeqLen = .ok embeddings) :
    posSeqLen = 784 ∧ preprocessor.config.vitPosEmbDim = 32 ∧
      embeddings = (library.ropeCosTable448.take 784, library.ropeSinTable448.take 784) := by
  simp only [positionEmbeddings, then_eq_ok] at returned
  obtain ⟨_, _, _, _, taken⟩ := returned
  split at taken
  · rename_i sized
    obtain ⟨rfl, dim⟩ := sized
    exact ⟨rfl, dim, (Except.ok.inj taken).symm⟩
  · cases taken

theorem int32_ok {value result : Int} (returned : int32 value = .ok result) : result = value := by
  rw [int32] at returned
  split at returned
  · exact (Except.ok.inj returned).symm
  · cases returned

theorem sequenceLength_frames (resizedH resizedW : Int) :
    sequenceLength preprocessor.config preprocessor.config.temporalPatchSize resizedH resizedW =
      (resizedH.tdiv preprocessor.config.patchSize).tdiv preprocessor.config.mergeSize *
        (resizedW.tdiv preprocessor.config.patchSize).tdiv preprocessor.config.mergeSize *
          preprocessor.config.mergeSize * preprocessor.config.mergeSize := by
  rw [sequenceLength, Int.tdiv_self (Int.ne_of_gt preprocessor.temporalPatchSize_pos), Int.one_mul]

theorem preprocessImage_ok {rgbData : List UInt8} {height width targetSize : Int}
    {data : PreprocessedData F}
    (returned : preprocessor.preprocessImage library rgbData height width targetSize = .ok data) :
    ∃ resizedH resizedW normalized gridH gridW seqLen,
      resizedSize library.double preprocessor.config height width targetSize =
        .ok (resizedH, resizedW) ∧
      preprocessor.normalizedImage library rgbData height width resizedH resizedW =
        .ok normalized ∧
      gridH = resizedH.tdiv preprocessor.config.patchSize ∧
      gridW = resizedW.tdiv preprocessor.config.patchSize ∧
      seqLen = gridH.tdiv preprocessor.config.mergeSize *
        gridW.tdiv preprocessor.config.mergeSize *
          preprocessor.config.mergeSize * preprocessor.config.mergeSize ∧
      0 < seqLen ∧ gridH * gridW = 784 ∧ preprocessor.config.vitPosEmbDim = 32 ∧
      data = ⟨transposeToPatchCPU library.float preprocessor.config normalized
          preprocessor.inputDim preprocessor.config.temporalPatchSize resizedH resizedW 3,
        library.ropeCosTable448.take 784, library.ropeSinTable448.take 784,
        [1, gridH, gridW], seqLen, resizedH, resizedW⟩ := by
  have frames := Int.tdiv_self (Int.ne_of_gt preprocessor.temporalPatchSize_pos)
  simp only [preprocessImage, then_eq_ok, frames, Int.one_mul] at returned
  obtain ⟨⟨resizedH, resizedW⟩, sized, normalized, image, seqLen, length, _, valid, _, _, _, _,
    posSeqLen, positions, embeddings, tables, result⟩ := returned
  obtain ⟨square, dim, rfl⟩ := positionEmbeddings_ok tables
  have grid := int32_ok positions
  have sequence := int32_ok length
  rw [sequenceLength_frames] at sequence
  rw [validateSequenceLength] at valid
  split at valid
  · cases valid
  · rename_i positive
    exact ⟨resizedH, resizedW, normalized, _, _, seqLen, sized, image, rfl, rfl, sequence,
      by omega, by rw [← grid, square], dim, (Except.ok.inj result).symm⟩

variable {rgbData : List UInt8} {height width targetSize : Int} {data : PreprocessedData F}

theorem Accompanied.grid448 (generated : library.Generated)
    (distinguishes : library.float.Distinguishes)
    (returned : preprocessor.preprocessImage library rgbData height width targetSize = .ok data)
    (accompanied : preprocessor.Accompanied library rgbData height width data) :
    preprocessor.Grid448 library height width targetSize := by
  obtain ⟨resizedH, resizedW, normalized, gridH, gridW, seqLen, sized, image, rows, columns,
    length, positive, square, dim, rfl⟩ := preprocessImage_ok returned
  obtain ⟨_, _, _, normalized', thw, image', accompanies⟩ := accompanied.rows
  simp only [List.cons.injEq, and_true] at thw
  obtain ⟨rfl, rfl, rfl⟩ := thw
  have whole : seqLen = 784 := by
    have cosRows := accompanied.cosRows
    simp only [generated.cos, List.length_take, length_computeRotaryPosEmbCPU_448] at cosRows
    omega
  have origin := accompanies 0 (by simpa using positive)
  obtain ⟨_, h₀, w₀, _, belowH, belowW, _⟩ := origin
  obtain ⟨mergeSize, merges⟩ := Int.eq_ofNat_of_zero_le (Int.le_of_lt preprocessor.mergeSize_pos)
  obtain ⟨H, rfl⟩ := Int.eq_ofNat_of_zero_le (show 0 ≤ gridH by omega)
  obtain ⟨W, rfl⟩ := Int.eq_ofNat_of_zero_le (show 0 ≤ gridW by omega)
  have merging : 0 < mergeSize := by
    have := preprocessor.mergeSize_pos
    omega
  have stored : H / mergeSize * (W / mergeSize * (mergeSize * mergeSize)) = 784 := by
    rw [merges, ← Int.ofNat_tdiv, ← Int.ofNat_tdiv, whole, ← Int.natCast_mul, ← Int.natCast_mul,
      ← Int.natCast_mul, Nat.mul_assoc, Nat.mul_assoc] at length
    omega
  have ordered (place : Nat) (inside : place < 784)
      (low : (blockPlace mergeSize (W / mergeSize) place).1 < 3)
      (low' : (blockPlace 2 14 place).1 < 3) :
      (blockPlace mergeSize (W / mergeSize) place).1 = (blockPlace 2 14 place).1 := by
    obtain ⟨t, h, w, where_stored, _, _, _, cosRow, _⟩ := accompanies place (by
      simp only [whole]
      omega)
    rw [merges, ← Int.ofNat_tdiv, ← Int.ofNat_tdiv,
      patchPlace_eq preprocessor.config merges (by rw [stored]; exact inside)] at where_stored
    simp only [Prod.mk.injEq, Int.natCast_inj] at where_stored
    rw [generated.cos, computeRotaryPosEmbCPU_448_row _ _ inside, dim, Option.some.injEq,
      ← where_stored.2.1] at cosRow
    exact (distinguishes.row low' low cosRow).symm
  obtain ⟨rfl, fourteen⟩ := blocks_of_order merging stored ordered
  rw [fourteen] at stored
  have natural : H * W = 784 := by
    rw [← Int.natCast_mul] at square
    omega
  have columns_of : W = 28 ∨ W = 29 := by omega
  have whole_rows : H = 28 ∧ W = 28 := by
    rcases columns_of with rfl | rfl
    · omega
    · omega
  refine ⟨merges, resizedH, resizedW, sized, ?_, ?_⟩
  · rw [← rows, whole_rows.1]
    rfl
  · rw [← columns, whole_rows.2]
    rfl

theorem Grid448.accompanied (generated : library.Generated)
    (returned : preprocessor.preprocessImage library rgbData height width targetSize = .ok data)
    (grid : preprocessor.Grid448 library height width targetSize) :
    preprocessor.Accompanied library rgbData height width data := by
  obtain ⟨resizedH, resizedW, normalized, gridH, gridW, seqLen, sized, image, rows, columns,
    length, positive, square, dim, rfl⟩ := preprocessImage_ok returned
  obtain ⟨merges, resizedH', resizedW', sized', rows', columns'⟩ := grid
  rw [sized, Except.ok.injEq, Prod.mk.injEq] at sized'
  obtain ⟨rfl, rfl⟩ := sized'
  rw [rows'] at rows
  rw [columns'] at columns
  subst rows columns
  have sequence : sequenceLength preprocessor.config preprocessor.config.temporalPatchSize resizedH
      resizedW = 784 := by
    rw [sequenceLength_frames, rows', columns', merges]
    rfl
  rw [merges] at length
  obtain rfl : seqLen = 784 := length
  constructor
  · simp only [generated.cos, List.length_take, length_computeRotaryPosEmbCPU_448]
    rfl
  · simp only [generated.sin, List.length_take, length_computeRotaryPosEmbCPU_448]
    rfl
  · refine ⟨1, 28, 28, normalized, rfl, image, ?_⟩
    intro place inside
    have inside : place < 784 := by
      simp only at inside
      omega
    obtain ⟨belowH, belowW⟩ := blockPlace_448 inside
    have where_stored : patchPlace preprocessor.config 14 14 place =
        (0, ((blockPlace 2 14 place).1 : Int), ((blockPlace 2 14 place).2 : Int)) :=
      @patchPlace_eq F preprocessor.config 2 14 14 place merges inside
    refine ⟨0, (blockPlace 2 14 place).1, (blockPlace 2 14 place).2, ?_, by omega, by omega,
      ?_, ?_, ?_⟩
    · rw [merges]
      exact where_stored
    · simp only [transposeToPatchCPU, sequence, rows', columns', merges]
      rw [List.getElem?_map, List.getElem?_range (by exact inside), Option.map_some]
      have merged : Int.tdiv 28 2 = 14 := rfl
      rw [merged, where_stored]
      rfl
    · rw [generated.cos, dim]
      exact computeRotaryPosEmbCPU_448_row _ _ inside
    · rw [generated.sin, dim]
      exact computeRotaryPosEmbCPU_448_row _ _ inside

/-- Where there is a result, the embeddings are those of the patches exactly if the grid is
the one that the tables are for. -/
theorem accompanied_iff (rgbData : List UInt8) (height width targetSize : Int)
    (data : PreprocessedData F) (generated : library.Generated)
    (distinguishes : library.float.Distinguishes)
    (returned : preprocessor.preprocessImage library rgbData height width targetSize = .ok data) :
    preprocessor.Accompanied library rgbData height width data ↔
      preprocessor.Grid448 library height width targetSize := by
  constructor
  · intro accompanied
    exact accompanied.grid448 generated distinguishes returned
  · intro grid
    exact grid.accompanied generated returned

end QwenVLPreprocessor

section

def exactDouble : DoubleOps ℚ where
  ofInt value := value
  mul := (· * ·)
  div := (· / ·)
  round value := if 0 ≤ value then ⌊value + 1 / 2⌋ else -⌊-value + 1 / 2⌋
  floor value := ⌊value⌋
  ceil value := ⌈value⌉
  sqrt value := (Nat.sqrt value.num.toNat : ℚ) / Nat.sqrt value.den
  toInt value := some (value.num.tdiv value.den)

noncomputable def exactFloat : FloatOps ℝ where
  ofInt value := value
  sub := (· - ·)
  mul := (· * ·)
  div := (· / ·)
  pow := Real.rpow
  cos := Real.cos
  sin := Real.sin

noncomputable def exactLibrary : Library ℝ ℚ where
  float := exactFloat
  double := exactDouble
  stbirResize src _ _ _ _ := src
  ropeCosTable448 := computeRotaryPosEmbCPU exactFloat exactFloat.cos 2 32 28 28
  ropeSinTable448 := computeRotaryPosEmbCPU exactFloat exactFloat.sin 2 32 28 28

noncomputable def qwen3VL : QwenVLPreprocessor ℝ where
  config := {
    patchSize := 16
    temporalPatchSize := 2
    mergeSize := 2
    minImageTokens := 4
    maxImageTokens := 16384
    channels := 3
    vitPosEmbDim := 32
    imageMean := [0.48145466, 0.4578275, 0.40821073]
    imageStd := [0.26862954, 0.26130258, 0.27577711] }
  patchSize_pos := by decide
  mergeSize_pos := by decide
  temporalPatchSize_pos := by decide
  inputDim := 1536
  inputDim_eq := rfl

theorem exactLibrary_generated : exactLibrary.Generated := by
  constructor
  · simp only [exactLibrary]
  · simp only [exactLibrary]

theorem frequency_exactFloat (pos : Nat) : frequency exactFloat 32 pos 0 = pos := by
  simp [frequency, exactFloat]

theorem exactFloat_distinguishes : exactFloat.Distinguishes := by
  have one := Real.cos_one_pos
  have below := Real.cos_one_le
  have two := Real.cos_two_neg
  intro pos low other low' same
  rw [frequency_exactFloat, frequency_exactFloat] at same
  simp only [exactFloat] at same
  interval_cases pos <;> interval_cases other <;> first | rfl | (norm_num at same; linarith)

theorem resizedSize_square :
    resizedSize exactLibrary.double qwen3VL.config 448 448 0 = .ok (448, 448) := by
  decide +kernel

theorem resizedSize_wide :
    resizedSize exactLibrary.double qwen3VL.config 224 896 0 = .ok (224, 896) := by
  decide +kernel

theorem preprocessImage_square (rgbData : List UInt8) :
    ∃ data, qwen3VL.preprocessImage exactLibrary rgbData 448 448 0 = .ok data := by
  rw [QwenVLPreprocessor.preprocessImage, resizedSize_square]
  exact ⟨_, rfl⟩

theorem preprocessImage_wide (rgbData : List UInt8) :
    ∃ data, qwen3VL.preprocessImage exactLibrary rgbData 224 896 0 = .ok data := by
  rw [QwenVLPreprocessor.preprocessImage, resizedSize_wide]
  exact ⟨_, rfl⟩

def grayImage : List UInt8 :=
  List.replicate (448 * 448 * 3) 128

theorem accompanied_iff_square :
    ∃ data, qwen3VL.preprocessImage exactLibrary grayImage 448 448 0 = .ok data ∧
      qwen3VL.Accompanied exactLibrary grayImage 448 448 data := by
  obtain ⟨data, returned⟩ := preprocessImage_square grayImage
  refine ⟨data, returned, ?_⟩
  apply (QwenVLPreprocessor.accompanied_iff _ _ _ _ _ exactLibrary_generated
    exactFloat_distinguishes returned).mpr
  exact ⟨rfl, 448, 448, resizedSize_square, rfl, rfl⟩

/-- An image of 14 by 56 patches has as many as one of 28 by 28. -/
theorem wideImage : ¬∀ data,
    qwen3VL.preprocessImage exactLibrary grayImage 224 896 0 = .ok data →
      qwen3VL.Accompanied exactLibrary grayImage 224 896 data := by
  intro accompanied
  obtain ⟨data, returned⟩ := preprocessImage_wide grayImage
  obtain ⟨_, resizedH, resizedW, sized, rows, _⟩ :=
    (accompanied data returned).grid448 exactLibrary_generated exactFloat_distinguishes returned
  rw [show exactLibrary.double = exactDouble from rfl] at sized
  have same := resizedSize_wide.symm.trans sized
  rw [Except.ok.injEq, Prod.mk.injEq] at same
  rw [← same.1] at rows
  exact absurd rows (by decide)

end

end Iq9Pipeline.Vision.Preprocessor
