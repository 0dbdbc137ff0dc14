import Iq9Pipeline.MultiCam.FacePreprocess
import Iq9Pipeline.MultiCam.ScrfdDecode

/-!
The picture that the face detector gets of a frame (`FacePreprocess::RunScrfd`): the frame
scaled into a square with its shape kept. It shows the whole frame, and what the decoder makes of
a place in the picture is the place of the frame that the picture shows there, in exact
arithmetic on `float`.
-/

namespace Iq9Pipeline.MultiCam

open Foundation
open Foundation.Similarity (Point)
open Foundation.Numerals

structure Letterbox (K : Type) where
  newW : Nat
  newH : Nat
  scale : K
deriving DecidableEq

def kScrfdSize : Nat := 640

theorem one_le_kScrfdSize : 1 ≤ kScrfdSize := by
  decide

theorem landmark_y_lt (j : Fin 5) : j.val * 2 + 1 < 10 := by
  omega

theorem landmark_x_lt (j : Fin 5) : j.val * 2 < 10 :=
  Nat.lt_of_succ_lt (landmark_y_lt j)

section

variable {K : Type} [Field K] [LinearOrder K] [FloorRing K]

/-- The sizes are no integers below zero, so that the casts to `int` round down. -/
def letterbox (width height : UInt32) : Letterbox K :=
  let imRatio : K := (height.toNat : K) / (width.toNat : K)
  let newW := if 1 < imRatio then ⌊(kScrfdSize : K) / imRatio⌋₊ else kScrfdSize
  let newH := if 1 < imRatio then kScrfdSize else ⌊(kScrfdSize : K) * imRatio⌋₊
  let newW := min newW kScrfdSize
  let newH := min newH kScrfdSize
  ⟨newW, newH, (width.toNat : K) / (newW : K)⟩

def runScrfd (nv12 : UInt32 → UInt8) (frame : Nv12Frame) (dx dy : Nat) : Option (WorkItem K) :=
  let box : Letterbox K := letterbox frame.srcW frame.srcH
  scrfdPreprocess nv12 frame (UInt32.ofNat kScrfdSize) (UInt32.ofNat box.newW)
    (UInt32.ofNat box.newH) box.scale dx dy

def kFaceMaxDetections : Int32 := 32

def detectFaces (exp : K → K) (byScore : FallingSort (@FaceDetection.score K)) (frame : Nv12Frame)
    (confThreshold nmsThreshold : K) (maxFaces : Int32) (tensors : Tensors K) :
    Option (List (FaceDetection K)) :=
  let settings : DecodeSettings K := {
    scale := (letterbox frame.srcW frame.srcH : Letterbox K).scale
    origW := frame.srcW.toInt32
    origH := frame.srcH.toInt32
    confThresh := confThreshold
    nmsThresh := nmsThreshold
    maxDets := min maxFaces kFaceMaxDetections }
  scrfdDecode exp byScore settings tensors

namespace Letterbox

omit [FloorRing K]

def place (box : Letterbox K) (size : UInt32) (d : Nat) : K :=
  clamp ((d + 1 / 2) * box.scale - 1 / 2) 0 ((size - 1).toNat : K)

structure Fits (box : Letterbox K) (width height : UInt32) : Prop where
  newW : 1 ≤ box.newW ∧ box.newW ≤ kScrfdSize
  newH : 1 ≤ box.newH ∧ box.newH ≤ kScrfdSize
  scale : 0 < box.scale
  columns : (width.toNat : K) = box.newW * box.scale
  rows : (height.toNat : K) < (box.newH + 1) * box.scale

structure Covers (box : Letterbox K) (frame : Nv12Frame) : Prop where
  columns : ∀ x : K, 0 ≤ x → x ≤ (frame.srcW - 1).toNat →
    ∃ dx < box.newW, |box.place frame.srcW dx - x| ≤ box.scale / 2
  rows : ∀ y : K, 0 ≤ y → y ≤ (frame.srcH - 1).toNat →
    ∃ dy < box.newH, |box.place frame.srcH dy - y| ≤ 3 / 2 * box.scale

/-- A coordinate in the middle of a pixel of the picture is decoded to the middle of what the
pixel shows, and half a pixel off at most where the kernel has clamped that. -/
def Returns (box : Letterbox K) (size : UInt32) (picture decoded : K) : Prop :=
  ∀ d : Nat, picture = d + 1 / 2 →
    (box.place size d = (d + 1 / 2) * box.scale - 1 / 2 →
      decoded = box.place size d + 1 / 2) ∧
    |decoded - (box.place size d + 1 / 2)| ≤ 1 / 2

end Letterbox

def anchorPoint (anchor : Anchor) : Point K :=
  let featW := kScrfdInputSize / kScrfdStrides anchor.1
  ⟨((anchor.2 / kScrfdFmc % featW * kScrfdStrides anchor.1 : Nat) : K),
    ((anchor.2 / kScrfdFmc / featW * kScrfdStrides anchor.1 : Nat) : K)⟩

structure Letterbox.Locates (box : Letterbox K) (frame : Nv12Frame) (anchor : Anchor)
    (bbox : Fin 4 → K) (lm : Fin 10 → K) (det : FaceDetection K) : Prop where
  x1 : box.Returns frame.srcW ((anchorPoint anchor).x - bbox 0 * kScrfdStrides anchor.1) det.x1
  y1 : box.Returns frame.srcH ((anchorPoint anchor).y - bbox 1 * kScrfdStrides anchor.1) det.y1
  x2 : box.Returns frame.srcW ((anchorPoint anchor).x + bbox 2 * kScrfdStrides anchor.1) det.x2
  y2 : box.Returns frame.srcH ((anchorPoint anchor).y + bbox 3 * kScrfdStrides anchor.1) det.y2
  landmarks : ∀ j : Fin 5,
    (0 ≤ (det.landmarks j).x → (det.landmarks j).x ≤ frame.srcW.toNat → box.Returns frame.srcW
      (lm ⟨j * 2, landmark_x_lt j⟩ * kScrfdStrides anchor.1 + (anchorPoint anchor).x)
      (det.landmarks j).x) ∧
    (0 ≤ (det.landmarks j).y → (det.landmarks j).y ≤ frame.srcH.toNat → box.Returns frame.srcH
      (lm ⟨j * 2 + 1, landmark_y_lt j⟩ * kScrfdStrides anchor.1 + (anchorPoint anchor).y)
      (det.landmarks j).y)

def Letterbox.Decodes (box : Letterbox K) (frame : Nv12Frame) (tensors : Tensors K)
    (dets : List (FaceDetection K)) : Prop :=
  ∀ det ∈ dets, ∃ (anchor : Anchor) (bbox : Fin 4 → K) (lm : Fin 10 → K),
    window (tensors (ScrfdTensorMap.bboxIdx anchor.1)) (anchor.2 * 4) 4 = some bbox ∧
      window (tensors (ScrfdTensorMap.kpsIdx anchor.1)) (anchor.2 * 10) 10 = some lm ∧
      box.Locates frame anchor bbox lm det

structure Letterbox.Shows (box : Letterbox K) (nv12 : UInt32 → UInt8) (frame : Nv12Frame) :
    Prop where
  inside : ∀ dx < box.newW, ∀ dy < box.newH, ∃ sample : Sample K,
    frame.sample (box.place frame.srcW dx) (box.place frame.srcH dy) = some sample ∧
      sample.Inside frame ∧
      runScrfd nv12 frame dx dy = some ⟨some sample, planes (UInt32.ofNat kScrfdSize) dx dy
        fun c => ((sample.rgb nv12).channel c - 127.5) / 128⟩
  beside : ∀ dx < kScrfdSize, ∀ dy < kScrfdSize, box.newW ≤ dx ∨ box.newH ≤ dy →
    runScrfd nv12 frame dx dy = some ⟨none, planes (UInt32.ofNat kScrfdSize) dx dy
      fun _ => (0 - 127.5 : K) / 128⟩

end

section

variable {K : Type} [Field K] [LinearOrder K] [IsStrictOrderedRing K]

theorem abs_clamp_sub_le {value other low high : K} (above : low ≤ other) (below : other ≤ high) :
    |clamp value low high - other| ≤ |value - other| := by
  have self : min (max other low) high = other := by rw [max_eq_left above, min_eq_left below]
  calc |clamp value low high - other|
      = |min (max value low) high - min (max other low) high| := by rw [self, clamp]
    _ ≤ max |max value low - max other low| |high - high| := abs_min_sub_min_le_max _ _ _ _
    _ ≤ |value - other| := by
        rw [sub_self, abs_zero, max_eq_left (abs_nonneg _)]
        exact abs_max_sub_max_le_abs _ _ _

theorem abs_clampTo_sub_le {size : UInt32} (positive : 1 ≤ size.toNat) (place : K) :
    |clampTo (size.toNat : K) place - (clamp (place - 1 / 2) 0 ((size - 1).toNat : K) + 1 / 2)| ≤
      1 / 2 := by
  have one : (1 : K) ≤ size.toNat := Nat.one_le_cast.mpr positive
  rw [last_eq positive, clampTo, clamp]
  push_cast
  simp only [max_def, min_def]
  split_ifs <;> rw [abs_le] <;> constructor <;> linarith

omit [IsStrictOrderedRing K] in
theorem clampTo_self {limit value : K} (nonneg : 0 ≤ value) (within : value ≤ limit) :
    clampTo limit value = value := by
  rw [clampTo, min_eq_left within, max_eq_right nonneg]

theorem Letterbox.returns_clampTo (box : Letterbox K) {size : UInt32} (positive : 1 ≤ size.toNat)
    (picture : K) :
    box.Returns size picture (clampTo (size.toNat : K) (picture * box.scale)) := by
  rintro d rfl
  refine ⟨fun shown => ?_, abs_clampTo_sub_le positive _⟩
  have inside : 0 ≤ box.place size d ∧ box.place size d ≤ ((size - 1).toNat : K) :=
    clamp_mem (Nat.cast_nonneg _) _
  have middle : (d + 1 / 2) * box.scale = box.place size d + 1 / 2 := by linarith
  have last : box.place size d ≤ (size.toNat : K) - 1 := by
    have bound := inside.2
    rw [last_eq positive] at bound
    push_cast at bound
    exact bound
  rw [middle]
  exact clampTo_self (by linarith) (by linarith)

omit [LinearOrder K] [IsStrictOrderedRing K] in
theorem toInt_toInt32 {size : UInt32} (small : size.toNat < 2 ^ 31) :
    ((size.toInt32.toInt : Int) : K) = size.toNat := by
  have whole : size.toInt32.toInt = size.toNat :=
    BitVec.toInt_eq_toNat_of_lt (by simpa using by omega)
  rw [whole]
  push_cast
  rfl

variable [FloorRing K]

theorem exists_middle {step value : K} {count : Nat} (positive : 0 < step) (nonneg : 0 ≤ value)
    (below : value < count * step) : ∃ d < count, |(d + 1 / 2) * step - value| ≤ step / 2 := by
  have quotient : 0 ≤ value / step := div_nonneg nonneg positive.le
  refine ⟨⌊value / step⌋₊, ?_, ?_⟩
  · exact (Nat.floor_lt quotient).mpr ((div_lt_iff₀ positive).mpr below)
  · have low := (le_div_iff₀ positive).mp (Nat.floor_le quotient)
    have high := (div_lt_iff₀ positive).mp (Nat.lt_floor_add_one (value / step))
    rw [abs_le]
    constructor <;> linarith

theorem scaled_side {long short : Nat} (shorter : short ≤ long) (positive : 1 ≤ short)
    (enough : long ≤ kScrfdSize * short) :
    ∃ side : Nat, ⌊(kScrfdSize : K) * ((short : K) / (long : K))⌋₊ = side ∧
      1 ≤ side ∧ side ≤ kScrfdSize ∧ (side : K) * long ≤ kScrfdSize * short ∧
      (kScrfdSize : K) * short < (side + 1) * long := by
  have length : (0 : K) < long := Nat.cast_pos.mpr (by omega)
  have ratio : (kScrfdSize : K) * ((short : K) / (long : K)) = kScrfdSize * short / long :=
    (mul_div_assoc _ _ _).symm
  have nonneg : (0 : K) ≤ kScrfdSize * short / long := by positivity
  rw [ratio]
  refine ⟨_, rfl, ?_, ?_, ?_, ?_⟩
  · rw [Nat.le_floor_iff nonneg, le_div_iff₀ length, Nat.cast_one, one_mul]
    exact_mod_cast enough
  · refine Nat.floor_le_of_le ((div_le_iff₀ length).mpr ?_)
    exact_mod_cast Nat.mul_le_mul_left kScrfdSize shorter
  · exact (le_div_iff₀ length).mp (Nat.floor_le nonneg)
  · exact (div_lt_iff₀ length).mp (Nat.lt_floor_add_one _)

variable {width height : UInt32}

theorem letterbox_fits (positive : 1 ≤ width.toNat)
    (wide : width.toNat ≤ kScrfdSize * height.toNat)
    (tall : height.toNat ≤ kScrfdSize * width.toNat) :
    (letterbox width height : Letterbox K).Fits width height := by
  have across : (0 : K) < width.toNat := Nat.cast_pos.mpr positive
  by_cases portrait : width.toNat < height.toNat
  · obtain ⟨side, floored, one, most, least, _⟩ :=
      scaled_side (K := K) portrait.le positive tall
    have ratio : 1 < (height.toNat : K) / (width.toNat : K) :=
      (one_lt_div across).mpr (Nat.cast_lt.mpr portrait)
    have flipped : (kScrfdSize : K) / ((height.toNat : K) / (width.toNat : K)) =
        kScrfdSize * ((width.toNat : K) / (height.toNat : K)) := by
      rw [div_div_eq_mul_div, mul_div_assoc]
    have box : (letterbox width height : Letterbox K) =
        ⟨side, kScrfdSize, (width.toNat : K) / (side : K)⟩ := by
      simp only [letterbox, if_pos ratio, flipped, floored, min_eq_left most, min_self]
    have pixels : (0 : K) < side := Nat.cast_pos.mpr one
    rw [box]
    refine ⟨⟨one, most⟩, ⟨one_le_kScrfdSize, le_rfl⟩, div_pos across pixels, ?_, ?_⟩
    · exact (mul_div_cancel₀ _ pixels.ne').symm
    · rw [← mul_div_assoc, lt_div_iff₀ pixels]
      linarith
  · have low : height.toNat ≤ width.toNat := Nat.not_lt.mp portrait
    have filled : 1 ≤ height.toNat := by
      by_contra empty
      rw [show height.toNat = 0 by omega] at wide
      omega
    obtain ⟨side, floored, one, most, _, next⟩ := scaled_side (K := K) low filled wide
    have ratio : ¬ 1 < (height.toNat : K) / (width.toNat : K) := by
      rw [one_lt_div across, Nat.cast_lt]
      exact portrait
    have box : (letterbox width height : Letterbox K) =
        ⟨kScrfdSize, side, (width.toNat : K) / (kScrfdSize : K)⟩ := by
      simp only [letterbox, if_neg ratio, floored, min_eq_left most, min_self]
    have pixels : (0 : K) < kScrfdSize := Nat.cast_pos.mpr one_le_kScrfdSize
    rw [box]
    refine ⟨⟨one_le_kScrfdSize, le_rfl⟩, ⟨one, most⟩, div_pos across pixels, ?_, ?_⟩
    · exact (mul_div_cancel₀ _ pixels.ne').symm
    · rw [← mul_div_assoc, lt_div_iff₀ pixels, mul_comm]
      exact next

theorem Letterbox.Fits.covers {box : Letterbox K} {frame : Nv12Frame}
    (fits : box.Fits frame.srcW frame.srcH) (positive : 1 ≤ frame.srcW.toNat)
    (filled : 1 ≤ frame.srcH.toNat) : box.Covers frame where
  columns x left right := by
    have below : x + 1 / 2 < box.newW * box.scale := by
      rw [← fits.columns]
      rw [last_eq positive] at right
      push_cast at right
      linarith
    obtain ⟨dx, inside, near⟩ := exists_middle fits.scale (by linarith) below
    refine ⟨dx, inside, (abs_clamp_sub_le left right).trans ?_⟩
    rwa [sub_sub, add_comm (1 / 2 : K) x]
  rows y above below := by
    have step := fits.scale
    have high : y + 1 / 2 < (box.newH + 1) * box.scale := by
      have rows := fits.rows
      rw [last_eq filled] at below
      push_cast at below
      linarith
    have nearby : ∃ dy < box.newH, |(dy + 1 / 2) * box.scale - (y + 1 / 2)| ≤
        3 / 2 * box.scale := by
      by_cases within : y + 1 / 2 < box.newH * box.scale
      · obtain ⟨dy, inside, near⟩ := exists_middle step (by linarith) within
        exact ⟨dy, inside, near.trans (by linarith)⟩
      · -- What is left of the frame below the last row is less than a row.
        have last : ((box.newH - 1 : Nat) : K) = box.newH - 1 := Nat.cast_pred fits.newH.1
        refine ⟨box.newH - 1, Nat.sub_lt fits.newH.1 Nat.one_pos, ?_⟩
        rw [last, abs_le]
        constructor <;> linarith
    obtain ⟨dy, inside, near⟩ := nearby
    refine ⟨dy, inside, (abs_clamp_sub_le above below).trans ?_⟩
    rwa [sub_sub, add_comm (1 / 2 : K) y]

omit [Field K] [LinearOrder K] [IsStrictOrderedRing K] [FloorRing K] in
theorem asInt_ofNat {side : Nat} (most : side ≤ kScrfdSize) : asInt (UInt32.ofNat side) = side := by
  have small : side < 2 ^ 31 := most.trans_lt (by decide)
  have whole : (UInt32.ofNat side).toNat = side := toNat_ofNat (by omega)
  rw [asInt_eq (by rwa [whole]), whole]

variable {frame : Nv12Frame} (nv12 : UInt32 → UInt8)

theorem letterbox_shows (valid : frame.Valid)
    (fits : (letterbox frame.srcW frame.srcH : Letterbox K).Fits frame.srcW frame.srcH) :
    (letterbox frame.srcW frame.srcH : Letterbox K).Shows nv12 frame where
  inside dx right dy low := by
    have wide : (0 : K) ≤ (frame.srcW - 1).toNat := Nat.cast_nonneg _
    have high : (0 : K) ≤ (frame.srcH - 1).toNat := Nat.cast_nonneg _
    obtain ⟨sample, sampled, inside⟩ := sample_clamped (K := K) valid
      (clamp_mem wide _).1 (clamp_mem wide _).2 (clamp_mem high _).1 (clamp_mem high _).2
    refine ⟨sample, sampled, inside, ?_⟩
    have columns := fits.newW.2
    have rows := fits.newH.2
    rw [runScrfd, scrfdPreprocess, asInt_ofNat le_rfl, asInt_ofNat columns, asInt_ofNat rows,
      if_neg (by omega), if_neg (by omega)]
    simp only [sampled, Option.bind_eq_bind, Option.bind_some]
  beside dx right dy low outside := by
    have grey : (0 - 127.5 : K) / 128 = -0.99609375 := by norm_num
    rw [runScrfd, scrfdPreprocess, asInt_ofNat le_rfl, asInt_ofNat fits.newW.2,
      asInt_ofNat fits.newH.2, if_neg (by omega), if_pos (by omega), grey]

theorem decodeBox_locates (valid : frame.Valid) {settings : DecodeSettings K}
    (scale : settings.scale = (letterbox frame.srcW frame.srcH : Letterbox K).scale)
    (origW : settings.origW = frame.srcW.toInt32) (origH : settings.origH = frame.srcH.toInt32)
    (anchor : Anchor) (score : K) (bbox : Fin 4 → K) (lm : Fin 10 → K) :
    (letterbox frame.srcW frame.srcH : Letterbox K).Locates frame anchor bbox lm
      (decodeBox settings anchor.1 anchor.2 score bbox lm) := by
  obtain ⟨narrow, short⟩ := valid.small
  have width : (settings.origW.toInt : K) = frame.srcW.toNat := origW ▸ toInt_toInt32 narrow
  have height : (settings.origH.toInt : K) = frame.srcH.toNat := origH ▸ toInt_toInt32 short
  have columns := (letterbox frame.srcW frame.srcH : Letterbox K).returns_clampTo
    (one_le_two.trans valid.wide)
  have rows := (letterbox frame.srcW frame.srcH : Letterbox K).returns_clampTo
    (one_le_two.trans valid.high)
  constructor
  · rw [decodeBox, width, scale]
    exact columns _
  · rw [decodeBox, height, scale]
    exact rows _
  · rw [decodeBox, width, scale]
    exact columns _
  · rw [decodeBox, height, scale]
    exact rows _
  · intro j
    refine ⟨fun nonneg within => ?_, fun nonneg within => ?_⟩
    · rw [← clampTo_self nonneg within, decodeBox, scale]
      exact columns _
    · rw [← clampTo_self nonneg within, decodeBox, scale]
      exact rows _

theorem detectFaces_decodes (valid : frame.Valid) {exp : K → K}
    {byScore : FallingSort (@FaceDetection.score K)} {confThreshold nmsThreshold : K}
    {maxFaces : Int32} {tensors : Tensors K} (sized : Sized tensors)
    {dets : List (FaceDetection K)}
    (found : detectFaces exp byScore frame confThreshold nmsThreshold maxFaces tensors =
      some dets) :
    (letterbox frame.srcW frame.srcH : Letterbox K).Decodes frame tensors dets := by
  intro det listed
  rw [detectFaces] at found
  obtain ⟨anchor, made⟩ := mem_scrfdDecode sized found listed
  obtain ⟨score, bbox, lm, boxed, marked, rfl⟩ := decodeAnchor_some made
  exact ⟨anchor, bbox, lm, boxed, marked, decodeBox_locates valid rfl rfl rfl _ _ _ _⟩

/-- The detector sees the whole frame and nothing else, and what it finds is decoded to where it
is in the frame, as long as no side is over `kScrfdSize` times the other. -/
theorem letterbox_pictures (valid : frame.Valid)
    (wide : frame.srcW.toNat ≤ kScrfdSize * frame.srcH.toNat)
    (tall : frame.srcH.toNat ≤ kScrfdSize * frame.srcW.toNat) :
    let box : Letterbox K := letterbox frame.srcW frame.srcH
    box.Shows nv12 frame ∧ box.Covers frame ∧
      ∀ exp byScore confThreshold nmsThreshold maxFaces tensors, Sized tensors →
        ∀ dets ∈ detectFaces exp byScore frame confThreshold nmsThreshold maxFaces tensors,
          box.Decodes frame tensors dets := by
  have positive : 1 ≤ frame.srcW.toNat := one_le_two.trans valid.wide
  have fits := letterbox_fits (K := K) positive wide tall
  refine ⟨letterbox_shows nv12 valid fits, fits.covers positive (one_le_two.trans valid.high), ?_⟩
  intro exp byScore confThreshold nmsThreshold maxFaces tensors sized dets found
  exact detectFaces_decodes valid sized found

end

def fullHdFrame : Nv12Frame :=
  ⟨0, 2073600, 1920, 1920, 1920, 1080⟩

theorem fullHdFrame_valid : fullHdFrame.Valid := by
  constructor <;> decide

/-- A detector that reports a face at every anchor, half a picture pixel around it. -/
noncomputable def halfPixelTensors : Tensors ℝ := fun tensor =>
  List.replicate (tensorSizes tensor)
    (if tensor = 1 then 1 / 16 else if tensor = 4 then 1 / 32 else if tensor = 7 then 1 / 64 else 1)

theorem halfPixelTensors_sized : Sized halfPixelTensors := by
  constructor
  all_goals
    intro s
    simp only [halfPixelTensors, List.length_replicate]
    fin_cases s <;> rfl

theorem halfPixelTensors_corner {anchor : Anchor} {bbox : Fin 4 → ℝ}
    (boxed : window (halfPixelTensors (ScrfdTensorMap.bboxIdx anchor.1)) (anchor.2 * 4) 4 =
      some bbox) : bbox 2 * kScrfdStrides anchor.1 = 1 / 2 := by
  rw [window] at boxed
  split at boxed
  · cases boxed
    obtain ⟨s, i⟩ := anchor
    have apart : (4 : Fin 9) ≠ 1 ∧ (7 : Fin 9) ≠ 1 ∧ (7 : Fin 9) ≠ 4 := by decide
    simp only [halfPixelTensors, List.get_eq_getElem, List.getElem_replicate]
    fin_cases s <;> norm_num [ScrfdTensorMap.bboxIdx, kScrfdStrides, apart]
  · cases boxed

theorem anchorPoint_x_lt (anchor : Anchor) :
    anchor.2 / kScrfdFmc % (kScrfdInputSize / kScrfdStrides anchor.1) * kScrfdStrides anchor.1 <
      kScrfdSize := by
  obtain ⟨s, i⟩ := anchor
  fin_cases s <;> norm_num [kScrfdStrides, kScrfdInputSize, kScrfdSize] <;> omega

theorem scale_fullHd :
    (letterbox fullHdFrame.srcW fullHdFrame.srcH : Letterbox ℝ).scale = 3 := by
  have width : fullHdFrame.srcW.toNat = 1920 := rfl
  have height : fullHdFrame.srcH.toNat = 1080 := rfl
  have flat : ¬ (1 : ℝ) < 1080 / 1920 := by norm_num
  norm_num [letterbox, width, height, flat, kScrfdSize]

/-- The right edge of some face is where its pixel of the picture shows the frame. -/
theorem letterbox_pictures_fullHd :
    let box : Letterbox ℝ := letterbox fullHdFrame.srcW fullHdFrame.srcH
    box.Shows (fun place => place.toUInt8) fullHdFrame ∧ box.Covers fullHdFrame ∧
      ∃ dets det, detectFaces Real.exp byInsertion fullHdFrame (1 / 2) (2 / 5) 10
          halfPixelTensors = some dets ∧ det ∈ dets ∧
        box.Decodes fullHdFrame halfPixelTensors dets ∧
        ∃ dx < kScrfdSize, det.x2 = box.place fullHdFrame.srcW dx + 1 / 2 := by
  intro box
  obtain ⟨shows, covers, decodes⟩ := letterbox_pictures (K := ℝ) (fun place => place.toUInt8)
    fullHdFrame_valid (by decide) (by decide)
  refine ⟨shows, covers, ?_⟩
  have start : ((0, 0) : Anchor) ∈ anchors := by
    rw [mem_anchors]
    decide
  have one : decodeScore Real.exp 1 = some 1 := by norm_num [decodeScore]
  have read : (halfPixelTensors (ScrfdTensorMap.scoreIdx 0))[0]? = some 1 :=
    List.getElem?_replicate.trans (if_pos (by decide))
  obtain ⟨dets, det, found, listed⟩ :
      ∃ dets det, detectFaces Real.exp byInsertion fullHdFrame (1 / 2) (2 / 5) 10
        halfPixelTensors = some dets ∧ det ∈ dets :=
    exists_returned byInsertion halfPixelTensors_sized (by decide) start read one (by norm_num)
  have decoded := decodes _ _ _ _ _ _ halfPixelTensors_sized dets found
  refine ⟨dets, det, found, listed, decoded, ?_⟩
  obtain ⟨anchor, bbox, lm, boxed, _, located⟩ := decoded det listed
  have corner := located.x2
  rw [halfPixelTensors_corner boxed] at corner
  have scale : box.scale = 3 := scale_fullHd
  obtain ⟨dx, inside, column⟩ : ∃ dx < kScrfdSize, (anchorPoint anchor : Point ℝ).x = dx :=
    ⟨_, anchorPoint_x_lt anchor, rfl⟩
  have unclamped : box.place fullHdFrame.srcW dx = (dx + 1 / 2) * box.scale - 1 / 2 := by
    have last : (fullHdFrame.srcW - 1).toNat = 1919 := rfl
    have right : (dx : ℝ) + 1 ≤ kScrfdSize := by exact_mod_cast inside
    have left : (0 : ℝ) ≤ dx := Nat.cast_nonneg dx
    norm_num [kScrfdSize] at right
    rw [Letterbox.place, scale, last, clamp, max_eq_left (by linarith), min_eq_left]
    norm_num
    linarith
  rw [column] at corner
  exact ⟨dx, inside, (corner dx rfl).1 unclamped⟩

example : (letterbox 1920 1080 : Letterbox ℚ) = ⟨640, 360, 3⟩ := by
  decide +kernel

/-- The picture of a tall frame goes on below it: 640 rows of 1000 / 333 are more than 1919. -/
example : (letterbox 1000 1919 : Letterbox ℚ) = ⟨333, 640, 1000 / 333⟩ := by
  decide +kernel

end Iq9Pipeline.MultiCam
