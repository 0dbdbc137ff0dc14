import Iq9Pipeline.Foundation.Numerals
import Iq9Pipeline.Foundation.Suppression
import Iq9Pipeline.MultiCam.InverseAffine
import Mathlib.Analysis.SpecialFunctions.Exp
import Mathlib.Data.List.ReduceOption

/-!
The decoding of the face detector's output (`scrfd_infer/ScrfdDecode.cpp`, `FaceTypes.hpp`),
in exact arithmetic: anchors with a score become boxes, and the boxes go through the greedy
suppression.
-/

namespace Iq9Pipeline.MultiCam

open Foundation Foundation.Similarity Foundation.Numerals

structure FaceDetection (K : Type*) where
  x1 : K
  y1 : K
  x2 : K
  y2 : K
  score : K
  landmarks : Landmarks K

def kScrfdInputSize : Nat := 640

def kScrfdStrides : Fin 3 → Nat := ![8, 16, 32]

def kScrfdFmc : Nat := 2

namespace ScrfdTensorMap

def scoreIdx : Fin 3 → Fin 9 := ![0, 3, 6]

def bboxIdx : Fin 3 → Fin 9 := ![1, 4, 7]

def kpsIdx : Fin 3 → Fin 9 := ![2, 5, 8]

def anchorCount : Fin 3 → Nat := ![12800, 3200, 800]

end ScrfdTensorMap

structure DecodeSettings (K : Type*) where
  scale : K
  origW : Int32
  origH : Int32
  confThresh : K
  nmsThresh : K
  maxDets : Int32

/-- The values that stand behind each other from a place on; `none` is a read outside. -/
def window {K : Type*} (tensor : List K) (start count : Nat) : Option (Fin count → K) :=
  if inside : start + count ≤ tensor.length then
    some fun place => tensor.get ⟨start + place, by omega⟩
  else none

abbrev Tensors (K : Type*) := Fin 9 → List K

abbrev Anchor := Fin 3 × Nat

def anchors : List Anchor :=
  (List.finRange 3).flatMap fun s => (List.range (ScrfdTensorMap.anchorCount s)).map fun i => (s, i)

section

variable {K : Type*} [Field K] [LinearOrder K]

def inter (a b : FaceDetection K) : K :=
  max 0 (min a.x2 b.x2 - max a.x1 b.x1) * max 0 (min a.y2 b.y2 - max a.y1 b.y1)

def area (a : FaceDetection K) : K :=
  (a.x2 - a.x1) * (a.y2 - a.y1)

def denominator (a b : FaceDetection K) : K :=
  area a + area b - inter a b + 1e-6

/-- Nothing is above nor below zero divided by zero. -/
def iou (a b : FaceDetection K) : Option K :=
  if denominator a b = 0 then none else some (inter a b / denominator a b)

def exceeds (thresh : K) (a b : FaceDetection K) : Bool :=
  (iou a b).any (thresh < ·)

def nms (byScore : FallingSort (@FaceDetection.score K)) (dets : List (FaceDetection K))
    (thresh : K) : List (FaceDetection K) :=
  Suppression.suppress (exceeds thresh) (byScore.sort dets)

def decodeScore (exp : K → K) (score : K) : Option K :=
  if score > 1 ∨ score < 0 then
    if score < -10 then none else some (1 / (1 + exp (-score)))
  else some score

def clampTo (limit value : K) : K :=
  max 0 (min value limit)

def decodeBox (settings : DecodeSettings K) (s : Fin 3) (i : Nat) (score : K)
    (bbox : Fin 4 → K) (lm : Fin 10 → K) : FaceDetection K :=
  let stride := kScrfdStrides s
  let featW := kScrfdInputSize / stride
  let pointIdx := i / kScrfdFmc
  let ax := pointIdx % featW
  let ay := pointIdx / featW
  let anchorCx : K := ((ax * stride : Nat) : K)
  let anchorCy : K := ((ay * stride : Nat) : K)
  let w : K := settings.origW.toInt
  let h : K := settings.origH.toInt
  { x1 := clampTo w ((anchorCx - bbox 0 * stride) * settings.scale)
    y1 := clampTo h ((anchorCy - bbox 1 * stride) * settings.scale)
    x2 := clampTo w ((anchorCx + bbox 2 * stride) * settings.scale)
    y2 := clampTo h ((anchorCy + bbox 3 * stride) * settings.scale)
    score := score
    landmarks := fun j =>
      ⟨(lm ⟨j * 2, by omega⟩ * stride + anchorCx) * settings.scale,
        (lm ⟨j * 2 + 1, by omega⟩ * stride + anchorCy) * settings.scale⟩ }

def decodeAnchor (exp : K → K) (settings : DecodeSettings K) (tensors : Tensors K)
    (anchor : Anchor) : Option (Option (FaceDetection K)) := do
  let (s, i) := anchor
  let raw ← (tensors (ScrfdTensorMap.scoreIdx s))[i]?
  match decodeScore exp raw with
  | none => some none
  | some score =>
      if score < settings.confThresh then some none
      else do
        let bbox ← window (tensors (ScrfdTensorMap.bboxIdx s)) (i * 4) 4
        let lm ← window (tensors (ScrfdTensorMap.kpsIdx s)) (i * 10) 10
        some (some (decodeBox settings s i score bbox lm))

def decodeAll (exp : K → K) (settings : DecodeSettings K) (tensors : Tensors K) :
    Option (List (FaceDetection K)) := do
  let found ← anchors.mapM (decodeAnchor exp settings tensors)
  some found.reduceOption

def sizeOf32 (value : Int32) : Nat :=
  (value.toInt % 2 ^ 64).toNat

def scrfdDecode (exp : K → K) (byScore : FallingSort (@FaceDetection.score K))
    (settings : DecodeSettings K) (tensors : Tensors K) : Option (List (FaceDetection K)) := do
  let dets := nms byScore (← decodeAll exp settings tensors) settings.nmsThresh
  let count := Int32.ofNat (min (sizeOf32 settings.maxDets) dets.length)
  some (dets.take count.toInt.toNat)

end

theorem mem_anchors (s : Fin 3) (i : Nat) :
    (s, i) ∈ anchors ↔ i < ScrfdTensorMap.anchorCount s := by
  simp [anchors]

theorem length_anchors : anchors.length = 16800 := by
  simp only [anchors, List.length_flatMap, List.length_map, List.length_range]
  rfl

theorem window_eq {K : Type*} {tensor : List K} {start count : Nat}
    (inside : start + count ≤ tensor.length) : ∃ values, window tensor start count = some values :=
  ⟨_, dif_pos inside⟩

theorem mapM_answers {α β : Type*} {read : α → Option β} {fits : α → β → Prop} {items : List α}
    (each : ∀ item ∈ items, ∃ value, read item = some value ∧ fits item value) :
    ∃ answers : List (α × β), answers.map Prod.fst = items ∧
      items.mapM read = some (answers.map Prod.snd) ∧
        ∀ answer ∈ answers, read answer.1 = some answer.2 ∧ fits answer.1 answer.2 := by
  induction items with
  | nil => exact ⟨[], rfl, rfl, by simp⟩
  | cons item rest ih =>
      rw [List.forall_mem_cons] at each
      obtain ⟨⟨value, reads, fit⟩, others⟩ := each
      obtain ⟨answers, asked, collected, fits⟩ := ih others
      refine ⟨(item, value) :: answers, by rw [List.map_cons, asked], ?_, ?_⟩
      · rw [List.mapM_cons, reads, collected]
        rfl
      · exact List.forall_mem_cons.mpr ⟨⟨reads, fit⟩, fits⟩

structure Sized {K : Type*} (tensors : Tensors K) : Prop where
  scores : ∀ s, (tensors (ScrfdTensorMap.scoreIdx s)).length = ScrfdTensorMap.anchorCount s
  boxes : ∀ s, (tensors (ScrfdTensorMap.bboxIdx s)).length = ScrfdTensorMap.anchorCount s * 4
  landmarks : ∀ s, (tensors (ScrfdTensorMap.kpsIdx s)).length = ScrfdTensorMap.anchorCount s * 10

section

variable {K : Type*} [Field K] [LinearOrder K]

theorem inter_comm (a b : FaceDetection K) : inter a b = inter b a := by
  rw [inter, inter, min_comm a.x2, max_comm a.x1, min_comm a.y2, max_comm a.y1]

theorem iou_comm (a b : FaceDetection K) : iou a b = iou b a := by
  rw [iou, iou, denominator, denominator, inter_comm a b, add_comm (area a)]

def Above (thresh : K) (a b : FaceDetection K) : Prop :=
  ∃ value, iou a b = some value ∧ thresh < value

def AtMost (thresh : K) (a b : FaceDetection K) : Prop :=
  ∀ value, iou a b = some value → value ≤ thresh

theorem exceeds_iff (thresh : K) (a b : FaceDetection K) :
    exceeds thresh a b = true ↔ Above thresh a b := by
  simp [exceeds, Above, Option.any_eq_true]

theorem not_exceeds_iff (thresh : K) (a b : FaceDetection K) :
    exceeds thresh a b = false ↔ AtMost thresh a b := by
  rw [← Bool.not_eq_true, exceeds_iff]
  simp only [Above, AtMost, not_exists, not_and, not_lt]

variable (exp : K → K) (settings : DecodeSettings K) (tensors : Tensors K)

def Reaches (anchor : Anchor) (found : Option (FaceDetection K)) : Prop :=
  ∃ raw, (tensors (ScrfdTensorMap.scoreIdx anchor.1))[anchor.2]? = some raw ∧
    (∀ det, found = some det →
      decodeScore exp raw = some det.score ∧ settings.confThresh ≤ det.score) ∧
    (found = none → ∀ score, decodeScore exp raw = some score → score < settings.confThresh)

structure InPicture (det : FaceDetection K) : Prop where
  x1 : 0 ≤ det.x1 ∧ det.x1 ≤ max 0 (settings.origW.toInt : K)
  y1 : 0 ≤ det.y1 ∧ det.y1 ≤ max 0 (settings.origH.toInt : K)
  x2 : 0 ≤ det.x2 ∧ det.x2 ≤ max 0 (settings.origW.toInt : K)
  y2 : 0 ≤ det.y2 ∧ det.y2 ≤ max 0 (settings.origH.toInt : K)

theorem clampTo_range (limit value : K) :
    0 ≤ clampTo limit value ∧ clampTo limit value ≤ max 0 limit :=
  ⟨le_max_left _ _, max_le_max_left 0 (min_le_right _ _)⟩

theorem decodeBox_inPicture (s : Fin 3) (i : Nat) (score : K) (bbox : Fin 4 → K)
    (lm : Fin 10 → K) : InPicture settings (decodeBox settings s i score bbox lm) :=
  ⟨clampTo_range _ _, clampTo_range _ _, clampTo_range _ _, clampTo_range _ _⟩

variable {exp settings tensors}

omit [Field K] [LinearOrder K] in
theorem reduceOption_map_snd {α β : Type*} (answers : List (α × Option β)) :
    (answers.map Prod.snd).reduceOption = answers.filterMap Prod.snd := by
  rw [List.reduceOption, List.filterMap_map, Function.id_comp]

theorem decodeAnchor_reaches (sized : Sized tensors) {anchor : Anchor} (listed : anchor ∈ anchors) :
    ∃ found, decodeAnchor exp settings tensors anchor = some found ∧
      Reaches exp settings tensors anchor found ∧
        ∀ det, found = some det → InPicture settings det := by
  obtain ⟨s, i⟩ := anchor
  have bound := (mem_anchors s i).mp listed
  have scored : i < (tensors (ScrfdTensorMap.scoreIdx s)).length := by
    rw [sized.scores]
    exact bound
  have boxed : i * 4 + 4 ≤ (tensors (ScrfdTensorMap.bboxIdx s)).length := by
    rw [sized.boxes]
    omega
  have marked : i * 10 + 10 ≤ (tensors (ScrfdTensorMap.kpsIdx s)).length := by
    rw [sized.landmarks]
    omega
  obtain ⟨raw, read⟩ : ∃ raw, (tensors (ScrfdTensorMap.scoreIdx s))[i]? = some raw :=
    ⟨_, List.getElem?_eq_getElem scored⟩
  obtain ⟨bbox, box⟩ := window_eq boxed
  obtain ⟨lm, mark⟩ := window_eq marked
  cases decoded : decodeScore exp raw with
  | none =>
      refine ⟨none, ?_, ⟨raw, read, nofun, fun _ score present => ?_⟩, nofun⟩
      · simp [decodeAnchor, read, decoded]
      · rw [decoded] at present
        cases present
  | some score =>
      by_cases low : score < settings.confThresh
      · refine ⟨none, ?_, ⟨raw, read, nofun, fun _ other present => ?_⟩, nofun⟩
        · simp [decodeAnchor, read, decoded, low]
        · rw [decoded] at present
          cases present
          exact low
      · refine ⟨some (decodeBox settings s i score bbox lm), ?_, ⟨raw, read, ?_, nofun⟩, ?_⟩
        · simp [decodeAnchor, read, decoded, low, box, mark]
        · rintro _ ⟨⟩
          exact ⟨decoded, not_lt.mp low⟩
        · rintro _ ⟨⟩
          exact decodeBox_inPicture settings s i score bbox lm

def Candidates (exp : K → K) (settings : DecodeSettings K) (tensors : Tensors K)
    (candidates : List (FaceDetection K)) : Prop :=
  ∃ answers : List (Anchor × Option (FaceDetection K)), answers.map Prod.fst = anchors ∧
    (∀ answer ∈ answers, decodeAnchor exp settings tensors answer.1 = some answer.2 ∧
      Reaches exp settings tensors answer.1 answer.2) ∧
    candidates = answers.filterMap Prod.snd

theorem decodeAll_candidates (sized : Sized tensors) :
    ∃ candidates, decodeAll exp settings tensors = some candidates ∧
      Candidates exp settings tensors candidates ∧ candidates.length ≤ 16800 ∧
        ∀ det ∈ candidates, InPicture settings det := by
  obtain ⟨answers, asked, reads, fits⟩ := mapM_answers fun anchor listed =>
    @decodeAnchor_reaches K _ _ exp settings tensors sized anchor listed
  refine ⟨answers.filterMap Prod.snd, ?_, ⟨answers, asked, ?_, rfl⟩, ?_, ?_⟩
  · rw [decodeAll, reads]
    exact congrArg some (reduceOption_map_snd answers)
  · exact fun answer listed => ⟨(fits answer listed).1, (fits answer listed).2.1⟩
  · rw [← length_anchors, ← asked, List.length_map]
    exact List.length_filterMap_le _ _
  · intro det member
    obtain ⟨answer, listed, same⟩ := List.mem_filterMap.mp member
    exact (fits answer listed).2.2 det same

structure GreedySet (thresh : K) (candidates kept : List (FaceDetection K)) : Prop where
  falling : kept.Pairwise fun first second => second.score ≤ first.score
  apart : kept.Pairwise fun first second =>
    AtMost thresh first second ∧ AtMost thresh second first
  covered : ∃ dropped, (kept ++ dropped).Perm candidates ∧
    ∀ det ∈ dropped, ∃ other ∈ kept, Above thresh other det ∧ det.score ≤ other.score

theorem GreedySet.subset {thresh : K} {candidates kept : List (FaceDetection K)}
    (greedy : GreedySet thresh candidates kept) : kept ⊆ candidates := by
  obtain ⟨dropped, perm, _⟩ := greedy.covered
  exact fun det member => perm.subset (List.mem_append_left _ member)

theorem GreedySet.exists_kept {thresh : K} {candidates kept : List (FaceDetection K)}
    (greedy : GreedySet thresh candidates kept) {det : FaceDetection K}
    (member : det ∈ candidates) : ∃ other, other ∈ kept := by
  obtain ⟨dropped, perm, covered⟩ := greedy.covered
  rcases List.mem_append.mp (perm.mem_iff.mpr member) with kept | left
  · exact ⟨det, kept⟩
  · obtain ⟨other, kept, _⟩ := covered det left
    exact ⟨other, kept⟩

theorem nms_greedy (byScore : FallingSort (@FaceDetection.score K)) (thresh : K)
    (candidates : List (FaceDetection K)) :
    GreedySet thresh candidates (nms byScore candidates thresh) := by
  have kept := Suppression.suppress_spec (exceeds thresh) (byScore.ordered candidates)
  refine ⟨(byScore.ordered candidates).sublist kept.sublist, ?_, ?_⟩
  · refine kept.independent.imp fun clear => ?_
    have first := (not_exceeds_iff thresh _ _).mp clear
    exact ⟨first, fun value present => first value (by rw [iou_comm, present])⟩
  · obtain ⟨dropped, perm, covered⟩ := kept.covered
    refine ⟨dropped, perm.trans (byScore.perm candidates), fun det listed => ?_⟩
    obtain ⟨other, member, overlap, below⟩ := covered det listed
    exact ⟨other, member, (exceeds_iff thresh other det).mp overlap, below⟩

theorem sizeOf32_of_nonneg {value : Int32} (nonneg : 0 ≤ value.toInt) :
    sizeOf32 value = value.toInt.toNat := by
  have bound := value.toInt_lt
  rw [sizeOf32]
  omega

theorem scrfdDecode_eq (byScore : FallingSort (@FaceDetection.score K))
    {candidates : List (FaceDetection K)}
    (decoded : decodeAll exp settings tensors = some candidates)
    (few : (nms byScore candidates settings.nmsThresh).length ≤ 16800)
    (nonneg : 0 ≤ settings.maxDets.toInt) :
    scrfdDecode exp byScore settings tensors =
      some ((nms byScore candidates settings.nmsThresh).take
        (min settings.maxDets.toInt.toNat (nms byScore candidates settings.nmsThresh).length)) := by
  have count : (Int32.ofNat (min settings.maxDets.toInt.toNat
      (nms byScore candidates settings.nmsThresh).length)).toInt =
        ↑(min settings.maxDets.toInt.toNat
          (nms byScore candidates settings.nmsThresh).length) :=
    Int32.toInt_ofNat_of_lt (by omega)
  simp only [scrfdDecode, decoded, Option.bind_eq_bind, Option.bind_some,
    sizeOf32_of_nonneg nonneg, count, Int.toNat_natCast]

theorem nms_length_le (byScore : FallingSort (@FaceDetection.score K)) (thresh : K)
    (candidates : List (FaceDetection K)) :
    (nms byScore candidates thresh).length ≤ candidates.length := by
  obtain ⟨dropped, perm, _⟩ := (nms_greedy byScore thresh candidates).covered
  have length := perm.length_eq
  rw [List.length_append] at length
  omega

/-- The boxes that come back are what greedy suppression keeps, and lie in the picture. -/
theorem scrfdDecode_greedy (byScore : FallingSort (@FaceDetection.score K))
    (sized : Sized tensors) (nonneg : 0 ≤ settings.maxDets.toInt) :
    ∃ candidates kept, Candidates exp settings tensors candidates ∧
      GreedySet settings.nmsThresh candidates kept ∧
      scrfdDecode exp byScore settings tensors =
        some (kept.take (min settings.maxDets.toInt.toNat kept.length)) ∧
      ∀ det ∈ kept, InPicture settings det := by
  obtain ⟨candidates, decoded, gathered, few, inside⟩ :=
    @decodeAll_candidates K _ _ exp settings tensors sized
  have greedy := nms_greedy byScore settings.nmsThresh candidates
  have fewer := nms_length_le byScore settings.nmsThresh candidates
  refine ⟨candidates, _, gathered, greedy, ?_, ?_⟩
  · exact scrfdDecode_eq byScore decoded (fewer.trans few) nonneg
  · exact fun det member => inside det (greedy.subset member)

theorem exists_candidate {candidates : List (FaceDetection K)}
    (gathers : Candidates exp settings tensors candidates) {anchor : Anchor}
    (listed : anchor ∈ anchors) {raw score : K}
    (read : (tensors (ScrfdTensorMap.scoreIdx anchor.1))[anchor.2]? = some raw)
    (decoded : decodeScore exp raw = some score) (high : settings.confThresh ≤ score) :
    ∃ det, det ∈ candidates := by
  obtain ⟨answers, asked, reads, gathered⟩ := gathers
  rw [← asked] at listed
  obtain ⟨answer, member, rfl⟩ := List.mem_map.mp listed
  obtain ⟨found, present, _, without⟩ := (reads answer member).2
  obtain rfl : found = raw := Option.some.inj (present.symm.trans read)
  cases detected : answer.2 with
  | none => exact absurd (without detected score decoded) (not_lt.mpr high)
  | some det => exact ⟨det, gathered ▸ List.mem_filterMap.mpr ⟨answer, member, detected⟩⟩

theorem exists_returned (byScore : FallingSort (@FaceDetection.score K)) (sized : Sized tensors)
    (room : 0 < settings.maxDets.toInt) {anchor : Anchor} (listed : anchor ∈ anchors)
    {raw score : K} (read : (tensors (ScrfdTensorMap.scoreIdx anchor.1))[anchor.2]? = some raw)
    (decoded : decodeScore exp raw = some score) (high : settings.confThresh ≤ score) :
    ∃ returned det, scrfdDecode exp byScore settings tensors = some returned ∧
      det ∈ returned := by
  obtain ⟨candidates, scanned, gathers, few, _⟩ :=
    @decodeAll_candidates K _ _ exp settings tensors sized
  have fewer := nms_length_le byScore settings.nmsThresh candidates
  have returned := scrfdDecode_eq byScore scanned (fewer.trans few) room.le
  obtain ⟨first, candidate⟩ := exists_candidate gathers listed read decoded high
  obtain ⟨_, member⟩ := (nms_greedy byScore settings.nmsThresh candidates).exists_kept candidate
  let kept := nms byScore candidates settings.nmsThresh
  have taken : kept.take (min settings.maxDets.toInt.toNat kept.length) ≠ [] := by
    have filled : 0 < kept.length := List.length_pos_of_mem member
    rw [← List.length_pos_iff, List.length_take]
    omega
  obtain ⟨det, present⟩ := List.exists_mem_of_ne_nil _ taken
  exact ⟨_, det, returned, present⟩

theorem mem_scrfdDecode {byScore : FallingSort (@FaceDetection.score K)} (sized : Sized tensors)
    {dets : List (FaceDetection K)} (found : scrfdDecode exp byScore settings tensors = some dets)
    {det : FaceDetection K} (listed : det ∈ dets) :
    ∃ anchor, decodeAnchor exp settings tensors anchor = some (some det) := by
  obtain ⟨candidates, decoded, ⟨answers, _, reads, gathered⟩, _⟩ :=
    @decodeAll_candidates K _ _ exp settings tensors sized
  rw [scrfdDecode, decoded, Option.bind_eq_bind, Option.bind_some, Option.some.injEq] at found
  subst found
  have member := (nms_greedy byScore _ candidates).subset (List.mem_of_mem_take listed)
  rw [gathered] at member
  obtain ⟨answer, asked, same⟩ := List.mem_filterMap.mp member
  exact ⟨answer.1, by rw [(reads answer asked).1, same]⟩

theorem decodeAnchor_some {anchor : Anchor} {det : FaceDetection K}
    (found : decodeAnchor exp settings tensors anchor = some (some det)) :
    ∃ score bbox lm,
      window (tensors (ScrfdTensorMap.bboxIdx anchor.1)) (anchor.2 * 4) 4 = some bbox ∧
        window (tensors (ScrfdTensorMap.kpsIdx anchor.1)) (anchor.2 * 10) 10 = some lm ∧
        det = decodeBox settings anchor.1 anchor.2 score bbox lm := by
  simp only [decodeAnchor, Option.bind_eq_bind, Option.bind_eq_some_iff] at found
  obtain ⟨raw, _, made⟩ := found
  split at made
  · cases made
  · split at made
    · cases made
    · simp only [Option.bind_eq_some_iff, Option.some.injEq] at made
      obtain ⟨bbox, boxed, lm, marked, same⟩ := made
      exact ⟨_, bbox, lm, boxed, marked, same.symm⟩

end

section

variable {K : Type*} [Field K] [LinearOrder K] [IsStrictOrderedRing K]

/-- Boxes that overlap have a ratio, so that what is not above nor below is zero by zero. -/
theorem denominator_pos {a b : FaceDetection K} (overlap : 0 < inter a b) :
    0 < denominator a b := by
  have wide : 0 < min a.x2 b.x2 - max a.x1 b.x1 := by
    by_contra narrow
    rw [inter, max_eq_left (not_lt.mp narrow), zero_mul] at overlap
    exact lt_irrefl 0 overlap
  have high : 0 < min a.y2 b.y2 - max a.y1 b.y1 := by
    by_contra flat
    rw [inter, max_eq_left (not_lt.mp flat), mul_zero] at overlap
    exact lt_irrefl 0 overlap
  have within : inter a b ≤ area a := by
    rw [inter, area, max_eq_right wide.le, max_eq_right high.le]
    have x := sub_le_sub (min_le_left a.x2 b.x2) (le_max_left a.x1 b.x1)
    have y := sub_le_sub (min_le_left a.y2 b.y2) (le_max_left a.y1 b.y1)
    exact mul_le_mul x y high.le (wide.le.trans x)
  have other : 0 ≤ area b := by
    rw [area]
    have x := sub_le_sub (min_le_right a.x2 b.x2) (le_max_right a.x1 b.x1)
    have y := sub_le_sub (min_le_right a.y2 b.y2) (le_max_right a.y1 b.y1)
    exact mul_nonneg (wide.le.trans x) (high.le.trans y)
  have small : (0 : K) < 1e-6 := by norm_num
  rw [denominator]
  linarith

end

section

def tensorSizes : Fin 9 → Nat := ![12800, 51200, 128000, 3200, 12800, 32000, 800, 3200, 8000]

def brightTensors : Tensors ℝ := fun tensor => List.replicate (tensorSizes tensor) 1

theorem brightTensors_sized : Sized brightTensors := by
  constructor
  all_goals
    intro s
    simp only [brightTensors, List.length_replicate]
    fin_cases s <;> rfl

noncomputable def smallPicture : DecodeSettings ℝ where
  scale := 1
  origW := 4
  origH := 4
  confThresh := 1 / 2
  nmsThresh := 2 / 5
  maxDets := 32

noncomputable def byInsertion : FallingSort (@FaceDetection.score ℝ) :=
  FallingSort.insertion _

theorem smallPicture_greedy :
    ∃ candidates kept, Candidates Real.exp smallPicture brightTensors candidates ∧
      GreedySet smallPicture.nmsThresh candidates kept ∧
      scrfdDecode Real.exp byInsertion smallPicture brightTensors =
        some (kept.take (min 32 kept.length)) ∧
      ∀ det ∈ kept, InPicture smallPicture det :=
  scrfdDecode_greedy byInsertion brightTensors_sized (by decide)

theorem eight_le_stride : ∀ s, 8 ≤ kScrfdStrides s := by
  decide

theorem bright_landmarks {anchor : Anchor} {det : FaceDetection ℝ}
    (found : decodeAnchor Real.exp smallPicture brightTensors anchor = some (some det)) :
    4 < (det.landmarks 0).x := by
  obtain ⟨score, bbox, lm, _, marked, rfl⟩ := decodeAnchor_some found
  have one (place : Fin 10) : lm place = 1 := by
    rw [window] at marked
    split at marked
    · cases marked
      simp [brightTensors]
    · cases marked
  have wide : (8 : ℝ) ≤ kScrfdStrides anchor.1 := by exact_mod_cast eight_le_stride anchor.1
  have place : (0 : ℝ) ≤ ((anchor.2 / kScrfdFmc % (kScrfdInputSize / kScrfdStrides anchor.1) *
      kScrfdStrides anchor.1 : Nat) : ℝ) := Nat.cast_nonneg _
  simp only [decodeBox, one, smallPicture]
  linarith

/-- A landmark outside the picture. -/
theorem smallPicture_outside :
    ∃ returned det, scrfdDecode Real.exp byInsertion smallPicture brightTensors = some returned ∧
      det ∈ returned ∧ (smallPicture.origW.toInt : ℝ) < (det.landmarks 0).x := by
  -- the score of one of the first anchor is taken as it is
  have start : ((0, 0) : Anchor) ∈ anchors := by
    rw [mem_anchors]
    decide
  have one : decodeScore Real.exp 1 = some 1 := by norm_num [decodeScore]
  have high : smallPicture.confThresh ≤ 1 := by norm_num [smallPicture]
  have read : (brightTensors (ScrfdTensorMap.scoreIdx 0))[0]? = some 1 :=
    List.getElem?_replicate.trans (if_pos (by decide))
  obtain ⟨returned, det, found, listed⟩ :=
    exists_returned byInsertion brightTensors_sized (by decide) start read one high
  obtain ⟨anchor, made⟩ := mem_scrfdDecode brightTensors_sized found listed
  have width : smallPicture.origW.toInt = 4 := by decide
  refine ⟨returned, det, found, listed, ?_⟩
  rw [width, Int.cast_ofNat]
  exact bright_landmarks made

end

end Iq9Pipeline.MultiCam
