import Iq9Pipeline.Foundation.JsonLexeme
import Iq9Pipeline.Foundation.KeyedTable
import Iq9Pipeline.MultiCam.FaceIdentity

/-!
The deduper of a channel, over exact coordinates: it passes a frame on when the tracked
objects are not those of the frame it keeps, or one of them has left its box there.
-/

namespace Iq9Pipeline.MultiCam

open Foundation KeyedTable FaceLinks

structure BoxSnapshot (K : Type) where
  left : K
  top : K
  right : K
  bottom : K
deriving DecidableEq

structure TrackEntry (K : Type) where
  label : List UInt8
  trackId : UInt32
  left : K
  top : K
  right : K
  bottom : K
deriving DecidableEq

abbrev TrackKey := List UInt8

structure Deduper (K : Type) where
  iouThreshold : K
  lastFrameObjects : Std.TreeMap TrackKey (BoxSnapshot K) := ∅

namespace Deduper

def displayName (label : List UInt8) : List UInt8 :=
  if label.isEmpty then JsonText.utf8 "unknown" else label

def joinKey (key : List UInt8 × UInt32) : TrackKey :=
  key.1 ++ 0x23 :: JsonText.decimal key.2.toNat

def makeKey {K : Type} (entry : TrackEntry K) : TrackKey :=
  joinKey (displayName entry.label, entry.trackId)

def snapshot {K : Type} (entry : TrackEntry K) : BoxSnapshot K :=
  ⟨entry.left, entry.top, entry.right, entry.bottom⟩

theorem joinKey_injective : Function.Injective joinKey := by
  rintro ⟨name, id⟩ ⟨name', id'⟩ same
  have free : ∀ value, (0x23 : UInt8) ∉ JsonText.decimal value := by
    intro value member
    have digit := JsonText.isDigit_of_mem_decimal member
    simp [JsonText.isDigit] at digit
  obtain ⟨sameName, sameId⟩ := append_separator_inj (free _) (free _) same
  have values := congrArg JsonText.ofDecimal sameId
  rw [JsonText.ofDecimal_decimal, JsonText.ofDecimal_decimal] at values
  exact Prod.ext sameName (UInt32.toNat_inj.mp values)

section

variable {K : Type} [Field K] [LinearOrder K]

def ofRoi (frameW frameH : UInt32) (roi : RegionOfInterest K) : TrackEntry K where
  label := roi.roiType.getD []
  trackId := roi.params.foldl (fun id param => param.trackingId.getD id) 0
  left := (roi.x.toNat : K) / (frameW.toNat : K)
  top := (roi.y.toNat : K) / (frameH.toNat : K)
  right := ((roi.x + roi.w).toNat : K) / (frameW.toNat : K)
  bottom := ((roi.y + roi.h).toNat : K) / (frameH.toNat : K)

def calculateIoU (a b : BoxSnapshot K) : K :=
  let w := max 0 (min a.right b.right - max a.left b.left)
  let h := max 0 (min a.bottom b.bottom - max a.top b.top)
  let overlap := w * h
  let unionArea := (a.right - a.left) * (a.bottom - a.top) +
    (b.right - b.left) * (b.bottom - b.top) - overlap
  if unionArea ≤ 0 then 0 else overlap / unionArea

def reset (deduper : Deduper K) : Deduper K :=
  { deduper with lastFrameObjects := ∅ }

def scanEntry (deduper : Deduper K) (scanned : Std.TreeMap TrackKey (BoxSnapshot K) × Bool)
    (entry : TrackEntry K) : Std.TreeMap TrackKey (BoxSnapshot K) × Bool :=
  if entry.trackId = 0 then scanned
  else
    let key := makeKey entry
    let snap := snapshot entry
    (scanned.1.insert key snap,
      match deduper.lastFrameObjects[key]? with
      | none => true
      | some last =>
          if calculateIoU snap last < deduper.iouThreshold then true else scanned.2)

def isInteresting (deduper : Deduper K) (entries : List (TrackEntry K)) : Bool × Deduper K :=
  let scanned := entries.foldl deduper.scanEntry (∅, false)
  let hasInteresting := scanned.2 ||
    deduper.lastFrameObjects.keys.any fun key => !scanned.1.contains key
  (hasInteresting,
    if hasInteresting then { deduper with lastFrameObjects := scanned.1 } else deduper)

def tracked (entries : List (TrackEntry K)) : List (TrackEntry K) :=
  entries.filter fun entry => entry.trackId ≠ 0

def records (entries : List (TrackEntry K)) : List (TrackKey × BoxSnapshot K) :=
  (tracked entries).map fun entry => (makeKey entry, snapshot entry)

structure Matches (threshold : K) (stored : TrackKey → Option (BoxSnapshot K))
    (entries : List (TrackEntry K)) : Prop where
  near : ∀ record ∈ records entries, ∃ box,
    stored record.1 = some box ∧ threshold ≤ calculateIoU record.2 box
  kept : ∀ key, (stored key).isSome → key ∈ (records entries).map Prod.fst

theorem scan_eq (deduper : Deduper K) (entries : List (TrackEntry K))
    (scanned : Std.TreeMap TrackKey (BoxSnapshot K) × Bool) :
    entries.foldl deduper.scanEntry scanned =
      ((records entries).foldl (fun table record => table.insert record.1 record.2) scanned.1,
        scanned.2 || (records entries).any fun record =>
          (deduper.lastFrameObjects[record.1]?).all fun last =>
            calculateIoU record.2 last < deduper.iouThreshold) := by
  induction entries generalizing scanned with
  | nil => simp [records, tracked]
  | cons entry rest ih =>
      rw [List.foldl_cons, ih, scanEntry]
      by_cases untracked : entry.trackId = 0
      · simp [untracked, records, tracked]
      · simp only [untracked, if_false, records, tracked, ne_eq, not_false_eq_true, decide_true,
          List.filter_cons_of_pos, List.map_cons, List.foldl_cons, List.any_cons]
        cases known : deduper.lastFrameObjects[makeKey entry]? with
        | none => simp
        | some last =>
            by_cases moved : calculateIoU (snapshot entry) last < deduper.iouThreshold
            · simp [moved]
            · simp [moved]

theorem isInteresting_eq_false_iff (deduper : Deduper K) (entries : List (TrackEntry K)) :
    (deduper.isInteresting entries).1 = false ↔
      Matches deduper.iouThreshold (fun key => deduper.lastFrameObjects[key]?) entries := by
  rw [isInteresting]
  simp only [scan_eq, Bool.false_or, Bool.or_eq_false_iff, List.any_eq_false]
  constructor
  · rintro ⟨near, kept⟩
    refine ⟨fun record listed => ?_, fun key stored => ?_⟩
    · cases known : deduper.lastFrameObjects[record.1]? with
      | none => simpa [known] using near record listed
      | some last => exact ⟨last, rfl, by simpa [known] using near record listed⟩
    · have listed := kept key (Std.TreeMap.mem_keys.mpr
        (Std.TreeMap.mem_iff_isSome_getElem?.mpr stored))
      rw [← Std.TreeMap.isSome_getElem?_eq_contains, getElem?_foldl_insert] at listed
      rw [← recorded_isSome_iff]
      simpa [Option.isSome_iff_ne_none] using listed
  · rintro ⟨near, kept⟩
    refine ⟨fun record listed => ?_, fun key stored => ?_⟩
    · obtain ⟨box, known, close⟩ := near record listed
      simpa [known] using close
    · have listed := kept key (Std.TreeMap.mem_iff_isSome_getElem?.mp
        (Std.TreeMap.mem_keys.mp stored))
      rw [← recorded_isSome_iff] at listed
      rw [← Std.TreeMap.isSome_getElem?_eq_contains, getElem?_foldl_insert]
      simpa [Option.isSome_iff_ne_none] using listed

theorem isInteresting_kept {deduper : Deduper K} {entries : List (TrackEntry K)}
    (same : (deduper.isInteresting entries).1 = false) :
    (deduper.isInteresting entries).2 = deduper := by
  rw [isInteresting] at same ⊢
  simp only at same ⊢
  rw [same]
  rfl

theorem isInteresting_iouThreshold (deduper : Deduper K) (entries : List (TrackEntry K)) :
    (deduper.isInteresting entries).2.iouThreshold = deduper.iouThreshold := by
  rw [isInteresting]
  simp only
  split <;> rfl

theorem isInteresting_stored {deduper : Deduper K} {entries : List (TrackEntry K)}
    (passed : (deduper.isInteresting entries).1 = true) (key : TrackKey) :
    (deduper.isInteresting entries).2.lastFrameObjects[key]? = recorded (records entries) key := by
  rw [isInteresting] at passed ⊢
  simp only at passed ⊢
  rw [if_pos passed, scan_eq, getElem?_foldl_insert]
  simp

def Proper (box : BoxSnapshot K) : Prop :=
  box.left < box.right ∧ box.top < box.bottom

variable [IsStrictOrderedRing K]

theorem calculateIoU_self_of_proper {box : BoxSnapshot K} (proper : Proper box) :
    calculateIoU box box = 1 := by
  have width : 0 < box.right - box.left := sub_pos.mpr proper.1
  have height : 0 < box.bottom - box.top := sub_pos.mpr proper.2
  have area := mul_pos width height
  simp only [calculateIoU, min_self, max_self, max_eq_right width.le, max_eq_right height.le,
    add_sub_cancel_right, not_le.mpr area, if_false, div_self area.ne']

theorem calculateIoU_self_of_not_proper {box : BoxSnapshot K} (flat : ¬ Proper box) :
    calculateIoU box box = 0 := by
  have overlap : max 0 (box.right - box.left) * max 0 (box.bottom - box.top) = 0 := by
    rw [Proper, not_and_or, not_lt, not_lt] at flat
    rcases flat with flat | flat
    · rw [max_eq_left (sub_nonpos.mpr flat), zero_mul]
    · rw [max_eq_left (sub_nonpos.mpr flat), mul_zero]
  simp only [calculateIoU, min_self, max_self, overlap, zero_div, ite_self]

theorem matches_recorded_iff {threshold : K} (most : threshold ≤ 1)
    (entries : List (TrackEntry K)) :
    Matches threshold (recorded (records entries)) entries ↔
      (0 < threshold → ∀ record ∈ records entries,
        recorded (records entries) record.1 = some record.2 → Proper record.2) ∧
      ∀ record ∈ records entries, ∀ box, recorded (records entries) record.1 = some box →
        record.2 ≠ box → threshold ≤ calculateIoU record.2 box := by
  constructor
  · rintro ⟨near, _⟩
    refine ⟨fun positive record listed last => ?_, fun record listed box last _ => ?_⟩
    · obtain ⟨box, same, close⟩ := near record listed
      rw [last, Option.some.injEq] at same
      by_contra flat
      rw [← same, calculateIoU_self_of_not_proper flat] at close
      exact absurd positive (not_lt.mpr close)
    · obtain ⟨other, same, close⟩ := near record listed
      rw [last, Option.some.injEq] at same
      rwa [same]
  · rintro ⟨proper, close⟩
    refine ⟨fun record listed => ?_, fun key => (recorded_isSome_iff _ key).mp⟩
    have named : record.1 ∈ (records entries).map Prod.fst := List.mem_map_of_mem listed
    obtain ⟨box, last⟩ := Option.isSome_iff_exists.mp ((recorded_isSome_iff _ _).mpr named)
    refine ⟨box, last, ?_⟩
    by_cases own : record.2 = box
    · subst own
      by_cases positive : 0 < threshold
      · rwa [calculateIoU_self_of_proper (proper positive record listed last)]
      · refine (not_lt.mp positive).trans ?_
        by_cases area : Proper record.2
        · simp [calculateIoU_self_of_proper area]
        · simp [calculateIoU_self_of_not_proper area]
    · exact close record listed box last own

/-- The second look at a frame lets it go when the frame matches the stored one, or when it
matches itself: a flat box does not, nor a key with two boxes that are far apart. -/
theorem repeated_not_interesting_iff (deduper : Deduper K) (entries : List (TrackEntry K))
    (most : deduper.iouThreshold ≤ 1) :
    ((deduper.isInteresting entries).2.isInteresting entries).1 = false ↔
      Matches deduper.iouThreshold (fun key => deduper.lastFrameObjects[key]?) entries ∨
      (0 < deduper.iouThreshold → ∀ record ∈ records entries,
        recorded (records entries) record.1 = some record.2 → Proper record.2) ∧
      ∀ record ∈ records entries, ∀ box, recorded (records entries) record.1 = some box →
        record.2 ≠ box → deduper.iouThreshold ≤ calculateIoU record.2 box := by
  rw [← matches_recorded_iff most, ← isInteresting_eq_false_iff]
  cases first : (deduper.isInteresting entries).1 with
  | false => simp [isInteresting_kept first, first]
  | true =>
      have stored := funext (isInteresting_stored first)
      rw [isInteresting_eq_false_iff, isInteresting_iouThreshold, stored]
      simp

def flatPerson : RegionOfInterest ℚ where
  roiType := some (JsonText.utf8 "person")
  id := 0
  x := 100
  y := 100
  w := 0
  h := 50
  params := [⟨some 7, some (9 / 10)⟩]

def widePerson : TrackEntry ℚ :=
  ofRoi 1920 1080 { flatPerson with w := 40 }

theorem repeated_person_not_interesting :
    ((({ iouThreshold := 3 / 4 } : Deduper ℚ).isInteresting [widePerson]).2.isInteresting
      [widePerson]).1 = false := by
  have proper : Proper (snapshot widePerson) := ⟨by decide +kernel, by decide +kernel⟩
  have one : records [widePerson] = [(makeKey widePerson, snapshot widePerson)] := rfl
  have last : recorded (records [widePerson]) (makeKey widePerson) =
      some (snapshot widePerson) := by
    simp [one, recorded]
  refine (repeated_not_interesting_iff _ _ (by norm_num)).mpr (.inr ⟨?_, ?_⟩)
  · intro _ record listed _
    rw [one, List.mem_singleton] at listed
    subst listed
    exact proper
  · intro record listed box found moved
    rw [one, List.mem_singleton] at listed
    subst listed
    exact absurd (Option.some.inj (last.symm.trans found)) moved

theorem repeated_flatPerson_interesting :
    (3 / 4 : ℚ) ≤ 1 ∧
      ((({ iouThreshold := 3 / 4 } : Deduper ℚ).isInteresting
        [ofRoi 1920 1080 flatPerson]).2.isInteresting [ofRoi 1920 1080 flatPerson]).1 = true := by
  decide +kernel

end

end Deduper

end Iq9Pipeline.MultiCam
