import Iq9Pipeline.Foundation.Machine
import Iq9Pipeline.MultiCam.DeduperRuns

/-!
The element around the deduper (`gstdeduper.cpp`). It takes the regions of other classes off
a buffer and drops the buffer when nothing is left or nothing has changed, so that whoever
keeps the last buffer that came through knows the objects that are in the picture now.
-/

namespace Iq9Pipeline.MultiCam

open Foundation FaceLinks

namespace Deduper

def kAllowedClasses : List (List UInt8) :=
  ["person", "bicycle", "car", "backpack", "umbrella", "handbag"].map JsonText.utf8

def isAllowed (label : List UInt8) : Bool :=
  kAllowedClasses.contains label

end Deduper

inductive FlowReturn
  | ok
  | dropped
deriving DecidableEq

structure GstDeduper (K : Type) where
  iouThreshold : K
  deduper : Option (Deduper K) := none
  frameW : UInt32 := 0
  frameH : UInt32 := 0
  framesTotal : UInt64 := 0
  framesPassed : UInt64 := 0
  framesDropped : UInt64 := 0

/-- The calls of the framework. Caps that do not parse leave a size that is not known. -/
inductive ElementCall (K : Type)
  | setProperty (iouThreshold : K)
  | setCaps (parsed : Bool) (width height : UInt32)
  | transformIp (rois : List (RegionOfInterest K))
  | stop

namespace GstDeduper

open Deduper

variable {K : Type} [Field K] [LinearOrder K]

def init : GstDeduper K where
  iouThreshold := 3 / 4

def setCaps (element : GstDeduper K) (parsed : Bool) (width height : UInt32) : GstDeduper K :=
  let sized := { element with frameW := width, frameH := height }
  if parsed then { sized with deduper := some { iouThreshold := element.iouThreshold } }
  else sized

def stop (element : GstDeduper K) : GstDeduper K where
  iouThreshold := element.iouThreshold
  frameW := element.frameW
  frameH := element.frameH

def allowedRois (rois : List (RegionOfInterest K)) : List (RegionOfInterest K) :=
  rois.filter fun roi => isAllowed (roi.roiType.getD [])

def entries (element : GstDeduper K) (rois : List (RegionOfInterest K)) : List (TrackEntry K) :=
  (allowedRois rois).map (ofRoi element.frameW element.frameH)

def transformIp (element : GstDeduper K) (rois : List (RegionOfInterest K)) :
    FlowReturn × List (RegionOfInterest K) × GstDeduper K :=
  match element.deduper with
  | none => (.ok, rois, element)
  | some deduper =>
      if element.frameW = 0 ∨ element.frameH = 0 then (.ok, rois, element)
      else
        let counted := { element with framesTotal := element.framesTotal + 1 }
        let entries := element.entries rois
        if entries.isEmpty then
          (.dropped, allowedRois rois, { counted with
            framesDropped := element.framesDropped + 1
            deduper := some deduper.reset })
        else
          let (interesting, deduper) := deduper.isInteresting entries
          if interesting then
            (.ok, allowedRois rois, { counted with
              framesPassed := element.framesPassed + 1
              deduper := some deduper })
          else
            (.dropped, allowedRois rois, { counted with
              framesDropped := element.framesDropped + 1
              deduper := some deduper })

def looks (element : GstDeduper K) : Bool :=
  element.deduper.isSome && element.frameW != 0 && element.frameH != 0

/-- The element beside three buffers that it looked into since the last caps or stop: the last
one, the last one that came through, and the one that it compares with, which is the latter
unless a buffer without objects came in between. -/
structure Watch (K : Type) where
  element : GstDeduper K
  current : List (TrackEntry K) := []
  lastPassed : List (TrackEntry K) := []
  compared : List (TrackEntry K) := []

namespace Watch

def look (watch : Watch K) (rois : List (RegionOfInterest K)) : Watch K :=
  let (flow, _, element) := watch.element.transformIp rois
  let entries := watch.element.entries rois
  if watch.element.looks then
    { element := element
      current := entries
      lastPassed := if flow = .ok then entries else watch.lastPassed
      compared := if flow = .ok ∨ entries.isEmpty then entries else watch.compared }
  else { watch with element := element }

/-- A value outside of the range of the property is not set. -/
def call (watch : Watch K) : ElementCall K → Watch K
  | .setProperty iouThreshold =>
      if 0 ≤ iouThreshold ∧ iouThreshold ≤ 1 then
        { watch with element := { watch.element with iouThreshold := iouThreshold } }
      else watch
  | .setCaps true width height => { element := watch.element.setCaps true width height }
  | .setCaps false width height =>
      { watch with element := watch.element.setCaps false width height }
  | .transformIp rois => watch.look rois
  | .stop => { element := watch.element.stop }

def machine (K : Type) [Field K] [LinearOrder K] : Machine (Watch K) (ElementCall K) where
  start watch := watch = { element := init }
  step watch call := some (watch.call call)

def Distinct (watch : Watch K) : ElementCall K → Prop
  | .transformIp rois => (keys displayName (watch.element.entries rois)).Nodup
  | _ => True

instance (watch : Watch K) (call : ElementCall K) : Decidable (watch.Distinct call) :=
  match call with
  | .transformIp rois =>
      inferInstanceAs (Decidable (keys displayName (watch.element.entries rois)).Nodup)
  | .setProperty _ => .isTrue trivial
  | .setCaps _ _ _ => .isTrue trivial
  | .stop => .isTrue trivial

end Watch

structure Describes (threshold : K) (last now : List (TrackEntry K)) : Prop where
  sameKeys : ∀ key, key ∈ keys displayName now ↔ key ∈ keys displayName last
  near : ∀ object ∈ objects displayName now, ∃ earlier ∈ objects displayName last,
    object.1 = earlier.1 ∧ (object.2 = earlier.2 ∨ threshold ≤ calculateIoU object.2 earlier.2)

theorem describes_self (threshold : K) (entries : List (TrackEntry K)) :
    Describes threshold entries entries :=
  ⟨fun _ => Iff.rfl, fun object listed => ⟨object, listed, rfl, .inl rfl⟩⟩

theorem describes_of_not_differs {threshold : K} {last now : List (TrackEntry K)}
    (same : ¬ Differs displayName threshold last now) : Describes threshold last now := by
  rw [Differs, not_or, not_not] at same
  obtain ⟨sameKeys, unmoved⟩ := same
  refine ⟨sameKeys, fun object listed => ?_⟩
  obtain ⟨earlier, member, named⟩ :=
    List.mem_map.mp ((sameKeys object.1).mp (List.mem_map_of_mem listed))
  refine ⟨earlier, member, named.symm, .inr ?_⟩
  by_contra moved
  exact unmoved ⟨object, listed, earlier, member, named.symm, not_le.mp moved⟩

/-- The deduper lets go what does not differ from the frame behind its map. -/
theorem interesting_iff {deduper : Deduper K} {compared entries : List (TrackEntry K)}
    (keeps : Watched.Keeps deduper.iouThreshold ⟨deduper, compared⟩)
    (distinct : (keys displayName compared).Nodup) :
    (deduper.isInteresting entries).1 = true ↔
      Differs displayName deduper.iouThreshold compared entries := by
  rw [← Bool.not_eq_false, isInteresting_eq_false_iff, funext keeps.stored, not_iff_comm]
  exact ⟨matches_of_not_differs, Matches.not_differs distinct⟩

theorem look_cases {watch : Watch K} {deduper : Deduper K} (looks : watch.element.looks = true)
    (held : watch.element.deduper = some deduper) (rois : List (RegionOfInterest K)) :
    let entries := watch.element.entries rois
    let answer := deduper.isInteresting entries
    let counted := { watch.element with framesTotal := watch.element.framesTotal + 1 }
    (entries = [] ∧ (watch.element.transformIp rois).1 = .dropped ∧
      watch.look rois = ⟨{ counted with
        framesDropped := watch.element.framesDropped + 1
        deduper := some deduper.reset }, [], watch.lastPassed, []⟩) ∨
    (entries ≠ [] ∧ answer.1 = true ∧ (watch.element.transformIp rois).1 = .ok ∧
      watch.look rois = ⟨{ counted with
        framesPassed := watch.element.framesPassed + 1
        deduper := some answer.2 }, entries, entries, entries⟩) ∨
    (entries ≠ [] ∧ answer.1 = false ∧ (watch.element.transformIp rois).1 = .dropped ∧
      watch.look rois = ⟨{ counted with
        framesDropped := watch.element.framesDropped + 1
        deduper := some deduper }, entries, watch.lastPassed, watch.compared⟩) := by
  intro entries answer counted
  have sized : ¬ (watch.element.frameW = 0 ∨ watch.element.frameH = 0) := by
    simp only [GstDeduper.looks, Bool.and_eq_true, bne_iff_ne] at looks
    exact not_or.mpr ⟨looks.1.2, looks.2⟩
  by_cases empty : entries = []
  · refine .inl ⟨empty, ?_⟩
    simp only [Watch.look, GstDeduper.transformIp, held, sized, looks, if_false, if_true]
    simp [show watch.element.entries rois = [] from empty, counted]
  · have shown : (watch.element.entries rois).isEmpty = false :=
      List.isEmpty_eq_false_iff.mpr empty
    cases verdict : answer.1 with
    | true =>
        refine .inr (.inl ⟨empty, rfl, ?_⟩)
        have passed : (deduper.isInteresting (watch.element.entries rois)).1 = true := verdict
        simp [Watch.look, GstDeduper.transformIp, held, sized, looks, shown, passed, counted,
          entries, answer]
    | false =>
        refine .inr (.inr ⟨empty, rfl, ?_⟩)
        have same : (deduper.isInteresting (watch.element.entries rois)).1 = false := verdict
        simp [Watch.look, GstDeduper.transformIp, held, sized, looks, shown, same, counted,
          entries, isInteresting_kept same]

theorem look_of_blind {watch : Watch K} (blind : watch.element.looks = false)
    (rois : List (RegionOfInterest K)) : watch.look rois = watch := by
  have unchanged : (watch.element.transformIp rois).2.2 = watch.element := by
    cases held : watch.element.deduper with
    | none => simp [transformIp, held]
    | some deduper =>
        have unsized : watch.element.frameW = 0 ∨ watch.element.frameH = 0 := by
          simp only [looks, held, Option.isSome_some, Bool.true_and, Bool.and_eq_false_iff,
            bne_eq_false_iff_eq] at blind
          exact blind
        simp [transformIp, held, unsized]
  simp only [Watch.look, blind, unchanged]
  rfl

structure Keeps (watch : Watch K) : Prop where
  counted : watch.element.framesTotal = watch.element.framesPassed + watch.element.framesDropped
  stored : ∀ deduper, watch.element.deduper = some deduper →
    Watched.Keeps deduper.iouThreshold ⟨deduper, watch.compared⟩
  describes : ∀ deduper, watch.element.deduper = some deduper →
    Describes deduper.iouThreshold watch.compared watch.current
  distinct : (keys displayName watch.compared).Nodup
  compared : watch.compared = watch.lastPassed ∨ watch.compared = []

theorem keeps_begun {element : GstDeduper K}
    (counted : element.framesTotal = element.framesPassed + element.framesDropped)
    (fresh : ∀ deduper, element.deduper = some deduper → deduper.lastFrameObjects = ∅) :
    Keeps { element := element } where
  counted := counted
  stored deduper held :=
    ⟨rfl, fun key => by simp [fresh deduper held, records, tracked, KeyedTable.recorded]⟩
  describes deduper _ := describes_self _ _
  distinct := List.nodup_nil
  compared := .inr rfl

theorem Keeps.look {watch : Watch K} (keeps : Keeps watch) (rois : List (RegionOfInterest K))
    (distinct : (keys displayName (watch.element.entries rois)).Nodup) :
    Keeps (watch.look rois) := by
  cases looks : watch.element.looks with
  | false => exact (look_of_blind looks rois).symm ▸ keeps
  | true =>
      obtain ⟨deduper, held⟩ : ∃ deduper, watch.element.deduper = some deduper := by
        simp only [GstDeduper.looks, Bool.and_eq_true] at looks
        exact Option.isSome_iff_exists.mp looks.1.1
      have counted := keeps.counted
      have stored := keeps.stored deduper held
      rcases look_cases looks held rois with ⟨_, _, looked⟩ | ⟨_, passed, _, looked⟩ |
        ⟨_, same, _, looked⟩
      · rw [looked]
        refine ⟨by grind, ?_, ?_, List.nodup_nil, .inr rfl⟩
        · rintro _ ⟨⟩
          exact stored.call .reset
        · exact fun _ _ => describes_self _ _
      · rw [looked]
        refine ⟨by grind, ?_, ?_, distinct, .inl rfl⟩
        · rintro _ ⟨⟩
          have called := stored.call (.isInteresting (watch.element.entries rois))
          simp only [Watched.call, passed, if_true] at called
          rwa [isInteresting_iouThreshold]
        · exact fun _ _ => describes_self _ _
      · rw [looked]
        refine ⟨by grind, ?_, ?_, keeps.distinct, keeps.compared⟩
        · rintro _ ⟨⟩
          exact stored
        · rintro _ ⟨⟩
          apply describes_of_not_differs
          rw [← interesting_iff stored keeps.distinct, same]
          exact Bool.false_ne_true

theorem Keeps.call {watch : Watch K} (keeps : Keeps watch) (call : ElementCall K)
    (distinct : watch.Distinct call) : Keeps (watch.call call) := by
  cases call with
  | setProperty iouThreshold =>
      rw [Watch.call]
      split
      · exact ⟨keeps.counted, keeps.stored, keeps.describes, keeps.distinct, keeps.compared⟩
      · exact keeps
  | setCaps parsed width height =>
      cases parsed with
      | false =>
          exact ⟨keeps.counted, keeps.stored, keeps.describes, keeps.distinct, keeps.compared⟩
      | true =>
          have begun : Keeps { element := watch.element.setCaps true width height } :=
            keeps_begun keeps.counted fun deduper held => Option.some.inj held ▸ rfl
          exact begun
  | transformIp rois => exact keeps.look rois distinct
  | stop => exact keeps_begun rfl fun _ held => by cases held

theorem keeps_of_reachable {watch : Watch K}
    (reachable : (Watch.machine K).ReachableUnder Watch.Distinct watch) : Keeps watch := by
  apply Machine.ReachableUnder.invariant Keeps _ _ reachable
  · rintro _ rfl
    exact keeps_begun rfl fun _ held => by cases held
  · rintro watch call _ _ keeps distinct ⟨⟩
    exact keeps.call call distinct

def entryOf (detection : FaceLinks.DetectionRecord K) : TrackEntry K :=
  ⟨detection.label, detection.trackId, detection.left, detection.top, detection.right,
    detection.bottom⟩

theorem transformIp_left {element : GstDeduper K} (looks : element.looks = true)
    (rois : List (RegionOfInterest K)) : (element.transformIp rois).2.1 = allowedRois rois := by
  simp only [GstDeduper.looks, Bool.and_eq_true, bne_iff_ne] at looks
  obtain ⟨deduper, held⟩ := Option.isSome_iff_exists.mp looks.1.1
  simp only [transformIp, held, looks.1.2, looks.2, or_self, if_false]
  split
  · rfl
  · split <;> rfl

omit [LinearOrder K] in
theorem readDetections_allowedRois {element : GstDeduper K} (looks : element.looks = true)
    (rois : List (RegionOfInterest K)) :
    let detections := FrameOffload.readDetections element.frameW element.frameH (allowedRois rois)
    detections.map entryOf = element.entries rois ∧
      ∀ detection ∈ detections, isAllowed detection.label = true := by
  have sized : 0 < element.frameW ∧ 0 < element.frameH := by
    simp only [GstDeduper.looks, Bool.and_eq_true, bne_iff_ne] at looks
    exact ⟨UInt32.pos_iff_ne_zero.mpr looks.1.2, UInt32.pos_iff_ne_zero.mpr looks.2⟩
  simp only [FrameOffload.readDetections, if_pos sized]
  constructor
  · rw [List.map_map, entries]
    rfl
  · intro detection listed
    obtain ⟨roi, kept, rfl⟩ := List.mem_map.mp listed
    exact (List.mem_filter.mp kept).2

/-- Whoever keeps the last buffer that came through knows the tracked objects of the last one
that came, while there are any; a buffer comes through exactly if it has objects and they are
not those of the one it is compared with, and nothing else is read off it. -/
theorem describes_current {watch : Watch K}
    (reachable : (Watch.machine K).ReachableUnder Watch.Distinct watch) :
    watch.element.framesTotal = watch.element.framesPassed + watch.element.framesDropped ∧
    ∀ deduper, watch.element.deduper = some deduper →
      (objects displayName watch.current ≠ [] →
        Describes deduper.iouThreshold watch.lastPassed watch.current) ∧
      (watch.element.looks = true → ∀ rois,
        let answer := watch.element.transformIp rois
        let detections :=
          FrameOffload.readDetections watch.element.frameW watch.element.frameH answer.2.1
        (answer.1 = .ok ↔ watch.element.entries rois ≠ [] ∧
          Differs displayName deduper.iouThreshold watch.compared (watch.element.entries rois)) ∧
        detections.map entryOf = watch.element.entries rois ∧
        ∀ detection ∈ detections, isAllowed detection.label = true) := by
  have keeps := keeps_of_reachable reachable
  refine ⟨keeps.counted, fun deduper held => ⟨fun present => ?_, fun looks rois => ?_⟩⟩
  · have describes := keeps.describes deduper held
    rcases keeps.compared with same | cleared
    · exact same ▸ describes
    · -- Next to nothing there is nothing tracked.
      obtain ⟨object, listed⟩ := List.exists_mem_of_ne_nil _ present
      obtain ⟨earlier, member, _⟩ := describes.near object listed
      rw [cleared] at member
      cases member
  · have left := transformIp_left looks rois
    obtain ⟨read, allowed⟩ := readDetections_allowedRois looks rois
    have decides : (deduper.isInteresting (watch.element.entries rois)).1 = true ↔ _ :=
      interesting_iff (keeps.stored deduper held) keeps.distinct
    intro answer detections
    refine ⟨?_, by rwa [← left] at read, by rwa [← left] at allowed⟩
    rcases look_cases looks held rois with ⟨empty, dropped, _⟩ | ⟨full, passed, flow, _⟩ |
      ⟨full, same, dropped, _⟩
    · simp [answer, empty, dropped]
    · simp [answer, flow, full, ← decides, passed]
    · simp [answer, dropped, ← decides, same]

def walker (x : UInt32) : RegionOfInterest ℚ :=
  { flatPerson with x := x, w := 40 }

def dog : RegionOfInterest ℚ :=
  { flatPerson with roiType := some (JsonText.utf8 "dog"), w := 40 }

def walk : List (ElementCall ℚ) :=
  [.setCaps true 1920 1080, .transformIp [walker 100, dog], .transformIp [dog, walker 102]]

theorem describes_current_walk : ∃ watch : Watch ℚ,
    (Watch.machine ℚ).ReachableUnder Watch.Distinct watch ∧
      watch.lastPassed ≠ watch.current ∧ watch.element.framesDropped = 1 ∧
        Describes (3 / 4) watch.lastPassed watch.current := by
  have begun : (Watch.machine ℚ).ReachableUnder Watch.Distinct { element := init } :=
    .start rfl
  obtain ⟨watch, _, reached, shown⟩ := begun.exists_run walk
    (fun watch => watch.lastPassed != watch.current && watch.element.framesDropped == 1 &&
      watch.element.deduper.any (fun deduper => deduper.iouThreshold == 3 / 4) &&
        objects displayName watch.current != []) (by decide +kernel)
  simp only [Bool.and_eq_true, bne_iff_ne, beq_iff_eq, Option.any_eq_true] at shown
  obtain ⟨⟨⟨moved, dropped⟩, deduper, held, threshold⟩, present⟩ := shown
  have describes := ((describes_current reached).2 deduper held).1 present
  rw [threshold] at describes
  exact ⟨watch, reached, moved, dropped, describes⟩

end GstDeduper

end Iq9Pipeline.MultiCam
