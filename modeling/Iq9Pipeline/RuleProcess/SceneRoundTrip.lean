import Iq9Pipeline.RuleProcess.SceneArrival

/-!
What the rule process gets to see of the records of one merge. A record reaches it if and
only if it can be written as a JSON text; it arrives unchanged if its ids also fit into
the signed integers of the rules.
-/

namespace Iq9Pipeline.RuleProcess

open Foundation.JsonText MultiCam

variable {Double Single : Type} (os : Ostream Double Single) (glib : JsonGlib)
  (nlohmann : Nlohmann) (pads : List (List (SceneSource Double Single)))

def singleOf (word : List UInt8) : Float32 :=
  match (nlohmann.number word).getFloat with
  | .ok value => value
  | .error _ => 0

theorem reads_singleOf : Reads nlohmann Json.getFloat (singleOf nlohmann) := by
  apply reads_of_isNumber nlohmann fun _ => Json.getNumber_of_isNumber
  intro word value got
  rw [singleOf, show (nlohmann.number word).getFloat = .ok value from got]

def metaOf (source : SceneSource Double Single) : EventMeta :=
  (eventOf os glib (singleOf nlohmann) source).toMeta

theorem adaptSceneUpdate_mergedScene
    (stored : ∀ source ∈ pads.filterMap List.head?, 0 ≤ source.record.imagePath) :
    adaptSceneUpdate nlohmann.parse (mergedScene os glib pads) =
      .ok ((writtenSources os pads).map (metaOf os glib nlohmann)) := by
  have delivered : (writtenSources os pads).filterMap
      (deliveredOf os glib (singleOf nlohmann)) =
        (writtenSources os pads).map (eventOf os glib (singleOf nlohmann)) := by
    rw [← List.filterMap_eq_map]
    refine List.filterMap_congr fun source member => ?_
    exact if_pos (stored source (List.mem_of_mem_filter member))
  rw [adaptSceneUpdate_eq, readSceneUpdate_mergedScene os glib nlohmann _ pads
    (reads_singleOf nlohmann), delivered, Except.map, List.map_map]
  rfl

def EverySlotOnce (pads : List (List (SceneSource Double Single))) : Prop :=
  ∃ events, adaptSceneUpdate nlohmann.parse (mergedScene os glib pads) = .ok events ∧
    ∀ source ∈ pads.filterMap List.head?,
      (events.countP fun event => event.slotIndex = source.record.imagePath.toUInt32) = 1

theorem metaOf_slotIndex_eq_iff {source : SceneSource Double Single} {imagePath : Int32} :
    (metaOf os glib nlohmann source).slotIndex = imagePath.toUInt32 ↔
      source.record.imagePath = imagePath := by
  constructor
  · intro same
    exact congrArg UInt32.toInt32 same
  · intro same
    rw [← same]
    rfl

theorem everySlotOnce_iff_written
    (stored : ∀ source ∈ pads.filterMap List.head?, 0 ≤ source.record.imagePath) :
    EverySlotOnce os glib nlohmann pads ↔
      ∀ source ∈ pads.filterMap List.head?,
        ((writtenSources os pads).countP fun other =>
          other.record.imagePath = source.record.imagePath) = 1 := by
  have adapted := adaptSceneUpdate_mergedScene os glib nlohmann pads stored
  have slots : ∀ imagePath : Int32,
      (((writtenSources os pads).map (metaOf os glib nlohmann)).countP fun event =>
          event.slotIndex = imagePath.toUInt32) =
        (writtenSources os pads).countP fun other => other.record.imagePath = imagePath := by
    intro imagePath
    rw [List.countP_map]
    refine List.countP_congr fun source _ => ?_
    simp [metaOf_slotIndex_eq_iff]
  constructor
  · rintro ⟨events, returned, once⟩
    rw [adapted, Except.ok.injEq] at returned
    subst returned
    intro source member
    rw [← slots]
    exact once source member
  · intro once
    refine ⟨_, adapted, fun source member => ?_⟩
    rw [slots]
    exact once source member

theorem everySlotOnce_iff
    (stored : ∀ source ∈ pads.filterMap List.head?, 0 ≤ source.record.imagePath) :
    EverySlotOnce os glib nlohmann pads ↔
      ∀ source ∈ pads.filterMap List.head?,
        ((pads.filterMap List.head?).countP fun other =>
          other.record.imagePath = source.record.imagePath ∧ other.record.Writable os) = 1 := by
  rw [everySlotOnce_iff_written os glib nlohmann pads stored]
  refine forall₂_congr fun source _ => ?_
  rw [writtenSources, List.countP_filter]
  simp only [Bool.decide_and]

def labelled (slot : Int32) (label : List UInt8) (trackId : UInt32) : SceneSource Nat Nat where
  record := {
    channelId := 0
    imagePath := slot
    frameId := 1
    timestampNs := 1000
    detections := [{
      trackId := trackId
      label := label
      score := 1
      left := 0
      top := 0
      right := 1
      bottom := 1
      face := none }] }
  metaWidth := 64
  metaHeight := 64

theorem everySlotOnce_labelled :
    EverySlotOnce Ostream.whole JsonGlib.verbatim Nlohmann.sorting
      [[labelled 3 (utf8 "person") 1], [labelled 4 (utf8 "hand\nbag") 2]] :=
  (everySlotOnce_iff Ostream.whole JsonGlib.verbatim Nlohmann.sorting _ (by decide)).mpr
    (by decide)

/-- A control character in a label loses the record, and its slot with it. -/
theorem slotStranded : ¬ ∀ (os : Ostream Nat Nat) (glib : JsonGlib) (nlohmann : Nlohmann)
    (pads : List (List (SceneSource Nat Nat))),
    (∀ source ∈ pads.filterMap List.head?, 0 ≤ source.record.imagePath) →
    (∀ source ∈ pads.filterMap List.head?, ∀ det ∈ source.record.detections, 0 ∉ det.label) →
    EverySlotOnce os glib nlohmann pads := by
  intro universal
  let stranded := [[labelled 7 [0x62, 0x01] 1]]
  have stored : ∀ source ∈ stranded.filterMap List.head?, 0 ≤ source.record.imagePath := by decide
  have once := universal Ostream.whole JsonGlib.verbatim Nlohmann.sorting stranded stored
    (by decide)
  have counted := (everySlotOnce_iff_written _ _ _ stranded stored).mp once
  exact absurd counted (by decide)

/-- With slots that differ, every slot arrives if and only if every record can be written. -/
theorem everySlotOnce_iff_of_nodup
    (stored : ∀ source ∈ pads.filterMap List.head?, 0 ≤ source.record.imagePath)
    (distinct : ((pads.filterMap List.head?).map fun source => source.record.imagePath).Nodup) :
    EverySlotOnce os glib nlohmann pads ↔
      ∀ source ∈ pads.filterMap List.head?, source.record.Writable os := by
  rw [everySlotOnce_iff_written os glib nlohmann pads stored]
  constructor
  · intro once source member
    have positive : 0 < (writtenSources os pads).countP fun other =>
        other.record.imagePath = source.record.imagePath := by
      rw [once source member]
      exact Nat.one_pos
    obtain ⟨other, written, samePath⟩ := List.countP_pos_iff.mp positive
    obtain ⟨listed, writable⟩ := List.mem_filter.mp written
    have same := List.inj_on_of_nodup_map distinct listed member (of_decide_eq_true samePath)
    rw [same] at writable
    exact of_decide_eq_true writable
  · intro writable source member
    have single := List.count_eq_one_of_mem distinct
      (List.mem_map_of_mem (f := fun source => source.record.imagePath) member)
    rw [List.count, List.countP_map] at single
    rw [writtenSources, List.filter_eq_self.mpr fun source member =>
      decide_eq_true (writable source member), ← single]
    rfl

theorem toInt_toInt32_eq_iff (value : UInt32) :
    value.toInt32.toInt = value.toNat ↔ value.toNat < 2 ^ 31 := by
  have bits : value.toInt32.toInt = value.toBitVec.toInt := rfl
  have size : value.toBitVec.toNat = value.toNat := rfl
  have bound := value.toNat_lt
  rw [bits, BitVec.toInt_eq_toNat_cond, size]
  split <;> omega

theorem toNat_toUInt32_of_nonneg {value : Int32} (nonneg : 0 ≤ value) :
    (value.toUInt32.toNat : Int) = value.toInt := by
  have bits : value.toInt = value.toUInt32.toBitVec.toInt := rfl
  have size : value.toUInt32.toBitVec.toNat = value.toUInt32.toNat := rfl
  have bound := value.toUInt32.toNat_lt
  have sign : 0 ≤ value.toInt := Int32.le_iff_toInt_le.mp nonneg
  rw [bits, BitVec.toInt_eq_toNat_cond, size] at sign ⊢
  split at sign
  · rename_i small
    rw [if_pos small]
  · omega

def DetectionMatches (det : DetectionRecord Double Single) (detection : Detection) : Prop :=
  utf8 detection.className = det.label ∧ detection.trackId.toInt = det.trackId.toNat

structure SourceMatches (source : SceneSource Double Single) (event : EventMeta) : Prop where
  sourceId : event.sourceIdNum.toInt = source.record.channelId.toNat
  timestampNs : event.timestampNs = source.record.timestampNs
  slotIndex : event.slotIndex.toNat = source.record.imagePath.toInt
  width : event.width = source.metaWidth
  height : event.height = source.metaHeight
  detections : List.Forall₂ DetectionMatches source.record.detections event.detections

def RoundTrips (pads : List (List (SceneSource Double Single))) : Prop :=
  ∃ events, adaptSceneUpdate nlohmann.parse (mergedScene os glib pads) = .ok events ∧
    List.Forall₂ SourceMatches (pads.filterMap List.head?) events

def SignedIds (record : FrameRecord Double Single) : Prop :=
  record.channelId.toNat < 2 ^ 31 ∧ ∀ det ∈ record.detections, det.trackId.toNat < 2 ^ 31

instance (record : FrameRecord Double Single) : Decidable (SignedIds record) :=
  inferInstanceAs (Decidable (_ ∧ _))

theorem utf8_labelText {label : List UInt8} (written : label.all isWritten = true)
    (valid : (decodeUtf8 label).isSome = true) : utf8 (labelText label) = label := by
  obtain ⟨text, decoded⟩ := Option.isSome_iff_exists.mp valid
  rw [labelText, readBack_label written decoded]
  exact decodeUtf8_eq_some_iff.mp decoded

theorem sourceMatches_iff {source : SceneSource Double Single}
    (writable : source.record.Writable os) (stored : 0 ≤ source.record.imagePath) :
    SourceMatches source (metaOf os glib nlohmann source) ↔ SignedIds source.record := by
  have detections : List.Forall₂ DetectionMatches source.record.detections
      (metaOf os glib nlohmann source).detections ↔
        ∀ det ∈ source.record.detections, det.trackId.toNat < 2 ^ 31 := by
    have each : ∀ det ∈ source.record.detections,
        (DetectionMatches det (sightingOf os glib (singleOf nlohmann) det).toDetection ↔
          det.trackId.toNat < 2 ^ 31) := by
      intro det member
      have label := (writable det member).1
      rw [← toInt_toInt32_eq_iff]
      exact and_iff_right (utf8_labelText label.1 label.2)
    have same : (metaOf os glib nlohmann source).detections =
        (source.record.detections.map (sightingOf os glib (singleOf nlohmann))).map
          Sighting.toDetection := rfl
    rw [same, List.forall₂_map_right_iff, List.forall₂_map_right_iff, List.forall₂_same]
    exact forall₂_congr each
  constructor
  · intro same
    exact ⟨(toInt_toInt32_eq_iff _).mp same.sourceId, detections.mp same.detections⟩
  · rintro ⟨channel, tracks⟩
    exact ⟨(toInt_toInt32_eq_iff _).mpr channel, rfl, toNat_toUInt32_of_nonneg stored, rfl, rfl,
      detections.mpr tracks⟩

theorem roundTrips_iff
    (stored : ∀ source ∈ pads.filterMap List.head?, 0 ≤ source.record.imagePath) :
    RoundTrips os glib nlohmann pads ↔
      ∀ source ∈ pads.filterMap List.head?,
        source.record.Writable os ∧ SignedIds source.record := by
  have adapted := adaptSceneUpdate_mergedScene os glib nlohmann pads stored
  have pairs : (∀ source ∈ pads.filterMap List.head?, source.record.Writable os) →
      (List.Forall₂ SourceMatches (pads.filterMap List.head?)
        ((writtenSources os pads).map (metaOf os glib nlohmann)) ↔
          ∀ source ∈ pads.filterMap List.head?, SignedIds source.record) := by
    intro writable
    have all : writtenSources os pads = pads.filterMap List.head? := by
      rw [writtenSources, List.filter_eq_self]
      intro source member
      exact decide_eq_true (writable source member)
    rw [all, List.forall₂_map_right_iff, List.forall₂_same]
    exact forall₂_congr fun source member =>
      sourceMatches_iff os glib nlohmann (writable source member) (stored source member)
  constructor
  · rintro ⟨events, returned, same⟩
    rw [adapted, Except.ok.injEq] at returned
    subst returned
    have lengths := same.length_eq
    rw [List.length_map, writtenSources, eq_comm, List.length_filter_eq_length_iff] at lengths
    have writable : ∀ source ∈ pads.filterMap List.head?, source.record.Writable os :=
      fun source member => of_decide_eq_true (lengths source member)
    exact fun source member => ⟨writable source member, (pairs writable).mp same source member⟩
  · intro fine
    exact ⟨_, adapted, (pairs fun source member => (fine source member).1).mpr
      fun source member => (fine source member).2⟩

theorem roundTrips_labelled :
    RoundTrips Ostream.whole JsonGlib.verbatim Nlohmann.sorting
      [[labelled 3 (utf8 "person") 1], [labelled 4 (utf8 "hand\nbag") 2]] :=
  (roundTrips_iff Ostream.whole JsonGlib.verbatim Nlohmann.sorting _ (by decide)).mpr (by decide)

/-- The upper half of the track ids arrives with a sign. -/
theorem trackIdNegated : ¬ ∀ (os : Ostream Nat Nat) (glib : JsonGlib) (nlohmann : Nlohmann)
    (pads : List (List (SceneSource Nat Nat))),
    (∀ source ∈ pads.filterMap List.head?, 0 ≤ source.record.imagePath) →
    (∀ source ∈ pads.filterMap List.head?, ∀ det ∈ source.record.detections,
      (decodeUtf8 det.label).isSome = true) →
    RoundTrips os glib nlohmann pads := by
  intro universal
  let negated := [[labelled 7 (utf8 "person") 0x80000000]]
  have stored : ∀ source ∈ negated.filterMap List.head?, 0 ≤ source.record.imagePath := by decide
  obtain ⟨events, returned, same⟩ := universal Ostream.whole JsonGlib.verbatim Nlohmann.sorting
    negated stored (by decide)
  rw [adaptSceneUpdate_mergedScene _ _ _ negated stored, Except.ok.injEq] at returned
  rw [← returned, List.forall₂_map_right_iff] at same
  have heads : negated.filterMap List.head? = [labelled 7 (utf8 "person") 0x80000000] := rfl
  have written : writtenSources Ostream.whole negated = negated.filterMap List.head? :=
    List.filter_eq_self.mpr (by decide)
  rw [written, heads, List.forall₂_cons] at same
  have signed := (sourceMatches_iff _ _ _ (by decide) (by decide)).mp same.1
  exact absurd signed (by decide)

end Iq9Pipeline.RuleProcess
