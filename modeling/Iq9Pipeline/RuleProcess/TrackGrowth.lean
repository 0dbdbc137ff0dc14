import Iq9Pipeline.RuleProcess.OpenTrunkFaceRule
import Iq9Pipeline.RuleProcess.SightedItems

/-!
How many tracks the rules remember. An entry is erased only for a removed track, and a scene
record never names one, so that the entries grow with the persons, items and faces that were ever
shown, up to the number of ids.
-/

namespace Iq9Pipeline.RuleProcess

open Foundation.JsonText MultiCam

variable {Number : Type} [Scalar Number]

namespace LeftItemRule

def TracksPerson (det : Sighting Number) : Prop :=
  det.className = "person" ∧ 0.4 ≤ det.confidence ∧ 4 ≤ det.bbox.length

theorem mem_isStaticPerson {persons : Std.TreeMap Int32 (PersonState Number)}
    {personId trackId : Int32} {bbox : List Number} :
    trackId ∈ (isStaticPerson persons personId bbox).2 ↔
      trackId ∈ persons ∨ trackId = personId ∧ 4 ≤ bbox.length := by
  have inserted : ∀ person, trackId ∈ persons.insert personId person ↔
      trackId ∈ persons ∨ trackId = personId := by
    intro person
    rw [Std.TreeMap.mem_insert, Std.LawfulEqCmp.compare_eq_iff_eq, or_comm, eq_comm]
  rw [isStaticPerson.eq_def]
  split
  · dsimp only
    split
    · simp [inserted]
    · split <;> simp [inserted]
  · rename_i short
    have incomplete : ¬ 4 ≤ bbox.length := by
      intro long
      match bbox, long with
      | x1 :: y1 :: x2 :: y2 :: rest, _ => exact short x1 y1 x2 y2 rest rfl
    simp [incomplete]

variable {rule : LeftItemRule Number}

theorem mem_scanDetection {scanned : Std.TreeMap Int32 (PersonState Number) × Gathered Number}
    {det : Sighting Number} {trackId : Int32} :
    trackId ∈ (rule.scanDetection scanned det).1 ↔
      trackId ∈ scanned.1 ∨ TracksPerson det ∧ det.trackId = trackId := by
  rw [scanDetection, TracksPerson]
  by_cases person : det.className = "person"
  · by_cases confident : 0.4 ≤ det.confidence
    · have member := @mem_isStaticPerson _ _ scanned.1 det.trackId trackId det.bbox
      simp only [person, confident, if_true, true_and]
      rw [eq_comm (b := trackId), and_comm (b := trackId = det.trackId), ← member]
      split <;> rfl
    · simp [person, confident]
  · simp only [person, if_false, false_and, or_false]
    split
    · rfl
    · split
      · split <;> rfl
      · rfl

theorem mem_scan {persons : Std.TreeMap Int32 (PersonState Number)}
    {detections : List (Sighting Number)} {trackId : Int32} :
    trackId ∈ (rule.scan persons detections).1 ↔
      trackId ∈ persons ∨ ∃ det ∈ detections, TracksPerson det ∧ det.trackId = trackId := by
  have folded : ∀ scanned : Std.TreeMap Int32 (PersonState Number) × Gathered Number,
      trackId ∈ (detections.foldl rule.scanDetection scanned).1 ↔
        trackId ∈ scanned.1 ∨ ∃ det ∈ detections, TracksPerson det ∧ det.trackId = trackId := by
    induction detections with
    | nil => simp
    | cons det detections ih =>
        intro scanned
        rw [List.foldl_cons, ih, mem_scanDetection, or_assoc, List.exists_mem_cons_iff]
  exact folded (persons, {})

theorem mem_personStates_after {events : List (RuleEvent Number)} {state : LeftItemState Number}
    (unnamed : ∀ event ∈ events, event.removedTrackIds = []) {trackId : Int32} :
    trackId ∈ (rule.after state events).personStates ↔
      trackId ∈ state.personStates ∨
        ∃ event ∈ events, ∃ det ∈ event.detections, TracksPerson det ∧ det.trackId = trackId := by
  induction events generalizing state with
  | nil => simp [after]
  | cons event events ih =>
      rw [List.forall_mem_cons] at unnamed
      have scanned : (rule.apply state event).2.personStates =
          (rule.scan state.personStates event.detections).1 := by
        simp only [apply, writeBack, refreshed, updateState, unnamed.1, List.foldl_nil]
      have rest := @ih (rule.apply state event).2 unnamed.2
      rw [after] at rest ⊢
      rw [List.foldl_cons, rest, scanned, mem_scan, or_assoc, List.exists_mem_cons_iff]

theorem after_nothing {events : List (RuleEvent Number)}
    (quiet : ∀ event ∈ events, event.detections = [] ∧ event.removedTrackIds = []) :
    rule.after {} events = {} := by
  induction events with
  | nil => rfl
  | cons event events ih =>
      rw [List.forall_mem_cons] at quiet
      have same : (rule.apply {} event).2 = {} := by
        have items : (∅ : Std.TreeMap Int32 (ItemState Number)).toList = [] := rfl
        simp [apply, decisions, refreshed, updateState, scan, quiet.1.1, quiet.1.2,
          allItemUpdates, erasedItems, dropsUnifiedBag, workItems, writeBack, items]
      have rest := ih quiet.2
      rw [after] at rest ⊢
      rw [List.foldl_cons, same, rest]

end LeftItemRule

namespace OpenTrunkFaceRule

def after (rule : OpenTrunkFaceRule Number) (cache : FaceCache)
    (events : List (RuleEvent Number)) : FaceCache :=
  events.foldl (fun cache event => (rule.apply cache event).2) cache

theorem after_nothing (rule : OpenTrunkFaceRule Number) {events : List (RuleEvent Number)}
    (quiet : ∀ event ∈ events, event.detections = [] ∧ event.removedTrackIds = []) :
    rule.after ∅ events = ∅ := by
  induction events with
  | nil => rfl
  | cons event events ih =>
      rw [List.forall_mem_cons] at quiet
      have same : (rule.apply ∅ event).2 = ∅ := by
        rw [apply, quiet.1.1, quiet.1.2]
        rfl
      have rest := ih quiet.2
      rw [after] at rest ⊢
      rw [List.foldl_cons, same, rest]

end OpenTrunkFaceRule

def trackEntries (state : LeftItemState Number) (cache : FaceCache) : Nat :=
  state.itemStates.size + state.personStates.size + cache.size

theorem size_le_of_int32 {Value : Type} (entries : Std.TreeMap Int32 Value) :
    entries.size ≤ 2 ^ 32 := by
  have distinct : (entries.keys.map fun key => key.toBitVec.toFin).Nodup := by
    refine entries.nodup_keys.map fun first second same => ?_
    exact Int32.toBitVec_inj.mp (BitVec.toFin_inj.mp same)
  have counted := distinct.length_le_card
  rwa [List.length_map, Std.TreeMap.length_keys, Fintype.card_fin] at counted

omit [Scalar Number] in
/-- Whatever the rules do, their maps have no more entries than there are keys. -/
theorem trackEntries_le (state : LeftItemState Number) (cache : FaceCache) :
    trackEntries state cache ≤ 3 * 2 ^ 32 := by
  have items := size_le_of_int32 state.itemStates
  have persons := size_le_of_int32 state.personStates
  have faces := size_le_of_int32 cache
  rw [trackEntries]
  omega

section Delivered

variable {Double Single : Type}

def trackIdsOf (record : FrameRecord Double Single) : List UInt32 :=
  record.detections.map DetectionRecord.trackId

def TracksRecurWithin (frames : Nat) (sources : List (SceneSource Double Single)) : Prop :=
  ∀ first second : Fin sources.length, ∀ trackId ∈ trackIdsOf sources[first].record,
    trackId ∈ trackIdsOf sources[second].record → second.val ≤ first.val + frames

instance (frames : Nat) (sources : List (SceneSource Double Single)) :
    Decidable (TracksRecurWithin frames sources) :=
  inferInstanceAs (Decidable (∀ _ _ : Fin sources.length, ∀ trackId ∈ _, _ → _))

variable [OfNat Number 1]

/-- The entries stay below some bound in every run whose frames have so many detections at most
and whose tracks last for so many frames at most. The bound is less than the number of track ids,
since `trackEntries_le` gives one beyond them whatever the rules do. -/
def StateBounded (rule : LeftItemRule Number) (faceRule : OpenTrunkFaceRule Number)
    (os : Ostream Double Single) (glib : JsonGlib) (nlohmann : Nlohmann)
    (get : Json → Except JsonException Number) (detections frames : Nat) : Prop :=
  ∃ bound < 2 ^ 32, ∀ sources : List (SceneSource Double Single),
    (∀ source ∈ sources, source.record.detections.length ≤ detections) →
    TracksRecurWithin frames sources →
      trackEntries (rule.after {} (delivered os glib nlohmann get sources))
        (faceRule.after ∅ (delivered os glib nlohmann get sources)) ≤ bound

def passersBy (person : DetectionRecord Double Single) (count : Nat) :
    List (SceneSource Double Single) :=
  (List.range count).map fun index => {
    record := {
      channelId := 0
      imagePath := 0
      frameId := UInt64.ofNat index
      timestampNs := UInt64.ofNat (1000 * (index + 1))
      detections := [{ person with trackId := UInt32.ofNat index }] }
    metaWidth := 64
    metaHeight := 64 }

theorem tracksRecurWithin_passersBy (person : DetectionRecord Double Single) {count : Nat}
    (fits : count ≤ 2 ^ 32) (frames : Nat) :
    TracksRecurWithin frames (passersBy person count) := by
  intro first second trackId shown again
  have small : first.val < count ∧ second.val < count := by
    have bounds := And.intro first.isLt second.isLt
    simpa [passersBy] using bounds
  have named : ∀ (index : Nat) (bound : index < (passersBy person count).length),
      trackIdsOf (passersBy person count)[index].record = [UInt32.ofNat index] := by
    intro index bound
    simp only [passersBy, List.getElem_map, List.getElem_range]
    rfl
  rw [Fin.getElem_fin, named, List.mem_singleton] at shown again
  have same := congrArg UInt32.toNat (shown.symm.trans again)
  rw [UInt32.toNat_ofNat_of_lt' (by simp [UInt32.size]; omega),
    UInt32.toNat_ofNat_of_lt' (by simp [UInt32.size]; omega)] at same
  omega

variable (rule : LeftItemRule Number) (faceRule : OpenTrunkFaceRule Number)
  {os : Ostream Double Single} {glib : JsonGlib} {nlohmann : Nlohmann}
  {get : Json → Except JsonException Number} {scalar : List UInt8 → Number}
  {person : DetectionRecord Double Single}

/-- The rules never forget: each passer-by leaves an entry. -/
theorem le_trackEntries_passersBy (reads : Reads nlohmann get scalar)
    (writable : person.Writable os)
    (tracked : LeftItemRule.TracksPerson (sightingOf os glib scalar person)) {count : Nat}
    (fits : count ≤ 2 ^ 32) :
    count ≤ trackEntries (rule.after {} (delivered os glib nlohmann get (passersBy person count)))
      (faceRule.after ∅ (delivered os glib nlohmann get (passersBy person count))) := by
  have written : ∀ source ∈ passersBy person count,
      source.record.Writable os ∧ 0 ≤ source.record.imagePath := by
    intro source member
    obtain ⟨index, _, rfl⟩ := List.mem_map.mp member
    refine ⟨fun det listed => ?_, (by decide : (0 : Int32) ≤ 0)⟩
    obtain rfl := List.mem_singleton.mp listed
    exact writable
  rw [delivered_of_writable os glib nlohmann scalar reads written]
  generalize arrived : (passersBy person count).map (fun source =>
    (eventOf os glib scalar source).toRuleEvent) = events
  have unnamed : ∀ event ∈ events, event.removedTrackIds = [] := by
    rw [← arrived]
    intro event member
    obtain ⟨source, _, rfl⟩ := List.mem_map.mp member
    rfl
  let ids := (List.range count).map fun index => (UInt32.ofNat index).toInt32
  have distinct : ids.Nodup := by
    refine List.nodup_range.map_on fun first low second high same => ?_
    rw [List.mem_range] at low high
    have same := congrArg (fun value => value.toUInt32.toNat) same
    rwa [UInt32.toUInt32_toInt32, UInt32.toUInt32_toInt32,
      UInt32.toNat_ofNat_of_lt' (low.trans_le fits),
      UInt32.toNat_ofNat_of_lt' (high.trans_le fits)] at same
  have stored : ids ⊆ (rule.after {} events).personStates.keys := by
    intro trackId member
    obtain ⟨index, low, rfl⟩ := List.mem_map.mp member
    rw [Std.TreeMap.mem_keys, LeftItemRule.mem_personStates_after unnamed]
    refine .inr ?_
    rw [← arrived]
    exact ⟨_, List.mem_map_of_mem (List.mem_map_of_mem low), _,
      List.mem_map_of_mem List.mem_cons_self, tracked, rfl⟩
  have counted := distinct.length_le_of_subset stored
  rw [List.length_map, List.length_range, Std.TreeMap.length_keys] at counted
  rw [trackEntries]
  omega

theorem trackEntries_nothing (reads : Reads nlohmann get scalar)
    {sources : List (SceneSource Double Single)}
    (empty : ∀ source ∈ sources, source.record.detections = []) :
    trackEntries (rule.after {} (delivered os glib nlohmann get sources))
      (faceRule.after ∅ (delivered os glib nlohmann get sources)) = 0 := by
  have quiet : ∀ event ∈ delivered os glib nlohmann get sources,
      event.detections = [] ∧ event.removedTrackIds = [] := by
    rw [delivered_eq os glib nlohmann scalar reads]
    intro event member
    obtain ⟨scene, listed, rfl⟩ := List.mem_map.mp member
    obtain ⟨source, kept, made⟩ := List.mem_filterMap.mp listed
    rw [deliveredOf] at made
    split at made
    · obtain rfl := Option.some.inj made
      exact ⟨by simp [eventOf, empty source (List.mem_of_mem_filter kept)], rfl⟩
    · cases made
  rw [LeftItemRule.after_nothing quiet, OpenTrunkFaceRule.after_nothing faceRule quiet]
  rfl

theorem detections_eq_zero (reads : Reads nlohmann get scalar) (writable : person.Writable os)
    (tracked : LeftItemRule.TracksPerson (sightingOf os glib scalar person))
    {detections frames : Nat}
    (stays : StateBounded rule faceRule os glib nlohmann get detections frames) :
    detections = 0 := by
  obtain ⟨bound, below, bounded⟩ := stays
  by_contra shown
  have one : ∀ source ∈ passersBy person (bound + 1),
      source.record.detections.length ≤ detections := by
    intro source member
    obtain ⟨index, _, rfl⟩ := List.mem_map.mp member
    exact Nat.one_le_iff_ne_zero.mpr shown
  have within := bounded _ one (tracksRecurWithin_passersBy person below frames)
  have entries := le_trackEntries_passersBy rule faceRule reads writable tracked below
  exact absurd (entries.trans within) (Nat.not_succ_le_self bound)

/-- With a library that delivers some person at all, the entries are bounded exactly if no frame
may show anything, however short the tracks are. -/
theorem stateBounded_iff (reads : Reads nlohmann get scalar) (writable : person.Writable os)
    (tracked : LeftItemRule.TracksPerson (sightingOf os glib scalar person))
    (detections frames : Nat) :
    StateBounded rule faceRule os glib nlohmann get detections frames ↔ detections = 0 := by
  constructor
  · exact detections_eq_zero rule faceRule reads writable tracked
  · rintro rfl
    refine ⟨0, by decide, fun sources few _ => ?_⟩
    have empty : ∀ source ∈ sources, source.record.detections = [] :=
      fun source member => List.length_eq_zero_iff.mp (Nat.le_zero.mp (few source member))
    exact (trackEntries_nothing rule faceRule reads empty).le

end Delivered

theorem writable_shown (trackId : UInt32) (left : Nat) :
    (LeftItemRule.shown "person" trackId left).Writable Ostream.whole := by
  refine ⟨⟨(by decide : (utf8 "person").all isWritten = true), ?_⟩, rfl, fun _ _ => rfl,
    fun _ face => nomatch face⟩
  rw [Option.isSome_iff_exists]
  exact ⟨"person", decodeUtf8_eq_some_iff.mpr rfl⟩

theorem tracksPerson_shown (trackId : UInt32) (left : Nat) :
    LeftItemRule.TracksPerson (sightingOf Ostream.whole JsonGlib.verbatim
      (LeftItemRule.exactOf Nlohmann.sorting) (LeftItemRule.shown "person" trackId left)) := by
  have className : labelText (utf8 "person") = "person" := by decide +kernel
  have confidence : (0.4 : ℚ) ≤ LeftItemRule.exactOf Nlohmann.sorting
      (JsonGlib.verbatim.number (Ostream.whole.single 1)) := by decide +kernel
  exact ⟨className, confidence, le_refl 4⟩

def OpenTrunkFaceRule.trunkRule : OpenTrunkFaceRule ℚ :=
  ofConfig (fun _ => .json (.object [("faces", .object [
      ("ann", .array [.numberInteger 3, .numberInteger 4]),
      ("bob", .array [.numberInteger 4, .numberInteger 3])])]))
    { name := "trunk"
      priority := 1
      targetSources := ["cam0"]
      targetClasses := ["face"]
      params := [("similarity_threshold", 24 / 25), ("embedding_size", 2)]
      strParams := [("embedding_file", "faces.json")] }

theorem stateBounded_iff_person :
    StateBounded (.ofConfig LeftItemRule.bagRule) .trunkRule Ostream.whole JsonGlib.verbatim
      Nlohmann.sorting Scalar.ofJson 1 0 ↔ 1 = 0 :=
  stateBounded_iff _ _ (LeftItemRule.reads_exactOf _) (writable_shown 0 0) (tracksPerson_shown 0 0)
    1 0

/-- One person a frame and no id twice: every number of entries up to the number of ids is
reached. -/
theorem unbounded_of_passersBy :
    ¬ ∀ (rule : LeftItemRule ℚ) (faceRule : OpenTrunkFaceRule ℚ), rule.validate = .ok () →
      faceRule.validate = .ok () → ∀ detections frames,
        StateBounded rule faceRule Ostream.whole JsonGlib.verbatim Nlohmann.sorting
          Scalar.ofJson detections frames := by
  intro universal
  have stays := universal (.ofConfig LeftItemRule.bagRule) .trunkRule (by decide +kernel)
    (by decide +kernel) 1 0
  exact absurd (detections_eq_zero _ _ (LeftItemRule.reads_exactOf _) (writable_shown 0 0)
    (tracksPerson_shown 0 0) stays) one_ne_zero

end Iq9Pipeline.RuleProcess
