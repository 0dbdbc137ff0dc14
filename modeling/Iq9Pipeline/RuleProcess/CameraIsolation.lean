import Iq9Pipeline.Foundation.Reactor
import Iq9Pipeline.RuleProcess.LeftItemSteps
import Iq9Pipeline.RuleProcess.RuleEngine

/-!
Whether the cameras of one rule influence each other's alerts. The state of a rule is
kept by track id and not by camera, and the left-item rule decides on every stored
item at every event, whichever camera the event comes from.
-/

namespace Iq9Pipeline.RuleProcess

open Foundation

variable {Number : Type}

namespace LeftItemRule

def quiet (source : String) (timestamp : UInt64) : RuleEvent Number where
  sourceId := source
  timestamp := timestamp
  removedTrackIds := []
  detections := []

@[simp] theorem quiet_sourceId (source : String) (timestamp : UInt64) :
    (quiet source timestamp : RuleEvent Number).sourceId = source := rfl

end LeftItemRule

variable [Scalar Number]

namespace RuleInstance

abbrev reactor : Reactor (RuleInstance Number) (RuleEvent Number) (List Alert) :=
  fun rule event => rule.apply event

/-- No camera of the rule learns anything from the events of the others. -/
def Isolated (rule : RuleInstance Number) : Prop :=
  ∀ source ∈ rule.targetSources, reactor.Noninterfering rule
    (fun event => event.sourceId = source) fun event => event.sourceId ∈ rule.targetSources

/-- The rules whose state never matters: no rule of the other kinds ever raises an alert. -/
def Stateless : RuleInstance Number → Prop
  | .doorCollision _ => True
  | .leftItem rule _ => ∀ className ∈ rule.targetClasses, className = "person"
  | .openTrunkFace rule _ =>
      ∀ embedding, embedding ≠ [] → (rule.recognise embedding).isKnown = false

end RuleInstance

namespace LeftItemRule

variable (rule : LeftItemRule Number)

theorem scanDetection_of_no_items (persons : ∀ className ∈ rule.targetClasses,
      className = "person")
    (scanned : Std.TreeMap Int32 (PersonState Number) × Gathered Number)
    (det : Sighting Number) :
    (rule.scanDetection scanned det).2.itemUpdates = scanned.2.itemUpdates ∧
      (rule.scanDetection scanned det).2.mergeableBagBoxes = scanned.2.mergeableBagBoxes := by
  rw [scanDetection]
  by_cases person : det.className = "person"
  · simp only [person, if_true]
    split
    · split <;> exact ⟨rfl, rfl⟩
    · exact ⟨rfl, rfl⟩
  · have unlisted : rule.isItemClass det.className = false := by
      rw [isItemClass, List.contains_eq_mem, decide_eq_false_iff_not]
      exact fun member => person (persons _ member)
    simp [person, unlisted]

theorem scan_of_no_items (persons : ∀ className ∈ rule.targetClasses, className = "person")
    (states : Std.TreeMap Int32 (PersonState Number)) (detections : List (Sighting Number)) :
    rule.allItemUpdates (rule.scan states detections).2 = [] := by
  have nothing : ∀ scanned : Std.TreeMap Int32 (PersonState Number) × Gathered Number,
      (detections.foldl rule.scanDetection scanned).2.itemUpdates = scanned.2.itemUpdates ∧
        (detections.foldl rule.scanDetection scanned).2.mergeableBagBoxes =
          scanned.2.mergeableBagBoxes := by
    induction detections with
    | nil => exact fun _ => ⟨rfl, rfl⟩
    | cons det detections ih =>
        intro scanned
        have first := rule.scanDetection_of_no_items persons scanned det
        have rest := ih (rule.scanDetection scanned det)
        exact ⟨rest.1.trans first.1, rest.2.trans first.2⟩
  rw [scan, allItemUpdates, (nothing _).1, (nothing _).2]
  simp

theorem apply_of_no_items (persons : ∀ className ∈ rule.targetClasses, className = "person")
    {state : LeftItemState Number} (empty : ∀ trackId : Int32, state.itemStates[trackId]? = none)
    (event : RuleEvent Number) :
    (rule.apply state event).1 = [] ∧
      ∀ trackId : Int32, (rule.apply state event).2.itemStates[trackId]? = none := by
  have refreshed : ∀ trackId : Int32, (rule.refreshed state event).itemStates[trackId]? = none := by
    intro trackId
    rw [refreshed_lookup]
    simp [rule.scan_of_no_items persons, lastBox, empty]
  refine ⟨?_, ?_⟩
  · rw [List.eq_nil_iff_forall_not_mem]
    intro alert member
    obtain ⟨trackId, item, found, _⟩ := (rule.mem_apply state event).mp member
    rw [refreshed] at found
    simp at found
  · intro trackId
    rw [apply_lookup, refreshed]
    rfl

theorem zones_of_no_persons {state : LeftItemState Number} {event : RuleEvent Number}
    (nobody : (rule.scan state.personStates event.detections).2.personBboxes = []) :
    rule.zones state event = [] := by
  rw [zones, nobody]
  rfl

theorem zones_quiet (state : LeftItemState Number) (source : String) (timestamp : UInt64) :
    rule.zones state (quiet source timestamp) = [] :=
  rule.zones_of_no_persons rfl

theorem refreshed_quiet (state : LeftItemState Number) (source : String) (timestamp : UInt64)
    (trackId : Int32) :
    (rule.refreshed state (quiet source timestamp)).itemStates[trackId]? =
      state.itemStates[trackId]? := by
  rw [refreshed_lookup]
  simp [quiet, scan, allItemUpdates, lastBox, erasedItems, dropsUnifiedBag]

def showing (className source : String) : RuleEvent Number where
  sourceId := source
  timestamp := 1
  removedTrackIds := []
  detections := [⟨className, [0, 0, 0, 0], 1, 0, []⟩]

@[simp] theorem showing_sourceId (className source : String) :
    (showing className source : RuleEvent Number).sourceId = source := rfl

theorem scan_showing {className : String} (listed : className ∈ rule.targetClasses)
    (item : className ≠ "person") (source : String)
    (states : Std.TreeMap Int32 (PersonState Number)) :
    let gathered := (rule.scan states (showing className source).detections).2
    gathered.personBboxes = [] ∧
      ∃ trackId bbox, rule.allItemUpdates gathered = [(trackId, bbox)] := by
  have known : rule.isItemClass className = true := by
    rw [isItemClass, List.contains_eq_mem, decide_eq_true_eq]
    exact listed
  cases merged : rule.mergeHandbagBackpack && isHandbagOrBackpack className with
  | true =>
      obtain ⟨merging, bag⟩ := Bool.and_eq_true_iff.mp merged
      simp [showing, scan, scanDetection, item, known, allItemUpdates, merging, bag]
  | false => simp [showing, scan, scanDetection, item, known, merged, allItemUpdates]

structure Waiting (alerted : Bool) (state : LeftItemState Number) : Prop where
  stored : ∃ (trackId : Int32) (item : ItemState Number), state.itemStates[trackId]? = some item
  since : ∀ (trackId : Int32) (item : ItemState Number),
    state.itemStates[trackId]? = some item → item.startTs = 1 ∧ item.alerted = alerted

theorem waiting_of_showing (positive : rule.gracePeriodUs ≠ 0) {className : String}
    (listed : className ∈ rule.targetClasses) (item : className ≠ "person") (source : String) :
    (rule.apply {} (showing className source)).1 = [] ∧
      Waiting false (rule.apply {} (showing className source)).2 := by
  have noZones : rule.zones {} (showing className source) = [] :=
    rule.zones_of_no_persons (rule.scan_showing listed item source _).1
  obtain ⟨key, bbox, updates⟩ := (rule.scan_showing listed item source ∅).2
  have found : ∀ trackId : Int32,
      (rule.refreshed {} (showing className source)).itemStates[trackId]? =
        if key = trackId then some { bbox := bbox } else none := by
    intro trackId
    rw [refreshed_lookup]
    dsimp only
    rw [updates]
    by_cases same : key = trackId <;> simp [lastBox, same]
  have decided : ∀ trackId, rule.decision (showing className source) []
      (trackId, { bbox := bbox }) = ⟨trackId, false, 1, false, none⟩ := by
    intro trackId
    simp [decision, hasOwner, overdue, startTs, showing, positive]
  refine ⟨?_, ?_, ?_⟩
  · rw [List.eq_nil_iff_forall_not_mem]
    intro alert member
    obtain ⟨trackId, item, present, raised⟩ := (rule.mem_apply _ _).mp member
    rw [found] at present
    split at present
    · rw [← Option.some.inj present, noZones, decided] at raised
      simp at raised
    · simp at present
  · refine ⟨key, { bbox := bbox, startTs := 1, alerted := false }, ?_⟩
    rw [apply_lookup, found, if_pos rfl, noZones, Option.map_some, decided]
    rfl
  · intro trackId item present
    rw [apply_lookup, found, noZones] at present
    split at present
    · rw [Option.map_some, decided, Option.some.injEq] at present
      subst present
      exact ⟨rfl, rfl⟩
    · simp at present

theorem decision_of_waiting (source : String) (trackId : Int32) {item : ItemState Number}
    (started : item.startTs = 1) :
    rule.decision (quiet source (1 + rule.gracePeriodUs)) [] (trackId, item) =
      ⟨trackId, false, 1, true, if item.alerted then none
        else some (rule.itemAlert (quiet source (1 + rule.gracePeriodUs)) trackId)⟩ := by
  have waited : 1 + rule.gracePeriodUs - 1 = rule.gracePeriodUs := by
    rw [UInt64.add_comm, UInt64.add_sub_cancel]
  cases latch : item.alerted <;>
    simp [decision, hasOwner, overdue, startTs, started, latch, quiet, waited]

theorem apply_quiet_of_waiting {alerted : Bool} {state : LeftItemState Number}
    (waiting : Waiting alerted state) (source : String) :
    ((rule.apply state (quiet source (1 + rule.gracePeriodUs))).1 = [] ↔ alerted = true) ∧
      Waiting true (rule.apply state (quiet source (1 + rule.gracePeriodUs))).2 := by
  obtain ⟨⟨key, first, stored⟩, since⟩ := waiting
  refine ⟨⟨?_, ?_⟩, ?_, ?_⟩
  · intro silent
    by_contra unalerted
    have latch : first.alerted = false := by
      rw [(since key first stored).2]
      simpa using unalerted
    have raised : rule.itemAlert (quiet source (1 + rule.gracePeriodUs)) key ∈
        (rule.apply state (quiet source (1 + rule.gracePeriodUs))).1 := by
      refine (rule.mem_apply _ _).mpr ⟨key, first, ?_, ?_⟩
      · rw [refreshed_quiet, stored]
      · rw [zones_quiet, rule.decision_of_waiting source key (since key first stored).1]
        simp [latch]
    rw [silent] at raised
    simp at raised
  · intro latched
    rw [List.eq_nil_iff_forall_not_mem]
    intro alert member
    obtain ⟨trackId, item, present, raised⟩ := (rule.mem_apply _ _).mp member
    rw [refreshed_quiet] at present
    obtain ⟨started, latch⟩ := since trackId item present
    rw [zones_quiet, rule.decision_of_waiting source trackId started, latch, latched] at raised
    simp at raised
  · refine ⟨key, { first with startTs := 1, alerted := true }, ?_⟩
    rw [apply_lookup, refreshed_quiet, stored, zones_quiet, Option.map_some,
      rule.decision_of_waiting source key (since key first stored).1]
    rfl
  · intro trackId item present
    rw [apply_lookup, refreshed_quiet, zones_quiet] at present
    obtain ⟨before, found, rfl⟩ := Option.map_eq_some_iff.mp present
    rw [rule.decision_of_waiting source trackId (since trackId before found).1]
    exact ⟨rfl, rfl⟩

theorem not_isolated_of_item (positive : rule.gracePeriodUs ≠ 0) {className : String}
    (listed : className ∈ rule.targetClasses) (item : className ≠ "person") {own other : String}
    (ownTarget : own ∈ rule.targetSources) (otherTarget : other ∈ rule.targetSources)
    (apart : other ≠ own) : ¬ (RuleInstance.leftItem rule {}).Isolated := by
  intro isolated
  obtain ⟨_, waiting⟩ := rule.waiting_of_showing positive listed item own
  have alone := rule.apply_quiet_of_waiting waiting own
  have disturbed := rule.apply_quiet_of_waiting waiting other
  have silent := (rule.apply_quiet_of_waiting disturbed.2 own).1.mpr rfl
  have same := isolated own ownTarget
    [showing className own, quiet own (1 + rule.gracePeriodUs)]
    [showing className own, quiet other (1 + rule.gracePeriodUs),
      quiet own (1 + rule.gracePeriodUs)]
    (by simp [RuleInstance.targetSources, RuleInstance.config, ownTarget])
    (by simp [RuleInstance.targetSources, RuleInstance.config, ownTarget, otherTarget])
    (by simp [apart])
  simp only [Reactor.observed, Reactor.responses, RuleInstance.apply, List.filter_cons,
    showing_sourceId, quiet_sourceId, apart, decide_true, decide_false, if_true,
    Bool.false_eq_true, if_false, List.filter_nil, List.map_cons, List.map_nil,
    List.cons.injEq, true_and, and_true] at same
  rw [silent] at same
  simpa using alone.1.mp same

end LeftItemRule

namespace OpenTrunkFaceRule

variable (rule : OpenTrunkFaceRule Number)

def NobodyKnown (cache : FaceCache) : Prop :=
  ∀ (trackId : Int32) (face : FaceState), cache[trackId]? = some face → face.isKnown = false

theorem nobodyKnown_forget {cache : FaceCache} (nobody : NobodyKnown cache)
    (removed : List Int32) : NobodyKnown (forget cache removed) := by
  intro trackId face found
  rw [forget, erased_lookup] at found
  split at found
  · simp at found
  · exact nobody trackId face found

theorem lookAt_of_unknown (strangers : ∀ embedding, embedding ≠ [] →
      (rule.recognise embedding).isKnown = false)
    {cache : FaceCache} (nobody : NobodyKnown cache) (det : Sighting Number) :
    (∀ face, (rule.lookAt cache det).1 = some face → face.isKnown = false) ∧
      NobodyKnown (rule.lookAt cache det).2 := by
  rw [lookAt]
  split
  · exact ⟨by simp, nobody⟩
  · split
    · rename_i face found
      refine ⟨?_, nobody⟩
      intro same seen
      rw [← Option.some.inj seen]
      exact nobody _ _ found
    · split
      · exact ⟨by simp, nobody⟩
      · rename_i unseen present
        have unknown := strangers det.embedding (by simpa using present)
        refine ⟨?_, ?_⟩
        · intro same seen
          rw [← Option.some.inj seen]
          exact unknown
        · intro trackId face found
          rw [Std.TreeMap.getElem?_insert] at found
          split at found
          · rw [← Option.some.inj found]
            exact unknown
          · exact nobody trackId face found

theorem knownFaces_of_unknown (strangers : ∀ embedding, embedding ≠ [] →
      (rule.recognise embedding).isKnown = false)
    {cache : FaceCache} (nobody : NobodyKnown cache) (detections : List (Sighting Number)) :
    (rule.knownFaces cache detections).1 = [] ∧
      NobodyKnown (rule.knownFaces cache detections).2 := by
  induction detections generalizing cache with
  | nil => exact ⟨rfl, nobody⟩
  | cons det detections ih =>
      obtain ⟨unknown, kept⟩ := rule.lookAt_of_unknown strangers nobody det
      rw [knownFaces]
      split
      · rename_i face seen
        rw [unknown face seen]
        exact ih kept
      · exact ih kept

/-- A face that one camera shows is known to every camera by its track id. -/
theorem not_isolated_of_known {embedding : List Number} (present : embedding ≠ [])
    (known : (rule.recognise embedding).isKnown = true) {own other : String}
    (ownTarget : own ∈ rule.targetSources) (otherTarget : other ∈ rule.targetSources)
    (apart : other ≠ own) : ¬ (RuleInstance.openTrunkFace rule ∅).Isolated := by
  intro isolated
  have same := isolated own ownTarget
    [⟨own, 2, [], [⟨rule.targetClass, [], 1, 0, []⟩]⟩]
    [⟨other, 1, [], [⟨rule.targetClass, [], 1, 0, embedding⟩]⟩,
      ⟨own, 2, [], [⟨rule.targetClass, [], 1, 0, []⟩]⟩]
    (by simp [RuleInstance.targetSources, RuleInstance.config, ownTarget])
    (by simp [RuleInstance.targetSources, RuleInstance.config, ownTarget, otherTarget])
    (by simp [apart])
  simp [Reactor.observed, Reactor.responses, RuleInstance.apply, apart, apply, forget,
    knownFaces, lookAt, present, known] at same

end OpenTrunkFaceRule

namespace RuleInstance

theorem isolated_of_stateless {files : String → FaceFile} {config : RuleConfig Number}
    {rule : RuleInstance Number} (created : createRule files config = some rule)
    (stateless : rule.Stateless) : rule.Isolated := by
  intro source _
  rcases createRule_cases created with rfl | rfl | rfl
  · refine Reactor.Noninterfering.of_answers _
      (fun other => other = .doorCollision (DoorCollisionRule.ofConfig config))
      (fun event => (DoorCollisionRule.ofConfig config).apply event) ?_ ?_ rfl
    · rintro _ event rfl
      rfl
    · rintro _ event rfl
      rfl
  · refine Reactor.Noninterfering.of_answers _
      (fun other => ∃ state, other = .leftItem (LeftItemRule.ofConfig config) state ∧
        ∀ trackId : Int32, state.itemStates[trackId]? = none)
      (fun _ => []) ?_ ?_ ⟨{}, rfl, fun _ => Std.TreeMap.getElem?_emptyc⟩
    · rintro _ event ⟨state, rfl, empty⟩
      exact (LeftItemRule.apply_of_no_items _ stateless empty event).1
    · rintro _ event ⟨state, rfl, empty⟩
      exact ⟨_, rfl, (LeftItemRule.apply_of_no_items _ stateless empty event).2⟩
  · refine Reactor.Noninterfering.of_answers _
      (fun other => ∃ cache, other = .openTrunkFace (OpenTrunkFaceRule.ofConfig files config)
        cache ∧ OpenTrunkFaceRule.NobodyKnown cache)
      (fun _ => []) ?_ ?_ ⟨∅, rfl, by simp [OpenTrunkFaceRule.NobodyKnown]⟩
    · rintro _ event ⟨cache, rfl, nobody⟩
      have silent := OpenTrunkFaceRule.knownFaces_of_unknown _ stateless
        (OpenTrunkFaceRule.nobodyKnown_forget nobody event.removedTrackIds) event.detections
      simp [apply, OpenTrunkFaceRule.apply, silent.1]
    · rintro _ event ⟨cache, rfl, nobody⟩
      exact ⟨_, rfl, (OpenTrunkFaceRule.knownFaces_of_unknown _ stateless
        (OpenTrunkFaceRule.nobodyKnown_forget nobody event.removedTrackIds)
        event.detections).2⟩

/-- An accepted rule with several cameras keeps them apart exactly where no state of it
can ever matter. -/
theorem isolated_iff_stateless {files : String → FaceFile} {config : RuleConfig Number}
    {rule : RuleInstance Number} (accepted : acceptRule files config = some rule)
    (several : ∃ own ∈ config.targetSources, ∃ other ∈ config.targetSources, other ≠ own) :
    rule.Isolated ↔ rule.Stateless := by
  obtain ⟨created, valid⟩ := acceptRule_eq_some_iff.mp accepted
  refine ⟨?_, isolated_of_stateless created⟩
  intro isolated
  obtain ⟨own, ownTarget, other, otherTarget, apart⟩ := several
  rcases createRule_cases created with rfl | rfl | rfl
  · trivial
  · intro className listed
    by_contra item
    exact LeftItemRule.not_isolated_of_item _ (LeftItemRule.gracePeriodUs_ne_zero valid) listed
      item ownTarget otherTarget apart isolated
  · intro embedding present
    by_contra known
    exact OpenTrunkFaceRule.not_isolated_of_known _ present (by simpa using known) ownTarget
      otherTarget apart isolated

def twoCameras : RuleConfig Float32 where
  name := "LeftItemRule"
  priority := 1
  targetSources := ["source_000", "source_001"]
  targetClasses := ["bag"]
  params := [("grace_period_sec", 1), ("item_owner_iou_threshold", 0.5)]
  strParams := []

theorem twoCameras_accepted : acceptRule (fun _ => .missing) twoCameras =
    some (.leftItem (LeftItemRule.ofConfig twoCameras) {}) := by
  exact acceptRule_eq_some_iff.mpr ⟨rfl, by decide +kernel⟩

theorem isolated_iff_stateless_twoCameras :
    (leftItem (LeftItemRule.ofConfig twoCameras) {}).Isolated ↔
      (leftItem (LeftItemRule.ofConfig twoCameras) {}).Stateless :=
  isolated_iff_stateless twoCameras_accepted
    ⟨"source_000", by decide, "source_001", by decide, by decide⟩

theorem not_isolated_of_two_cameras :
    ¬ ∀ (files : String → FaceFile) (config : RuleConfig Float32) (rule : RuleInstance Float32),
      acceptRule files config = some rule →
        (∃ own ∈ config.targetSources, ∃ other ∈ config.targetSources, other ≠ own) →
          rule.Isolated := by
  intro universal
  have same := universal _ _ _ twoCameras_accepted
    ⟨"source_000", by decide, "source_001", by decide, by decide⟩ "source_000" (by decide)
    [⟨"source_000", 1000000, [], [⟨"bag", [0, 0, 1, 1], 7, 1, []⟩]⟩,
      ⟨"source_000", 2000000, [], [⟨"bag", [0, 0, 1, 1], 7, 1, []⟩]⟩]
    [⟨"source_000", 1000000, [], [⟨"bag", [0, 0, 1, 1], 7, 1, []⟩]⟩,
      ⟨"source_001", 2000000, [], []⟩,
      ⟨"source_000", 2000000, [], [⟨"bag", [0, 0, 1, 1], 7, 1, []⟩]⟩]
    (by decide) (by decide) rfl
  revert same
  decide +kernel

end RuleInstance

end Iq9Pipeline.RuleProcess
