import Iq9Pipeline.RuleProcess.LeftItemTimer
import Iq9Pipeline.RuleProcess.SceneArrival

/-!
Whether an alert about a left item goes back to a frame that showed the item without an
owner. The scene records never name a removed track, so the rule goes on judging the last
known box of an item that is out of view.
-/

namespace Iq9Pipeline.RuleProcess

open Foundation.JsonText MultiCam

theorem forall_split_iff {α : Type} {P : List α → α → Prop} {items : List α} :
    (∀ earlier item later, items = earlier ++ item :: later → P earlier item) ↔
      ∀ index : Fin items.length, P (items.take index) items[index] := by
  constructor
  · intro each index
    refine each (items.take index) items[index] (items.drop (index + 1)) ?_
    simp
  · rintro each earlier item later rfl
    have here := each ⟨earlier.length, by simp⟩
    simpa using here

variable {Number : Type} [Scalar Number]

namespace LeftItemRule

variable (rule : LeftItemRule Number)

def boxes (trackId : Int32) (visit : Visit Number) : List (List Number) :=
  (visit.event.detections.filter fun det =>
    det.trackId = trackId ∧ det.className ≠ "person" ∧ rule.isItemClass det.className = true).map
      Sighting.bbox

def SightedUnowned (trackId : Int32) (visit : Visit Number) : Prop :=
  ∃ bbox ∈ rule.boxes trackId visit,
    rule.hasOwner (rule.zones visit.state visit.event) bbox = false

instance (trackId : Int32) (visit : Visit Number) :
    Decidable (rule.SightedUnowned trackId visit) :=
  inferInstanceAs (Decidable (∃ bbox ∈ rule.boxes trackId visit, _))

/-- Every alert of the run is about an item that was sighted without an owner by then. -/
def Backed (visits : List (Visit Number)) : Prop :=
  ∀ earlier visit later, visits = earlier ++ visit :: later →
    ∀ alert ∈ (rule.apply visit.state visit.event).1,
      ∃ sighted ∈ earlier ++ [visit], rule.SightedUnowned alert.trackId sighted

/-- The frame does not show the item, whose timer is not running, and nobody's zone covers
the box that it was last seen in. -/
def ForsakenUnseen (visit : Visit Number) (item : Int32 × ItemState Number) : Prop :=
  rule.boxes item.1 visit = [] ∧ item.2.startTs = 0 ∧
    rule.hasOwner (rule.zones visit.state visit.event) item.2.bbox = false

instance (visit : Visit Number) (item : Int32 × ItemState Number) :
    Decidable (rule.ForsakenUnseen visit item) :=
  inferInstanceAs (Decidable (_ ∧ _ ∧ _))

def ForsakesSighted (visits : List (Visit Number)) : Prop :=
  ∀ earlier visit later, visits = earlier ++ visit :: later →
    ∀ item ∈ workItems visit.state, rule.ForsakenUnseen visit item →
      ∃ sighted ∈ earlier, rule.SightedUnowned item.1 sighted

instance (visits : List (Visit Number)) : Decidable (rule.ForsakesSighted visits) :=
  decidable_of_iff _ (forall_split_iff (P := fun earlier visit =>
    ∀ item ∈ workItems visit.state, rule.ForsakenUnseen visit item →
      ∃ sighted ∈ earlier, rule.SightedUnowned item.1 sighted)).symm

variable {rule}

theorem itemUpdates_scanDetection (unmerged : rule.mergeHandbagBackpack = false)
    (scanned : Std.TreeMap Int32 (PersonState Number) × Gathered Number)
    (det : Sighting Number) :
    (rule.scanDetection scanned det).2.itemUpdates = scanned.2.itemUpdates ++
      if det.className ≠ "person" ∧ rule.isItemClass det.className = true then
        [(det.trackId, det.bbox)]
      else [] := by
  rw [scanDetection]
  by_cases person : det.className = "person"
  · simp only [person, if_true]
    split
    · split <;> simp
    · simp
  · by_cases listed : rule.isItemClass det.className = true
    · simp [person, listed, unmerged]
    · simp [person, listed]

theorem mem_allItemUpdates (unmerged : rule.mergeHandbagBackpack = false)
    {visit : Visit Number} {trackId : Int32} {bbox : List Number} :
    (trackId, bbox) ∈ rule.allItemUpdates
        (rule.scan visit.state.personStates visit.event.detections).2 ↔
      bbox ∈ rule.boxes trackId visit := by
  have updates : ∀ (detections : List (Sighting Number))
      (scanned : Std.TreeMap Int32 (PersonState Number) × Gathered Number),
      (trackId, bbox) ∈ (detections.foldl rule.scanDetection scanned).2.itemUpdates ↔
        (trackId, bbox) ∈ scanned.2.itemUpdates ∨ ∃ det ∈ detections,
          (det.trackId = trackId ∧ det.className ≠ "person" ∧
            rule.isItemClass det.className = true) ∧ det.bbox = bbox := by
    intro detections
    induction detections with
    | nil => simp
    | cons det detections ih =>
        intro scanned
        rw [List.foldl_cons, ih, itemUpdates_scanDetection unmerged, List.mem_append, or_assoc,
          List.exists_mem_cons_iff]
        refine or_congr_right (or_congr_left ?_)
        split
        · rename_i item
          simp [item, eq_comm]
        · rename_i other
          constructor
          · simp
          · rintro ⟨⟨_, item⟩, _⟩
            exact absurd item other
  rw [allItemUpdates, unmerged, Bool.false_and, if_neg Bool.false_ne_true, scan, updates]
  simp [boxes, and_assoc]

/-- A call that finds an item unowned either sees it so or goes by the box it has stored. -/
theorem sighted_or_stored_of_unowned (unmerged : rule.mergeHandbagBackpack = false)
    {visit : Visit Number} {trackId : Int32} (unowned : rule.Unowned trackId visit) :
    rule.SightedUnowned trackId visit ∨
      ∃ item, visit.state.itemStates[trackId]? = some item ∧
        (item.startTs = 0 → rule.ForsakenUnseen visit (trackId, item)) := by
  obtain ⟨item, found, free⟩ := unowned
  have lookup := rule.refreshed_lookup visit.state visit.event trackId
  dsimp only at lookup
  rw [found] at lookup
  cases last : lastBox trackId (rule.allItemUpdates
      (rule.scan visit.state.personStates visit.event.detections).2) with
  | some bbox =>
      have shown := (mem_allItemUpdates unmerged).mp (mem_of_lastBox last)
      simp only [last, Option.some.injEq] at lookup
      subst lookup
      exact .inl ⟨bbox, shown, free⟩
  | none =>
      have hidden : rule.boxes trackId visit = [] := by
        rw [List.eq_nil_iff_forall_not_mem]
        intro bbox shown
        have listed := List.mem_map_of_mem (f := Prod.fst)
          ((mem_allItemUpdates unmerged).mpr shown)
        rw [← lastBox_isSome_iff, last] at listed
        exact Bool.false_ne_true listed
      simp only [last] at lookup
      obtain ⟨_, stored⟩ := Option.ite_none_left_eq_some.mp lookup.symm
      exact .inr ⟨item, stored, fun idle => ⟨hidden, idle, free⟩⟩

def TimersSighted (rule : LeftItemRule Number) (past : List (Visit Number))
    (state : LeftItemState Number) : Prop :=
  ∀ trackId item, state.itemStates[trackId]? = some item → item.startTs ≠ 0 →
    ∃ sighted ∈ past, rule.SightedUnowned trackId sighted

theorem sighted_of_unowned (unmerged : rule.mergeHandbagBackpack = false)
    {past : List (Visit Number)} {visit : Visit Number}
    (timers : rule.TimersSighted past visit.state)
    (forsaken : ∀ item ∈ workItems visit.state, rule.ForsakenUnseen visit item →
      ∃ sighted ∈ past, rule.SightedUnowned item.1 sighted)
    {trackId : Int32} (unowned : rule.Unowned trackId visit) :
    ∃ sighted ∈ past ++ [visit], rule.SightedUnowned trackId sighted := by
  rcases sighted_or_stored_of_unowned unmerged unowned with now | ⟨item, stored, unseen⟩
  · exact ⟨visit, by simp, now⟩
  · have earlier : ∃ sighted ∈ past, rule.SightedUnowned trackId sighted := by
      by_cases idle : item.startTs = 0
      · exact forsaken (trackId, item) (mem_workItems.mpr stored) (unseen idle)
      · exact timers trackId item stored idle
    obtain ⟨sighted, member, free⟩ := earlier
    exact ⟨sighted, List.mem_append_left _ member, free⟩

theorem unowned_of_mem_apply {visit : Visit Number} {alert : Alert}
    (raised : alert ∈ (rule.apply visit.state visit.event).1) :
    rule.Unowned alert.trackId visit := by
  obtain ⟨trackId, item, found, built⟩ := rule.mem_apply visit.state visit.event |>.mp raised
  have named : alert.trackId = trackId := by
    rw [rule.eq_itemAlert_of_decision built, itemAlert_trackId]
  refine ⟨item, named ▸ found, ?_⟩
  by_contra attended
  rw [rule.decision_of_owned (by simpa using attended)] at built
  exact nomatch built

theorem unowned_of_startTs {visit : Visit Number} {trackId : Int32} {item : ItemState Number}
    (stored : (rule.apply visit.state visit.event).2.itemStates[trackId]? = some item)
    (running : item.startTs ≠ 0) : rule.Unowned trackId visit := by
  by_contra settled
  have idle := timer_of_not_unowned settled
  rw [LeftItemState.timer, stored] at idle
  exact running (congrArg Timer.startTs idle)

theorem exists_of_visits_eq {state : LeftItemState Number} {events : List (RuleEvent Number)}
    {earlier later : List (Visit Number)} {visit : Visit Number}
    (split : rule.visits state events = earlier ++ visit :: later) :
    ∃ before rest, events = before ++ rest ∧ rule.visits state before = earlier ∧
      rule.after state before = visit.state := by
  induction events generalizing state earlier with
  | nil => simp [visits] at split
  | cons event events ih =>
      rw [visits] at split
      cases earlier with
      | nil =>
          rw [List.nil_append, List.cons.injEq] at split
          exact ⟨[], event :: events, rfl, rfl, congrArg Visit.state split.1⟩
      | cons first earlier =>
          rw [List.cons_append, List.cons.injEq] at split
          obtain ⟨before, rest, same, seen, reached⟩ := ih split.2
          refine ⟨event :: before, rest, by rw [same, List.cons_append], ?_, reached⟩
          rw [visits, seen, split.1]

theorem ForsakesSighted.of_append {before rest : List (RuleEvent Number)}
    {state : LeftItemState Number}
    (forsakes : rule.ForsakesSighted (rule.visits state (before ++ rest))) :
    rule.ForsakesSighted (rule.visits state before) := by
  intro earlier visit later split
  refine forsakes earlier visit (later ++ rule.visits (rule.after state before) rest) ?_
  rw [visits_append, split, List.append_assoc, List.cons_append]

theorem timersSighted_after (unmerged : rule.mergeHandbagBackpack = false)
    {events : List (RuleEvent Number)}
    (forsakes : rule.ForsakesSighted (rule.visits {} events)) :
    rule.TimersSighted (rule.visits {} events) (rule.after {} events) := by
  induction events using List.reverseRecOn with
  | nil => simp [TimersSighted, after]
  | append_singleton before event ih =>
      have timers := ih forsakes.of_append
      rw [visits_append] at forsakes ⊢
      intro trackId item stored running
      rw [after, List.foldl_append] at stored
      exact sighted_of_unowned unmerged timers (forsakes _ _ [] rfl)
        (unowned_of_startTs stored running)

theorem backed_of_forsakesSighted (unmerged : rule.mergeHandbagBackpack = false)
    {events : List (RuleEvent Number)}
    (forsakes : rule.ForsakesSighted (rule.visits {} events)) :
    rule.Backed (rule.visits {} events) := by
  intro earlier visit later split alert raised
  obtain ⟨before, rest, rfl, rfl, reached⟩ := exists_of_visits_eq split
  have timers := timersSighted_after unmerged forsakes.of_append
  rw [reached] at timers
  exact sighted_of_unowned unmerged timers (forsakes _ _ _ split) (unowned_of_mem_apply raised)

section Delivered

variable {Double Single : Type} [OfNat Number 1]

theorem alerts_backed (unmerged : rule.mergeHandbagBackpack = false) (os : Ostream Double Single)
    (glib : JsonGlib) (nlohmann : Nlohmann) (get : Json → Except JsonException Number)
    (sources : List (SceneSource Double Single))
    (forsakes : rule.ForsakesSighted (rule.visits {} (delivered os glib nlohmann get sources))) :
    rule.Backed (rule.visits {} (delivered os glib nlohmann get sources)) :=
  backed_of_forsakesSighted unmerged forsakes

end Delivered

def exactOf (nlohmann : Nlohmann) (word : List UInt8) : ℚ :=
  match Scalar.ofJson (nlohmann.number word) with
  | .ok value => value
  | .error _ => 0

theorem reads_exactOf (nlohmann : Nlohmann) :
    Reads nlohmann Scalar.ofJson (exactOf nlohmann) := by
  apply reads_of_isNumber nlohmann fun _ => Json.getNumber_of_isNumber
  intro word value got
  rw [exactOf, show Scalar.ofJson (nlohmann.number word) = .ok value from got]

def bagRule : RuleConfig ℚ where
  name := "LeftItemRule"
  priority := 1
  targetSources := ["source_000"]
  targetClasses := ["bag"]
  params := [("grace_period_sec", 1), ("item_owner_iou_threshold", 0.5)]
  strParams := []

def shown (label : String) (trackId : UInt32) (left : Nat) : DetectionRecord Nat Nat where
  trackId := trackId
  label := utf8 label
  score := 1
  left := left
  top := 0
  right := left + 4
  bottom := 4
  face := none

def shot (timestampNs : UInt64) (detections : List (DetectionRecord Nat Nat)) :
    SceneSource Nat Nat where
  record := {
    channelId := 0
    imagePath := 0
    frameId := 1
    timestampNs := timestampNs
    detections := detections }
  metaWidth := 64
  metaHeight := 64

/-- The bag is sighted alone once, and overdue two seconds later. -/
theorem alerts_backed_bagLeft :
    (ofConfig bagRule).Backed ((ofConfig bagRule).visits {} (delivered Ostream.whole
      JsonGlib.verbatim Nlohmann.sorting Scalar.ofJson
      [shot 1000000000 [shown "bag" 7 0], shot 3000000000 []])) := by
  refine alerts_backed (by decide +kernel) _ _ _ _ _ ?_
  rw [delivered_of_writable _ _ _ _ (reads_exactOf _) (by decide +kernel)]
  decide +kernel

def comesAndGoes : List (SceneSource Nat Nat) :=
  [shot 1000000000 [shown "person" 3 10], shot 2000000000 [shown "bag" 7 0, shown "person" 3 0],
    shot 3000000000 [], shot 5000000000 []]

theorem alert_unbacked : ¬ ∀ (config : RuleConfig ℚ) (os : Ostream Nat Nat) (glib : JsonGlib)
    (nlohmann : Nlohmann) (channelId : UInt32) (sources : List (SceneSource Nat Nat)),
    (ofConfig config).validate = .ok () → (ofConfig config).mergeHandbagBackpack = false →
    (∀ source ∈ sources, source.record.channelId = channelId ∧ source.record.timestampNs ≠ 0) →
    (sources.Pairwise fun first second => first.record.timestampNs < second.record.timestampNs) →
      (ofConfig config).Backed
        ((ofConfig config).visits {} (delivered os glib nlohmann Scalar.ofJson sources)) := by
  intro universal
  have backed := universal bagRule Ostream.whole JsonGlib.verbatim Nlohmann.sorting 0 comesAndGoes
    (by decide +kernel) (by decide +kernel) (by decide) (by decide)
  rw [delivered_of_writable _ _ _ _ (reads_exactOf _) (by decide +kernel)] at backed
  have last := backed [_, _, _] _ [] rfl
  revert last
  decide +kernel

end LeftItemRule

end Iq9Pipeline.RuleProcess
