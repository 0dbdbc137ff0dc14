import Iq9Pipeline.RuleProcess.Rule
import Std.Data.TreeMap.Lemmas

/-!
The left-item rule (`rules/LeftItemRule.cpp`), in the parts that its lock separates:
the scan of the detections, the update of the state with its snapshot, the decision
on every item of the snapshot, and the write-back.
-/

namespace Iq9Pipeline.RuleProcess

variable {Number : Type} [Scalar Number]

def unifiedBagTrackId : Int32 := -1000

def isHandbagOrBackpack (className : String) : Bool :=
  className = "handbag" || className = "backpack"

def unionBboxXYXY : List (List Number) → List Number
  | (x1 :: y1 :: x2 :: y2 :: _) :: boxes =>
      boxes.foldl (fun union box =>
        match union, box with
        | [x1, y1, x2, y2], left :: top :: right :: bottom :: _ =>
            [stdMin x1 left, stdMin y1 top, stdMax x2 right, stdMax y2 bottom]
        | _, _ => union) [x1, y1, x2, y2]
  | _ => []

structure ItemState (Number : Type) where
  bbox : List Number := []
  startTs : UInt64 := 0
  alerted : Bool := false

structure PersonState (Number : Type) where
  lastCx : Number
  lastCy : Number
  staticFrames : Nat

structure LeftItemRule (Number : Type) extends RuleConfig Number where
  gracePeriodUs : UInt64
  itemOwnerIouThreshold : Number
  mergeHandbagBackpack : Bool
  itemOwnerHExpand : Number
  itemOwnerVExpand : Number

structure LeftItemState (Number : Type) where
  itemStates : Std.TreeMap Int32 (ItemState Number) := ∅
  personStates : Std.TreeMap Int32 (PersonState Number) := ∅
  cachedUnifiedBagTrackIds : List Int32 := []

structure Gathered (Number : Type) where
  personBboxes : List (List Number) := []
  itemUpdates : List (Int32 × List Number) := []
  mergeableBagBoxes : List (List Number) := []
  mergeableBagTrackIds : List Int32 := []

structure Decision where
  trackId : Int32
  hasOwner : Bool
  startTs : UInt64
  alerted : Bool
  alert : Option Alert

namespace LeftItemRule

def ofConfig (config : RuleConfig Number) : LeftItemRule Number where
  toRuleConfig := config
  gracePeriodUs := Scalar.toUInt64 (config.getParam "grace_period_sec" * 1000000.0)
  itemOwnerIouThreshold := config.getParam "item_owner_iou_threshold"
  mergeHandbagBackpack := decide (0.5 ≤ config.getParam "merge_handbag_backpack")
  itemOwnerHExpand := config.getParam "item_owner_h_expand"
  itemOwnerVExpand := config.getParam "item_owner_v_expand"

def validate (rule : LeftItemRule Number) : Status := do
  if !rule.hasParam "grace_period_sec" then
    throw "Missing param: grace_period_sec"
  if !rule.hasParam "item_owner_iou_threshold" then
    throw "Missing param: item_owner_iou_threshold"
  if rule.gracePeriodUs = 0 then
    throw "Grace period must be positive"
  if rule.itemOwnerIouThreshold < 0.0 ∨ 1.0 < rule.itemOwnerIouThreshold then
    throw "item_owner_iou_threshold must be between 0 and 1"
  if rule.itemOwnerHExpand < 0.0 ∨ rule.itemOwnerVExpand < 0.0 then
    throw "item_owner_h_expand / item_owner_v_expand must be non-negative"

def isStaticPerson (persons : Std.TreeMap Int32 (PersonState Number)) (trackId : Int32)
    (bbox : List Number) : Bool × Std.TreeMap Int32 (PersonState Number) :=
  match bbox with
  | x1 :: y1 :: x2 :: y2 :: _ =>
      let cx := (x1 + x2) * 0.5
      let cy := (y1 + y2) * 0.5
      let ps := persons.getD trackId ⟨-1.0, -1.0, 0⟩
      if ps.lastCx < 0.0 then
        -- right of 0.45 and touching the bottom at its first sight: likely a chair
        let chair := decide (0.96 < y2) && decide (0.45 < cx)
        (chair, persons.insert trackId ⟨cx, cy, if chair then 1 else ps.staticFrames⟩)
      else
        let dx := cx - ps.lastCx
        let dy := cy - ps.lastCy
        if Scalar.sqrt (dx * dx + dy * dy) < 0.008 then
          let staticFrames := ps.staticFrames + 1
          (decide (1 ≤ staticFrames), persons.insert trackId ⟨cx, cy, staticFrames⟩)
        else (false, persons.insert trackId ⟨cx, cy, 0⟩)
  | _ => (false, persons)

def isItemClass (rule : LeftItemRule Number) (className : String) : Bool :=
  rule.targetClasses.contains className

def scanDetection (rule : LeftItemRule Number)
    (scanned : Std.TreeMap Int32 (PersonState Number) × Gathered Number)
    (det : Sighting Number) : Std.TreeMap Int32 (PersonState Number) × Gathered Number :=
  let (persons, gathered) := scanned
  if det.className = "person" then
    if 0.4 ≤ det.confidence then
      let (isStatic, persons) := isStaticPerson persons det.trackId det.bbox
      if isStatic then (persons, gathered)
      else (persons, { gathered with personBboxes := gathered.personBboxes ++ [det.bbox] })
    else (persons, gathered)
  else if !rule.isItemClass det.className then (persons, gathered)
  else if rule.mergeHandbagBackpack && isHandbagOrBackpack det.className then
    if 4 ≤ det.bbox.length then
      (persons, { gathered with
        mergeableBagBoxes := gathered.mergeableBagBoxes ++ [det.bbox]
        mergeableBagTrackIds := gathered.mergeableBagTrackIds ++ [det.trackId] })
    else (persons, gathered)
  else
    (persons, { gathered with
      itemUpdates := gathered.itemUpdates ++ [(det.trackId, det.bbox)] })

def scan (rule : LeftItemRule Number) (persons : Std.TreeMap Int32 (PersonState Number))
    (detections : List (Sighting Number)) :
    Std.TreeMap Int32 (PersonState Number) × Gathered Number :=
  detections.foldl rule.scanDetection (persons, {})

def allItemUpdates (rule : LeftItemRule Number) (gathered : Gathered Number) :
    List (Int32 × List Number) :=
  if rule.mergeHandbagBackpack && !gathered.mergeableBagBoxes.isEmpty then
    gathered.itemUpdates ++ [(unifiedBagTrackId, unionBboxXYXY gathered.mergeableBagBoxes)]
  else gathered.itemUpdates

def dropsUnifiedBag (rule : LeftItemRule Number) (state : LeftItemState Number)
    (removedTrackIds : List Int32) : Bool :=
  rule.mergeHandbagBackpack &&
    removedTrackIds.any fun rid => state.cachedUnifiedBagTrackIds.contains rid

def erasedItems (rule : LeftItemRule Number) (state : LeftItemState Number)
    (removedTrackIds : List Int32) : List Int32 :=
  if rule.dropsUnifiedBag state removedTrackIds then removedTrackIds ++ [unifiedBagTrackId]
  else removedTrackIds

def putBox (items : Std.TreeMap Int32 (ItemState Number)) (update : Int32 × List Number) :
    Std.TreeMap Int32 (ItemState Number) :=
  items.insert update.1 { items.getD update.1 {} with bbox := update.2 }

/-- The update of the state under the lock; the snapshot is `workItems` of its result. -/
def updateState (rule : LeftItemRule Number) (state : LeftItemState Number)
    (removedTrackIds : List Int32) (gathered : Gathered Number) : LeftItemState Number where
  itemStates :=
    (rule.allItemUpdates gathered).foldl putBox
      ((rule.erasedItems state removedTrackIds).foldl (fun items rid => items.erase rid)
        state.itemStates)
  personStates := removedTrackIds.foldl (fun persons rid => persons.erase rid) state.personStates
  cachedUnifiedBagTrackIds :=
    if rule.mergeHandbagBackpack && !gathered.mergeableBagBoxes.isEmpty then
      gathered.mergeableBagTrackIds
    else if rule.dropsUnifiedBag state removedTrackIds then []
    else state.cachedUnifiedBagTrackIds

def personOwnerZones (rule : LeftItemRule Number) (personBboxes : List (List Number)) :
    List (List Number) :=
  (personBboxes.filter fun bbox => 4 ≤ bbox.length).map fun bbox =>
    calculateDangerZone bbox rule.itemOwnerHExpand rule.itemOwnerVExpand

def hasOwner (rule : LeftItemRule Number) (zones : List (List Number)) (bbox : List Number) :
    Bool :=
  zones.any fun zone => rule.itemOwnerIouThreshold < calculateIou zone bbox

def itemAlert (rule : LeftItemRule Number) (event : RuleEvent Number) (trackId : Int32) : Alert :=
  if trackId = unifiedBagTrackId then
    rule.buildAlert event unifiedBagTrackId (event.sourceId ++ "_" ++ rule.name ++ "_merged_bag")
  else rule.buildAlert event trackId ""

def startTs (event : RuleEvent Number) (state : ItemState Number) : UInt64 :=
  if state.startTs = 0 then event.timestamp else state.startTs

def overdue (rule : LeftItemRule Number) (event : RuleEvent Number) (state : ItemState Number) :
    Bool :=
  rule.gracePeriodUs ≤ event.timestamp - startTs event state

def decision (rule : LeftItemRule Number) (event : RuleEvent Number) (zones : List (List Number))
    (item : Int32 × ItemState Number) : Decision :=
  let (trackId, state) := item
  if rule.hasOwner zones state.bbox then
    { trackId := trackId, hasOwner := true, startTs := 0, alerted := false, alert := none }
  else
    let raises := !state.alerted && rule.overdue event state
    { trackId := trackId
      hasOwner := false
      startTs := startTs event state
      alerted := state.alerted || raises
      alert := if raises then some (rule.itemAlert event trackId) else none }

def workItems (state : LeftItemState Number) : List (Int32 × ItemState Number) :=
  state.itemStates.toList

def writeBack (state : LeftItemState Number) (decisions : List Decision) :
    LeftItemState Number where
  itemStates := decisions.foldl (fun items decision =>
    items.modify decision.trackId fun item =>
      { item with startTs := decision.startTs, alerted := decision.alerted }) state.itemStates
  personStates := state.personStates
  cachedUnifiedBagTrackIds := state.cachedUnifiedBagTrackIds

def refreshed (rule : LeftItemRule Number) (state : LeftItemState Number)
    (event : RuleEvent Number) : LeftItemState Number :=
  let scanned := rule.scan state.personStates event.detections
  rule.updateState { state with personStates := scanned.1 } event.removedTrackIds scanned.2

def zones (rule : LeftItemRule Number) (state : LeftItemState Number)
    (event : RuleEvent Number) : List (List Number) :=
  rule.personOwnerZones (rule.scan state.personStates event.detections).2.personBboxes

def decisions (rule : LeftItemRule Number) (state : LeftItemState Number)
    (event : RuleEvent Number) : List Decision :=
  (workItems (rule.refreshed state event)).map (rule.decision event (rule.zones state event))

def apply (rule : LeftItemRule Number) (state : LeftItemState Number) (event : RuleEvent Number) :
    List Alert × LeftItemState Number :=
  let decisions := rule.decisions state event
  (decisions.filterMap Decision.alert, writeBack (rule.refreshed state event) decisions)

end LeftItemRule

end Iq9Pipeline.RuleProcess
