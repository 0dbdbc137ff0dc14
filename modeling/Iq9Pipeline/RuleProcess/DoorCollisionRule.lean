import Iq9Pipeline.RuleProcess.Rule

/-! The door-collision rule (`rules/DoorCollisionRule.cpp`), which keeps no state. -/

namespace Iq9Pipeline.RuleProcess

variable {Number : Type} [Scalar Number]

structure DoorCollisionRule (Number : Type) extends RuleConfig Number where
  iouThreshold : Number
  useDangerZone : Bool
  hExpand : Number
  vExpand : Number
  classA : String
  classB : String

namespace DoorCollisionRule

def ofConfig (config : RuleConfig Number) : DoorCollisionRule Number where
  toRuleConfig := config
  iouThreshold := config.getParam "iou_threshold"
  useDangerZone := decide (0.5 < config.getParam "use_danger_zone")
  hExpand := config.getParam "h_expand"
  vExpand := config.getParam "v_expand"
  classA := match config.targetClasses with
    | classA :: _ :: _ => classA
    | _ => ""
  classB := match config.targetClasses with
    | _ :: classB :: _ => classB
    | _ => ""

def requiredParams : List String :=
  ["iou_threshold", "use_danger_zone", "h_expand", "v_expand"]

def validate (rule : DoorCollisionRule Number) : Status := do
  match rule.targetClasses with
  | [first, second] =>
      if first = "" ∨ second = "" ∨ first = second then
        throw "DoorCollisionRule requires exactly 2 distinct target_classes"
  | _ => throw "DoorCollisionRule requires exactly 2 distinct target_classes"
  match requiredParams.find? fun param => !rule.hasParam param with
  | some missing => throw ("Missing param: " ++ missing)
  | none => pure ()
  if rule.iouThreshold ≤ 0.0 ∨ 1.0 ≤ rule.iouThreshold then
    throw "IoU threshold must be between 0 and 1"
  if rule.hExpand < 0.0 ∨ rule.vExpand < 0.0 then
    throw "Danger zone expansion must be non-negative"

def collides (rule : DoorCollisionRule Number) (objA objB : Sighting Number) : Bool :=
  let aBbox :=
    if rule.useDangerZone then calculateDangerZone objA.bbox rule.hExpand rule.vExpand
    else objA.bbox
  rule.iouThreshold < calculateIou aBbox objB.bbox

def collisions (rule : DoorCollisionRule Number) (event : RuleEvent Number) :
    List (Int32 × Int32) :=
  let objectsA := event.detections.filter fun d => d.className = rule.classA
  let objectsB := event.detections.filter fun d =>
    d.className ≠ rule.classA ∧ d.className = rule.classB
  objectsA.flatMap fun objA =>
    (objectsB.filter fun objB => rule.collides objA objB).map fun objB =>
      (objA.trackId, objB.trackId)

def collisionAlert (rule : DoorCollisionRule Number) (event : RuleEvent Number)
    (pair : Int32 × Int32) : Alert :=
  rule.buildAlert event pair.1 (event.sourceId ++ "_" ++ rule.name ++ "_" ++
    toString pair.1.toInt ++ "_" ++ toString pair.2.toInt)

def apply (rule : DoorCollisionRule Number) (event : RuleEvent Number) : List Alert :=
  (rule.collisions event).map (rule.collisionAlert event)

end DoorCollisionRule

end Iq9Pipeline.RuleProcess
