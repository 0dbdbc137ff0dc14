import Iq9Pipeline.Json
import Iq9Pipeline.RuleProcess.DataTypes

/-!
`EventAdapter::adaptSceneUpdate` (`event_adapter.cpp`): one event for every source
that carries a complete `image_meta`. A field of the wrong type throws, and the
whole scene is lost with it.
-/

namespace Iq9Pipeline.RuleProcess

def formatSourceId (sourceId : Int32) : String :=
  let digits := toString sourceId.toInt.natAbs
  let sign := if sourceId.toInt < 0 then "-" else ""
  let zeros := String.ofList (List.replicate (3 - sign.length - digits.length) '0')
  "source_" ++ sign ++ zeros ++ digits

def adaptDetection (event : Json) : Except JsonException (Option Detection) := do
  if !event.isObject then
    return none
  let className ← event.value Json.getString "class_name" "unknown"
  let trackId ← event.value Json.getInt "track_id" 0
  let confidence ← event.value Json.getFloat "confidence" 1
  let bbox ← match event.find "bbox" with
    | some (.array corners) =>
        if corners.length = 4 then Json.getVector Json.getFloat (.array corners) else pure []
    | _ => pure []
  let embedding ← match event.find "embedding" with
    | some (.array values) => Json.getVector Json.getFloat (.array values)
    | _ => pure []
  return some {
    className := className
    bbox := bbox
    trackId := trackId
    confidence := confidence
    embedding := embedding
  }

/-- One round of the loop over the sources, `none` where the loop skips the source. -/
def adaptSource (source : Json) : Except JsonException (Option EventMeta) := do
  if !source.isObject then
    return none
  if source.contains "image_path" || source.contains "rgba_path" then
    return none
  match source.find "image_meta" with
  | some (.object members) =>
      let imageMeta := Json.object members
      match imageMeta.find "slot_index", imageMeta.find "width", imageMeta.find "height" with
      | some slotIndex, some width, some height =>
          let sourceId ← source.value Json.getInt "source_id" 0
          let timestampNs ← source.value Json.getUInt64 "timestamp_ns" 0
          let slotIndex ← slotIndex.getUInt32
          let width ← width.getUInt32
          let height ← height.getUInt32
          let channels ← imageMeta.value Json.getUInt32 "channels" 3
          let removedTrackIds ← match source.find "removed_track_ids" with
            | some (.array ids) => Json.getVector Json.getInt (.array ids)
            | _ => pure []
          let detections ← match source.find "events" with
            | some (.array events) => events.filterMapM adaptDetection
            | _ => pure []
          return some {
            sourceId := formatSourceId sourceId
            sourceIdNum := sourceId
            timestamp := timestampNs / 1000
            removedTrackIds := removedTrackIds
            detections := detections
            slotIndex := slotIndex
            width := width
            height := height
            channels := channels
            timestampNs := timestampNs
          }
      | _, _, _ => return none
  | _ => return none

def adaptSceneUpdate (parse : List UInt8 → Option Json) (sceneJson : List UInt8) :
    Except JsonException (List EventMeta) := do
  match parse sceneJson with
  | none => return []
  | some json =>
      if (← json.value Json.getString "type" "") ≠ "scene_update" then
        return []
      match json.find "sources" with
      | some (.array sources) => sources.filterMapM adaptSource
      | _ => return []

end Iq9Pipeline.RuleProcess
