import Iq9Pipeline.Foundation.JsonReader
import Iq9Pipeline.Foundation.JsonTree
import Iq9Pipeline.RuleProcess.EventAdapter
import Iq9Pipeline.RuleProcess.Rule

/-!
What the rule process reads of a scene text. The library turns the value of a text into
its own objects, whose members it keeps in an order of its own; the adapter is restated
over any type of scalars, of which the program's is the instance at `float`.
-/

namespace Iq9Pipeline

open Foundation.JsonText

namespace Json

mutual

def ofValue (number : List UInt8 → Json) (arrange : List (String × Json) → List (String × Json)) :
    Value → Json
  | .null => .null
  | .boolean value => .boolean value
  | .number word => number word
  | .string text => .string text
  | .array elements => .array (ofElements number arrange elements)
  | .object members => .object (arrange (ofMembers number arrange members))

def ofElements (number : List UInt8 → Json)
    (arrange : List (String × Json) → List (String × Json)) : List Value → List Json
  | [] => []
  | next :: rest => ofValue number arrange next :: ofElements number arrange rest

def ofMembers (number : List UInt8 → Json)
    (arrange : List (String × Json) → List (String × Json)) :
    List (String × Value) → List (String × Json)
  | [] => []
  | (name, value) :: rest => (name, ofValue number arrange value) :: ofMembers number arrange rest

end

def isNumber : Json → Bool
  | .numberInteger _ => true
  | .numberUnsigned _ => true
  | .numberFloat _ => true
  | _ => false

theorem getNumber_of_isNumber {Number : Type} {ofBool : Bool → Number}
    {ofInteger : Int64 → Number} {ofUnsigned : UInt64 → Number} {ofFloat : JsonDouble → Number}
    {json : Json} (number : json.isNumber = true) :
    ∃ value, getNumber ofBool ofInteger ofUnsigned ofFloat json = .ok value := by
  cases json with
  | numberInteger value => exact ⟨_, rfl⟩
  | numberUnsigned value => exact ⟨_, rfl⟩
  | numberFloat value => exact ⟨_, rfl⟩
  | _ => cases number

theorem ofElements_eq_map (number : List UInt8 → Json)
    (arrange : List (String × Json) → List (String × Json)) (elements : List Value) :
    ofElements number arrange elements = elements.map (ofValue number arrange) := by
  induction elements with
  | nil => rfl
  | cons next rest ih => rw [ofElements, ih, List.map_cons]

theorem ofMembers_eq_map (number : List UInt8 → Json)
    (arrange : List (String × Json) → List (String × Json)) (members : List (String × Value)) :
    ofMembers number arrange members =
      members.map fun member => (member.1, ofValue number arrange member.2) := by
  induction members with
  | nil => rfl
  | cons member rest ih => rw [ofMembers, ih, List.map_cons]

theorem find?_eq_some_iff {members : List (String × Json)}
    (distinct : (members.map Prod.fst).Nodup) {member : String × Json} {key : String} :
    (members.find? fun member => member.1 = key) = some member ↔
      member ∈ members ∧ member.1 = key := by
  constructor
  · intro found
    exact ⟨List.mem_of_find?_eq_some found, by simpa using List.find?_some found⟩
  · rintro ⟨listed, named⟩
    have present : (members.find? fun member => member.1 = key).isSome = true :=
      List.find?_isSome.mpr ⟨member, listed, decide_eq_true named⟩
    obtain ⟨other, found⟩ := Option.isSome_iff_exists.mp present
    have named' : other.1 = key := by simpa using List.find?_some found
    have same : other = member := List.inj_on_of_nodup_map distinct
      (List.mem_of_find?_eq_some found) listed (named'.trans named.symm)
    rw [found, same]

theorem find?_perm {first second : List (String × Json)} (same : first.Perm second)
    (distinct : (second.map Prod.fst).Nodup) (key : String) :
    (first.find? fun member => member.1 = key) = second.find? fun member => member.1 = key := by
  have distinct' : (first.map Prod.fst).Nodup := (same.map Prod.fst).nodup_iff.mpr distinct
  ext member
  rw [find?_eq_some_iff distinct', find?_eq_some_iff distinct, same.mem_iff]

end Json

/-- What the rule process uses of nlohmann::json: the parser, what it makes of a number,
and the order in which it keeps the members of an object. -/
structure Nlohmann where
  parse : List UInt8 → Option Json
  number : List UInt8 → Json
  arrange : List (String × Json) → List (String × Json)
  decodes : ∀ text value, Denotes text value → value.Distinct →
    parse text = some (Json.ofValue number arrange value)
  arrange_perm : ∀ members, (members.map Prod.fst).Nodup → (arrange members).Perm members
  number_decimal : ∀ value, value < 2 ^ 64 →
    number (decimal value) = .numberUnsigned (UInt64.ofNat value)
  isNumber_number : ∀ word, isNumber word = true → (number word).isNumber = true

namespace Nlohmann

variable (nlohmann : Nlohmann)

def json (value : Value) : Json :=
  Json.ofValue nlohmann.number nlohmann.arrange value

@[simp] theorem json_number (word : List UInt8) :
    nlohmann.json (.number word) = nlohmann.number word :=
  rfl

@[simp] theorem json_string (text : String) : nlohmann.json (.string text) = .string text :=
  rfl

@[simp] theorem json_array (elements : List Value) :
    nlohmann.json (.array elements) = .array (elements.map nlohmann.json) := by
  rw [json, Json.ofValue, Json.ofElements_eq_map]
  rfl

theorem json_object (members : List (String × Value)) :
    ∃ listed, nlohmann.json (.object members) = .object listed := by
  rw [json, Json.ofValue]
  exact ⟨_, rfl⟩

theorem find_object {members : List (String × Value)} (distinct : (members.map Prod.fst).Nodup)
    (key : String) :
    (nlohmann.json (.object members)).find key =
      (members.find? fun member => member.1 = key).map fun member => nlohmann.json member.2 := by
  have names : ((Json.ofMembers nlohmann.number nlohmann.arrange members).map Prod.fst) =
      members.map Prod.fst := by
    rw [Json.ofMembers_eq_map, List.map_map]
    rfl
  have distinct' := distinct
  rw [← names] at distinct'
  rw [json, Json.ofValue, Json.find, Json.find?_perm (nlohmann.arrange_perm _ distinct') distinct',
    Json.ofMembers_eq_map, List.find?_map, Option.map_map]
  rfl

def readNatural (word : List UInt8) : Json :=
  if word = decimal (ofDecimal word) ∧ ofDecimal word < 2 ^ 64 then
    .numberUnsigned (UInt64.ofNat (ofDecimal word))
  else .numberFloat (.ofFloat 0)

def sortByName (members : List (String × Json)) : List (String × Json) :=
  members.mergeSort fun first second => first.1 ≤ second.1

/-- A library that takes every text of a value and sorts members by name; of the numbers it
knows the natural ones. -/
def sorting : Nlohmann where
  parse text := (read text).map (Json.ofValue readNatural sortByName)
  number := readNatural
  arrange := sortByName
  decodes text value denotes _ := by rw [read_eq_some_iff.mpr denotes, Option.map_some]
  arrange_perm members _ := List.mergeSort_perm members _
  number_decimal value bound := by
    rw [readNatural, ofDecimal_decimal, if_pos ⟨rfl, bound⟩]
  isNumber_number word _ := by
    rw [readNatural]
    split <;> rfl

end Nlohmann

namespace RuleProcess

structure SceneEvent (Number : Type) extends RuleEvent Number where
  sourceIdNum : Int32
  slotIndex : UInt32
  width : UInt32
  height : UInt32
  channels : UInt32
  timestampNs : UInt64

section Reading

variable {Number : Type} [OfNat Number 1] (get : Json → Except JsonException Number)

def readDetection (event : Json) : Except JsonException (Option (Sighting Number)) := do
  if !event.isObject then
    return none
  let className ← event.value Json.getString "class_name" "unknown"
  let trackId ← event.value Json.getInt "track_id" 0
  let confidence ← event.value get "confidence" 1
  let bbox ← match event.find "bbox" with
    | some (.array corners) =>
        if corners.length = 4 then Json.getVector get (.array corners) else pure []
    | _ => pure []
  let embedding ← match event.find "embedding" with
    | some (.array values) => Json.getVector get (.array values)
    | _ => pure []
  return some {
    className := className
    bbox := bbox
    trackId := trackId
    confidence := confidence
    embedding := embedding
  }

def readSource (source : Json) : Except JsonException (Option (SceneEvent Number)) := do
  if !source.isObject then
    return none
  if source.contains "image_path" || source.contains "rgba_path" then
    return none
  match source.find "image_meta" with
  | some (.object members) =>
      let imageMeta := Json.object members
      match imageMeta.find "slot_index", imageMeta.find "width", imageMeta.find "height" with
      | some slotIndex, some width, some height =>
          let sourceId ← source.value Json.getInt "source_id" 0
          let timestampNs ← source.value Json.getUInt64 "timestamp_ns" 0
          let slotIndex ← slotIndex.getUInt32
          let width ← width.getUInt32
          let height ← height.getUInt32
          let channels ← imageMeta.value Json.getUInt32 "channels" 3
          let removedTrackIds ← match source.find "removed_track_ids" with
            | some (.array ids) => Json.getVector Json.getInt (.array ids)
            | _ => pure []
          let detections ← match source.find "events" with
            | some (.array events) => events.filterMapM (readDetection get)
            | _ => pure []
          return some {
            sourceId := formatSourceId sourceId
            timestamp := timestampNs / 1000
            removedTrackIds := removedTrackIds
            detections := detections
            sourceIdNum := sourceId
            slotIndex := slotIndex
            width := width
            height := height
            channels := channels
            timestampNs := timestampNs
          }
      | _, _, _ => return none
  | _ => return none

def readSceneUpdate (parse : List UInt8 → Option Json) (sceneJson : List UInt8) :
    Except JsonException (List (SceneEvent Number)) := do
  match parse sceneJson with
  | none => return []
  | some json =>
      if (← json.value Json.getString "type" "") ≠ "scene_update" then
        return []
      match json.find "sources" with
      | some (.array sources) => sources.filterMapM (readSource get)
      | _ => return []

end Reading

def Sighting.toDetection (sighting : Sighting Float32) : Detection where
  className := sighting.className
  bbox := sighting.bbox
  trackId := sighting.trackId
  confidence := sighting.confidence
  embedding := sighting.embedding

def SceneEvent.toMeta (event : SceneEvent Float32) : EventMeta where
  sourceId := event.sourceId
  sourceIdNum := event.sourceIdNum
  timestamp := event.timestamp
  removedTrackIds := event.removedTrackIds
  detections := event.detections.map Sighting.toDetection
  slotIndex := event.slotIndex
  width := event.width
  height := event.height
  channels := event.channels
  timestampNs := event.timestampNs

theorem filterMapM_map {α β γ : Type} (read : α → Except JsonException (Option β)) (onValue : β → γ)
    (items : List α) :
    items.filterMapM (fun item => (read item).map (Option.map onValue)) =
      (items.filterMapM read).map (List.map onValue) := by
  induction items with
  | nil => rfl
  | cons item items ih =>
      simp only [List.filterMapM_cons, ih]
      cases read item with
      | error thrown => rfl
      | ok value => cases value <;> cases items.filterMapM read <;> rfl

theorem map_bind {α β γ : Type} (first : Except JsonException α)
    (next : α → Except JsonException β) (onValue : β → γ) :
    (first >>= next).map onValue = first >>= fun value => (next value).map onValue := by
  cases first <;> rfl

theorem adaptDetection_eq (event : Json) :
    adaptDetection event =
      (readDetection Json.getFloat event).map (Option.map Sighting.toDetection) := by
  unfold adaptDetection readDetection
  cases event.isObject with
  | false => rfl
  | true =>
      simp only [Bool.not_true, Bool.false_eq_true, if_false, pure_bind, map_bind]
      refine bind_congr fun className => bind_congr fun trackId => bind_congr fun confidence => ?_
      cases event.find "embedding" with
      | none =>
          cases event.find "bbox" with
          | none => rfl
          | some corners =>
              cases corners with
              | array corners =>
                  by_cases four : corners.length = 4
                  · simp only [four, if_true, map_bind]
                    rfl
                  · simp only [four, if_false]
                    rfl
              | _ => rfl
      | some values =>
          cases values with
          | array values =>
              cases event.find "bbox" with
              | none =>
                  simp only [map_bind]
                  rfl
              | some corners =>
                  cases corners with
                  | array corners =>
                      by_cases four : corners.length = 4
                      · simp only [four, if_true, map_bind]
                        rfl
                      · simp only [four, if_false, map_bind]
                        rfl
                  | _ =>
                      simp only [map_bind]
                      rfl
          | _ =>
              cases event.find "bbox" with
              | none => rfl
              | some corners =>
                  cases corners with
                  | array corners =>
                      by_cases four : corners.length = 4
                      · simp only [four, if_true, map_bind]
                        rfl
                      · simp only [four, if_false]
                        rfl
                  | _ => rfl

theorem map_then {α β γ : Type} (first : Except JsonException α) (onValue : α → β)
    (next : β → Except JsonException γ) :
    (first.map onValue >>= next) = first >>= fun value => next (onValue value) := by
  cases first <;> rfl

theorem adaptSource_eq (source : Json) :
    adaptSource source = (readSource Json.getFloat source).map (Option.map SceneEvent.toMeta) := by
  have each : adaptDetection =
      fun event => (readDetection Json.getFloat event).map (Option.map Sighting.toDetection) := by
    funext event
    exact adaptDetection_eq event
  unfold adaptSource readSource
  simp only [each, filterMapM_map, map_then]
  cases source.isObject with
  | false => rfl
  | true =>
      cases source.contains "image_path" || source.contains "rgba_path" with
      | true => rfl
      | false =>
          cases source.find "image_meta" with
          | none => rfl
          | some imageMeta =>
              cases imageMeta with
              | object members =>
                  simp only [Bool.not_true, Bool.false_eq_true, if_false, pure_bind]
                  cases (Json.object members).find "slot_index" with
                  | none => rfl
                  | some slotIndex =>
                      cases (Json.object members).find "width" with
                      | none => rfl
                      | some width =>
                          cases (Json.object members).find "height" with
                          | none => rfl
                          | some height =>
                              simp only [map_bind]
                              refine bind_congr fun sourceId => bind_congr fun timestampNs =>
                                bind_congr fun slotIndex => bind_congr fun width =>
                                  bind_congr fun height => bind_congr fun channels => ?_
                              cases source.find "events" with
                              | none =>
                                  cases source.find "removed_track_ids" with
                                  | none => rfl
                                  | some ids =>
                                      cases ids with
                                      | array ids =>
                                          simp only [map_bind]
                                          rfl
                                      | _ => rfl
                              | some events =>
                                  cases events with
                                  | array events =>
                                      cases source.find "removed_track_ids" with
                                      | none =>
                                          simp only [map_bind]
                                          rfl
                                      | some ids =>
                                          cases ids with
                                          | _ =>
                                              simp only [map_bind]
                                              rfl
                                  | _ =>
                                      cases source.find "removed_track_ids" with
                                      | none => rfl
                                      | some ids =>
                                          cases ids with
                                          | array ids =>
                                              simp only [map_bind]
                                              rfl
                                          | _ => rfl
              | _ => rfl

theorem adaptSceneUpdate_eq (parse : List UInt8 → Option Json) (sceneJson : List UInt8) :
    adaptSceneUpdate parse sceneJson =
      (readSceneUpdate Json.getFloat parse sceneJson).map (List.map SceneEvent.toMeta) := by
  have each : adaptSource =
      fun source => (readSource Json.getFloat source).map (Option.map SceneEvent.toMeta) := by
    funext source
    exact adaptSource_eq source
  unfold adaptSceneUpdate readSceneUpdate
  cases parse sceneJson with
  | none => rfl
  | some json =>
      simp only [map_bind, each, filterMapM_map]
      refine bind_congr fun kind => ?_
      by_cases scene : kind ≠ "scene_update"
      · rw [if_pos scene, if_pos scene]
        rfl
      · rw [if_neg scene, if_neg scene]
        cases json.find "sources" with
        | none => rfl
        | some sources => cases sources <;> rfl

end RuleProcess

end Iq9Pipeline
