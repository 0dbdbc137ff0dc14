import Iq9Pipeline.Foundation.Returns
import Iq9Pipeline.RuleProcess.Scene

/-!
Which elements of a scene's `sources` the adapter can read. It skips an element whose
`image_meta` is missing or incomplete, and it checks that an array is one before it
reads it; every other field it reads with an accessor that throws on a wrong type.
-/

namespace Iq9Pipeline

open Foundation

namespace Json

def isNumeric : Json → Bool
  | .boolean _ | .numberInteger _ | .numberUnsigned _ | .numberFloat _ => true
  | _ => false

def isString : Json → Bool
  | .string _ => true
  | _ => false

def areNumeric : Json → Bool
  | .array elements => elements.all isNumeric
  | _ => true

def fits (json : Json) (key : String) (accepted : Json → Bool) : Bool :=
  (json.find key).all accepted

theorem areNumeric_of_notArray (json : Json) (notArray : ∀ elements, json ≠ .array elements) :
    json.areNumeric = true := by
  cases json with
  | array elements => exact absurd rfl (notArray elements)
  | _ => rfl

theorem returns_getNumber {α : Type} {ofBool : Bool → α} {ofInteger : Int64 → α}
    {ofUnsigned : UInt64 → α} {ofFloat : JsonDouble → α} (json : Json) :
    Returns (getNumber ofBool ofInteger ofUnsigned ofFloat json) ↔ json.isNumeric = true := by
  cases json <;> simp [getNumber, isNumeric]

theorem returns_getString (json : Json) : Returns json.getString ↔ json.isString = true := by
  cases json <;> simp [getString, isString]

theorem returns_value {α : Type} {json : Json} {get : Json → Except JsonException α}
    {accepted : Json → Bool} {key : String} {default : α} (object : json.isObject = true)
    (gets : ∀ member, Returns (get member) ↔ accepted member = true) :
    Returns (json.value get key default) ↔ json.fits key accepted = true := by
  cases json with
  | object members =>
      simp only [value, fits]
      cases find (.object members) key with
      | none => simp
      | some member => simpa using gets member
  | _ => cases object

theorem returns_getVector {α : Type} {get : Json → Except JsonException α}
    {accepted : Json → Bool} (gets : ∀ member, Returns (get member) ↔ accepted member = true)
    (elements : List Json) :
    Returns (getVector get (.array elements)) ↔ elements.all accepted = true := by
  rw [getVector, returns_mapM, List.all_eq_true]
  exact forall₂_congr fun element _ => gets element

end Json

namespace RuleProcess

def cornersReadable : Json → Bool
  | .array corners => corners.length ≠ 4 || corners.all Json.isNumeric
  | _ => true

def readableDetection (event : Json) : Bool :=
  !event.isObject ||
    event.fits "class_name" Json.isString && (event.fits "track_id" Json.isNumeric &&
      (event.fits "confidence" Json.isNumeric && (event.fits "bbox" cornersReadable &&
        event.fits "embedding" Json.areNumeric)))

def eventsReadable : Json → Bool
  | .array events => events.all readableDetection
  | _ => true

theorem cornersReadable_of_notArray (json : Json) (notArray : ∀ elements, json ≠ .array elements) :
    cornersReadable json = true := by
  cases json with
  | array elements => exact absurd rfl (notArray elements)
  | _ => rfl

theorem eventsReadable_of_notArray (json : Json) (notArray : ∀ elements, json ≠ .array elements) :
    eventsReadable json = true := by
  cases json with
  | array elements => exact absurd rfl (notArray elements)
  | _ => rfl

theorem returns_array {α : Type} {found : Option Json}
    {whenArray : List Json → Except JsonException α} {otherwise : Except JsonException α}
    {accepted : Json → Bool} {rest : Prop} :
    (∀ elements, Returns (whenArray elements) ↔ accepted (.array elements) = true ∧ rest) →
    (∀ json, (∀ elements, json ≠ .array elements) → accepted json = true) →
    (Returns otherwise ↔ rest) →
    (Returns (match found with
      | some (.array elements) => whenArray elements
      | _ => otherwise) ↔ found.all accepted = true ∧ rest) := by
  intro arrays others skipped
  split
  · exact arrays _
  · rename_i notArray
    have ignored : found.all accepted = true := by
      cases found with
      | none => rfl
      | some json => exact others json (fun elements isArray => notArray elements (by rw [isArray]))
    rw [skipped, ignored, eq_self, true_and]

theorem returns_corners {α : Type} {next : List Float32 → Except JsonException α} {rest : Prop}
    (continues : ∀ bbox, Returns (next bbox) ↔ rest) (corners : List Json) :
    Returns (if corners.length = 4 then Json.getVector Json.getFloat (.array corners) >>= next
      else next []) ↔ cornersReadable (.array corners) = true ∧ rest := by
  simp only [cornersReadable]
  split
  · rename_i four
    have accepted : (corners.length ≠ 4 || corners.all Json.isNumeric) =
        corners.all Json.isNumeric := by simp [four]
    rw [accepted]
    exact returns_then (Json.returns_getVector Json.returns_getNumber corners) continues
  · rename_i other
    simp [other, continues]

theorem returns_adaptDetection (event : Json) :
    Returns (adaptDetection event) ↔ readableDetection event = true := by
  unfold adaptDetection
  cases object : event.isObject with
  | false => simp [readableDetection, object]
  | true =>
      simp only [readableDetection, object, Bool.not_true, Bool.false_eq_true, if_false,
        Bool.false_or, Bool.and_eq_true]
      apply returns_then (Json.returns_value object Json.returns_getString)
      intro className
      apply returns_then (Json.returns_value object Json.returns_getNumber)
      intro trackId
      apply returns_then (Json.returns_value object Json.returns_getNumber)
      intro confidence
      simp only [pure_bind]
      have embeddingRead (bbox : List Float32) :
          Returns (match event.find "embedding" with
            | some (.array values) => do
                let embedding ← Json.getVector Json.getFloat (.array values)
                pure (some (Detection.mk className bbox trackId confidence embedding))
            | _ => pure (some (Detection.mk className bbox trackId confidence []))) ↔
          event.fits "embedding" Json.areNumeric = true := by
        rw [← and_true (event.fits _ _ = true)]
        apply returns_array
        · intro values
          exact returns_then (Json.returns_getVector Json.returns_getNumber values) (by simp)
        · exact Json.areNumeric_of_notArray
        · simp
      apply @returns_array _ (event.find "bbox") _ _ cornersReadable
      · exact returns_corners embeddingRead
      · exact cornersReadable_of_notArray
      · exact embeddingRead []

def completeImageMeta (source : Json) : Option Json :=
  if !source.isObject || (source.contains "image_path" || source.contains "rgba_path") then none
  else
    match source.find "image_meta" with
    | some (.object members) =>
        let imageMeta := Json.object members
        if imageMeta.contains "slot_index" && imageMeta.contains "width" &&
            imageMeta.contains "height" then
          some imageMeta
        else none
    | _ => none

def readableFields (source imageMeta : Json) : Bool :=
  source.fits "source_id" Json.isNumeric && (source.fits "timestamp_ns" Json.isNumeric &&
    (imageMeta.fits "slot_index" Json.isNumeric && (imageMeta.fits "width" Json.isNumeric &&
      (imageMeta.fits "height" Json.isNumeric && (imageMeta.fits "channels" Json.isNumeric &&
        (source.fits "removed_track_ids" Json.areNumeric &&
          source.fits "events" eventsReadable))))))

def readableSource (source : Json) : Bool :=
  (completeImageMeta source).all (readableFields source)

theorem returns_number {α : Type} {json : Json} {get : Json → Except JsonException α}
    {key : String} {member : Json} (found : json.find key = some member)
    (gets : ∀ member, Returns (get member) ↔ member.isNumeric = true) :
    Returns (get member) ↔ json.fits key Json.isNumeric = true := by
  rw [gets, Json.fits, found, Option.all_some]

def adaptFields (source imageMeta slotIndex width height : Json) :
    Except JsonException (Option EventMeta) := do
  let sourceId ← source.value Json.getInt "source_id" 0
  let timestampNs ← source.value Json.getUInt64 "timestamp_ns" 0
  let slotIndex ← slotIndex.getUInt32
  let width ← width.getUInt32
  let height ← height.getUInt32
  let channels ← imageMeta.value Json.getUInt32 "channels" 3
  let removedTrackIds ← match source.find "removed_track_ids" with
    | some (.array ids) => Json.getVector Json.getInt (.array ids)
    | _ => pure []
  let detections ← match source.find "events" with
    | some (.array events) => events.filterMapM adaptDetection
    | _ => pure []
  return some {
    sourceId := formatSourceId sourceId
    sourceIdNum := sourceId
    timestamp := timestampNs / 1000
    removedTrackIds := removedTrackIds
    detections := detections
    slotIndex := slotIndex
    width := width
    height := height
    channels := channels
    timestampNs := timestampNs
  }

theorem adaptSource_cases (source : Json) :
    (completeImageMeta source = none ∧ adaptSource source = .ok none) ∨
      ∃ members slotIndex width height,
        completeImageMeta source = some (.object members) ∧ source.isObject = true ∧
          (Json.object members).find "slot_index" = some slotIndex ∧
          (Json.object members).find "width" = some width ∧
          (Json.object members).find "height" = some height ∧
          adaptSource source = adaptFields source (.object members) slotIndex width height := by
  unfold adaptSource completeImageMeta
  cases source.isObject with
  | false => exact Or.inl ⟨rfl, rfl⟩
  | true =>
      cases source.contains "image_path" || source.contains "rgba_path" with
      | true => exact Or.inl ⟨rfl, rfl⟩
      | false =>
          cases source.find "image_meta" with
          | none => exact Or.inl ⟨rfl, rfl⟩
          | some value =>
              cases value with
              | object members =>
                  simp only [Json.contains]
                  rcases Option.eq_none_or_eq_some ((Json.object members).find "slot_index") with
                    noSlot | ⟨slotIndex, slotFound⟩
                  · simp only [noSlot]
                    exact Or.inl ⟨rfl, rfl⟩
                  rcases Option.eq_none_or_eq_some ((Json.object members).find "width") with
                    noWidth | ⟨width, widthFound⟩
                  · simp only [slotFound, noWidth]
                    exact Or.inl ⟨rfl, rfl⟩
                  rcases Option.eq_none_or_eq_some ((Json.object members).find "height") with
                    noHeight | ⟨height, heightFound⟩
                  · simp only [slotFound, widthFound, noHeight]
                    exact Or.inl ⟨rfl, rfl⟩
                  simp only [slotFound, widthFound, heightFound]
                  exact Or.inr ⟨members, slotIndex, width, height, rfl, trivial, slotFound,
                    widthFound, heightFound, rfl⟩
              | _ => exact Or.inl ⟨rfl, rfl⟩

theorem returns_adaptFields {source slotIndex width height : Json}
    {members : List (String × Json)} (object : source.isObject = true)
    (slotFound : (Json.object members).find "slot_index" = some slotIndex)
    (widthFound : (Json.object members).find "width" = some width)
    (heightFound : (Json.object members).find "height" = some height) :
    Returns (adaptFields source (.object members) slotIndex width height) ↔
      readableFields source (.object members) = true := by
  simp only [readableFields, Bool.and_eq_true]
  unfold adaptFields
  apply returns_then (Json.returns_value object Json.returns_getNumber)
  intro sourceId
  apply returns_then (Json.returns_value object Json.returns_getNumber)
  intro timestampNs
  apply returns_then (returns_number slotFound Json.returns_getNumber)
  intro slotIndex
  apply returns_then (returns_number widthFound Json.returns_getNumber)
  intro width
  apply returns_then (returns_number heightFound Json.returns_getNumber)
  intro height
  apply returns_then (Json.returns_value rfl Json.returns_getNumber)
  intro channels
  simp only [pure_bind]
  have eventsRead (removedTrackIds : List Int32) :
      Returns (match source.find "events" with
        | some (.array events) => do
            let detections ← events.filterMapM adaptDetection
            pure (some (EventMeta.mk (formatSourceId sourceId) sourceId (timestampNs / 1000)
              removedTrackIds detections slotIndex width height channels timestampNs))
        | _ => pure (some (EventMeta.mk (formatSourceId sourceId) sourceId (timestampNs / 1000)
            removedTrackIds [] slotIndex width height channels timestampNs))) ↔
      source.fits "events" eventsReadable = true := by
    rw [← and_true (source.fits _ _ = true)]
    apply returns_array
    · intro events
      apply returns_then
      · rw [returns_filterMapM, eventsReadable, List.all_eq_true]
        exact forall₂_congr fun event _ => returns_adaptDetection event
      · simp
    · exact eventsReadable_of_notArray
    · simp
  apply @returns_array _ (source.find "removed_track_ids") _ _ Json.areNumeric
  · intro ids
    exact returns_then (Json.returns_getVector Json.returns_getNumber ids) eventsRead
  · exact Json.areNumeric_of_notArray
  · exact eventsRead []

theorem returns_adaptSource (source : Json) :
    Returns (adaptSource source) ↔ readableSource source = true := by
  rcases adaptSource_cases source with
    ⟨skipped, adapted⟩ |
      ⟨members, slotIndex, width, height, complete, object, slotFound, widthFound, heightFound,
        adapted⟩
  · simp [readableSource, skipped, adapted]
  · rw [adapted, readableSource, complete, Option.all_some]
    exact returns_adaptFields object slotFound widthFound heightFound

def IsSceneUpdate (parse : List UInt8 → Option Json) (text : List UInt8) (sources : List Json) :
    Prop :=
  ∃ members, parse text = some (.object members) ∧
    (Json.object members).find "type" = some (.string "scene_update") ∧
    (Json.object members).find "sources" = some (.array sources)

theorem adaptSceneUpdate_sources {parse : List UInt8 → Option Json} {text : List UInt8}
    {sources : List Json} (update : IsSceneUpdate parse text sources) :
    adaptSceneUpdate parse text = sources.filterMapM adaptSource := by
  obtain ⟨members, parsed, kind, listed⟩ := update
  simp only [adaptSceneUpdate, parsed, Json.value, kind, Json.getString, listed]
  rfl

/-- The payload is adapted, each source giving what it gives on its own, and the payload
`wellFormedOnly` of the sources taken for well-formed gives what they gave. -/
def SourcesIsolated (parse : List UInt8 → Option Json) (wellFormed : Json → Bool)
    (payload wellFormedOnly : List UInt8) (sources : List Json) : Prop :=
  ∃ answers : List (Json × Option EventMeta),
    answers.map Prod.fst = sources ∧
    (∀ answer ∈ answers, adaptSource answer.1 = .ok answer.2) ∧
    adaptSceneUpdate parse payload = .ok (answers.filterMap Prod.snd) ∧
    adaptSceneUpdate parse wellFormedOnly =
      .ok ((answers.filter fun answer => wellFormed answer.1).filterMap Prod.snd)

theorem sourcesIsolated_iff {parse : List UInt8 → Option Json} {wellFormed : Json → Bool}
    {payload wellFormedOnly : List UInt8} {sources : List Json}
    (whole : IsSceneUpdate parse payload sources)
    (part : IsSceneUpdate parse wellFormedOnly (sources.filter wellFormed)) :
    SourcesIsolated parse wellFormed payload wellFormedOnly sources ↔
      ∀ source ∈ sources, readableSource source = true := by
  constructor
  · rintro ⟨answers, listed, answered, _⟩ source member
    rw [← listed] at member
    obtain ⟨answer, given, rfl⟩ := List.mem_map.mp member
    exact (returns_adaptSource _).mp ⟨answer.2, answered answer given⟩
  · intro readable
    have returns : ∀ source ∈ sources, Returns (adaptSource source) := by
      intro source member
      exact (returns_adaptSource source).mpr (readable source member)
    obtain ⟨answers, listed, answered⟩ := exists_answers returns
    have kept : sources.filter wellFormed =
        (answers.filter fun answer => wellFormed answer.1).map Prod.fst := by
      rw [← listed, List.filter_map]
      rfl
    refine ⟨answers, listed, answered, ?_, ?_⟩
    · rw [adaptSceneUpdate_sources whole, ← listed]
      exact filterMapM_answers answers answered
    · rw [adaptSceneUpdate_sources part, kept]
      apply filterMapM_answers
      intro answer member
      exact answered answer (List.mem_filter.mp member).1

section Camera

def cameraSource (slotIndex : Json) : Json :=
  .object [("image_meta", .object [("height", .numberUnsigned 64), ("slot_index", slotIndex),
    ("width", .numberUnsigned 64)])]

def cameraScene (slots : List Json) : Json :=
  .object [("sources", .array (slots.map cameraSource)), ("type", .string "scene_update")]

def cameraPayload (slots : List String) : List UInt8 :=
  let source := fun slot => "\x7b\"image_meta\":\x7b\"slot_index\":" ++ slot ++
    ",\"width\":64,\"height\":64\x7d\x7d"
  ascii ("\x7b\"type\":\"scene_update\",\"sources\":[" ++ ",".intercalate (slots.map source) ++
    "]\x7d")

def cameraParse (text : List UInt8) : Option Json :=
  if text = cameraPayload ["0"] then some (cameraScene [.numberUnsigned 0])
  else if text = cameraPayload ["0", "\"1\""] then
    some (cameraScene [.numberUnsigned 0, .string "1"])
  else none

def givesEvent (source : Json) : Bool :=
  (completeImageMeta source).any (readableFields source)

def cameraSources : List Json :=
  [cameraSource (.numberUnsigned 0), cameraSource (.string "1")]

theorem cameraScene_whole :
    IsSceneUpdate cameraParse (cameraPayload ["0", "\"1\""]) cameraSources := by
  have parsed : cameraParse (cameraPayload ["0", "\"1\""]) =
      some (cameraScene [.numberUnsigned 0, .string "1"]) := by
    have longer : cameraPayload ["0", "\"1\""] ≠ cameraPayload ["0"] := by
      intro same
      exact absurd (congrArg List.length same) (by decide +kernel)
    rw [cameraParse, if_neg longer, if_pos rfl]
  exact ⟨_, parsed, rfl, rfl⟩

theorem cameraScene_part :
    IsSceneUpdate cameraParse (cameraPayload ["0"]) [cameraSource (.numberUnsigned 0)] := by
  have parsed : cameraParse (cameraPayload ["0"]) = some (cameraScene [.numberUnsigned 0]) := by
    rw [cameraParse, if_pos rfl]
  exact ⟨_, parsed, rfl, rfl⟩

theorem sourcesIsolated_camera :
    SourcesIsolated cameraParse givesEvent (cameraPayload ["0"]) (cameraPayload ["0"])
      [cameraSource (.numberUnsigned 0)] :=
  (sourcesIsolated_iff cameraScene_part cameraScene_part).mpr (by decide +kernel)

/-- One slot in quotes, and the frame of the other camera is lost as well. -/
theorem sourceFault_spreads :
    adaptSceneUpdate cameraParse (cameraPayload ["0", "\"1\""]) =
        .error { id := 302, text := "type must be number, but is string" } ∧
      Returns (adaptSceneUpdate cameraParse (cameraPayload ["0"])) ∧
      cameraSources.filter givesEvent = [cameraSource (.numberUnsigned 0)] ∧
      ¬SourcesIsolated cameraParse givesEvent (cameraPayload ["0", "\"1\""]) (cameraPayload ["0"])
        cameraSources := by
  have throws : adaptSceneUpdate cameraParse (cameraPayload ["0", "\"1\""]) =
      .error { id := 302, text := "type must be number, but is string" } := by
    rw [adaptSceneUpdate_sources cameraScene_whole]
    rfl
  refine ⟨throws, ?_, rfl, ?_⟩
  · rw [adaptSceneUpdate_sources cameraScene_part]
    exact ⟨_, rfl⟩
  · rintro ⟨answers, _, _, returned, _⟩
    rw [throws] at returned
    cases returned

end Camera

end RuleProcess

end Iq9Pipeline
