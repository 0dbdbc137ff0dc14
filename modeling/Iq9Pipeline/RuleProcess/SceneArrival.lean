import Iq9Pipeline.MultiCam.MsgAgg
import Iq9Pipeline.RuleProcess.SceneParsing

/-!
Scene records on their way to the rule process. What one merge of the pads delivers is
one event for every record that can be written, in the order of the pads and with the
record's own integers and labels; what becomes of its other numbers is a parameter.
-/

namespace Iq9Pipeline.RuleProcess

open Foundation.JsonText MultiCam

variable {Double Single Number : Type} (os : Ostream Double Single) (glib : JsonGlib)
  (nlohmann : Nlohmann) (scalar : List UInt8 → Number)

def labelText (label : List UInt8) : String :=
  Tree.readBack escapeJson label

def sightingOf (det : DetectionRecord Double Single) : Sighting Number where
  className := labelText det.label
  bbox := [det.left, det.top, det.right, det.bottom].map fun corner =>
    scalar (glib.number (os.double corner))
  trackId := det.trackId.toInt32
  confidence := scalar (glib.number (os.single (os.toSingle det.score)))
  embedding := match det.face with
    | some face => face.embedding.map fun value => scalar (glib.number (os.single value))
    | none => []

def eventOf (source : SceneSource Double Single) : SceneEvent Number where
  sourceId := formatSourceId source.record.channelId.toInt32
  timestamp := source.record.timestampNs / 1000
  removedTrackIds := []
  detections := source.record.detections.map (sightingOf os glib scalar)
  sourceIdNum := source.record.channelId.toInt32
  slotIndex := source.record.imagePath.toUInt32
  width := source.metaWidth
  height := source.metaHeight
  channels := 3
  timestampNs := source.record.timestampNs

/-- How numbers are read off the words that the first parser prints again. -/
def Reads (nlohmann : Nlohmann) (get : Json → Except JsonException Number)
    (scalar : List UInt8 → Number) : Prop :=
  ∀ word, isNumber word = true → get (nlohmann.number word) = .ok (scalar word)

theorem reads_of_isNumber {get : Json → Except JsonException Number}
    {scalar : List UInt8 → Number}
    (gets : ∀ json : Json, json.isNumber = true → ∃ value, get json = .ok value)
    (reading : ∀ word value, get (nlohmann.number word) = .ok value → scalar word = value) :
    Reads nlohmann get scalar := by
  intro word number
  obtain ⟨value, got⟩ := gets _ (nlohmann.isNumber_number word number)
  rw [got, reading word value got]

variable [OfNat Number 1] {get : Json → Except JsonException Number}

theorem number_uint32 (value : UInt32) :
    nlohmann.number (glib.number (decimal value.toNat)) =
      .numberUnsigned value.toUInt64 := by
  have bound : value.toNat < 2 ^ 64 := by
    have := value.toNat_lt
    omega
  rw [glib.number_decimal _ bound, nlohmann.number_decimal _ bound]
  simp

theorem number_uint64 (value : UInt64) :
    nlohmann.number (glib.number (decimal value.toNat)) = .numberUnsigned value := by
  rw [glib.number_decimal _ value.toNat_lt, nlohmann.number_decimal _ value.toNat_lt]
  simp

theorem getUInt32_unsigned (value : UInt32) :
    Json.getUInt32 (.numberUnsigned value.toUInt64) = .ok value := by
  simp [Json.getUInt32, Json.getNumber]

theorem value_object {α : Type} (get : Json → Except JsonException α)
    {members : List (String × Value)} (distinct : (members.map Prod.fst).Nodup) (key : String)
    (default : α) :
    (nlohmann.json (.object members)).value get key default =
      match members.find? fun member => member.1 = key with
      | some member => get (nlohmann.json member.2)
      | none => .ok default := by
  obtain ⟨listed, same⟩ := nlohmann.json_object members
  have found := nlohmann.find_object distinct key
  rw [same] at found ⊢
  rw [Json.value, found]
  cases members.find? fun member => member.1 = key <;> rfl

theorem getVector_ok {α β : Type} {get : Json → Except JsonException α} {shown : β → Json}
    {read : β → α} (items : List β) (each : ∀ item ∈ items, get (shown item) = .ok (read item)) :
    Json.getVector get (.array (items.map shown)) = .ok (items.map read) := by
  rw [Json.getVector]
  induction items with
  | nil => rfl
  | cons item items ih =>
      rw [List.forall_mem_cons] at each
      rw [List.map_cons, List.mapM_cons, each.1, ih each.2]
      rfl

theorem filterMapM_ok {α β γ : Type} {read : α → Except JsonException (Option β)} {shown : γ → α}
    {result : γ → Option β} (items : List γ)
    (each : ∀ item ∈ items, read (shown item) = .ok (result item)) :
    (items.map shown).filterMapM read = .ok (items.filterMap result) := by
  induction items with
  | nil => rfl
  | cons item items ih =>
      rw [List.forall_mem_cons] at each
      rw [List.map_cons, List.filterMapM_cons, each.1, ih each.2, List.filterMap_cons]
      cases result item <;> rfl

/-- The value that the rule process finds for a tree that was printed, parsed and printed
again. -/
def arrived (tree : RecordTree Double Single) : Value :=
  tree.map (fun word => glib.number (os.print word)) (Tree.readBack escapeJson)

def arrivedEmbedding (face : Option (FaceInfo Single)) : List (String × Value) :=
  match face with
  | some face => [("embedding", .array (face.embedding.map fun value =>
      .number (glib.number (os.single value))))]
  | none => []

def arrivedEvent (det : DetectionRecord Double Single) : List (String × Value) :=
  [("class_name", .string (labelText det.label)),
    ("track_id", .number (glib.number (decimal det.trackId.toNat))),
    ("confidence", .number (glib.number (os.single (os.toSingle det.score)))),
    ("bbox", .array ([det.left, det.top, det.right, det.bottom].map fun corner =>
      .number (glib.number (os.double corner))))] ++ arrivedEmbedding os glib det.face

theorem arrived_eventTree (det : DetectionRecord Double Single) :
    arrived os glib (eventTree os det) = .object (arrivedEvent os glib det) := by
  cases face : det.face with
  | none =>
      simp (disch := decide) [arrived, eventTree, boxTree, embeddingMembers, face, readBack_name,
        labelText, arrivedEvent, arrivedEmbedding]
  | some face =>
      simp (disch := decide) [arrived, eventTree, boxTree, embeddingMembers, face, readBack_name,
        labelText, arrivedEvent, arrivedEmbedding]

theorem distinct_arrivedEvent (det : DetectionRecord Double Single) :
    ((arrivedEvent os glib det).map Prod.fst).Nodup := by
  cases face : det.face <;> simp [arrivedEvent, arrivedEmbedding, face]

theorem readDetection_arrived (reads : Reads nlohmann get scalar)
    (det : DetectionRecord Double Single) :
    readDetection get (nlohmann.json (arrived os glib (eventTree os det))) =
      .ok (some (sightingOf os glib scalar det)) := by
  have distinct := distinct_arrivedEvent os glib det
  have numbers : ∀ word,
      get (nlohmann.number (glib.number word)) = .ok (scalar (glib.number word)) :=
    fun word => reads _ (glib.isNumber_number word)
  rw [arrived_eventTree]
  have object : (nlohmann.json (.object (arrivedEvent os glib det))).isObject = true := by
    obtain ⟨listed, same⟩ := nlohmann.json_object (arrivedEvent os glib det)
    rw [same, Json.isObject]
  have className : (nlohmann.json (.object (arrivedEvent os glib det))).value Json.getString
      "class_name" "unknown" = .ok (labelText det.label) := by
    rw [value_object nlohmann _ distinct]
    simp [arrivedEvent, Json.getString]
  have trackId : (nlohmann.json (.object (arrivedEvent os glib det))).value Json.getInt
      "track_id" 0 = .ok det.trackId.toInt32 := by
    rw [value_object nlohmann _ distinct]
    simp [arrivedEvent, number_uint32, Json.getInt,
      Json.getNumber]
  have confidence : (nlohmann.json (.object (arrivedEvent os glib det))).value get
      "confidence" 1 = .ok (scalar (glib.number (os.single (os.toSingle det.score)))) := by
    rw [value_object nlohmann _ distinct]
    simp [arrivedEvent, numbers]
  have bbox : (nlohmann.json (.object (arrivedEvent os glib det))).find "bbox" =
      some (.array ([det.left, det.top, det.right, det.bottom].map fun corner =>
        nlohmann.number (glib.number (os.double corner)))) := by
    rw [nlohmann.find_object distinct]
    simp [arrivedEvent]
  have corners := getVector_ok [det.left, det.top, det.right, det.bottom]
    fun corner _ => numbers (os.double corner)
  cases face : det.face with
  | none =>
      have embedding : (nlohmann.json (.object (arrivedEvent os glib det))).find "embedding" =
          none := by
        rw [nlohmann.find_object distinct]
        simp [arrivedEvent, arrivedEmbedding, face]
      simp only [readDetection, object, className, trackId, confidence, bbox, embedding, corners,
        sightingOf, face]
      rfl
  | some face' =>
      have embedding : (nlohmann.json (.object (arrivedEvent os glib det))).find "embedding" =
          some (.array (face'.embedding.map fun value =>
            nlohmann.number (glib.number (os.single value)))) := by
        rw [nlohmann.find_object distinct]
        simp [arrivedEvent, arrivedEmbedding, face,
          Function.comp_def]
      have values := getVector_ok face'.embedding fun value _ => numbers (os.single value)
      simp only [readDetection, object, className, trackId, confidence, bbox, embedding, corners,
        values, sightingOf, face]
      rfl

def arrivedImageMeta (source : SceneSource Double Single) : List (String × Value) :=
  [("slot_index", .number (glib.number (decimal source.record.imagePath.toUInt32.toNat))),
    ("width", .number (glib.number (decimal source.metaWidth.toNat))),
    ("height", .number (glib.number (decimal source.metaHeight.toNat))),
    ("channels", .number (glib.number (decimal 3)))]

def arrivedMembers (source : SceneSource Double Single) : List (String × Value) :=
  [("source_id", .number (glib.number (decimal source.record.channelId.toNat))),
    ("frame_id", .number (glib.number (decimal source.record.frameId.toNat))),
    ("timestamp_ns", .number (glib.number (decimal source.record.timestampNs.toNat))),
    ("events", .array (source.record.detections.map fun det => arrived os glib (eventTree os det))),
    ("removed_track_ids", .array [])]

def arrivedSource (source : SceneSource Double Single) : List (String × Value) :=
  arrivedMembers os glib source ++
    if 0 ≤ source.record.imagePath then
      [("image_meta", .object (arrivedImageMeta glib source))]
    else []

theorem map_value (source : SceneSource Double Single) :
    (source.value os).map glib.number id = .object (arrivedSource os glib source) := by
  have same : (glib.number ∘ os.print) = fun word => glib.number (os.print word) := rfl
  rw [SceneSource.value, valueOf, Tree.map_map, same, Function.id_comp]
  by_cases stored : 0 ≤ source.record.imagePath
  · simp (disch := decide) [sourceTree, imageMetaMembers, stored, readBack_name, arrivedSource,
      arrivedMembers, arrivedImageMeta, arrived]
  · simp (disch := decide) [sourceTree, imageMetaMembers, stored, readBack_name, arrivedSource,
      arrivedMembers, arrived]

theorem distinct_arrivedSource (source : SceneSource Double Single) :
    ((arrivedSource os glib source).map Prod.fst).Nodup := by
  by_cases stored : 0 ≤ source.record.imagePath <;>
    simp [arrivedSource, arrivedMembers, stored]

theorem distinct_arrivedImageMeta (source : SceneSource Double Single) :
    ((arrivedImageMeta glib source).map Prod.fst).Nodup := by
  simp [arrivedImageMeta]

def deliveredOf (source : SceneSource Double Single) : Option (SceneEvent Number) :=
  if 0 ≤ source.record.imagePath then some (eventOf os glib scalar source) else none

theorem isObject_arrivedSource (source : SceneSource Double Single) :
    (nlohmann.json (.object (arrivedSource os glib source))).isObject = true := by
  obtain ⟨listed, same⟩ := nlohmann.json_object (arrivedSource os glib source)
  rw [same, Json.isObject]

theorem no_path_arrivedSource (source : SceneSource Double Single) :
    ((nlohmann.json (.object (arrivedSource os glib source))).contains "image_path" ||
      (nlohmann.json (.object (arrivedSource os glib source))).contains "rgba_path") = false := by
  have distinct := distinct_arrivedSource os glib source
  rw [Json.contains, Json.contains, nlohmann.find_object distinct, nlohmann.find_object distinct]
  by_cases stored : 0 ≤ source.record.imagePath <;>
    simp [arrivedSource, arrivedMembers, stored]

theorem readSource_of_unstored (source : SceneSource Double Single)
    (unstored : ¬ 0 ≤ source.record.imagePath) :
    readSource get (nlohmann.json ((source.value os).map glib.number id)) = .ok none := by
  have object := isObject_arrivedSource os glib nlohmann source
  have noPath := no_path_arrivedSource os glib nlohmann source
  have found : (nlohmann.json (.object (arrivedSource os glib source))).find "image_meta" =
      none := by
    rw [nlohmann.find_object (distinct_arrivedSource os glib source)]
    simp [arrivedSource, arrivedMembers, unstored]
  rw [map_value]
  simp only [readSource, object, noPath, found]
  rfl

theorem readSource_of_stored (reads : Reads nlohmann get scalar)
    (source : SceneSource Double Single) (stored : 0 ≤ source.record.imagePath) :
    readSource get (nlohmann.json ((source.value os).map glib.number id)) =
      .ok (some (eventOf os glib scalar source)) := by
  have distinct := distinct_arrivedSource os glib source
  have distinctMeta := distinct_arrivedImageMeta glib source
  have object := isObject_arrivedSource os glib nlohmann source
  have noPath := no_path_arrivedSource os glib nlohmann source
  obtain ⟨members, imageMeta⟩ := nlohmann.json_object (arrivedImageMeta glib source)
  have found : (nlohmann.json (.object (arrivedSource os glib source))).find "image_meta" =
      some (.object members) := by
    rw [nlohmann.find_object distinct, ← imageMeta]
    simp [arrivedSource, arrivedMembers, stored]
  have slotIndex : (Json.object members).find "slot_index" =
      some (.numberUnsigned source.record.imagePath.toUInt32.toUInt64) := by
    rw [← imageMeta, nlohmann.find_object distinctMeta]
    simp [arrivedImageMeta, number_uint32]
  have width : (Json.object members).find "width" =
      some (.numberUnsigned source.metaWidth.toUInt64) := by
    rw [← imageMeta, nlohmann.find_object distinctMeta]
    simp [arrivedImageMeta, number_uint32]
  have height : (Json.object members).find "height" =
      some (.numberUnsigned source.metaHeight.toUInt64) := by
    rw [← imageMeta, nlohmann.find_object distinctMeta]
    simp [arrivedImageMeta, number_uint32]
  have channels : (Json.object members).value Json.getUInt32 "channels" 3 = .ok 3 := by
    have three : nlohmann.number (glib.number (decimal 3)) = .numberUnsigned 3 :=
      number_uint32 glib nlohmann 3
    rw [← imageMeta, value_object nlohmann _ distinctMeta]
    simp [arrivedImageMeta, three, Json.getUInt32, Json.getNumber]
  have sourceId : (nlohmann.json (.object (arrivedSource os glib source))).value Json.getInt
      "source_id" 0 = .ok source.record.channelId.toInt32 := by
    rw [value_object nlohmann _ distinct]
    simp [arrivedSource, arrivedMembers, number_uint32, Json.getInt, Json.getNumber]
  have timestampNs : (nlohmann.json (.object (arrivedSource os glib source))).value
      Json.getUInt64 "timestamp_ns" 0 = .ok source.record.timestampNs := by
    rw [value_object nlohmann _ distinct]
    simp [arrivedSource, arrivedMembers, number_uint64, Json.getUInt64, Json.getNumber]
  have removed : (nlohmann.json (.object (arrivedSource os glib source))).find
      "removed_track_ids" = some (.array []) := by
    rw [nlohmann.find_object distinct]
    simp [arrivedSource, arrivedMembers]
  have events : (nlohmann.json (.object (arrivedSource os glib source))).find "events" =
      some (.array (source.record.detections.map fun det =>
        nlohmann.json (arrived os glib (eventTree os det)))) := by
    rw [nlohmann.find_object distinct]
    simp [arrivedSource, arrivedMembers, Function.comp_def]
  have detections := filterMapM_ok source.record.detections
    fun det _ => readDetection_arrived os glib nlohmann scalar reads det
  have noIds : Json.getVector Json.getInt (.array []) = .ok [] := rfl
  have kept : (source.record.detections.filterMap fun det => some (sightingOf os glib scalar det)) =
      source.record.detections.map (sightingOf os glib scalar) := by
    rw [List.filterMap_eq_map']
  rw [kept] at detections
  rw [map_value]
  simp only [readSource, object, noPath, found, slotIndex, width, height, channels,
    sourceId, timestampNs, removed, events, detections, noIds, getUInt32_unsigned, eventOf]
  rfl

theorem readSource_arrived (reads : Reads nlohmann get scalar)
    (source : SceneSource Double Single) :
    readSource get (nlohmann.json ((source.value os).map glib.number id)) =
      .ok (deliveredOf os glib scalar source) := by
  rw [deliveredOf]
  split
  · rename_i stored
    exact readSource_of_stored os glib nlohmann scalar reads source stored
  · rename_i unstored
    exact readSource_of_unstored os glib nlohmann source unstored

variable (pads : List (List (SceneSource Double Single)))

def mergedScene (pads : List (List (SceneSource Double Single))) : List UInt8 :=
  (buildSceneMerge glib (pads.map (SceneSource.queued os))).1

def writtenSources (pads : List (List (SceneSource Double Single))) :
    List (SceneSource Double Single) :=
  (pads.filterMap List.head?).filter fun source => source.record.Writable os

def arrivedScene : List (String × Value) :=
  [("type", .string "scene_update"),
    ("sources", .array ((writtenSources os pads).map fun source =>
      (source.value os).map glib.number id))]

theorem map_sceneUpdate :
    (sceneUpdate ((writtenSources os pads).map (SceneSource.value os))).map glib.number id =
      .object (arrivedScene os glib pads) := by
  simp [sceneUpdate, arrivedScene, Function.comp_def]

theorem distinct_sceneUpdate :
    (sceneUpdate ((writtenSources os pads).map (SceneSource.value os))).Distinct := by
  have each : ∀ source : SceneSource Double Single, (source.value os).Distinct :=
    fun source => distinct_sourceTree os _ _ _
  simp [sceneUpdate, Tree.Distinct, Tree.DistinctMembers, Tree.distinctElements_iff, each]

theorem parse_mergedScene :
    nlohmann.parse (mergedScene os glib pads) =
      some (nlohmann.json (.object (arrivedScene os glib pads))) := by
  have denotes := Tree.denotes_write glib.isNumber_number glib.decodeText_quote
    (sceneUpdate ((writtenSources os pads).map (SceneSource.value os)))
  have distinct := (Tree.distinct_mapWords glib.number _).mpr (distinct_sceneUpdate os pads)
  have parsed := nlohmann.decodes _ _ denotes distinct
  rw [map_sceneUpdate] at parsed
  rw [mergedScene, buildSceneMerge, mergedSources_queued, ← writtenSources]
  exact parsed

/-- The scene that the rule process reads: one event for every record that can be written
and has an image slot. -/
theorem readSceneUpdate_mergedScene (reads : Reads nlohmann get scalar) :
    readSceneUpdate get nlohmann.parse (mergedScene os glib pads) =
      .ok ((writtenSources os pads).filterMap (deliveredOf os glib scalar)) := by
  have distinct : ((arrivedScene os glib pads).map Prod.fst).Nodup := by simp [arrivedScene]
  have kind : (nlohmann.json (.object (arrivedScene os glib pads))).value Json.getString
      "type" "" = .ok "scene_update" := by
    rw [value_object nlohmann _ distinct]
    simp [arrivedScene, Json.getString]
  have sources : (nlohmann.json (.object (arrivedScene os glib pads))).find "sources" =
      some (.array ((writtenSources os pads).map fun source =>
        nlohmann.json ((source.value os).map glib.number id))) := by
    rw [nlohmann.find_object distinct]
    simp [arrivedScene, Function.comp_def]
  have events := filterMapM_ok (writtenSources os pads)
    fun source _ => readSource_arrived os glib nlohmann scalar reads source
  simp only [readSceneUpdate, parse_mergedScene, kind, sources]
  exact events

def delivered (get : Json → Except JsonException Number)
    (sources : List (SceneSource Double Single)) : List (RuleEvent Number) :=
  sources.flatMap fun source =>
    match readSceneUpdate get nlohmann.parse (mergedScene os glib [[source]]) with
    | .ok events => events.map SceneEvent.toRuleEvent
    | .error _ => []

theorem delivered_eq (reads : Reads nlohmann get scalar)
    (sources : List (SceneSource Double Single)) :
    delivered os glib nlohmann get sources =
      ((sources.filter fun source => source.record.Writable os).filterMap
        (deliveredOf os glib scalar)).map SceneEvent.toRuleEvent := by
  induction sources with
  | nil => rfl
  | cons source sources ih =>
      rw [delivered] at ih
      rw [delivered, List.flatMap_cons, ih,
        readSceneUpdate_mergedScene os glib nlohmann scalar _ reads]
      by_cases writable : source.record.Writable os
      · by_cases stored : 0 ≤ source.record.imagePath <;>
          simp [writtenSources, writable, deliveredOf, stored]
      · simp [writtenSources, writable]

theorem delivered_of_writable (reads : Reads nlohmann get scalar)
    {sources : List (SceneSource Double Single)}
    (written : ∀ source ∈ sources, source.record.Writable os ∧ 0 ≤ source.record.imagePath) :
    delivered os glib nlohmann get sources =
      sources.map fun source => (eventOf os glib scalar source).toRuleEvent := by
  have kept : (sources.filter fun source => source.record.Writable os) = sources := by
    rw [List.filter_eq_self]
    exact fun source member => decide_eq_true (written source member).1
  have stored : sources.filterMap (deliveredOf os glib scalar) =
      sources.map (eventOf os glib scalar) := by
    rw [← List.filterMap_eq_map]
    exact List.filterMap_congr fun source member => if_pos (written source member).2
  rw [delivered_eq os glib nlohmann scalar reads, kept, stored, List.map_map]
  rfl

end Iq9Pipeline.RuleProcess
