import Iq9Pipeline.Foundation.Checks
import Iq9Pipeline.Foundation.PosixPath
import Iq9Pipeline.Handshake
import Iq9Pipeline.MultiCam.GalleryFile

/-!
The configuration of the application (`ConfigLoader::LoadFromFile`): which documents it
accepts, what it makes of them, and which member an error is about. Members of the sections
that are out of range keep their defaults; what json-glib makes of a member of another type
is what the loader sees.
-/

namespace Iq9Pipeline.MultiCam

open Foundation Foundation.JsonText

/-- How json-glib reads the numbers of a configuration, with exact values in place of `double`. -/
structure ConfigNumbers extends GlibNumbers Rat where
  double : List UInt8 → Rat
  truth : List UInt8 → Bool

namespace AppConfig

structure Face where
  enabled : Bool
  channelMask : Int32
  configPath : String
  galleryPath : String
  galleryThreshold : Rat
  galleryMinFaceSize : UInt32
  galleryMinScore : Rat
  intervalMs : UInt32
deriving DecidableEq, Repr

structure Memtest where
  loopCount : UInt32
  memSampleIntervalS : UInt32
  logPath : String
deriving DecidableEq, Repr

structure Aggregator where
  enabled : Bool
  batchSize : UInt32
  queueCapacity : UInt32
  drainTimeoutMs : UInt32
deriving DecidableEq, Repr

structure Mqtt where
  enabled : Bool
  brokerIp : String
  port : Int32
  pubTopic : String
  subTopic : String
  clientId : String
  qos : Int32
deriving DecidableEq, Repr

structure FrameCache where
  enabled : Bool
  socketPath : String
  heapPath : String
  slotCount : Int32
  width : Int32
  height : Int32
  relayMode : Bool
  frameDoneTopic : String
deriving DecidableEq, Repr

structure MsgAgg where
  enabled : Bool
  timeoutMs : UInt32
  sceneJsonlDir : String
deriving DecidableEq, Repr

structure LatencyTest where
  enabled : Bool
  outputDir : String
  sampleEveryN : UInt32
  flushPerSample : Bool
deriving DecidableEq, Repr

end AppConfig

structure AppConfig where
  modelPath : String
  videosPath : List String
  labelsPath : String
  outputDir : String
  logDir : String
  qnnBackend : String
  qnnSystem : String
  qnnBackendDeviceId : UInt32
  qnnTensors : List String
  qtimlvconverterEngineOrder : List String
  qtiobjtrackerParameters : String
  postprocessModule : String
  confidence : Rat
  maxChannels : UInt32
  appsinkSync : Bool
  appsinkDrop : Bool
  appsinkMaxBuffers : UInt32
  face : AppConfig.Face
  memtest : AppConfig.Memtest
  aggregator : AppConfig.Aggregator
  mqtt : AppConfig.Mqtt
  frameCache : AppConfig.FrameCache
  msgagg : AppConfig.MsgAgg
  latencyTest : AppConfig.LatencyTest
deriving DecidableEq, Repr

/-- Why a file is not accepted. -/
inductive ConfigFault
  | unparsable (details : String)
  | rootNotObject
  | modelPath
  | videosPath
  | videosPathEmpty
  | labelsPath
  | outputDir
  | confidenceType
  | confidenceRange
  | maxChannels
  | appsinkMaxBuffers
  | engineOrder
  | engineEmpty
  | engineInvalid (engine : String)
  | trackerParameters
  | frameCacheMqtt
  | frameCacheTopic
deriving DecidableEq, Repr

namespace ConfigLoader

def kHardChannelLimit : UInt32 := 6

def errorWithPrefix (start details : String) : String :=
  if details.isEmpty then start else start ++ ": " ++ details

end ConfigLoader

def ConfigFault.message : ConfigFault → String
  | .unparsable details =>
      ConfigLoader.errorWithPrefix "Failed to parse config json" details
  | .rootNotObject => "Config root must be a JSON object"
  | .modelPath => "config.model_path is required and must be a string"
  | .videosPath => "config.videos_path is required and must be a non-empty string array"
  | .videosPathEmpty => "config.videos_path contains an empty path"
  | .labelsPath => "config.labels_path is required and must be a string"
  | .outputDir => "config.output_dir is required and must be a string"
  | .confidenceType => "config.confidence must be a numeric value"
  | .confidenceRange => "config.confidence must be in range [0, 100]"
  | .maxChannels => "config.max_channels must be greater than 0"
  | .appsinkMaxBuffers => "config.appsink_max_buffers must be greater than 0"
  | .engineOrder => "config.qtimlvconverter_engine_order must be a non-empty string array"
  | .engineEmpty => "config.qtimlvconverter_engine_order contains an empty value"
  | .engineInvalid engine =>
      "config.qtimlvconverter_engine_order contains invalid value '" ++ engine ++
        "'. Allowed values: fcv, c2d, gles, none"
  | .trackerParameters => "config.qtiobjtracker_parameters must be a string"
  | .frameCacheMqtt => "frame_cache.enabled requires mqtt.enabled (for frame_done subscription)"
  | .frameCacheTopic => "frame_cache.enabled requires a non-empty frame_cache.frame_done_topic"

namespace ConfigLoader

def isAbsolutePath (path : String) : Bool :=
  match path.toList with
  | '/' :: _ | '\\' :: _ => true
  | drive :: ':' :: '/' :: _ | drive :: ':' :: '\\' :: _ => drive.isAlpha
  | _ => false

def normalizePathSeparators (path : String) : String :=
  path.map fun character => if character = '\\' then '/' else character

def resolvePath (baseDir value : String) : String :=
  if value.isEmpty then value
  else if isAbsolutePath value then normalizePathSeparators value
  else normalizePathSeparators (String.ofList
    (PosixPath.lexicallyNormal (PosixPath.join baseDir.toList value.toList)))

def cText (text : String) : String :=
  String.ofList (text.toList.takeWhile (· ≠ '\x00'))

abbrev Members := List (String × Value)

def getStringMember (object : Members) (key : String) : Option String :=
  match memberOf object key with
  | some (.string text) => some (cText text)
  | _ => none

def stringElement : Value → Option String
  | .string text => some (cText text)
  | _ => none

def getStringArrayMember (object : Members) (key : String) : Option (List String) :=
  match memberOf object key with
  | some (.array elements) => elements.mapM stringElement
  | _ => none

def toLowerAscii (value : String) : String :=
  value.map Char.toLower

def supportedEngines : List String :=
  ["fcv", "c2d", "gles", "ocv", "none"]

def isSupportedMlConverterEngineNick (nick : String) : Bool :=
  nick ∈ supportedEngines

def filledMember (object : Members) (key : String) : Option String :=
  (getStringMember object key).filter fun text => !text.isEmpty

def filledOr (object : Members) (key default : String) : String :=
  (filledMember object key).getD default

def pathOr (cfgDir : String) (object : Members) (key default : String) : String :=
  ((filledMember object key).map (resolvePath cfgDir)).getD default

variable (numbers : ConfigNumbers)

def booleanMember : Value → Bool
  | .boolean value => value
  | .number word => numbers.truth word
  | _ => false

def booleanOr (object : Members) (key : String) (default : Bool) : Bool :=
  ((memberOf object key).map (booleanMember numbers)).getD default

def gintMember (object : Members) (key : String) : Option Int32 :=
  (memberOf object key).map fun value => (numbers.intMember value).toInt32

def gintWhere (object : Members) (key : String) (inRange : Int32 → Bool) (default : Int32) :
    Int32 :=
  ((gintMember numbers object key).filter inRange).getD default

def positiveOr (object : Members) (key : String) (default : Int32) : UInt32 :=
  (gintWhere numbers object key (fun value => 0 < value) default).toUInt32

def castOr (object : Members) (key : String) (default : UInt32) : UInt32 :=
  ((memberOf object key).map fun value => (numbers.intMember value).toUInt64.toUInt32).getD default

def floatOr (object : Members) (key : String) (default : Rat) : Rat :=
  ((memberOf object key).map numbers.single).getD default

/-- A member that is an object. One that is not leaves its defaults. -/
def sectionOf (root : Members) (key : String) : Members :=
  match memberOf root key with
  | some (.object members) => members
  | _ => []

def readFace (cfgDir : String) (face : Members) : AppConfig.Face where
  enabled := booleanOr numbers face "enabled" false
  channelMask := (gintMember numbers face "channel_mask").getD 0xFF
  configPath := pathOr cfgDir face "face_config_path" ""
  galleryPath := pathOr cfgDir face "gallery_path" ""
  galleryThreshold := floatOr numbers face "gallery_threshold" (10066330 / 2 ^ 25)
  galleryMinFaceSize := positiveOr numbers face "gallery_min_face_size" 40
  galleryMinScore := floatOr numbers face "gallery_min_score" (10066330 / 2 ^ 24)
  intervalMs := castOr numbers face "face_interval_ms" 0

def readMemtest (cfgDir : String) (memtest : Members) : AppConfig.Memtest where
  loopCount := (gintWhere numbers memtest "loop_count" (fun value => 0 ≤ value) 1).toUInt32
  memSampleIntervalS := positiveOr numbers memtest "mem_sample_interval_s" 5
  logPath := pathOr cfgDir memtest "log_path" ""

def readAggregator (aggregator : Members) : AppConfig.Aggregator where
  enabled := booleanOr numbers aggregator "enabled" false
  batchSize := positiveOr numbers aggregator "batch_size" 6
  queueCapacity := positiveOr numbers aggregator "queue_capacity" 6
  drainTimeoutMs := positiveOr numbers aggregator "drain_timeout_ms" 1000

def readMqtt (mqtt : Members) : AppConfig.Mqtt where
  enabled := booleanOr numbers mqtt "enabled" false
  brokerIp := filledOr mqtt "broker_ip" "127.0.0.1"
  port := gintWhere numbers mqtt "port" (fun value => 0 < value ∧ value ≤ 65535) 1883
  pubTopic := filledOr mqtt "pub_topic" "multi_cam_app/detections"
  subTopic := filledOr mqtt "sub_topic" "multi_cam_app/commands"
  clientId := filledOr mqtt "client_id" "multi_cam_app"
  qos := gintWhere numbers mqtt "qos" (fun value => 0 ≤ value ∧ value ≤ 2) 1

def readFrameCache (frameCache : Members) : AppConfig.FrameCache where
  enabled := booleanOr numbers frameCache "enabled" false
  socketPath := filledOr frameCache "socket_path" "/tmp/dmabuf_ipc.sock"
  heapPath := filledOr frameCache "heap_path" "/dev/dma_heap/qcom,system"
  slotCount := gintWhere numbers frameCache "slot_count" (fun value => 0 < value ∧ value ≤ 32) 8
  width := gintWhere numbers frameCache "width" (fun value => 0 < value) 1920
  height := gintWhere numbers frameCache "height" (fun value => 0 < value) 1080
  relayMode := booleanOr numbers frameCache "relay_mode" true
  frameDoneTopic := filledOr frameCache "frame_done_topic" ""

def readMsgAgg (cfgDir : String) (msgagg : Members) : AppConfig.MsgAgg where
  enabled := booleanOr numbers msgagg "enabled" false
  timeoutMs := positiveOr numbers msgagg "timeout_ms" 500
  sceneJsonlDir := pathOr cfgDir msgagg "scene_jsonl_dir" ""

def readLatencyTest (cfgDir : String) (latencyTest : Members) : AppConfig.LatencyTest where
  enabled := booleanOr numbers latencyTest "enabled" false
  outputDir := pathOr cfgDir latencyTest "output_dir" ""
  sampleEveryN := positiveOr numbers latencyTest "sample_every_n" 1
  flushPerSample := booleanOr numbers latencyTest "flush_per_sample" true

def orFault {Result : Type} (fault : ConfigFault) : Option Result → Except ConfigFault Result
  | some result => .ok result
  | none => .error fault

def requiredPath (cfgDir : String) (root : Members) (key : String) (fault : ConfigFault) :
    Except ConfigFault String :=
  (orFault fault (filledMember root key)).map (resolvePath cfgDir)

def readVideos (cfgDir : String) (root : Members) : Except ConfigFault (List String) :=
  match getStringArrayMember root "videos_path" with
  | none | some [] => .error .videosPath
  | some videos =>
      if videos.any String.isEmpty then .error .videosPathEmpty
      else .ok (videos.map (resolvePath cfgDir))

def doubleMember : Value → Rat
  | .number word => numbers.double word
  | .boolean value => if value then 1 else 0
  | _ => 0

def holdsValue : Value → Bool
  | .number _ | .boolean _ | .string _ => true
  | _ => false

def readConfidence (root : Members) : Except ConfigFault Rat :=
  match memberOf root "confidence" with
  | none => .ok 40
  | some value =>
      if !holdsValue value then .error .confidenceType
      else if doubleMember numbers value < 0 ∨ 100 < doubleMember numbers value then
        .error .confidenceRange
      else .ok (doubleMember numbers value)

def requiredPositive (root : Members) (key : String) (default : Int32) (fault : ConfigFault) :
    Except ConfigFault UInt32 :=
  match gintMember numbers root key with
  | none => .ok default.toUInt32
  | some value => if value ≤ 0 then .error fault else .ok value.toUInt32

def readEngine (engine : String) : Except ConfigFault String :=
  if engine.isEmpty then .error .engineEmpty
  else if !isSupportedMlConverterEngineNick (toLowerAscii engine) then
    .error (.engineInvalid engine)
  else .ok (toLowerAscii engine)

def readEngines (root : Members) : Except ConfigFault (List String) :=
  match memberOf root "qtimlvconverter_engine_order" with
  | none => .ok ["fcv", "c2d"]
  | some _ =>
      match getStringArrayMember root "qtimlvconverter_engine_order" with
      | none | some [] => .error .engineOrder
      | some engines => engines.mapM readEngine

def readTracker (root : Members) : Except ConfigFault String :=
  match memberOf root "qtiobjtracker_parameters" with
  | none => .ok ""
  | some _ => orFault .trackerParameters (getStringMember root "qtiobjtracker_parameters")

def checkFrameCache (frameCache : AppConfig.FrameCache) (mqtt : AppConfig.Mqtt) :
    Except ConfigFault Unit :=
  if frameCache.enabled then
    if !mqtt.enabled then .error .frameCacheMqtt
    else if frameCache.frameDoneTopic.isEmpty then .error .frameCacheTopic
    else .ok ()
  else .ok ()

def limitChannels (maxChannels : UInt32) : UInt32 :=
  let limited := min maxChannels kHardChannelLimit
  if limited = 0 then 1 else limited

def loadObject (cfgDir : String) (root : Members) : Except ConfigFault AppConfig := do
  let modelPath ← requiredPath cfgDir root "model_path" .modelPath
  let videos ← readVideos cfgDir root
  let labelsPath ← requiredPath cfgDir root "labels_path" .labelsPath
  let outputDir ← requiredPath cfgDir root "output_dir" .outputDir
  let confidence ← readConfidence numbers root
  let maxChannels ← requiredPositive numbers root "max_channels" 6 .maxChannels
  let maxBuffers ← requiredPositive numbers root "appsink_max_buffers" 8 .appsinkMaxBuffers
  let engines ← readEngines root
  let tracker ← readTracker root
  let mqtt := readMqtt numbers (sectionOf root "mqtt")
  let frameCache := readFrameCache numbers (sectionOf root "frame_cache")
  checkFrameCache frameCache mqtt
  let channels := limitChannels maxChannels
  return {
    modelPath := modelPath
    videosPath := videos.take channels.toNat
    labelsPath := labelsPath
    outputDir := outputDir
    logDir := pathOr cfgDir root "log_dir" (outputDir ++ "/../log")
    qnnBackend := pathOr cfgDir root "qnn_backend" "/usr/lib/libQnnHtp.so"
    qnnSystem := pathOr cfgDir root "qnn_system" "/usr/lib/libQnnSystem.so"
    qnnBackendDeviceId := castOr numbers root "qnn_backend_device_id" 0
    qnnTensors :=
      ((getStringArrayMember root "qnn_tensors").filter fun tensors => !tensors.isEmpty).getD
        ["boxes", "scores", "class_idx"]
    qtimlvconverterEngineOrder := engines
    qtiobjtrackerParameters := tracker
    postprocessModule := filledOr root "postprocess_module" "yolov8"
    confidence := confidence
    maxChannels := channels
    appsinkSync := booleanOr numbers root "appsink_sync" false
    appsinkDrop := booleanOr numbers root "appsink_drop" false
    appsinkMaxBuffers := maxBuffers
    face := readFace numbers cfgDir (sectionOf root "face")
    memtest := readMemtest numbers cfgDir (sectionOf root "memtest")
    aggregator := readAggregator numbers (sectionOf root "aggregator")
    mqtt := mqtt
    frameCache := frameCache
    msgagg := readMsgAgg numbers cfgDir (sectionOf root "msgagg")
    latencyTest := readLatencyTest numbers cfgDir (sectionOf root "latency_test")
  }

/-- `LoadFromFile`. `file` is what the file holds, `none` where it cannot be read, and `details`
what json-glib says where it cannot be read or parsed. -/
def loadFromFile (glib : JsonGlib) (configFilePath details : String) (file : Option (List UInt8)) :
    Except ConfigFault AppConfig :=
  match file.bind glib.parse with
  | none => .error (.unparsable details)
  | some (.object root) =>
      let cfgPath := PosixPath.lexicallyNormal configFilePath.toList
      loadObject numbers (String.ofList (PosixPath.parentPath cfgPath)) root
  | some _ => .error .rootNotObject

end ConfigLoader

open ConfigLoader

/-- What the check behind a message lets pass, which is not always what the message says: `ocv` is
an engine too, a text passes for a confidence of 0, a count is cut to `gint` first, and a path of
no characters counts as missing. -/
def ConfigFault.Passes (numbers : ConfigNumbers) (root : Members) : ConfigFault → Prop
  | .unparsable _ | .rootNotObject => True
  | .modelPath => (filledMember root "model_path").isSome
  | .videosPath => ∃ video rest, getStringArrayMember root "videos_path" = some (video :: rest)
  | .videosPathEmpty => ∀ videos ∈ getStringArrayMember root "videos_path", "" ∉ videos
  | .labelsPath => (filledMember root "labels_path").isSome
  | .outputDir => (filledMember root "output_dir").isSome
  | .confidenceType => ∀ value ∈ memberOf root "confidence", holdsValue value
  | .confidenceRange => ∀ value ∈ memberOf root "confidence", holdsValue value →
      0 ≤ doubleMember numbers value ∧ doubleMember numbers value ≤ 100
  | .maxChannels => ∀ value ∈ gintMember numbers root "max_channels", 0 < value
  | .appsinkMaxBuffers => ∀ value ∈ gintMember numbers root "appsink_max_buffers", 0 < value
  | .engineOrder => (memberOf root "qtimlvconverter_engine_order").isSome →
      ∃ engine rest, getStringArrayMember root "qtimlvconverter_engine_order" =
        some (engine :: rest)
  | .engineEmpty => ∀ engines ∈ getStringArrayMember root "qtimlvconverter_engine_order",
      "" ∉ engines
  | .engineInvalid engine =>
      ∀ engines ∈ getStringArrayMember root "qtimlvconverter_engine_order",
        engine ∈ engines → engine ≠ "" → toLowerAscii engine ∈ supportedEngines
  | .trackerParameters => (memberOf root "qtiobjtracker_parameters").isSome →
      (getStringMember root "qtiobjtracker_parameters").isSome
  | .frameCacheMqtt => (readFrameCache numbers (sectionOf root "frame_cache")).enabled →
      (readMqtt numbers (sectionOf root "mqtt")).enabled
  | .frameCacheTopic => (readFrameCache numbers (sectionOf root "frame_cache")).enabled →
      (readFrameCache numbers (sectionOf root "frame_cache")).frameDoneTopic ≠ ""

namespace ConfigLoader

variable {numbers : ConfigNumbers} {root : Members}

theorem judges_orFault {Result : Type} {fault : ConfigFault} {found : Option Result}
    (means : fault.Passes numbers root ↔ found.isSome) :
    Judges (ConfigFault.Passes numbers root) (· = fault) (orFault fault found) := by
  cases found with
  | none =>
      refine ⟨nofun, ?_⟩
      rintro _ ⟨⟩
      exact ⟨rfl, fun met => by simpa using means.mp met⟩
  | some result =>
      refine ⟨?_, nofun⟩
      rintro _ _ _ rfl
      exact means.mpr rfl

theorem judges_requiredPath (cfgDir : String) {key : String} {fault : ConfigFault}
    (means : fault.Passes numbers root ↔ (filledMember root key).isSome) :
    Judges (ConfigFault.Passes numbers root) (· = fault) (requiredPath cfgDir root key fault) :=
  (judges_orFault means).map _

theorem any_isEmpty_iff (texts : List String) : texts.any String.isEmpty = true ↔ "" ∈ texts := by
  simp [List.any_eq_true, String.isEmpty_iff]

theorem judges_readVideos (cfgDir : String) :
    Judges (ConfigFault.Passes numbers root)
      (fun fault => fault = .videosPath ∨ fault = .videosPathEmpty) (readVideos cfgDir root) := by
  rw [readVideos]
  split
  · rename_i missing
    refine ⟨nofun, ?_⟩
    rintro _ ⟨⟩
    exact ⟨.inl rfl, by rintro ⟨_, _, found⟩; simp [missing] at found⟩
  · rename_i empty
    refine ⟨nofun, ?_⟩
    rintro _ ⟨⟩
    exact ⟨.inl rfl, by rintro ⟨_, _, found⟩; simp [empty] at found⟩
  · rename_i videos filled found
    split
    · rename_i blank
      refine ⟨nofun, ?_⟩
      rintro _ ⟨⟩
      exact ⟨.inr rfl, fun met => met videos found ((any_isEmpty_iff videos).mp blank)⟩
    · rename_i unblank
      refine ⟨?_, nofun⟩
      rintro _ _ _ (rfl | rfl)
      · cases videos with
        | nil => exact absurd rfl filled
        | cons video rest => exact ⟨video, rest, found⟩
      · intro videos' found'
        obtain rfl := Option.some.inj (found.symm.trans found')
        exact fun blank => unblank ((any_isEmpty_iff videos).mpr blank)

theorem judges_readConfidence :
    Judges (ConfigFault.Passes numbers root)
      (fun fault => fault = .confidenceType ∨ fault = .confidenceRange)
      (readConfidence numbers root) := by
  rw [readConfidence]
  split
  · rename_i missing
    refine ⟨?_, nofun⟩
    rintro _ _ _ (rfl | rfl)
    · intro value found
      simp [missing] at found
    · intro value found
      simp [missing] at found
  · rename_i value found
    split
    · rename_i other
      refine ⟨nofun, ?_⟩
      rintro _ ⟨⟩
      refine ⟨.inl rfl, fun met => ?_⟩
      rw [met value found] at other
      cases other
    split
    · rename_i holds outside
      refine ⟨nofun, ?_⟩
      rintro _ ⟨⟩
      refine ⟨.inr rfl, fun met => ?_⟩
      obtain ⟨low, high⟩ := met value found (by simpa using holds)
      rcases outside with below | above
      · exact Rat.not_lt.mpr low below
      · exact Rat.not_lt.mpr high above
    · rename_i holds outside
      refine ⟨?_, nofun⟩
      rintro _ _ _ (rfl | rfl)
      · intro value' found'
        obtain rfl := Option.some.inj (found.symm.trans found')
        simpa using holds
      · intro value' found' _
        obtain rfl := Option.some.inj (found.symm.trans found')
        rw [not_or, Rat.not_lt, Rat.not_lt] at outside
        exact outside

theorem judges_requiredPositive {key : String} {default : Int32} {fault : ConfigFault}
    (means : fault.Passes numbers root ↔ ∀ value ∈ gintMember numbers root key, 0 < value) :
    Judges (ConfigFault.Passes numbers root) (· = fault)
      (requiredPositive numbers root key default fault) := by
  rw [requiredPositive]
  split
  · rename_i missing
    refine ⟨?_, nofun⟩
    rintro _ _ _ rfl
    rw [means, missing]
    exact nofun
  · rename_i value found
    split
    · rename_i small
      refine ⟨nofun, ?_⟩
      rintro _ ⟨⟩
      exact ⟨rfl, fun met => absurd (means.mp met value found) (Int32.not_lt.mpr small)⟩
    · rename_i large
      refine ⟨?_, nofun⟩
      rintro _ _ _ rfl
      rw [means, found]
      rintro _ ⟨⟩
      exact Int32.not_le.mp large

theorem readEngine_ok {engine nick : String} (accepted : readEngine engine = .ok nick) :
    engine ≠ "" ∧ nick = toLowerAscii engine ∧ toLowerAscii engine ∈ supportedEngines := by
  rw [readEngine] at accepted
  split at accepted
  · cases accepted
  rename_i filled
  split at accepted
  · cases accepted
  · rename_i supported
    obtain rfl := Except.ok.inj accepted
    refine ⟨by simpa using filled, rfl, ?_⟩
    simpa [isSupportedMlConverterEngineNick] using supported

theorem readEngine_error {engine : String} {fault : ConfigFault}
    (rejected : readEngine engine = .error fault) :
    (engine = "" ∧ fault = .engineEmpty) ∨
      (engine ≠ "" ∧ fault = .engineInvalid engine ∧ toLowerAscii engine ∉ supportedEngines) := by
  rw [readEngine] at rejected
  split at rejected
  · rename_i empty
    exact .inl ⟨by simpa using empty, (Except.error.inj rejected).symm⟩
  rename_i filled
  split at rejected
  · rename_i unsupported
    refine .inr ⟨by simpa using filled, (Except.error.inj rejected).symm, ?_⟩
    simpa [isSupportedMlConverterEngineNick] using unsupported
  · cases rejected

theorem judges_readEngines :
    Judges (ConfigFault.Passes numbers root)
      (fun fault => fault = .engineOrder ∨ fault = .engineEmpty ∨
        ∃ engine, fault = .engineInvalid engine)
      (readEngines root) := by
  rw [readEngines]
  split
  · rename_i missing
    have unlisted : getStringArrayMember root "qtimlvconverter_engine_order" = none := by
      rw [getStringArrayMember, missing]
    refine ⟨?_, nofun⟩
    rintro _ _ _ (rfl | rfl | ⟨engine, rfl⟩)
    · intro present
      simp [missing] at present
    · intro engines found
      simp [unlisted] at found
    · intro engines found
      simp [unlisted] at found
  rename_i value present
  split
  · rename_i missing
    refine ⟨nofun, ?_⟩
    rintro _ ⟨⟩
    refine ⟨.inl rfl, fun met => ?_⟩
    obtain ⟨_, _, found⟩ := met (by rw [present]; rfl)
    simp [missing] at found
  · rename_i empty
    refine ⟨nofun, ?_⟩
    rintro _ ⟨⟩
    refine ⟨.inl rfl, fun met => ?_⟩
    obtain ⟨_, _, found⟩ := met (by rw [present]; rfl)
    simp [empty] at found
  · rename_i engines filled found
    constructor
    · rintro nicks accepted _ (rfl | rfl | ⟨engine, rfl⟩)
      · intro _
        cases engines with
        | nil => exact absurd rfl filled
        | cons engine rest => exact ⟨engine, rest, found⟩
      · intro engines' found' blank
        obtain rfl := Option.some.inj (found.symm.trans found')
        obtain ⟨nick, read⟩ := mapM_ok accepted "" blank
        exact (readEngine_ok read).1 rfl
      · intro engines' found' listed _
        obtain rfl := Option.some.inj (found.symm.trans found')
        obtain ⟨nick, read⟩ := mapM_ok accepted engine listed
        exact (readEngine_ok read).2.2
    · intro fault rejected
      obtain ⟨engine, listed, failed⟩ := mapM_error rejected
      rcases readEngine_error failed with ⟨rfl, rfl⟩ | ⟨named, rfl, unsupported⟩
      · exact ⟨.inr (.inl rfl), fun met => met engines found listed⟩
      · exact ⟨.inr (.inr ⟨engine, rfl⟩),
          fun met => unsupported (met engines found listed named)⟩

theorem judges_readTracker :
    Judges (ConfigFault.Passes numbers root) (· = .trackerParameters) (readTracker root) := by
  rw [readTracker]
  split
  · rename_i missing
    refine ⟨?_, nofun⟩
    rintro _ _ _ rfl present
    simp [missing] at present
  · rename_i value present
    exact judges_orFault ⟨fun met => met (by rw [present]; rfl), fun found _ => found⟩

theorem judges_checkFrameCache :
    Judges (ConfigFault.Passes numbers root)
      (fun fault => fault = .frameCacheMqtt ∨ fault = .frameCacheTopic)
      (checkFrameCache (readFrameCache numbers (sectionOf root "frame_cache"))
        (readMqtt numbers (sectionOf root "mqtt"))) := by
  rw [checkFrameCache]
  split
  · rename_i enabled
    split
    · rename_i apart
      refine ⟨nofun, ?_⟩
      rintro _ ⟨⟩
      refine ⟨.inl rfl, fun met => ?_⟩
      rw [met enabled] at apart
      cases apart
    split
    · rename_i blank
      refine ⟨nofun, ?_⟩
      rintro _ ⟨⟩
      exact ⟨.inr rfl, fun met => met enabled (by simpa using blank)⟩
    · rename_i joined filled
      refine ⟨?_, nofun⟩
      rintro _ _ _ (rfl | rfl) _
      · simpa using joined
      · simpa using filled
  · rename_i disabled
    refine ⟨?_, nofun⟩
    rintro _ _ _ (rfl | rfl) enabled
    · exact absurd enabled disabled
    · exact absurd enabled disabled

def OfMember (fault : ConfigFault) : Prop :=
  (∀ details, fault ≠ .unparsable details) ∧ fault ≠ .rootNotObject

/-- An object is accepted exactly if it passes every check, and where it is not, the message is that
of a check that it does not pass. -/
theorem judges_loadObject (cfgDir : String) :
    Judges (ConfigFault.Passes numbers root) OfMember (loadObject numbers cfgDir root) := by
  have judged : Judges (ConfigFault.Passes numbers root) (fun fault => fault = .modelPath ∨
      (fault = .videosPath ∨ fault = .videosPathEmpty) ∨ fault = .labelsPath ∨
      fault = .outputDir ∨ (fault = .confidenceType ∨ fault = .confidenceRange) ∨
      fault = .maxChannels ∨ fault = .appsinkMaxBuffers ∨
      (fault = .engineOrder ∨ fault = .engineEmpty ∨ ∃ engine, fault = .engineInvalid engine) ∨
      fault = .trackerParameters ∨ (fault = .frameCacheMqtt ∨ fault = .frameCacheTopic) ∨ False)
      (loadObject numbers cfgDir root) := by
    refine Judges.bind (judges_requiredPath cfgDir Iff.rfl) fun _ _ => ?_
    refine Judges.bind (judges_readVideos cfgDir) fun _ _ => ?_
    refine Judges.bind (judges_requiredPath cfgDir Iff.rfl) fun _ _ => ?_
    refine Judges.bind (judges_requiredPath cfgDir Iff.rfl) fun _ _ => ?_
    refine Judges.bind judges_readConfidence fun _ _ => ?_
    refine Judges.bind (judges_requiredPositive Iff.rfl) fun _ _ => ?_
    refine Judges.bind (judges_requiredPositive Iff.rfl) fun _ _ => ?_
    refine Judges.bind judges_readEngines fun _ _ => ?_
    refine Judges.bind judges_readTracker fun _ _ => ?_
    refine Judges.bind judges_checkFrameCache fun _ _ => ?_
    exact Judges.ok _
  refine judged.widen fun fault => ?_
  cases fault <;> simp [OfMember]

theorem resolvePath_ne_empty (baseDir : String) {value : String} (filled : value ≠ "") :
    resolvePath baseDir value ≠ "" := by
  have nonempty : value.toList ≠ [] := by simpa using filled
  have kept {path : String} (present : path.toList ≠ []) : normalizePathSeparators path ≠ "" := by
    intro empty
    have blank := congrArg String.toList empty
    rw [normalizePathSeparators, String.toList_map] at blank
    exact present (List.map_eq_nil_iff.mp blank)
  rw [resolvePath, if_neg (by simpa using filled)]
  split
  · exact kept nonempty
  · refine kept ?_
    rw [String.toList_ofList]
    exact PosixPath.lexicallyNormal_ne_nil (PosixPath.join_ne_nil _ nonempty)

theorem filledMember_ne_empty {object : Members} {key text : String}
    (found : filledMember object key = some text) : text ≠ "" := by
  obtain ⟨_, filled⟩ := Option.filter_eq_some_iff.mp found
  simpa using filled

theorem filledOr_ne_empty (object : Members) (key : String) {default : String}
    (filled : default ≠ "") : filledOr object key default ≠ "" := by
  rw [filledOr]
  cases found : filledMember object key with
  | none => exact filled
  | some text => exact filledMember_ne_empty found

theorem pathOr_ne_empty (cfgDir : String) (object : Members) (key : String) {default : String}
    (filled : default ≠ "") : pathOr cfgDir object key default ≠ "" := by
  rw [pathOr]
  cases found : filledMember object key with
  | none => exact filled
  | some text => exact resolvePath_ne_empty cfgDir (filledMember_ne_empty found)

theorem gintWhere_inRange (numbers : ConfigNumbers) (object : Members) (key : String)
    (inRange : Int32 → Bool) {default : Int32} (right : inRange default = true) :
    inRange (gintWhere numbers object key inRange default) = true := by
  rw [gintWhere]
  cases found : (gintMember numbers object key).filter inRange with
  | none => exact right
  | some value => exact (Option.filter_eq_some_iff.mp found).2

theorem toUInt32_pos {value : Int32} (positive : 0 < value) :
    0 < value.toUInt32.toNat ∧ value.toUInt32.toNat < 2 ^ 31 := by
  have nonnegative : 0 ≤ value := Int32.le_of_lt positive
  have most := value.toInt_lt
  have clamped := Int32.toInt_eq_toNatClampNeg nonnegative
  rw [Int32.lt_iff_toInt_lt, Int32.toInt_zero] at positive
  rw [Int32.toNat_toUInt32_of_le nonnegative]
  omega

theorem positiveOr_pos (object : Members) (key : String) {default : Int32}
    (positive : 0 < default) : 0 < (positiveOr numbers object key default).toNat := by
  have held := gintWhere_inRange numbers object key (fun value => 0 < value)
    (decide_eq_true positive)
  exact (toUInt32_pos (of_decide_eq_true held)).1

theorem limitChannels_bounds (maxChannels : UInt32) :
    1 ≤ (limitChannels maxChannels).toNat ∧ (limitChannels maxChannels).toNat ≤ 6 := by
  have limited : (min maxChannels kHardChannelLimit).toNat ≤ 6 := by
    rw [show min maxChannels kHardChannelLimit =
      if maxChannels ≤ kHardChannelLimit then maxChannels else kHardChannelLimit from rfl]
    split
    · rename_i small
      exact UInt32.le_iff_toNat_le.mp small
    · exact Nat.le_refl _
  rw [limitChannels]
  split
  · decide
  · rename_i nonzero
    refine ⟨Nat.one_le_iff_ne_zero.mpr fun zero => nonzero ?_, limited⟩
    exact UInt32.toNat_inj.mp zero

end ConfigLoader

namespace AppConfig

structure Aggregator.WellFormed (aggregator : Aggregator) : Prop where
  batchSize : 0 < aggregator.batchSize.toNat
  queueCapacity : 0 < aggregator.queueCapacity.toNat
  drainTimeoutMs : 0 < aggregator.drainTimeoutMs.toNat

structure Mqtt.WellFormed (mqtt : Mqtt) : Prop where
  brokerIp : mqtt.brokerIp ≠ ""
  port : 0 < mqtt.port ∧ mqtt.port ≤ 65535
  pubTopic : mqtt.pubTopic ≠ ""
  subTopic : mqtt.subTopic ≠ ""
  clientId : mqtt.clientId ≠ ""
  qos : 0 ≤ mqtt.qos ∧ mqtt.qos ≤ 2

structure FrameCache.WellFormed (frameCache : FrameCache) : Prop where
  socketPath : frameCache.socketPath ≠ ""
  heapPath : frameCache.heapPath ≠ ""
  slotCount : 0 < frameCache.slotCount ∧ frameCache.slotCount ≤ 32
  width : 0 < frameCache.width
  height : 0 < frameCache.height

structure WellFormed (config : AppConfig) : Prop where
  modelPath : config.modelPath ≠ ""
  labelsPath : config.labelsPath ≠ ""
  outputDir : config.outputDir ≠ ""
  logDir : config.logDir ≠ ""
  qnnBackend : config.qnnBackend ≠ ""
  qnnSystem : config.qnnSystem ≠ ""
  postprocessModule : config.postprocessModule ≠ ""
  channels : 1 ≤ config.maxChannels.toNat ∧ config.maxChannels.toNat ≤ 6
  videos : 1 ≤ config.videosPath.length ∧ config.videosPath.length ≤ config.maxChannels.toNat
  videosPath : "" ∉ config.videosPath
  confidence : 0 ≤ config.confidence ∧ config.confidence ≤ 100
  appsinkMaxBuffers : 0 < config.appsinkMaxBuffers.toNat
  tensors : config.qnnTensors ≠ []
  engines : config.qtimlvconverterEngineOrder ≠ []
  supported : ∀ engine ∈ config.qtimlvconverterEngineOrder,
    engine ∈ ConfigLoader.supportedEngines
  minFaceSize : 0 < config.face.galleryMinFaceSize.toNat
  sampleInterval : 0 < config.memtest.memSampleIntervalS.toNat
  aggregator : config.aggregator.WellFormed
  mqtt : config.mqtt.WellFormed
  frameCache : config.frameCache.WellFormed
  frameDone : config.frameCache.enabled →
    config.mqtt.enabled ∧ config.frameCache.frameDoneTopic ≠ ""
  msgagg : 0 < config.msgagg.timeoutMs.toNat
  latencyTest : 0 < config.latencyTest.sampleEveryN.toNat

end AppConfig

namespace ConfigLoader

theorem wellFormed_readAggregator (aggregator : Members) :
    (readAggregator numbers aggregator).WellFormed :=
  ⟨positiveOr_pos _ _ (by decide), positiveOr_pos _ _ (by decide), positiveOr_pos _ _ (by decide)⟩

theorem wellFormed_readMqtt (mqtt : Members) : (readMqtt numbers mqtt).WellFormed where
  brokerIp := filledOr_ne_empty _ _ (by decide)
  port := of_decide_eq_true (gintWhere_inRange numbers mqtt "port"
    (fun value => 0 < value ∧ value ≤ 65535) (by decide))
  pubTopic := filledOr_ne_empty _ _ (by decide)
  subTopic := filledOr_ne_empty _ _ (by decide)
  clientId := filledOr_ne_empty _ _ (by decide)
  qos := of_decide_eq_true (gintWhere_inRange numbers mqtt "qos"
    (fun value => 0 ≤ value ∧ value ≤ 2) (by decide))

theorem wellFormed_readFrameCache (frameCache : Members) :
    (readFrameCache numbers frameCache).WellFormed where
  socketPath := filledOr_ne_empty _ _ (by decide)
  heapPath := filledOr_ne_empty _ _ (by decide)
  slotCount := of_decide_eq_true (gintWhere_inRange numbers frameCache "slot_count"
    (fun value => 0 < value ∧ value ≤ 32) (by decide))
  width := of_decide_eq_true (gintWhere_inRange numbers frameCache "width"
    (fun value => 0 < value) (by decide))
  height := of_decide_eq_true (gintWhere_inRange numbers frameCache "height"
    (fun value => 0 < value) (by decide))

theorem yields_requiredPath (cfgDir : String) (key : String) (fault : ConfigFault) :
    Yields (· ≠ "") (requiredPath cfgDir root key fault) := by
  rw [requiredPath]
  cases found : filledMember root key with
  | none => exact Yields.error fault
  | some text => exact Yields.ok (resolvePath_ne_empty cfgDir (filledMember_ne_empty found))

theorem yields_readVideos (cfgDir : String) :
    Yields (fun videos => videos ≠ [] ∧ "" ∉ videos) (readVideos cfgDir root) := by
  rw [readVideos]
  split
  · exact Yields.error _
  · exact Yields.error _
  · rename_i videos filled found
    split
    · exact Yields.error _
    · rename_i unblank
      refine Yields.ok ⟨?_, ?_⟩
      · cases videos with
        | nil => exact absurd rfl filled
        | cons video rest => exact List.cons_ne_nil _ _
      · intro listed
        obtain ⟨video, member, empty⟩ := List.mem_map.mp listed
        rcases eq_or_ne video "" with rfl | named
        · exact unblank ((any_isEmpty_iff videos).mpr member)
        · exact resolvePath_ne_empty cfgDir named empty

theorem yields_readConfidence :
    Yields (fun value => 0 ≤ value ∧ value ≤ 100) (readConfidence numbers root) := by
  rw [readConfidence]
  split
  · exact Yields.ok (by decide)
  · split
    · exact Yields.error _
    split
    · exact Yields.error _
    · rename_i outside
      rw [not_or, Rat.not_lt, Rat.not_lt] at outside
      exact Yields.ok outside

theorem yields_requiredPositive {key : String} {default : Int32} {fault : ConfigFault}
    (positive : 0 < default) :
    Yields (fun value => 0 < value.toNat) (requiredPositive numbers root key default fault) := by
  rw [requiredPositive]
  split
  · exact Yields.ok (toUInt32_pos positive).1
  · split
    · exact Yields.error _
    · rename_i large
      exact Yields.ok (toUInt32_pos (Int32.not_le.mp large)).1

theorem yields_readEngines : Yields (fun engines => engines ≠ [] ∧
    ∀ engine ∈ engines, engine ∈ supportedEngines) (readEngines root) := by
  rw [readEngines]
  split
  · exact Yields.ok (by decide)
  split
  · exact Yields.error _
  · exact Yields.error _
  · rename_i engines filled found
    have each (engine : String) : Yields (· ∈ supportedEngines) (readEngine engine) := by
      intro nick accepted
      obtain ⟨_, rfl, supported⟩ := readEngine_ok accepted
      exact supported
    intro nicks accepted
    obtain ⟨length, supported⟩ := Yields.mapM each engines nicks accepted
    refine ⟨fun empty => filled ?_, supported⟩
    exact List.length_eq_zero_iff.mp (by rw [← length, empty]; rfl)

theorem yields_checkFrameCache (frameCache : AppConfig.FrameCache) (mqtt : AppConfig.Mqtt) :
    Yields (fun _ => frameCache.enabled → mqtt.enabled ∧ frameCache.frameDoneTopic ≠ "")
      (checkFrameCache frameCache mqtt) := by
  rw [checkFrameCache]
  split
  · split
    · exact Yields.error _
    split
    · exact Yields.error _
    · rename_i joined filled
      exact Yields.ok fun _ => ⟨by simpa using joined, by simpa using filled⟩
  · rename_i disabled
    exact Yields.ok fun enabled => absurd enabled disabled

theorem yields_loadObject (cfgDir : String) :
    Yields AppConfig.WellFormed (loadObject numbers cfgDir root) := by
  refine Yields.bind (yields_requiredPath cfgDir _ _) fun modelPath model => ?_
  refine Yields.bind (yields_readVideos cfgDir) fun videos listed => ?_
  refine Yields.bind (yields_requiredPath cfgDir _ _) fun labelsPath labels => ?_
  refine Yields.bind (yields_requiredPath cfgDir _ _) fun outputDir output => ?_
  refine Yields.bind yields_readConfidence fun confidence inRange => ?_
  refine Yields.bind (yields_requiredPositive (by decide)) fun maxChannels _ => ?_
  refine Yields.bind (yields_requiredPositive (by decide)) fun maxBuffers positive => ?_
  refine Yields.bind yields_readEngines fun engines supported => ?_
  refine Yields.bind (fun _ _ => trivial) fun tracker (_ : True) => ?_
  refine Yields.bind (yields_checkFrameCache _ _) fun _ frameDone => Yields.ok ?_
  have channels := limitChannels_bounds maxChannels
  exact {
    modelPath := model
    labelsPath := labels
    outputDir := output
    logDir := pathOr_ne_empty _ _ _ (by simp)
    qnnBackend := pathOr_ne_empty _ _ _ (by decide)
    qnnSystem := pathOr_ne_empty _ _ _ (by decide)
    postprocessModule := filledOr_ne_empty _ _ (by decide)
    channels := channels
    videos := by
      have filled := List.length_pos_iff.mpr listed.1
      simp only [List.length_take]
      omega
    videosPath := fun blank => listed.2 (List.mem_of_mem_take blank)
    confidence := inRange
    appsinkMaxBuffers := positive
    tensors := by
      cases found : (getStringArrayMember root "qnn_tensors").filter
          fun tensors => !tensors.isEmpty with
      | none => simp
      | some tensors =>
          obtain ⟨_, filled⟩ := Option.filter_eq_some_iff.mp found
          simpa using filled
    engines := supported.1
    supported := supported.2
    minFaceSize := positiveOr_pos _ _ (by decide)
    sampleInterval := positiveOr_pos _ _ (by decide)
    aggregator := wellFormed_readAggregator _
    mqtt := wellFormed_readMqtt _
    frameCache := wellFormed_readFrameCache _
    frameDone := frameDone
    msgagg := positiveOr_pos _ _ (by decide)
    latencyTest := positiveOr_pos _ _ (by decide) }

theorem yields_loadFromFile (numbers : ConfigNumbers) (glib : JsonGlib)
    (configFilePath details : String) (file : Option (List UInt8)) :
    Yields AppConfig.WellFormed (loadFromFile numbers glib configFilePath details file) := by
  rw [loadFromFile]
  split
  · exact Yields.error _
  · exact yields_loadObject _
  · exact Yields.error _

/-- Which files are accepted: those that pass every check. What is made of them is well formed, and
an error is that of a check that was not passed. -/
theorem loadFromFile_judges (numbers : ConfigNumbers) (glib : JsonGlib)
    (configFilePath details : String) (file : Option (List UInt8)) :
    ((∃ config, loadFromFile numbers glib configFilePath details file = .ok config) ↔
      ∃ root, file.bind glib.parse = some (.object root) ∧
        ∀ fault, OfMember fault → fault.Passes numbers root) ∧
    (∀ config, loadFromFile numbers glib configFilePath details file = .ok config →
      config.WellFormed) ∧
    ∀ fault, loadFromFile numbers glib configFilePath details file = .error fault →
      (fault = .unparsable details ∧ file.bind glib.parse = none) ∨
      (fault = .rootNotObject ∧ ∃ value, file.bind glib.parse = some value ∧
        ∀ root, value ≠ .object root) ∨
      ∃ root, file.bind glib.parse = some (.object root) ∧ OfMember fault ∧
        ¬fault.Passes numbers root := by
  refine and_left_comm.mp ⟨yields_loadFromFile numbers glib configFilePath details file, ?_⟩
  rw [loadFromFile]
  split
  · rename_i unparsed
    refine ⟨by simp [unparsed], fun fault rejected => ?_⟩
    obtain rfl := Except.error.inj rejected
    exact .inl ⟨rfl, unparsed⟩
  · rename_i root parsed
    have judged : Judges (ConfigFault.Passes numbers root) OfMember
        (loadObject numbers (String.ofList
          (PosixPath.parentPath (PosixPath.lexicallyNormal configFilePath.toList))) root) :=
      judges_loadObject _
    refine ⟨?_, ?_⟩
    · rw [judged.ok_iff]
      simp [parsed]
    · intro fault rejected
      obtain ⟨covers, unmet⟩ := judged.rejects fault rejected
      exact .inr (.inr ⟨root, parsed, covers, unmet⟩)
  · rename_i value other parsed
    refine ⟨⟨?_, ?_⟩, fun fault rejected => ?_⟩
    · rintro ⟨_, accepted⟩
      cases accepted
    · rintro ⟨root, found, _⟩
      exact absurd (Option.some.inj (parsed.symm.trans found)) (other root)
    obtain rfl := Except.error.inj rejected
    exact .inr (.inl ⟨rfl, value, parsed, other⟩)

end ConfigLoader

def AppConfig.producerConfig (config : AppConfig) : FrameCache.Config where
  socketPath := some config.frameCache.socketPath
  heapPath := some config.frameCache.heapPath
  width := config.frameCache.width
  height := config.frameCache.height
  slotCount := config.frameCache.slotCount
  relayMode := config.frameCache.relayMode

def AppConfig.frameBytes (config : AppConfig) : Nat :=
  FrameCache.pageCeil (FrameCache.rgbBytes config.frameCache.width config.frameCache.height) *
    config.frameCache.slotCount.toInt.toNat

structure WillingHeap (answers : FrameCache.InitAnswers) : Prop where
  opened : 0 ≤ answers.heap.openHeap ∨ 0 ≤ answers.heap.openFallback
  allocated : ∃ fd, answers.heap.allocate = .ok fd
  mapped : ∃ address, answers.heap.map = .ok address
  ipcInit : answers.ipcInit = .ok ()
  acceptClient : answers.acceptClient = .ok ()
  sendInit : answers.sendInit = .ok ()

structure WillingPeer (packet : IQ9InitPacket) (replies : Consumer.HandshakeAnswers) : Prop where
  connect : replies.connect = .ok ()
  packet : replies.recvPacket = .ok packet
  sharedFd : ∃ fd, 0 ≤ fd ∧ replies.recvFd = .ok fd
  mapped : ∃ address, replies.map = .ok address

namespace AppConfig.WellFormed

variable {config : AppConfig}

theorem slots (wellFormed : config.WellFormed) :
    config.producerConfig.slots = config.frameCache.slotCount :=
  if_neg (Int32.not_le.mpr wellFormed.frameCache.slotCount.1)

theorem stride_pos (wellFormed : config.WellFormed) :
    0 < FrameCache.pageCeil
      (FrameCache.rgbBytes config.frameCache.width config.frameCache.height) := by
  have width := wellFormed.frameCache.width
  have height := wellFormed.frameCache.height
  rw [Int32.lt_iff_toInt_lt, Int32.toInt_zero] at width height
  have positive : 0 < config.frameCache.width.toInt.toNat * config.frameCache.height.toInt.toNat :=
    Nat.mul_pos (by omega) (by omega)
  simp only [FrameCache.pageCeil, FrameCache.rgbBytes]
  omega

theorem pool_init {heapPath : String} {slotStride : Nat} {numSlots : Int}
    {answers : FrameCache.SlotPool.HeapAnswers} (least : 0 < numSlots) (most : numSlots ≤ 32)
    (stride : 0 < slotStride) (small : slotStride * numSlots.toNat < 2 ^ 64)
    (opened : 0 ≤ answers.openHeap ∨ 0 ≤ answers.openFallback)
    (allocated : ∃ fd, answers.allocate = .ok fd) (mapped : ∃ address, answers.map = .ok address) :
    ∃ made, FrameCache.SlotPool.empty.init heapPath slotStride numSlots answers = .ok made := by
  obtain ⟨fd, allocated⟩ := allocated
  obtain ⟨address, mapped⟩ := mapped
  have product : sizeMul slotStride numSlots.toNat / numSlots.toNat = slotStride := by
    rw [sizeMul, Nat.mod_eq_of_lt small]
    exact Nat.mul_div_cancel _ (by omega)
  rw [FrameCache.SlotPool.init, if_neg (by simp [FrameCache.SlotPool.empty]),
    dif_neg (by simp only [FrameCache.kMaxSlots]; omega), if_neg (by omega), if_neg (by omega)]
  simp only [product, allocated, mapped, ne_eq, not_true_eq_false, if_false]
  exact ⟨_, rfl⟩

/-- The producer never finds fault with the configuration itself. -/
theorem producer_init (wellFormed : config.WellFormed) (small : config.frameBytes < 2 ^ 64)
    {answers : FrameCache.InitAnswers} (willing : WillingHeap answers) :
    ∃ made, FrameCache.InitialisedProducer.init config.producerConfig answers = .ok made := by
  have width := wellFormed.frameCache.width
  have height := wellFormed.frameCache.height
  obtain ⟨least, most⟩ := wellFormed.frameCache.slotCount
  rw [Int32.lt_iff_toInt_lt, Int32.toInt_zero] at width height least
  rw [Int32.le_iff_toInt_le] at most
  have stride : config.producerConfig.slotStride.toNat = FrameCache.pageCeil
      (FrameCache.rgbBytes config.frameCache.width config.frameCache.height) :=
    FrameCache.Config.slotStride_toNat width height
  obtain ⟨pool, pooled⟩ : ∃ pool, FrameCache.SlotPool.empty.init config.frameCache.heapPath
      config.producerConfig.slotStride.toNat config.producerConfig.slots.toInt answers.heap =
        .ok pool := by
    rw [wellFormed.slots, stride]
    exact pool_init least most wellFormed.stride_pos small willing.opened willing.allocated
      willing.mapped
  rw [FrameCache.InitialisedProducer.init, if_neg]
  · simp only [AppConfig.producerConfig, Option.getD_some] at pooled ⊢
    simp only [pooled, willing.ipcInit, willing.acceptClient, willing.sendInit]
    exact ⟨_, rfl⟩
  · simp only [AppConfig.producerConfig, Int32.le_iff_toInt_le, Int32.toInt_zero]
    omega

theorem initPacket_layout (wellFormed : config.WellFormed) (small : config.frameBytes < 2 ^ 32) :
    config.producerConfig.initPacket.slotStride.toNat *
        config.frameCache.slotCount.toInt.toNat = config.frameBytes ∧
      0 < config.producerConfig.initPacket.slotStride.toNat ∧
      config.producerConfig.initPacket.bufferSize.toNat = config.frameBytes ∧
      castInt config.producerConfig.initPacket.slotCount = config.frameCache.slotCount.toInt := by
  have width := wellFormed.frameCache.width
  have height := wellFormed.frameCache.height
  obtain ⟨least, most⟩ := wellFormed.frameCache.slotCount
  rw [Int32.lt_iff_toInt_lt, Int32.toInt_zero] at width height least
  have stride : config.producerConfig.slotStride.toNat = FrameCache.pageCeil
      (FrameCache.rgbBytes config.frameCache.width config.frameCache.height) :=
    FrameCache.Config.slotStride_toNat width height
  have count : (FrameCache.castSize config.frameCache.slotCount).toNat =
      config.frameCache.slotCount.toInt.toNat := FrameCache.castSize_toNat least
  have narrow : config.producerConfig.slotStride.toNat < 2 ^ 32 := by
    rw [stride]
    exact Nat.lt_of_le_of_lt (Nat.le_mul_of_pos_right _ (by omega)) small
  have bytes : config.producerConfig.slotStride.toNat * config.frameCache.slotCount.toInt.toNat =
      config.frameBytes := by
    rw [stride]
    rfl
  have kept : config.producerConfig.initPacket.slotStride.toNat =
      config.producerConfig.slotStride.toNat := by
    rw [FrameCache.Config.initPacket, UInt64.toNat_toUInt32, Nat.mod_eq_of_lt narrow]
  refine ⟨by rw [kept, bytes], ?_, ?_, ?_⟩
  · rw [kept, stride]
    exact wellFormed.stride_pos
  · rw [FrameCache.Config.initPacket, UInt64.toNat_toUInt32, FrameCache.Config.bufferSize,
      wellFormed.slots, UInt64.toNat_mul, count, bytes]
    omega
  · rw [FrameCache.Config.initPacket, wellFormed.slots]
    rfl

theorem consumer_init (wellFormed : config.WellFormed) (small : config.frameBytes < 2 ^ 32)
    {replies : Consumer.HandshakeAnswers}
    (willing : WillingPeer config.producerConfig.initPacket replies) :
    (∃ consumer, Consumer.DmaBufConsumer.new.init replies = .ok consumer) ↔
      config.frameBytes ≤ Consumer.kMaxBufferSize := by
  obtain ⟨fd, valid, received⟩ := willing.sharedFd
  obtain ⟨address, mapped⟩ := willing.mapped
  obtain ⟨product, stride, bytes, count⟩ := wellFormed.initPacket_layout small
  obtain ⟨least, most⟩ := wellFormed.frameCache.slotCount
  rw [Int32.lt_iff_toInt_lt, Int32.toInt_zero] at least
  rw [Int32.le_iff_toInt_le] at most
  have most32 : (32 : Int32).toInt = 32 := rfl
  have filled : 0 < config.frameBytes := by
    rw [← product]
    exact Nat.mul_pos stride (by omega)
  have exactly : sizeMul config.producerConfig.initPacket.slotStride.toNat
      config.frameCache.slotCount.toInt.toNat = config.frameBytes := by
    rw [sizeMul, product, Nat.mod_eq_of_lt (by omega)]
  have adopts : Consumer.DmaBufConsumer.new.init replies =
      Consumer.DmaBufConsumer.adopt config.producerConfig.initPacket fd replies.map := by
    rw [Consumer.DmaBufConsumer.init, if_neg (by simp [Consumer.DmaBufConsumer.new]),
      willing.connect, Consumer.DmaBufConsumer.recvInit, willing.packet]
    simp only [count, received]
    rw [if_neg (by simp [FrameCache.Config.initPacket]), if_neg (by omega), if_neg (by omega)]
  rw [adopts]
  simp only [Consumer.DmaBufConsumer.adopt, count, bytes, exactly, mapped]
  rw [if_neg (by simp only [Consumer.kMaxSlots]; omega)]
  by_cases fits : config.frameBytes ≤ Consumer.kMaxBufferSize
  · rw [if_neg (by omega)]
    simp [fits]
  · rw [if_pos (by omega)]
    simp [fits]

end AppConfig.WellFormed

open ConfigLoader

/-- From the file to the handshake: what is accepted starts both ends, where no call of the
system fails, exactly if its buffer is within the 128 MiB that the consumer maps. -/
theorem accepted_starts {numbers : ConfigNumbers} {glib : JsonGlib}
    {configFilePath details : String} {file : Option (List UInt8)} {config : AppConfig}
    (accepted : loadFromFile numbers glib configFilePath details file = .ok config)
    (small : config.frameBytes < 2 ^ 32) {answers : FrameCache.InitAnswers}
    (willing : WillingHeap answers) :
    ∃ made, FrameCache.InitialisedProducer.init config.producerConfig answers = .ok made ∧
      ∀ replies, WillingPeer made.packet replies →
        ((∃ consumer, Consumer.DmaBufConsumer.new.init replies = .ok consumer) ↔
          config.frameBytes ≤ Consumer.kMaxBufferSize) := by
  have wellFormed := yields_loadFromFile numbers glib configFilePath details file config accepted
  obtain ⟨made, initialised⟩ := wellFormed.producer_init (by omega) willing
  refine ⟨made, initialised, fun replies peer => ?_⟩
  rw [(FrameCache.InitialisedProducer.init_ok initialised).2.2.2.2.2.2] at peer
  exact wellFormed.consumer_init small peer

def plainNumbers : ConfigNumbers where
  integer word := Int64.ofNat (ofDecimal word)
  single _ := 0
  double word := ofDecimal word
  truth word := decide (ofDecimal word ≠ 0)

def configFile : List UInt8 :=
  utf8 ("\x7b\"model_path\":\"m\",\"videos_path\":[\"v\"],\"labels_path\":\"l\"," ++
    "\"output_dir\":\"o\",\"mqtt\":\x7b\"enabled\":true\x7d,\"frame_cache\":\x7b" ++
    "\"enabled\":true,\"slot_count\":22,\"frame_done_topic\":\"d\"\x7d\x7d")

theorem accepted_starts_fullHd : ∃ config made,
    loadFromFile plainNumbers JsonGlib.verbatim "app.json" "" (some configFile) = .ok config ∧
    config.frameCache.enabled = true ∧ config.frameBytes = 136880128 ∧
    FrameCache.InitialisedProducer.init config.producerConfig FrameCache.willingAnswers =
      .ok made ∧
    ∀ replies, WillingPeer made.packet replies →
      ((∃ consumer, Consumer.DmaBufConsumer.new.init replies = .ok consumer) ↔
        config.frameBytes ≤ Consumer.kMaxBufferSize) := by
  have loaded : (loadFromFile plainNumbers JsonGlib.verbatim "app.json" ""
      (some configFile)).toOption.any fun config =>
        config.frameCache.enabled = true ∧ config.frameBytes = 136880128 := by
    decide +kernel
  have willing : WillingHeap FrameCache.willingAnswers :=
    ⟨.inl (by decide), ⟨5, rfl⟩, ⟨4096, rfl⟩, rfl, rfl, rfl⟩
  cases accepted : loadFromFile plainNumbers JsonGlib.verbatim "app.json" ""
      (some configFile) with
  | error fault => simp [accepted, Except.toOption] at loaded
  | ok config =>
      rw [accepted] at loaded
      obtain ⟨enabled, bytes⟩ : config.frameCache.enabled = true ∧
          config.frameBytes = 136880128 := of_decide_eq_true loaded
      obtain ⟨made, initialised, starts⟩ := accepted_starts accepted (by omega) willing
      exact ⟨config, made, rfl, enabled, bytes, initialised, starts⟩

end Iq9Pipeline.MultiCam
