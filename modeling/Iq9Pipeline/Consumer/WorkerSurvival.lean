import Iq9Pipeline.Consumer.VlmWorker
import Iq9Pipeline.RuleProcess.SceneParsing

/-!
Which tasks leave their worker alive and one line in the log: the texts that reach `dump`
have to be UTF-8, and the metadata have to be empty or a JSON text.
-/

namespace Iq9Pipeline

open Foundation Foundation.JsonText

namespace Json

mutual

def toValue (float : Float → List UInt8) : Json → Value
  | .null => .null
  | .boolean value => .boolean value
  | .numberInteger value => .number (integer value.toInt)
  | .numberUnsigned value => .number (decimal value.toNat)
  | .numberFloat double =>
      if double.value.isFinite then .number (float double.value) else .null
  | .string value => .string value
  | .array elements => .array (toElements float elements)
  | .object members => .object (toMembers float members)

def toElements (float : Float → List UInt8) : List Json → List Value
  | [] => []
  | next :: rest => toValue float next :: toElements float rest

def toMembers (float : Float → List UInt8) : List (String × Json) → List (String × Value)
  | [] => []
  | (name, value) :: rest => (name, toValue float value) :: toMembers float rest

end

mutual

theorem isNumber_words {float : Float → List UInt8}
    (numbers : ∀ value, JsonText.isNumber (float value) = true) :
    ∀ (json : Json), ∀ word ∈ (toValue float json).words, JsonText.isNumber word = true
  | .null, word, listed => by cases listed
  | .boolean _, word, listed => by cases listed
  | .numberInteger value, word, listed => by
      rw [toValue, Tree.words_number, List.mem_singleton] at listed
      exact listed ▸ isNumber_integer _
  | .numberUnsigned value, word, listed => by
      rw [toValue, Tree.words_number, List.mem_singleton] at listed
      exact listed ▸ isNumber_decimal _
  | .numberFloat double, word, listed => by
      rw [toValue] at listed
      split at listed
      · rw [Tree.words_number, List.mem_singleton] at listed
        exact listed ▸ numbers double.value
      · cases listed
  | .string _, word, listed => by cases listed
  | .array elements, word, listed => by
      rw [toValue, Tree.words_array] at listed
      exact isNumber_elementWords numbers elements word listed
  | .object members, word, listed => by
      rw [toValue, Tree.words_object] at listed
      exact isNumber_memberWords numbers members word listed

theorem isNumber_elementWords {float : Float → List UInt8}
    (numbers : ∀ value, JsonText.isNumber (float value) = true) :
    ∀ (elements : List Json), ∀ word ∈ (toElements float elements).flatMap Tree.words,
      JsonText.isNumber word = true
  | [], word, listed => by cases listed
  | next :: rest, word, listed => by
      rw [toElements, List.flatMap_cons, List.mem_append] at listed
      rcases listed with here | later
      · exact isNumber_words numbers next word here
      · exact isNumber_elementWords numbers rest word later

theorem isNumber_memberWords {float : Float → List UInt8}
    (numbers : ∀ value, JsonText.isNumber (float value) = true) :
    ∀ (members : List (String × Json)),
      ∀ word ∈ (toMembers float members).flatMap fun member => member.2.words,
        JsonText.isNumber word = true
  | [], word, listed => by cases listed
  | (_, value) :: rest, word, listed => by
      rw [toMembers, List.flatMap_cons, List.mem_append] at listed
      rcases listed with here | later
      · exact isNumber_words numbers value word here
      · exact isNumber_memberWords numbers rest word later

end

end Json

namespace Consumer

variable {library : NlohmannText} {world : VlmWorld} {req : VlmRequest} {entry : VlmLine}
  {outcome : VlmOutcome} {file : List UInt8} {ended : Option JsonlLogger}

/-- The task has not thrown, and one line has been added, which is the text of an object. -/
def Logged (file : List UInt8) (ended : Option JsonlLogger) : Prop :=
  ∃ line members, ended = some ⟨true, file ++ (line ++ [0x0a])⟩ ∧ 0x0a ∉ line ∧
    Denotes line (.object members)

def ReadableAnswer (library : NlohmannText) : Except (List UInt8) (List UInt8) → Prop
  | .error text => isUtf8 text = true
  | .ok body => ∀ what, library.parse body = .error what → isUtf8 what = true

def Answers (library : NlohmannText) (world : VlmWorld) (prompt : List UInt8) : Prop :=
  match world.encode with
  | .error text => isUtf8 text = true
  | .ok _ => world.curlEasyInit = true → world.fopen = true →
      isUtf8 prompt = true ∧ ReadableAnswer library world.perform

structure Survives (library : NlohmannText) (world : VlmWorld) (metadataJson prompt : List UInt8) :
    Prop where
  rule : isUtf8 (extractRuleName metadataJson) = true
  metadata : metadataJson = [] ∨ ∃ json, library.parse metadataJson = .ok json
  answers : Answers library world prompt

theorem buildRequestBody_isSome (fileUrl : String) :
    (buildRequestBody library req fileUrl).isSome = isUtf8 req.prompt := by
  rw [buildRequestBody, Tree.dump_isSome]
  simp [requestBody, member]

theorem isUtf8_content (body : List UInt8) (latencyMs : Float) :
    isUtf8 (parseResponse library body latencyMs).content = true := by
  have blank : isUtf8 [] = true := isUtf8_utf8 ""
  rw [parseResponse]
  split
  · exact blank
  · split
    · exact blank
    · split <;> exact isUtf8_utf8 _

theorem isUtf8_error_iff (body : List UInt8) (latencyMs : Float) :
    isUtf8 (parseResponse library body latencyMs).error = true ↔
      ReadableAnswer library (.ok body) := by
  rw [parseResponse, ReadableAnswer]
  split
  · rename_i what failed
    simp [failed, VlmResponse.caught]
  · rename_i json parsed
    apply iff_of_true _ (by simp [parsed])
    split
    · simp [VlmResponse.caught, JsonException.what]
    · split
      · simp [VlmResponse.caught, JsonException.what]
      · exact isUtf8_utf8 ""

theorem infer_iff :
    (∃ resp, infer library world req = some resp ∧ isUtf8 resp.error = true) ↔
      (world.curlEasyInit = true → world.fopen = true →
        isUtf8 req.prompt = true ∧ ReadableAnswer library world.perform) := by
  rw [infer]
  split
  · rename_i failed
    apply iff_of_true ⟨_, rfl, isUtf8_utf8 _⟩
    intro initialised
    exact absurd (failed.symm.trans initialised) Bool.false_ne_true
  · rename_i initialised
    split
    · rename_i failed
      apply iff_of_true ⟨_, rfl, isUtf8_utf8 _⟩
      intro _ isOpen
      exact absurd (failed.symm.trans isOpen) Bool.false_ne_true
    · rename_i isOpen
      rw [Bool.not_eq_false] at initialised isOpen
      have built : ∀ fileUrl, (buildRequestBody library req fileUrl).isSome = isUtf8 req.prompt :=
        buildRequestBody_isSome
      simp only [Option.map_eq_some_iff, initialised, isOpen, forall_const]
      rw [← built ("file://" ++ tmpPath req.frameNumber), Option.isSome_iff_exists]
      cases world.perform with
      | error text => simp [ReadableAnswer]
      | ok body => simp [isUtf8_error_iff]

theorem isUtf8_response {resp : VlmResponse} (inferred : infer library world req = some resp) :
    isUtf8 resp.content = true := by
  have blank : isUtf8 [] = true := isUtf8_utf8 ""
  rw [infer] at inferred
  split at inferred
  · cases inferred
    exact blank
  · split at inferred
    · cases inferred
      exact blank
    · obtain ⟨request, _, rfl⟩ := Option.map_eq_some_iff.mp inferred
      split
      · exact blank
      · exact isUtf8_content _ _

theorem answer_iff :
    (∃ outcome, answer library world req = some outcome ∧ isUtf8 outcome.vlmError = true) ↔
      Answers library world req.prompt := by
  rw [answer, Answers]
  cases world.encode with
  | error text => simp
  | ok jpeg => simp [Option.map_eq_some_iff, ← infer_iff]

theorem isUtf8_vlmResponse (answered : answer library world req = some outcome) :
    isUtf8 outcome.vlmResponse = true := by
  rw [answer] at answered
  split at answered
  · cases answered
    exact isUtf8_utf8 ""
  · obtain ⟨resp, inferred, rfl⟩ := Option.map_eq_some_iff.mp answered
    exact isUtf8_response inferred

theorem texts_double (value : Float) : (library.double value).texts = [] := by
  rw [NlohmannText.double]
  split <;> rfl

theorem isNumber_double {value : Float} {word : List UInt8}
    (listed : word ∈ (library.double value).words) : isNumber word = true := by
  rw [NlohmannText.double] at listed
  split at listed
  · rename_i finite
    rw [Tree.words_number, List.mem_singleton] at listed
    exact listed ▸ library.isNumber_float value finite
  · cases listed

theorem isUtf8_detections {text : List UInt8} (listed : text ∈ (entry.detections library).texts) :
    isUtf8 text = true := by
  rw [VlmLine.detections] at listed
  split at listed
  · rw [Tree.texts_stored] at listed
    obtain ⟨string, _, rfl⟩ := List.mem_map.mp listed
    exact isUtf8_utf8 string
  · cases listed

theorem dump_isSome :
    (Tree.dump library.escape (.object (entry.members library))).isSome = true ↔
      isUtf8 entry.err = true ∧ isUtf8 entry.resp = true ∧ isUtf8 entry.rule = true := by
  have detections : (entry.detections library).texts.all isUtf8 = true :=
    List.all_eq_true.mpr fun _ => isUtf8_detections
  rw [Tree.dump_isSome]
  simp [VlmLine.members, member, texts_double, detections]

theorem isNumber_or_mem_detections {word : List UInt8}
    (listed : word ∈ (Tree.object (entry.members library)).words) :
    isNumber word = true ∨ word ∈ (entry.detections library).words := by
  simp only [VlmLine.members, member, Tree.words_object, List.flatMap_cons, List.flatMap_nil,
    Tree.words_string, Tree.words_boolean, Tree.words_number, List.mem_append, List.mem_singleton,
    List.not_mem_nil, or_false, false_or] at listed
  rcases listed with detection | double | rfl | double | rfl | rfl | double | rfl
  · exact .inr detection
  · exact .inl (isNumber_double double)
  · exact .inl (isNumber_decimal _)
  · exact .inl (isNumber_double double)
  · exact .inl (isNumber_decimal _)
  · exact .inl (isNumber_integer _)
  · exact .inl (isNumber_double double)
  · exact .inl (isNumber_decimal _)

theorem proper_discarded : Piece.Proper (.number (utf8 "<discarded>")) := by
  refine ⟨?_, ?_, ?_⟩ <;> decide +kernel

theorem proper_words {word : List UInt8}
    (listed : word ∈ (Tree.object (entry.members library)).words) :
    Piece.Proper (.number word) := by
  rcases isNumber_or_mem_detections listed with number | detection
  · exact proper_of_isNumber number
  · rw [VlmLine.detections] at detection
    split at detection
    · rename_i json _
      rw [Tree.words_stored] at detection
      exact proper_of_isNumber (library.words_document json word detection)
    · rw [discarded, Tree.words_number, List.mem_singleton] at detection
      exact detection ▸ proper_discarded

theorem isNumber_words_iff :
    (∀ word ∈ (Tree.object (entry.members library)).words, isNumber word = true) ↔
      ∃ json, entry.dets = some json := by
  cases parsed : entry.dets with
  | none =>
      apply iff_of_false _ nofun
      intro numbers
      have listed : utf8 "<discarded>" ∈ (Tree.object (entry.members library)).words := by
        simp [VlmLine.members, member, VlmLine.detections, parsed, discarded]
      have number := numbers _ listed
      exact absurd number (by decide +kernel)
  | some json =>
      apply iff_of_true _ ⟨json, rfl⟩
      intro word listed
      rcases isNumber_or_mem_detections listed with number | detection
      · exact number
      · rw [VlmLine.detections, parsed, Tree.words_stored] at detection
        exact library.words_document json word detection

theorem logged_log :
    Logged file ((JsonlLogger.log library ⟨true, file⟩ entry).map Prod.snd) ↔
      (isUtf8 entry.err = true ∧ isUtf8 entry.resp = true ∧ isUtf8 entry.rule = true) ∧
        ∃ json, entry.dets = some json := by
  have written : (JsonlLogger.log library ⟨true, file⟩ entry).map Prod.snd =
      (Tree.dump library.escape (.object (entry.members library))).map fun line =>
        ⟨true, file ++ (line ++ [0x0a])⟩ := by
    simp [JsonlLogger.log, Function.comp_def]
  rw [written, ← dump_isSome, ← isNumber_words_iff, Logged]
  constructor
  · rintro ⟨line, members, added, _, denotes⟩
    obtain ⟨dumped, isDumped, same⟩ := Option.map_eq_some_iff.mp added
    have sameLine : dumped = line := by simpa using same
    subst sameLine
    rw [isDumped]
    exact ⟨rfl, (Tree.denotes_dump_object library.escapes (fun _ => proper_words)
      isDumped).mp ⟨members, denotes⟩⟩
  · rintro ⟨isDumped, numbers⟩
    obtain ⟨line, dumped⟩ := Option.isSome_iff_exists.mp isDumped
    obtain ⟨members, denotes⟩ := (Tree.denotes_dump_object library.escapes
      (fun _ => proper_words) dumped).mpr numbers
    rw [dumped]
    exact ⟨line, members, rfl, Tree.line_of_dump library.escapes (fun _ => proper_words) dumped,
      denotes⟩

theorem dets_logLine {task : VlmTask} :
    (∃ json, (logLine (fun text => (library.parse text).toOption) task outcome).dets = some json) ↔
      task.metadataJson = [] ∨ ∃ json, library.parse task.metadataJson = .ok json := by
  rw [logLine]
  by_cases empty : task.metadataJson = []
  · simp [empty]
  · cases parsed : library.parse task.metadataJson <;> simp [empty, Except.toOption]

theorem escapes_of_error {logger : JsonlLogger} {task : VlmTask} {prompt : List UInt8}
    (answered : answer library world ⟨prompt, task.frameNumber⟩ = some outcome)
    (isOpen : logger.isOpen = true) (raw : isUtf8 outcome.vlmError = false) :
    runTask library logger task prompt world = none := by
  have thrown : Tree.dump library.escape (.object ((logLine
      (fun text => (library.parse text).toOption) task outcome).members library)) = none := by
    rw [← Option.not_isSome_iff_eq_none, dump_isSome]
    rintro ⟨valid, _⟩
    exact absurd (raw.symm.trans valid) Bool.false_ne_true
  rw [runTask, answered, Option.bind_some, JsonlLogger.log, isOpen, thrown]
  rfl

/-- A body whose parse error is no UTF-8 ends the worker that logs the error. -/
theorem escapes_of_body {logger : JsonlLogger} {task : VlmTask}
    {prompt jpeg body what : List UInt8} (encoded : world.encode = .ok jpeg)
    (initialised : world.curlEasyInit = true) (saved : world.fopen = true)
    (answered : world.perform = .ok body) (valid : isUtf8 prompt = true)
    (failed : library.parse body = .error what) (raw : isUtf8 what = false)
    (isOpen : logger.isOpen = true) :
    runTask library logger task prompt world = none := by
  have built : (buildRequestBody library ⟨prompt, task.frameNumber⟩
      ("file://" ++ tmpPath task.frameNumber)).isSome = true := by
    rw [buildRequestBody_isSome]
    exact valid
  obtain ⟨request, dumped⟩ := Option.isSome_iff_exists.mp built
  have ended : ∃ outcome, answer library world ⟨prompt, task.frameNumber⟩ = some outcome ∧
      outcome.vlmError = utf8 "JSON parse error: " ++ what := by
    simp [answer, encoded, infer, initialised, saved, dumped, answered, parseResponse, failed,
      VlmResponse.caught]
  obtain ⟨outcome, ended, error⟩ := ended
  apply escapes_of_error ended isOpen
  rw [error, isUtf8_append]
  exact raw

variable (frameNumber : Nat) (frame : List UInt8 × IQ9TaskPacket) (prompt : List UInt8)

theorem logged_runTask :
    Logged file (runTask library ⟨true, file⟩ (captureTask frameNumber frame) prompt world) ↔
      ∃ outcome, answer library world ⟨prompt, frameNumber⟩ = some outcome ∧
        ((isUtf8 outcome.vlmError = true ∧ isUtf8 outcome.vlmResponse = true ∧
          isUtf8 (extractRuleName frame.1) = true) ∧
        (frame.1 = [] ∨ ∃ json, library.parse frame.1 = .ok json)) := by
  have captured : (captureTask frameNumber frame).frameNumber = frameNumber := rfl
  rw [runTask, captured]
  cases answer library world ⟨prompt, frameNumber⟩ with
  | none =>
      apply iff_of_false
      · rintro ⟨line, members, added, _⟩
        cases added
      · rintro ⟨outcome, same, _⟩
        cases same
  | some outcome =>
      rw [Option.bind_some, logged_log, dets_logLine]
      constructor
      · intro logged
        exact ⟨outcome, rfl, logged⟩
      · rintro ⟨_, same, logged⟩
        obtain rfl := Option.some.inj same
        exact logged

theorem survives_of_logged
    (logged : Logged file
      (runTask library ⟨true, file⟩ (captureTask frameNumber frame) prompt world)) :
    Survives library world frame.1 prompt := by
  obtain ⟨outcome, answered, ⟨error, _, rule⟩, metadata⟩ :=
    (logged_runTask frameNumber frame prompt).mp logged
  exact ⟨rule, metadata, answer_iff.mp ⟨outcome, answered, error⟩⟩

theorem logged_of_survives (survives : Survives library world frame.1 prompt) :
    Logged file (runTask library ⟨true, file⟩ (captureTask frameNumber frame) prompt world) := by
  obtain ⟨rule, metadata, answers⟩ := survives
  obtain ⟨outcome, answered, error⟩ :
      ∃ outcome, answer library world ⟨prompt, frameNumber⟩ = some outcome ∧
        isUtf8 outcome.vlmError = true := answer_iff.mpr answers
  exact (logged_runTask frameNumber frame prompt).mpr
    ⟨outcome, answered, ⟨error, isUtf8_vlmResponse answered, rule⟩, metadata⟩

/-- A task ends with one line of the log, the text of an object, exactly if it is one that
survives. -/
theorem runTask_logged_iff (library : NlohmannText) (world : VlmWorld) (file : List UInt8)
    (frameNumber : Nat) (frame : List UInt8 × IQ9TaskPacket) (prompt : List UInt8) :
    Logged file (runTask library ⟨true, file⟩ (captureTask frameNumber frame) prompt world) ↔
      Survives library world frame.1 prompt := by
  constructor
  · exact survives_of_logged frameNumber frame prompt
  · exact logged_of_survives frameNumber frame prompt

theorem lineFeed_quoteByte (byte : UInt8) : 0x0a ∉ MultiCam.quoteByte byte := by
  rw [MultiCam.quoteByte]
  split
  · rename_i special
    rcases special with rfl | rfl <;> decide
  · split
    · rename_i control
      have codes : ∀ value : Nat, value < 32 →
          0x0a ∉ [0x5c, 0x75, 0x30, 0x30, 0x30 + UInt8.ofNat value / 16,
            if UInt8.ofNat value % 16 < 10 then 0x30 + UInt8.ofNat value % 16
            else 0x57 + UInt8.ofNat value % 16] := by decide
      have code := codes byte.toNat control
      rwa [UInt8.ofNat_toNat] at code
    · rename_i visible
      rw [List.mem_singleton]
      rintro rfl
      exact visible (by decide)

theorem escapes_quoteByte : Tree.Escapes fun bytes => bytes.flatMap MultiCam.quoteByte where
  unescape bytes _ := MultiCam.unescape_quoted bytes
  oneLine bytes _ feed := by
    obtain ⟨byte, _, inside⟩ := List.mem_flatMap.mp feed
    exact lineFeed_quoteByte byte inside

theorem isNumber_zero : isNumber (utf8 "0.0") = true := by decide +kernel

/-- The text of an exception repeats the whole text as what was read last. -/
def NlohmannText.reporting : NlohmannText where
  parse text :=
    match Nlohmann.sorting.parse text with
    | some json => .ok json
    | none =>
        .error (utf8 ("[json.exception.parse_error.101] parse error at line 1, column 1: " ++
          "syntax error while parsing value - invalid literal; last read: '") ++
          (text ++ utf8 "'"))
  document := Json.toValue fun _ => utf8 "0.0"
  float _ := utf8 "0.0"
  escape bytes := bytes.flatMap MultiCam.quoteByte
  words_document := Json.isNumber_words fun _ => isNumber_zero
  isNumber_float _ _ := isNumber_zero
  escapes := escapes_quoteByte

def answering (body : List UInt8) : VlmWorld where
  encode := .ok []
  curlEasyInit := true
  fopen := true
  perform := .ok body
  encodeMs := 0
  latencyMs := 0
  totalMs := 0

theorem reporting_parse_bareByte :
    ∃ what, NlohmannText.reporting.parse [0xff] = .error what ∧ isUtf8 what = false := by
  have unread : Nlohmann.sorting.parse [0xff] = none := by
    have fails : (JsonText.read [0xff]).isNone = true := by decide +kernel
    simp only [Nlohmann.sorting, Option.isNone_iff_eq_none.mp fails, Option.map_none]
  simp only [NlohmannText.reporting, unread, Except.error.injEq, exists_eq_left']
  rw [isUtf8_append]
  decide +kernel

theorem bareByteResponse :
    runTask NlohmannText.reporting ⟨true, []⟩
      (captureTask 0 ([], ⟨iq9TaskMagic, 0, 640, 640, 3, PixelFormat.rgb24.code, 0⟩))
      (utf8 "Describe the scene.") (answering [0xff]) = none := by
  obtain ⟨what, failed, raw⟩ := reporting_parse_bareByte
  exact escapes_of_body rfl rfl rfl rfl (isUtf8_utf8 _) failed raw rfl

end Consumer

end Iq9Pipeline
