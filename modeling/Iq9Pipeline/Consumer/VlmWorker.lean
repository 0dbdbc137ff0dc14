import Iq9Pipeline.Consumer.VlmTasks
import Iq9Pipeline.Foundation.JsonDump
import Iq9Pipeline.Json
import Iq9Pipeline.MultiCam.MsgAgg

/-!
A task of the VLM path on its worker (`vlm_client.cpp`, `jsonl_logger.cpp`): the request and
the line of the log are dumped with no handler around them, and the worker has none either.
A task ends in `none` where an exception leaves it.
-/

namespace Iq9Pipeline

open Foundation Foundation.JsonText

def JsonException.what (thrown : JsonException) : List UInt8 :=
  utf8 ("[json.exception.type_error." ++ toString thrown.id ++ "] " ++ thrown.text)

namespace Json

/-- `operator[]` with a name: a null becomes an object, and a missing member a null. -/
def subscript (json : Json) (key : String) : Except JsonException Json :=
  match json with
  | .null => .ok .null
  | .object _ => .ok ((json.find key).getD .null)
  | _ =>
      .error {
        id := 305
        text := "cannot use operator[] with a string argument with " ++ json.typeName }

/-- `operator[]` with the number 0. -/
def first : Json → Except JsonException Json
  | .null => .ok .null
  | .array elements => .ok (elements.head?.getD .null)
  | json =>
      .error {
        id := 305
        text := "cannot use operator[] with a numeric argument with " ++ json.typeName }

/-- Of the accessors for numbers, the one that takes no boolean. -/
def getInt64 : Json → Except JsonException Int64
  | .numberInteger value => .ok value
  | .numberUnsigned value => .ok value.toInt64
  | .numberFloat double => .ok double.int64
  | json => .error { id := 302, text := "type must be number, but is " ++ json.typeName }

end Json

namespace Consumer

/-- What the client and the log use of nlohmann::json: a parser that gives a value or what
its exception says, the value that is dumped for a value, and how `dump` writes doubles and
strings. -/
structure NlohmannText where
  parse : List UInt8 → Except (List UInt8) Json
  document : Json → Value
  float : Float → List UInt8
  escape : List UInt8 → List UInt8
  words_document : ∀ json, ∀ word ∈ (document json).words, isNumber word = true
  isNumber_float : ∀ value, value.isFinite = true → isNumber (float value) = true
  escapes : Tree.Escapes escape

structure VlmRequest where
  prompt : List UInt8
  frameNumber : Nat

structure VlmResponse where
  success : Bool
  content : List UInt8
  error : List UInt8
  latencyMs : Float
  vlmInferenceMs : Float
  created : Int64

namespace VlmResponse

def empty (latencyMs : Float) : VlmResponse where
  success := false
  content := []
  error := []
  latencyMs := latencyMs
  vlmInferenceMs := 0
  created := 0

def caught (resp : VlmResponse) (what : List UInt8) : VlmResponse :=
  { resp with success := false, error := utf8 "JSON parse error: " ++ what }

end VlmResponse

def readContent (json : Json) : Except JsonException String := do
  let choices ← json.subscript "choices"
  let choice ← choices.first
  let message ← choice.subscript "message"
  let content ← message.subscript "content"
  content.getString

def readCreated (json : Json) : Except JsonException Int64 :=
  match json.find "created" with
  | some created => created.getInt64
  | none => .ok 0

def parseResponse (library : NlohmannText) (body : List UInt8) (latencyMs : Float) :
    VlmResponse :=
  let resp := VlmResponse.empty latencyMs
  match library.parse body with
  | .error what => resp.caught what
  | .ok json =>
      match readContent json with
      | .error thrown => resp.caught thrown.what
      | .ok content =>
          let resp := { resp with content := utf8 content }
          match readCreated json with
          | .error thrown => resp.caught thrown.what
          | .ok created => { resp with created := created, success := true }

def member (name : String) (value : Draft) : List UInt8 × Draft :=
  (utf8 name, value)

def tmpPath (frameNumber : Nat) : String :=
  "/mnt/workspace/develop/vlm_pipeline/output/vlm_frame_" ++ toString frameNumber ++ ".jpg"

def requestBody (req : VlmRequest) (fileUrl : String) : Draft :=
  .object [
    member "messages" (.array [.object [
      member "content" (.array [
        .object [
          member "image_url" (.object [member "url" (.string (utf8 fileUrl))]),
          member "type" (.string (utf8 "image_url"))],
        .object [
          member "text" (.string req.prompt),
          member "type" (.string (utf8 "text"))]]),
      member "role" (.string (utf8 "user"))]]),
    member "model" (.string (utf8 "qwen3-vl-4b"))]

def buildRequestBody (library : NlohmannText) (req : VlmRequest) (fileUrl : String) :
    Option (List UInt8) :=
  (requestBody req fileUrl).dump library.escape

/-- What the encoder, the system and the server answer one task. -/
structure VlmWorld where
  encode : Except (List UInt8) (List UInt8)
  curlEasyInit : Bool
  fopen : Bool
  perform : Except (List UInt8) (List UInt8)
  encodeMs : Float
  latencyMs : Float
  totalMs : Float

def infer (library : NlohmannText) (world : VlmWorld) (req : VlmRequest) : Option VlmResponse :=
  if world.curlEasyInit = false then
    some { VlmResponse.empty 0 with error := utf8 "curl_easy_init failed" }
  else if world.fopen = false then
    some { VlmResponse.empty 0 with
      error := utf8 ("failed to open temp file: " ++ tmpPath req.frameNumber) }
  else
    (buildRequestBody library req ("file://" ++ tmpPath req.frameNumber)).map fun _ =>
      match world.perform with
      | .error text =>
          { VlmResponse.empty world.latencyMs with error := utf8 "curl error: " ++ text }
      | .ok body => parseResponse library body world.latencyMs

def answer (library : NlohmannText) (world : VlmWorld) (req : VlmRequest) : Option VlmOutcome :=
  match world.encode with
  | .error text =>
      some {
        vlmResponse := []
        vlmSuccess := false
        vlmError := text
        encodeMs := world.encodeMs
        httpMs := 0
        totalMs := world.totalMs
        jpegSizeBytes := 0 }
  | .ok jpeg =>
      (infer library world req).map fun resp => {
        vlmResponse := resp.content
        vlmSuccess := resp.success
        vlmError := resp.error
        encodeMs := world.encodeMs
        httpMs := resp.latencyMs
        totalMs := world.totalMs
        jpegSizeBytes := jpeg.length }

def NlohmannText.double (library : NlohmannText) (value : Float) : Draft :=
  if value.isFinite then .number (library.float value) else .null

def discarded : Draft :=
  .number (utf8 "<discarded>")

def VlmLine.detections (library : NlohmannText) (entry : VlmLine) : Draft :=
  match entry.dets with
  | some json => (library.document json).stored
  | none => discarded

def VlmLine.members (library : NlohmannText) (entry : VlmLine) : List (List UInt8 × Draft) :=
  [member "dets" (entry.detections library),
    member "enc_ms" (library.double entry.encMs),
    member "err" (.string entry.err),
    member "frame" (.number (decimal entry.frame)),
    member "http_ms" (library.double entry.httpMs),
    member "jpeg_bytes" (.number (decimal entry.jpegBytes)),
    member "ok" (.boolean entry.ok),
    member "resp" (.string entry.resp),
    member "rule" (.string entry.rule),
    member "src" (.number (integer entry.src)),
    member "total_ms" (library.double entry.totalMs),
    member "ts" (.number (decimal entry.ts.toNat))]

structure JsonlLogger where
  isOpen : Bool
  file : List UInt8

def JsonlLogger.log (library : NlohmannText) (logger : JsonlLogger) (entry : VlmLine) :
    Option (Bool × JsonlLogger) :=
  if logger.isOpen = false then some (false, logger)
  else
    (Tree.dump library.escape (.object (entry.members library))).map fun line =>
      (true, { logger with file := logger.file ++ (line ++ [0x0a]) })

def runTask (library : NlohmannText) (logger : JsonlLogger) (task : VlmTask)
    (prompt : List UInt8) (world : VlmWorld) : Option JsonlLogger :=
  (answer library world ⟨prompt, task.frameNumber⟩).bind fun outcome =>
    (logger.log library (logLine (fun text => (library.parse text).toOption) task outcome)).map
      Prod.snd

end Consumer

end Iq9Pipeline
