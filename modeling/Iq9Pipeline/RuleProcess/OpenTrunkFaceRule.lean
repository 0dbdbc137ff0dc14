import Iq9Pipeline.RuleProcess.Rule
import Std.Data.TreeMap.Lemmas

/-!
The open-trunk rule (`rules/OpenTrunkFaceRule.cpp`) with the face database that it
compares embeddings against (`utils/FaceDatabase.cpp`).
-/

namespace Iq9Pipeline.RuleProcess

variable {Number : Type} [Scalar Number]

inductive FaceFile
  | missing
  | malformed (what : String)
  | json (contents : Json)

structure FaceDatabase (Number : Type) where
  faces : Std.TreeMap String (List Number) := ∅
  embeddingSize : UInt64

namespace FaceDatabase

def invalidFormat : String :=
  "Invalid face database format: missing faces object"

def addFace (size : UInt64) (faces : Std.TreeMap String (List Number)) (face : String × Json) :
    Except JsonException (Std.TreeMap String (List Number)) := do
  match face.2 with
  | .array elements =>
      let embedding ← Json.getVector Scalar.ofJson (.array elements)
      return if embedding.length = size.toNat then faces.insert face.1 embedding else faces
  | _ => return faces

def loadFromFile (size : UInt64) (path : String) :
    FaceFile → Except String (FaceDatabase Number)
  | .missing => throw ("Cannot open face database file: " ++ path)
  | .malformed what => throw ("Error parsing face database: " ++ what)
  | .json contents =>
      match contents.find "faces" with
      | some (.object faces) =>
          match faces.foldlM (addFace size) ∅ with
          | .ok faces => .ok { faces := faces, embeddingSize := size }
          | .error exception => throw ("Error parsing face database: " ++ exception.text)
      | _ => throw invalidFormat

/-- The best match with its score; the first of two equal scores wins. -/
def compare (database : FaceDatabase Number) (inputEmbedding : List Number) : String × Number :=
  if inputEmbedding.isEmpty then ("unknown", 0.0)
  else if inputEmbedding.length ≠ database.embeddingSize.toNat then ("unknown", 0.0)
  else
    database.faces.toList.foldl (fun best entry =>
      let score := cosineSimilarity inputEmbedding entry.2
      if best.2 < score then (entry.1, score) else best) ("unknown", -1.0)

end FaceDatabase

structure FaceState where
  userId : String
  isKnown : Bool
deriving DecidableEq

abbrev FaceCache := Std.TreeMap Int32 FaceState

structure OpenTrunkFaceRule (Number : Type) extends RuleConfig Number where
  targetClass : String
  threshold : Number
  faceDb : FaceDatabase Number
  faceDbError : Option String

namespace OpenTrunkFaceRule

def getEmbeddingSize (config : RuleConfig Number) : UInt64 :=
  match config.params.lookup "embedding_size" with
  | some size => if size ≤ 0.0 then 0 else Scalar.toUInt64 size
  | none => 0

def ofConfig (files : String → FaceFile) (config : RuleConfig Number) :
    OpenTrunkFaceRule Number :=
  let size := getEmbeddingSize config
  let embeddingFile := config.getStrParam "embedding_file"
  let loaded : Except String (FaceDatabase Number) :=
    if 0 < size ∧ embeddingFile ≠ "" then
      FaceDatabase.loadFromFile size embeddingFile (files embeddingFile)
    else throw ""
  { toRuleConfig := config
    targetClass := match config.targetClasses with
      | [targetClass] => targetClass
      | _ => ""
    threshold := config.getParam "similarity_threshold"
    faceDb := match loaded with
      | .ok database => database
      | .error _ => { embeddingSize := size }
    faceDbError := match loaded with
      | .ok _ => none
      | .error message => some message }

def validate (rule : OpenTrunkFaceRule Number) : Status := do
  match rule.targetClasses with
  | [targetClass] =>
      if targetClass = "" then
        throw "OpenTrunkFaceRule requires exactly 1 target_class"
  | _ => throw "OpenTrunkFaceRule requires exactly 1 target_class"
  if !rule.hasParam "similarity_threshold" then
    throw "Missing param: similarity_threshold"
  if !rule.hasParam "embedding_size" ∨ rule.getParam "embedding_size" ≤ 0.0 then
    throw "Missing param: embedding_size"
  if rule.getStrParam "embedding_file" = "" then
    throw "Missing param: embedding_file"
  match rule.faceDbError with
  | some message => throw (if message = "" then "Face database load failed" else message)
  | none => pure ()
  if rule.threshold ≤ 0.0 ∨ 1.0 < rule.threshold then
    throw "Similarity threshold must be (0,1]"

def recognise (rule : OpenTrunkFaceRule Number) (embedding : List Number) : FaceState :=
  let result := rule.faceDb.compare embedding
  { userId := result.1, isKnown := decide (rule.threshold ≤ result.2) }

def lookAt (rule : OpenTrunkFaceRule Number) (cache : FaceCache) (det : Sighting Number) :
    Option FaceState × FaceCache :=
  if det.className ≠ rule.targetClass then (none, cache)
  else match cache[det.trackId]? with
    | some face => (some face, cache)
    | none =>
        if det.embedding.isEmpty then (none, cache)
        else
          let face := rule.recognise det.embedding
          (some face, cache.insert det.trackId face)

def faceAlert (rule : OpenTrunkFaceRule Number) (event : RuleEvent Number) (trackId : Int32)
    (userId : String) : Alert :=
  rule.buildAlert event trackId (rule.name ++ "_" ++ userId)

def knownFaces (rule : OpenTrunkFaceRule Number) (cache : FaceCache) :
    List (Sighting Number) → List (Int32 × String) × FaceCache
  | [] => ([], cache)
  | det :: detections =>
      let seen := rule.lookAt cache det
      let rest := rule.knownFaces seen.2 detections
      match seen.1 with
      | some face =>
          if face.isKnown then ((det.trackId, face.userId) :: rest.1, rest.2) else rest
      | none => rest

def forget (cache : FaceCache) (removedTrackIds : List Int32) : FaceCache :=
  removedTrackIds.foldl (fun cache rid => cache.erase rid) cache

def apply (rule : OpenTrunkFaceRule Number) (cache : FaceCache) (event : RuleEvent Number) :
    List Alert × FaceCache :=
  let known := rule.knownFaces (forget cache event.removedTrackIds) event.detections
  (known.1.map fun face => rule.faceAlert event face.1 face.2, known.2)

end OpenTrunkFaceRule

end Iq9Pipeline.RuleProcess
