import Iq9Pipeline.MultiCam.JsonlWriter

/-!
The tree that a scene record is a text of. The text is a JSON text exactly when every
detection is writable; its value then has the record's own names, labels and numbers.
-/

namespace Iq9Pipeline.MultiCam

open Foundation.JsonText

variable {Double Single : Type}

inductive Printed (Double Single : Type)
  | integer (value : Nat)
  | double (value : Double)
  | single (value : Single)

def Ostream.print (os : Ostream Double Single) : Printed Double Single → List UInt8
  | .integer value => decimal value
  | .double value => os.double value
  | .single value => os.single value

@[simp] theorem Ostream.print_integer (os : Ostream Double Single) (value : Nat) :
    os.print (.integer value) = decimal value :=
  rfl

@[simp] theorem Ostream.print_double (os : Ostream Double Single) (value : Double) :
    os.print (.double value) = os.double value :=
  rfl

@[simp] theorem Ostream.print_single (os : Ostream Double Single) (value : Single) :
    os.print (.single value) = os.single value :=
  rfl

/-- What the writer prints, with the texts unescaped: escaping leaves a name as it is. -/
abbrev RecordTree (Double Single : Type) := Tree (Printed Double Single) (List UInt8)

def memberNames : List String :=
  ["source_id", "frame_id", "timestamp_ns", "events", "removed_track_ids", "image_meta",
    "slot_index", "width", "height", "channels", "class_name", "track_id", "confidence", "bbox",
    "embedding"]

def boxTree (det : DetectionRecord Double Single) : RecordTree Double Single :=
  .array ([det.left, det.top, det.right, det.bottom].map fun corner => .number (.double corner))

def embeddingMembers (face : Option (FaceInfo Single)) :
    List (List UInt8 × RecordTree Double Single) :=
  match face with
  | some face =>
      [(utf8 "embedding", .array (face.embedding.map fun value => .number (.single value)))]
  | none => []

def eventTree (os : Ostream Double Single) (det : DetectionRecord Double Single) :
    RecordTree Double Single :=
  .object ([(utf8 "class_name", .string det.label),
    (utf8 "track_id", .number (.integer det.trackId.toNat)),
    (utf8 "confidence", .number (.single (os.toSingle det.score))),
    (utf8 "bbox", boxTree det)] ++ embeddingMembers det.face)

def imageMetaMembers (imagePath : Int32) (metaWidth metaHeight : UInt32) :
    List (List UInt8 × RecordTree Double Single) :=
  if 0 ≤ imagePath then
    [(utf8 "image_meta", .object [
      (utf8 "slot_index", .number (.integer imagePath.toUInt32.toNat)),
      (utf8 "width", .number (.integer metaWidth.toNat)),
      (utf8 "height", .number (.integer metaHeight.toNat)),
      (utf8 "channels", .number (.integer 3))])]
  else []

def sourceTree (os : Ostream Double Single) (record : FrameRecord Double Single)
    (metaWidth metaHeight : UInt32) : RecordTree Double Single :=
  .object ([(utf8 "source_id", .number (.integer record.channelId.toNat)),
    (utf8 "frame_id", .number (.integer record.frameId.toNat)),
    (utf8 "timestamp_ns", .number (.integer record.timestampNs.toNat)),
    (utf8 "events", .array (record.detections.map (eventTree os))),
    (utf8 "removed_track_ids", .array [])] ++
      imageMetaMembers record.imagePath metaWidth metaHeight)

def draftOf (os : Ostream Double Single) (tree : RecordTree Double Single) : Draft :=
  tree.map os.print escapeJson

theorem flatMap_memberText (os : Ostream Double Single)
    (members : List (List UInt8 × RecordTree Double Single)) :
    (members.flatMap fun member =>
        0x2c :: Tree.memberText (escapeJson member.1, draftOf os member.2)) =
      ((members.map fun member => (escapeJson member.1, draftOf os member.2)).map
        Tree.memberText).flatMap fun next => 0x2c :: next := by
  simp [List.flatMap_map]

theorem escapeJson_name {name : String} (listed : name ∈ memberNames) :
    escapeJson (utf8 name) = utf8 name := by
  have plain : ∀ name ∈ memberNames, escapeJson (utf8 name) = utf8 name := by decide
  exact plain name listed

theorem serializeFace_eq (os : Ostream Double Single) (face : Option (FaceInfo Single)) :
    serializeFace os face = (embeddingMembers face).flatMap fun member =>
      0x2c :: Tree.memberText (escapeJson member.1,
        draftOf os (member.2 : RecordTree Double Single)) := by
  cases face with
  | none => rfl
  | some face =>
      have opening : utf8 ",\"embedding\":[" =
          0x2c :: 0x22 :: (utf8 "embedding" ++ [0x22, 0x3a, 0x5b]) := rfl
      have closing : utf8 "]" = [0x5d] := rfl
      simp (disch := decide) [serializeFace, embeddingMembers, opening, closing, Tree.memberText,
        draftOf, escapeJson_name, Function.comp_def]

theorem serializeEvent_eq (os : Ostream Double Single) (det : DetectionRecord Double Single) :
    serializeEvent os det = (draftOf os (eventTree os det)).text := by
  have opening : utf8 "\x7b\"class_name\":\"" =
      0x7b :: 0x22 :: (utf8 "class_name" ++ [0x22, 0x3a, 0x22]) := rfl
  have quote : utf8 "\"" = [0x22] := rfl
  have trackId : utf8 ",\"track_id\":" = 0x2c :: 0x22 :: (utf8 "track_id" ++ [0x22, 0x3a]) := rfl
  have confidence : utf8 ",\"confidence\":" =
      0x2c :: 0x22 :: (utf8 "confidence" ++ [0x22, 0x3a]) := rfl
  have bbox : utf8 ",\"bbox\":[" = 0x2c :: 0x22 :: (utf8 "bbox" ++ [0x22, 0x3a, 0x5b]) := rfl
  have comma : utf8 "," = [0x2c] := rfl
  have bracket : utf8 "]" = [0x5d] := rfl
  have closing : utf8 "\x7d" = [0x7d] := rfl
  unfold serializeEvent
  rw [serializeFace_eq, flatMap_memberText]
  simp (disch := decide) [opening, quote, trackId, confidence, bbox, comma, bracket, closing,
    eventTree, draftOf, escapeJson_name, boxTree, Tree.separated, Tree.memberText]

theorem serializeImageMeta_eq (os : Ostream Double Single) (imagePath : Int32)
    (metaWidth metaHeight : UInt32) :
    serializeImageMeta imagePath metaWidth metaHeight =
      (imageMetaMembers imagePath metaWidth metaHeight).flatMap fun member =>
        0x2c :: Tree.memberText (escapeJson member.1,
          draftOf os (member.2 : RecordTree Double Single)) := by
  have opening : utf8 ",\"image_meta\":\x7b" =
      0x2c :: 0x22 :: (utf8 "image_meta" ++ [0x22, 0x3a, 0x7b]) := rfl
  have slotIndex : utf8 "\"slot_index\":" = 0x22 :: (utf8 "slot_index" ++ [0x22, 0x3a]) := rfl
  have width : utf8 ",\"width\":" = 0x2c :: 0x22 :: (utf8 "width" ++ [0x22, 0x3a]) := rfl
  have height : utf8 ",\"height\":" = 0x2c :: 0x22 :: (utf8 "height" ++ [0x22, 0x3a]) := rfl
  have channels : utf8 ",\"channels\":3" =
      0x2c :: 0x22 :: (utf8 "channels" ++ 0x22 :: 0x3a :: decimal 3) := by decide
  have closing : utf8 "\x7d" = [0x7d] := rfl
  rw [serializeImageMeta, imageMetaMembers]
  split
  · simp (disch := decide) [opening, slotIndex, width, height, channels, closing, Tree.memberText,
      draftOf, escapeJson_name, Tree.separated]
  · rfl

theorem serializeSceneSource_eq (os : Ostream Double Single) (record : FrameRecord Double Single)
    (metaWidth metaHeight : UInt32) :
    serializeSceneSource os record metaWidth metaHeight =
      (draftOf os (sourceTree os record metaWidth metaHeight)).text := by
  have opening : utf8 "\x7b\"source_id\":" =
      0x7b :: 0x22 :: (utf8 "source_id" ++ [0x22, 0x3a]) := rfl
  have frameId : utf8 ",\"frame_id\":" = 0x2c :: 0x22 :: (utf8 "frame_id" ++ [0x22, 0x3a]) := rfl
  have timestampNs : utf8 ",\"timestamp_ns\":" =
      0x2c :: 0x22 :: (utf8 "timestamp_ns" ++ [0x22, 0x3a]) := rfl
  have events : utf8 ",\"events\":[" = 0x2c :: 0x22 :: (utf8 "events" ++ [0x22, 0x3a, 0x5b]) := rfl
  have removed : utf8 "],\"removed_track_ids\":[]" =
      0x5d :: 0x2c :: 0x22 :: (utf8 "removed_track_ids" ++ [0x22, 0x3a, 0x5b, 0x5d]) := rfl
  have closing : utf8 "\x7d" = [0x7d] := rfl
  have each : serializeEvent os = fun det => (draftOf os (eventTree os det)).text := by
    funext det
    exact serializeEvent_eq os det
  rw [serializeSceneSource, serializeImageMeta_eq os, flatMap_memberText, each]
  simp (disch := decide) [opening, frameId, timestampNs, events, removed, closing, sourceTree,
    draftOf, escapeJson_name, Tree.separated, Tree.memberText, Function.comp_def]

theorem decodeText_name {name : String} (listed : name ∈ memberNames) :
    decodeText (escapeJson (utf8 name)) = some name := by
  have read : ∀ name ∈ memberNames, decodeText (escapeJson (utf8 name)) = some name := by decide
  exact read name listed

theorem readBack_name {name : String} (listed : name ∈ memberNames) :
    Tree.readBack escapeJson (utf8 name) = name := by
  rw [Tree.readBack, decodeText_name listed, Option.getD_some]

theorem readBack_label {label : List UInt8} (written : label.all isWritten = true) {text : String}
    (valid : decodeUtf8 label = some text) : Tree.readBack escapeJson label = text := by
  rw [Tree.readBack, decodeText_escapeJson, if_pos written, valid, Option.getD_some]

section Sound

variable (os : Ostream Double Single)

theorem sound_eventTree_iff (det : DetectionRecord Double Single) :
    (eventTree os det).Sound os.print escapeJson ↔ det.Writable os := by
  have label : (decodeText (escapeJson det.label)).isSome = true ↔
      det.label.all isWritten = true ∧ (decodeUtf8 det.label).isSome = true := by
    rw [decodeText_escapeJson]
    cases det.label.all isWritten <;> simp
  cases face : det.face with
  | none =>
      simp (disch := decide) [Tree.Sound, eventTree, embeddingMembers, boxTree, Tree.All,
        Tree.AllMembers, Tree.AllElements, DetectionRecord.Writable, face, decodeText_name, label,
        isNumber_decimal, os.isNumber_double, os.isNumber_single]
  | some face =>
      simp (disch := decide) [Tree.Sound, eventTree, embeddingMembers, boxTree, Tree.All,
        Tree.AllMembers, Tree.AllElements, Tree.allElements_iff, DetectionRecord.Writable, face,
        decodeText_name, label, isNumber_decimal, os.isNumber_double, os.isNumber_single]

theorem sound_sourceTree_iff (record : FrameRecord Double Single) (metaWidth metaHeight : UInt32) :
    (sourceTree os record metaWidth metaHeight).Sound os.print escapeJson ↔
      record.Writable os := by
  have each : ∀ det : DetectionRecord Double Single,
      Tree.All (fun word => isNumber (os.print word) = true)
        (fun text => (decodeText (escapeJson text)).isSome = true) (eventTree os det) ↔
      det.Writable os := sound_eventTree_iff os
  by_cases stored : 0 ≤ record.imagePath
  · simp (disch := decide) [Tree.Sound, sourceTree, imageMetaMembers, stored, Tree.All,
      Tree.AllMembers, Tree.AllElements, Tree.allElements_iff, each, FrameRecord.Writable,
      decodeText_name, isNumber_decimal]
  · simp (disch := decide) [Tree.Sound, sourceTree, imageMetaMembers, stored, Tree.All,
      Tree.AllMembers, Tree.AllElements, Tree.allElements_iff, each, FrameRecord.Writable,
      decodeText_name, isNumber_decimal]

def valueOf (tree : RecordTree Double Single) : Value :=
  tree.map os.print (Tree.readBack escapeJson)

theorem proper_nonFinite : ∀ word ∈ nonFiniteWords, Piece.Proper (.number word) := by
  simp only [Piece.Proper]
  decide +kernel

theorem proper_print (word : Printed Double Single) : Piece.Proper (.number (os.print word)) := by
  cases word with
  | integer value => exact proper_of_isNumber (isNumber_decimal value)
  | double value =>
      cases finite : os.isFinite value with
      | true => exact proper_of_isNumber (os.double_finite value finite)
      | false => exact proper_nonFinite _ (os.double_nonFinite value finite)
  | single value =>
      cases finite : os.isFiniteSingle value with
      | true => exact proper_of_isNumber (os.single_finite value finite)
      | false => exact proper_nonFinite _ (os.single_nonFinite value finite)

theorem proper_draftOf (tree : RecordTree Double Single) : (draftOf os tree).Proper :=
  Tree.proper_map (proper_print os) isContained_escapeJson tree

/-- What the text of a record denotes, and that it denotes nothing unless the record is
writable. -/
theorem denotes_serializeSceneSource_iff (record : FrameRecord Double Single)
    (metaWidth metaHeight : UInt32) {value : Value} :
    Denotes (serializeSceneSource os record metaWidth metaHeight) value ↔
      record.Writable os ∧ value = valueOf os (sourceTree os record metaWidth metaHeight) := by
  rw [serializeSceneSource_eq, Tree.text, denotes_spell_iff (proper_draftOf os _),
    ← sound_sourceTree_iff os record metaWidth metaHeight, draftOf]
  constructor
  · intro checked
    have sound := Tree.sound_of_check _ (Option.isSome_of_mem checked)
    rw [Tree.check_map _ sound, Option.some.injEq] at checked
    exact ⟨sound, checked.symm⟩
  · rintro ⟨sound, rfl⟩
    exact Tree.check_map _ sound

theorem distinct_eventTree (det : DetectionRecord Double Single) :
    (valueOf os (eventTree os det)).Distinct := by
  cases face : det.face with
  | none =>
      simp (disch := decide) [valueOf, eventTree, embeddingMembers, boxTree, face, readBack_name,
        Tree.Distinct, Tree.DistinctMembers, Tree.DistinctElements]
  | some face =>
      simp (disch := decide) [valueOf, eventTree, embeddingMembers, boxTree, face, readBack_name,
        Tree.Distinct, Tree.DistinctMembers, Tree.DistinctElements, Tree.distinctElements_iff]

theorem distinct_sourceTree (record : FrameRecord Double Single) (metaWidth metaHeight : UInt32) :
    (valueOf os (sourceTree os record metaWidth metaHeight)).Distinct := by
  have each : ∀ det : DetectionRecord Double Single,
      ((eventTree os det).map os.print (Tree.readBack escapeJson)).Distinct :=
    distinct_eventTree os
  by_cases stored : 0 ≤ record.imagePath
  · simp (disch := decide) [valueOf, sourceTree, imageMetaMembers, stored, readBack_name,
      Tree.Distinct, Tree.DistinctMembers, Tree.DistinctElements, Tree.distinctElements_iff, each]
  · simp (disch := decide) [valueOf, sourceTree, imageMetaMembers, stored, readBack_name,
      Tree.Distinct, Tree.DistinctMembers, Tree.DistinctElements, Tree.distinctElements_iff, each]

end Sound

end Iq9Pipeline.MultiCam
