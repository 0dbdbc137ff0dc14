import Iq9Pipeline.Foundation.JsonCut

/-!
The scene records of the camera process (`utils/JsonlWriter.cpp`): the text of one source
of a scene, printed field by field. The number types of a record are parameters; what a
stream prints of them comes with them.
-/

namespace Iq9Pipeline.MultiCam

open Foundation.JsonText

structure FaceInfo (Single : Type) where
  embedding : List Single

structure DetectionRecord (Double Single : Type) where
  trackId : UInt32
  label : List UInt8
  score : Double
  left : Double
  top : Double
  right : Double
  bottom : Double
  face : Option (FaceInfo Single)

structure FrameRecord (Double Single : Type) where
  channelId : UInt32
  imagePath : Int32
  frameId : UInt64
  timestampNs : UInt64
  detections : List (DetectionRecord Double Single)

def nonFiniteWords : List (List UInt8) :=
  [utf8 "nan", utf8 "-nan", utf8 "inf", utf8 "-inf"]

structure Ostream (Double Single : Type) where
  toSingle : Double → Single
  isFinite : Double → Bool
  isFiniteSingle : Single → Bool
  double : Double → List UInt8
  single : Single → List UInt8
  double_finite : ∀ value, isFinite value = true → isNumber (double value) = true
  double_nonFinite : ∀ value, isFinite value = false → double value ∈ nonFiniteWords
  single_finite : ∀ value, isFiniteSingle value = true → isNumber (single value) = true
  single_nonFinite : ∀ value, isFiniteSingle value = false → single value ∈ nonFiniteWords

def escapeByte (byte : UInt8) : List UInt8 :=
  if byte = 0x22 then [0x5c, 0x22]
  else if byte = 0x5c then [0x5c, 0x5c]
  else if byte = 0x08 then [0x5c, 0x62]
  else if byte = 0x0c then [0x5c, 0x66]
  else if byte = 0x0a then [0x5c, 0x6e]
  else if byte = 0x0d then [0x5c, 0x72]
  else if byte = 0x09 then [0x5c, 0x74]
  else [byte]

def escapeJson (text : List UInt8) : List UInt8 :=
  text.flatMap escapeByte

variable {Double Single : Type}

def serializeFace (os : Ostream Double Single) : Option (FaceInfo Single) → List UInt8
  | some face =>
      utf8 ",\"embedding\":[" ++ Tree.separated (face.embedding.map os.single) ++ utf8 "]"
  | none => []

def serializeEvent (os : Ostream Double Single) (det : DetectionRecord Double Single) :
    List UInt8 :=
  utf8 "\x7b\"class_name\":\"" ++ escapeJson det.label ++ utf8 "\"" ++
    utf8 ",\"track_id\":" ++ decimal det.trackId.toNat ++
    utf8 ",\"confidence\":" ++ os.single (os.toSingle det.score) ++
    utf8 ",\"bbox\":[" ++ os.double det.left ++ utf8 "," ++ os.double det.top ++ utf8 "," ++
    os.double det.right ++ utf8 "," ++ os.double det.bottom ++ utf8 "]" ++
    serializeFace os det.face ++ utf8 "\x7d"

def serializeImageMeta (imagePath : Int32) (metaWidth metaHeight : UInt32) : List UInt8 :=
  if 0 ≤ imagePath then
    utf8 ",\"image_meta\":\x7b" ++
      utf8 "\"slot_index\":" ++ decimal imagePath.toUInt32.toNat ++
      utf8 ",\"width\":" ++ decimal metaWidth.toNat ++
      utf8 ",\"height\":" ++ decimal metaHeight.toNat ++
      utf8 ",\"channels\":3" ++ utf8 "\x7d"
  else []

def serializeSceneSource (os : Ostream Double Single) (record : FrameRecord Double Single)
    (metaWidth metaHeight : UInt32) : List UInt8 :=
  utf8 "\x7b\"source_id\":" ++ decimal record.channelId.toNat ++
    utf8 ",\"frame_id\":" ++ decimal record.frameId.toNat ++
    utf8 ",\"timestamp_ns\":" ++ decimal record.timestampNs.toNat ++
    utf8 ",\"events\":[" ++ Tree.separated (record.detections.map (serializeEvent os)) ++
    utf8 "],\"removed_track_ids\":[]" ++
    serializeImageMeta record.imagePath metaWidth metaHeight ++ utf8 "\x7d"

/-- The bytes that a label keeps in a valid text: the escaper lets control characters
through unless they have a short escape. -/
def isWritten (byte : UInt8) : Bool :=
  0x20 ≤ byte || [0x08, 0x09, 0x0a, 0x0c, 0x0d].contains byte

theorem escapeByte_cases (byte : UInt8) :
    (∃ code, escapeByte byte = [0x5c, code] ∧ shortEscape code = some byte ∧
      isWritten byte = true) ∨
    (escapeByte byte = [byte] ∧ byte ≠ 0x22 ∧ byte ≠ 0x5c ∧
      isWritten byte = decide (0x20 ≤ byte)) := by
  by_cases escaped : byte ∈ [0x22, 0x5c, 0x08, 0x0c, 0x0a, 0x0d, 0x09]
  · left
    simp only [List.mem_cons, List.not_mem_nil, or_false] at escaped
    rcases escaped with rfl | rfl | rfl | rfl | rfl | rfl | rfl
    · exact ⟨0x22, rfl, rfl, rfl⟩
    · exact ⟨0x5c, rfl, rfl, rfl⟩
    · exact ⟨0x62, rfl, rfl, rfl⟩
    · exact ⟨0x66, rfl, rfl, rfl⟩
    · exact ⟨0x6e, rfl, rfl, rfl⟩
    · exact ⟨0x72, rfl, rfl, rfl⟩
    · exact ⟨0x74, rfl, rfl, rfl⟩
  · right
    simp only [List.mem_cons, List.not_mem_nil, or_false, not_or] at escaped
    obtain ⟨quote, slash, backspace, feed, line, carriage, tab⟩ := escaped
    simp [escapeByte, isWritten, quote, slash, backspace, feed, line, carriage, tab]

theorem unescape_escapeByte (byte : UInt8) (rest : List UInt8) :
    unescape (escapeByte byte ++ rest) =
      if isWritten byte then (unescape rest).map fun bytes => byte :: bytes else none := by
  obtain ⟨code, same, short, written⟩ | ⟨same, quote, slash, written⟩ := escapeByte_cases byte
  · rw [same, written, if_pos rfl]
    exact unescape_short short rest
  · rw [same, written]
    by_cases visible : 0x20 ≤ byte
    · rw [decide_eq_true visible, if_pos rfl]
      exact unescape_plain ⟨visible, quote, slash⟩ rest
    · have control : byte < 0x20 := UInt8.not_le.mp visible
      rw [decide_eq_false visible]
      exact unescape_control control rest

theorem unescape_escapeJson (text : List UInt8) :
    unescape (escapeJson text) = if text.all isWritten then some text else none := by
  induction text with
  | nil => rfl
  | cons byte rest ih =>
      have split : escapeJson (byte :: rest) = escapeByte byte ++ escapeJson rest := rfl
      rw [split, unescape_escapeByte, ih, List.all_cons]
      cases isWritten byte <;> cases rest.all isWritten <;> rfl

/-- The escaper is undone by every reader, as long as the label can be read at all. -/
theorem decodeText_escapeJson (text : List UInt8) :
    decodeText (escapeJson text) = if text.all isWritten then decodeUtf8 text else none := by
  rw [decodeText, unescape_escapeJson]
  cases text.all isWritten <;> rfl

theorem isContained_escapeJson (text : List UInt8) :
    isContained false (escapeJson text) = true := by
  induction text with
  | nil => rfl
  | cons byte rest ih =>
      have split : escapeJson (byte :: rest) = escapeByte byte ++ escapeJson rest := rfl
      rw [split]
      obtain ⟨code, same, _⟩ | ⟨same, quote, slash, _⟩ := escapeByte_cases byte
      · simp [same, isContained, ih]
      · simp [same, isContained, quote, slash, ih]

namespace Ostream

def whole : Ostream Nat Nat where
  toSingle := id
  isFinite _ := true
  isFiniteSingle _ := true
  double := decimal
  single := decimal
  double_finite value _ := isNumber_decimal value
  double_nonFinite _ impossible := nomatch impossible
  single_finite value _ := isNumber_decimal value
  single_nonFinite _ impossible := nomatch impossible

variable (os : Ostream Double Single)

theorem isNumber_double (value : Double) : isNumber (os.double value) = os.isFinite value := by
  cases finite : os.isFinite value with
  | true => exact os.double_finite value finite
  | false =>
      have words : ∀ word ∈ nonFiniteWords, isNumber word = false := by decide
      exact words _ (os.double_nonFinite value finite)

theorem isNumber_single (value : Single) :
    isNumber (os.single value) = os.isFiniteSingle value := by
  cases finite : os.isFiniteSingle value with
  | true => exact os.single_finite value finite
  | false =>
      have words : ∀ word ∈ nonFiniteWords, isNumber word = false := by decide
      exact words _ (os.single_nonFinite value finite)

end Ostream

def DetectionRecord.Writable (os : Ostream Double Single) (det : DetectionRecord Double Single) :
    Prop :=
  (det.label.all isWritten = true ∧ (decodeUtf8 det.label).isSome = true) ∧
    os.isFiniteSingle (os.toSingle det.score) = true ∧
    (∀ corner ∈ [det.left, det.top, det.right, det.bottom], os.isFinite corner = true) ∧
    ∀ face ∈ det.face, ∀ value ∈ face.embedding, os.isFiniteSingle value = true

instance (os : Ostream Double Single) (det : DetectionRecord Double Single) :
    Decidable (det.Writable os) :=
  inferInstanceAs (Decidable (_ ∧ _))

def FrameRecord.Writable (os : Ostream Double Single) (record : FrameRecord Double Single) : Prop :=
  ∀ det ∈ record.detections, det.Writable os

instance (os : Ostream Double Single) (record : FrameRecord Double Single) :
    Decidable (record.Writable os) :=
  inferInstanceAs (Decidable (∀ det ∈ record.detections, det.Writable os))

end Iq9Pipeline.MultiCam
