import Iq9Pipeline.MultiCam.SourceTree

/-!
The message aggregator (`gstmsgagg.cpp`): every pad queues the texts of one camera, and a
merge takes one text of each pad, parses it and prints the objects as one scene update.
-/

namespace Iq9Pipeline.MultiCam

open Foundation.JsonText

def isBrace (byte : UInt8) : Bool :=
  byte = 0x7b || byte = 0x7d

/-- What the aggregator uses of json-glib: the parser, and how the generator prints the
number that was read as a word, and a text. -/
structure JsonGlib where
  parse : List UInt8 → Option Value
  number : List UInt8 → List UInt8
  quote : String → List UInt8
  accepts : ∀ text, (parse text).isSome = true ↔ ∃ value, Denotes text value
  decodes : ∀ text value, Denotes text value → value.Distinct → parse text = some value
  isNumber_number : ∀ word, isNumber (number word) = true
  number_decimal : ∀ value, value < 2 ^ 64 → number (decimal value) = decimal value
  decodeText_quote : ∀ text, decodeText (quote text) = some text
  quote_plain : ∀ text, (∀ byte ∈ utf8 text, 0x20 ≤ byte ∧ byte < 0x7f ∧ byte ≠ 0x22 ∧
    byte ≠ 0x5c) → quote text = utf8 text
  quote_braces : ∀ text, (quote text).filter isBrace = (utf8 text).filter isBrace

def cString (bytes : List UInt8) : List UInt8 :=
  bytes.takeWhile fun byte => byte ≠ 0

abbrev DataPad := List (List UInt8)

def dataChain (queue : DataPad) (buffer : List UInt8) : DataPad :=
  queue ++ [cString buffer]

def asObject : Value → Option Value
  | .object members => some (.object members)
  | _ => none

def sceneUpdate (sources : List Value) : Value :=
  .object [("type", .string "scene_update"), ("sources", .array sources)]

def JsonGlib.toText (glib : JsonGlib) (value : Value) : List UInt8 :=
  value.write glib.number glib.quote

def mergedSources (glib : JsonGlib) (datapads : List DataPad) : List Value :=
  datapads.filterMap fun queue =>
    queue.head?.bind fun json => (glib.parse json).bind asObject

def buildSceneMerge (glib : JsonGlib) (datapads : List DataPad) : List UInt8 × List DataPad :=
  (glib.toText (sceneUpdate (mergedSources glib datapads)), datapads.map List.tail)

variable {Double Single : Type} (os : Ostream Double Single)

theorem zero_notMem_of_isNumber {word : List UInt8} (number : isNumber word = true) :
    0 ∉ word := by
  intro member
  exact absurd (List.all_eq_true.mp (isNumeric_of_isNumber number) 0 member) (by decide)

theorem zero_notMem_print (word : Printed Double Single) : 0 ∉ os.print word := by
  have plain : ∀ word ∈ nonFiniteWords, 0 ∉ word := by decide
  cases word with
  | integer value => exact zero_notMem_of_isNumber (isNumber_decimal value)
  | double value =>
      cases finite : os.isFinite value with
      | true => exact zero_notMem_of_isNumber (os.double_finite value finite)
      | false => exact plain _ (os.double_nonFinite value finite)
  | single value =>
      cases finite : os.isFiniteSingle value with
      | true => exact zero_notMem_of_isNumber (os.single_finite value finite)
      | false => exact plain _ (os.single_nonFinite value finite)

theorem lex_cString (tree : RecordTree Double Single) :
    lex (cString (draftOf os tree).text) = lex (draftOf os tree).text := by
  refine lex_takeWhile_text (proper_draftOf os tree) ?_
  intro piece member other
  rw [draftOf, Tree.symbols_map, List.mem_map] at member
  obtain ⟨token, _, rfl⟩ := member
  have marks : ∀ kind, 0 ∉ Piece.spelling (.mark kind) := by
    intro kind
    cases kind <;> decide
  have words : 0 ∉ nullWord ∧ ∀ value, 0 ∉ booleanWord value := by decide
  cases token with
  | mark kind => exact marks kind
  | null => exact words.1
  | boolean value => exact words.2 value
  | number word => exact zero_notMem_print os word
  | string text => exact absurd rfl (other _)

structure SceneSource (Double Single : Type) where
  record : FrameRecord Double Single
  metaWidth : UInt32
  metaHeight : UInt32

namespace SceneSource

def text (source : SceneSource Double Single) : List UInt8 :=
  serializeSceneSource os source.record source.metaWidth source.metaHeight

def value (source : SceneSource Double Single) : Value :=
  valueOf os (sourceTree os source.record source.metaWidth source.metaHeight)

def queued (sources : List (SceneSource Double Single)) : DataPad :=
  sources.foldl (fun queue source => dataChain queue (source.text os)) []

theorem queued_eq (sources : List (SceneSource Double Single)) :
    queued os sources = sources.map fun source => cString (source.text os) := by
  have appended : ∀ queue : DataPad,
      sources.foldl (fun queue source => dataChain queue (source.text os)) queue =
        queue ++ sources.map fun source => cString (source.text os) := by
    induction sources with
    | nil => simp
    | cons source rest ih =>
        intro queue
        rw [List.foldl_cons, ih, dataChain, List.map_cons, List.append_assoc]
        rfl
  exact appended []

theorem denotes_cString_iff (source : SceneSource Double Single) {value : Value} :
    Denotes (cString (source.text os)) value ↔
      source.record.Writable os ∧ value = source.value os := by
  have cut := lex_cString os (sourceTree os source.record source.metaWidth source.metaHeight)
  rw [← serializeSceneSource_eq] at cut
  rw [text, Denotes, cut]
  exact denotes_serializeSceneSource_iff os source.record source.metaWidth source.metaHeight

theorem parse_cString (glib : JsonGlib) (source : SceneSource Double Single) :
    glib.parse (cString (source.text os)) =
      if source.record.Writable os then some (source.value os) else none := by
  by_cases writable : source.record.Writable os
  · rw [if_pos writable]
    exact glib.decodes _ _ ((denotes_cString_iff os source).mpr ⟨writable, rfl⟩)
      (distinct_sourceTree os _ _ _)
  · rw [if_neg writable, ← Option.not_isSome_iff_eq_none, glib.accepts]
    rintro ⟨value, denotes⟩
    exact writable ((denotes_cString_iff os source).mp denotes).1

theorem asObject_value (source : SceneSource Double Single) :
    asObject (source.value os) = some (source.value os) := by
  simp [value, valueOf, sourceTree, asObject]

end SceneSource

theorem mergedSources_queued (glib : JsonGlib) (pads : List (List (SceneSource Double Single))) :
    mergedSources glib (pads.map (SceneSource.queued os)) =
      ((pads.filterMap List.head?).filter fun source => source.record.Writable os).map
        (SceneSource.value os) := by
  induction pads with
  | nil => rfl
  | cons pad pads ih =>
      rw [mergedSources] at ih ⊢
      cases pad with
      | nil => exact ih
      | cons source rest =>
          rw [List.map_cons, SceneSource.queued_eq, List.filterMap_cons]
          by_cases writable : source.record.Writable os
          · simp [SceneSource.parse_cString, writable, SceneSource.asObject_value, ih]
          · simp [SceneSource.parse_cString, writable, ih]

def quoteByte (byte : UInt8) : List UInt8 :=
  if byte = 0x22 ∨ byte = 0x5c then [0x5c, byte]
  else if byte < 0x20 then
    [0x5c, 0x75, 0x30, 0x30, 0x30 + byte / 16, if byte % 16 < 10 then 0x30 + byte % 16
      else 0x57 + byte % 16]
  else [byte]

def quoteText (text : String) : List UInt8 :=
  (utf8 text).flatMap quoteByte

theorem unescape_quoteByte (byte : UInt8) (rest : List UInt8) :
    unescape (quoteByte byte ++ rest) = (unescape rest).map fun bytes => byte :: bytes := by
  rw [quoteByte]
  split
  · rename_i special
    rcases special with rfl | rfl
    · exact unescape_short rfl rest
    · exact unescape_short rfl rest
  · rename_i ordinary
    rw [not_or] at ordinary
    split
    · rename_i control
      have codes : ∀ value : Nat, value < 32 →
          hexDigit (0x30 + UInt8.ofNat value / 16) = some (value / 16) ∧
          hexDigit (if UInt8.ofNat value % 16 < 10 then 0x30 + UInt8.ofNat value % 16
            else 0x57 + UInt8.ofNat value % 16) = some (value % 16) ∧
          readUnit none (Nat.ofDigits 16 [value % 16, value / 16, 0, 0]) =
            some (.plain, [UInt8.ofNat value]) := by decide
      obtain ⟨high, low, character⟩ := codes byte.toNat control
      rw [UInt8.ofNat_toNat] at high low character
      have zero : hexDigit 0x30 = some 0 := rfl
      simp [unescape, unescapeFrom, readByte, zero, high, low, character, Function.comp_def]
    · rename_i visible
      exact unescape_plain ⟨UInt8.not_lt.mp visible, ordinary⟩ rest

theorem unescape_quoted (raw : List UInt8) : unescape (raw.flatMap quoteByte) = some raw := by
  induction raw with
  | nil => rfl
  | cons byte raw ih => rw [List.flatMap_cons, unescape_quoteByte, ih, Option.map_some]

theorem decodeText_quoteText (text : String) : decodeText (quoteText text) = some text := by
  rw [decodeText, quoteText, unescape_quoted, Option.bind_some, decodeUtf8_eq_some_iff]

theorem flatMap_quoteByte_plain (bytes : List UInt8) (plain : ∀ byte ∈ bytes,
    0x20 ≤ byte ∧ byte < 0x7f ∧ byte ≠ 0x22 ∧ byte ≠ 0x5c) : bytes.flatMap quoteByte = bytes := by
  induction bytes with
  | nil => rfl
  | cons byte raw ih =>
      rw [List.forall_mem_cons] at plain
      obtain ⟨⟨visible, _, quote, slash⟩, plain⟩ := plain
      have special : ¬ (byte = 0x22 ∨ byte = 0x5c) := not_or.mpr ⟨quote, slash⟩
      have same : quoteByte byte = [byte] := by
        rw [quoteByte, if_neg special, if_neg (UInt8.not_lt.mpr visible)]
      rw [List.flatMap_cons, same, ih plain, List.singleton_append]

theorem quoteText_plain (text : String) (plain : ∀ byte ∈ utf8 text,
    0x20 ≤ byte ∧ byte < 0x7f ∧ byte ≠ 0x22 ∧ byte ≠ 0x5c) : quoteText text = utf8 text :=
  flatMap_quoteByte_plain _ plain

theorem quoteText_braces (text : String) :
    (quoteText text).filter isBrace = (utf8 text).filter isBrace := by
  have each : ∀ byte : UInt8, (quoteByte byte).filter isBrace = [byte].filter isBrace := by
    intro byte
    rw [quoteByte]
    split
    · rename_i special
      rcases special with rfl | rfl <;> rfl
    · split
      · rename_i control
        have codes : ∀ value : Nat, value < 32 →
            (quoteByte (UInt8.ofNat value)).filter isBrace =
              [UInt8.ofNat value].filter isBrace := by decide
        have code := codes byte.toNat control
        rw [UInt8.ofNat_toNat, quoteByte] at code
        rename_i ordinary
        rwa [if_neg ordinary, if_pos control] at code
      · rfl
  rw [quoteText]
  induction utf8 text with
  | nil => rfl
  | cons byte raw ih =>
      have whole : byte :: raw = [byte] ++ raw := rfl
      rw [List.flatMap_cons, List.filter_append, each, ih, whole, List.filter_append]

/-- A parser that takes every text of a value, and prints numbers as they were read. -/
def JsonGlib.verbatim : JsonGlib where
  parse := read
  number word := if isNumber word then word else [0x30]
  quote := quoteText
  accepts text := by simp [Option.isSome_iff_exists, read_eq_some_iff]
  decodes text value denotes _ := read_eq_some_iff.mpr denotes
  isNumber_number word := by
    split
    · assumption
    · rfl
  number_decimal value _ := if_pos (isNumber_decimal value)
  decodeText_quote := decodeText_quoteText
  quote_plain := quoteText_plain
  quote_braces := quoteText_braces

end Iq9Pipeline.MultiCam
