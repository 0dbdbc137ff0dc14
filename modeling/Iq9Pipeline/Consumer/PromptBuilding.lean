import Iq9Pipeline.Consumer.WorkerSurvival
import Iq9Pipeline.Foundation.Brackets
import Iq9Pipeline.Foundation.Template

/-!
The prompt of a task (`buildPrompt` in `consumer_demo.cpp`). The rule and the detections are
cut out of the text of the metadata by their keys, a pair of quotes and a pair of brackets,
and put in the place of the first placeholder until none is left.
-/

namespace Iq9Pipeline.Consumer

open Foundation Foundation.JsonText Foundation.Replacement RuleProcess

inductive Placeholder
  | rule
  | dets
deriving DecidableEq

namespace Placeholder

def marker : Placeholder → List UInt8
  | .rule => ascii "\x7brule\x7d"
  | .dets => ascii "\x7bdets\x7d"

def all : List Placeholder :=
  [.rule, .dets]

end Placeholder

def detectionsKey : List UInt8 :=
  ascii "\"detections\":"

def bracketWeight (byte : UInt8) : Int :=
  if byte = 0x5b then 1 else if byte = 0x5d then -1 else 0

def extractRule (metadataJson : List UInt8) : List UInt8 :=
  match (behind ruleKey metadataJson).bind (behind [0x22]) with
  | some rest => if 0x22 ∈ rest then rest.takeWhile fun byte => byte ≠ 0x22 else ascii "unknown"
  | none => ascii "unknown"

def extractDets (metadataJson : List UInt8) : List UInt8 :=
  match behind detectionsKey metadataJson with
  | some rest =>
      match rest.dropWhile fun byte => byte ≠ 0x5b with
      | [] => ascii "none"
      | text => text.take ((closing bracketWeight 0 text).getD 0)
  | none => ascii "none"

def replacePlaceholders (fuel : Nat) (rule dets tmpl : List UInt8) : Option (List UInt8) :=
  (replaceAll Placeholder.rule.marker rule fuel tmpl).bind
    (replaceAll Placeholder.dets.marker dets fuel)

/-- `none` where the loops do not end within the fuel. -/
def buildPrompt (fuel : Nat) (metadataJson tmpl : List UInt8) : Option (List UInt8) :=
  if metadataJson = [] then replacePlaceholders fuel (ascii "unknown") (ascii "none") tmpl
  else replacePlaceholders fuel (extractRule metadataJson) (extractDets metadataJson) tmpl

/-- `dump` copies printable ASCII without quotes and backslashes. -/
structure NlohmannDump extends NlohmannText where
  escape_plain : ∀ bytes : List UInt8,
    (∀ byte ∈ bytes, 0x20 ≤ byte ∧ byte < 0x7f ∧ byte ≠ 0x22 ∧ byte ≠ 0x5c) →
      escape bytes = bytes

namespace NlohmannDump

variable (library : NlohmannDump)

def dump (json : Json) : Option (List UInt8) :=
  (json.toValue library.float).stored.dump library.escape

def text (json : Json) : List UInt8 :=
  ((json.toValue library.float).stored.map id library.escape).text

theorem dump_eq_some (json : Json) : library.dump json = some (library.text json) := by
  rw [dump, Tree.dump, Tree.texts_stored, if_pos (by simp), text]

end NlohmannDump

def detectionJson (detection : Detection) : Json :=
  .object [
    ("class", .string detection.className),
    ("confidence", .numberFloat (.ofFloat detection.confidence.toFloat)),
    ("track_id", .numberInteger detection.trackId.toInt64)]

section

variable (library : NlohmannDump)

def ruleText (chosen : Alert) : List UInt8 :=
  library.escape (utf8 chosen.ruleName)

def classTexts (event : EventMeta) : List (List UInt8) :=
  event.detections.map fun detection => library.escape (utf8 detection.className)

def detectionsText (event : EventMeta) : List UInt8 :=
  library.text (.array (event.detections.map detectionJson))

def detectionsBody (event : EventMeta) : List UInt8 :=
  Tree.separated (event.detections.map fun detection => library.text (detectionJson detection))

end

def filling (rule dets : List UInt8) : Placeholder → List UInt8
  | .rule => rule
  | .dets => dets

def substitute (rule dets tmpl : List UInt8) : List UInt8 :=
  render (filling rule dets) (tokens Placeholder.marker Placeholder.all 0 tmpl)

variable {library : NlohmannDump} {chosen : Alert} {event : EventMeta}

theorem toElements_map {float : Float → List UInt8} (elements : List Json) :
    Json.toElements float elements = elements.map (Json.toValue float) := by
  induction elements with
  | nil => rfl
  | cons next rest ih => rw [Json.toElements, ih, List.map_cons]

theorem detectionsText_eq :
    detectionsText library event = 0x5b :: (detectionsBody library event ++ [0x5d]) := by
  simp [detectionsText, detectionsBody, NlohmannDump.text, Json.toValue, toElements_map,
    Tree.stored, Function.comp_def]

def isCopied (byte : UInt8) : Bool :=
  0x20 ≤ byte && byte < 0x7f && byte ≠ 0x22 && byte ≠ 0x5c

theorem escape_key {name : String} (copied : (utf8 name).all isCopied = true) :
    library.escape (utf8 name) = utf8 name := by
  refine library.escape_plain _ fun byte member => ?_
  have plain := List.all_eq_true.mp copied byte member
  simp only [isCopied, Bool.and_eq_true, decide_eq_true_eq] at plain
  exact ⟨plain.1.1.1, plain.1.1.2, plain.1.2, plain.2⟩

def detectionRest (library : NlohmannDump) (detection : Detection) : List UInt8 :=
  ascii "\"confidence\":" ++ (library.text (.numberFloat (.ofFloat detection.confidence.toFloat)) ++
    0x2c :: (ascii "\"track_id\":" ++
      (integer detection.trackId.toInt ++ [0x7d])))

theorem text_detectionJson (detection : Detection) :
    library.text (detectionJson detection) =
      ascii "\x7b\"class\":\"" ++ (library.escape (utf8 detection.className) ++
        0x22 :: 0x2c :: detectionRest library detection) := by
  have name : library.escape (utf8 "class") = utf8 "class" := escape_key rfl
  have score : library.escape (utf8 "confidence") = utf8 "confidence" := escape_key rfl
  have track : library.escape (utf8 "track_id") = utf8 "track_id" := escape_key rfl
  have head : ascii "\x7b\"class\":\"" = 0x7b :: 0x22 :: (utf8 "class" ++ [0x22, 0x3a, 0x22]) := by
    decide
  have second : ascii "\"confidence\":" = 0x22 :: (utf8 "confidence" ++ [0x22, 0x3a]) := by
    decide
  have third : ascii "\"track_id\":" = 0x22 :: (utf8 "track_id" ++ [0x22, 0x3a]) := by
    decide
  simp [NlohmannDump.text, detectionJson, detectionRest, Json.toValue, Json.toMembers, Tree.stored,
    Tree.separated, Tree.memberText, name, score, track, head, second, third]

theorem text_relayMetadata :
    ∃ rest, library.text (relayMetadata chosen event) =
      0x7b :: (detectionsKey ++ (detectionsText library event ++
        0x2c :: (ruleKey ++ 0x22 :: (ruleText library chosen ++ 0x22 :: rest)))) := by
  have dets : library.escape (utf8 "detections") = utf8 "detections" := escape_key rfl
  have rule : library.escape (utf8 "rule") = utf8 "rule" := escape_key rfl
  have first : detectionsKey = 0x22 :: (utf8 "detections" ++ [0x22, 0x3a]) := by decide
  have second : ruleKey = 0x22 :: (utf8 "rule" ++ [0x22, 0x3a]) := by decide
  have listed : relayMetadata chosen event = .object [
      ("detections", .array (event.detections.map detectionJson)),
      ("rule", .string chosen.ruleName),
      ("source_id", .numberInteger event.slotIndex.toInt32.toInt64)] := rfl
  refine ⟨0x2c :: (Tree.memberText (library.escape (utf8 "source_id"),
    .number (integer event.slotIndex.toInt32.toInt64.toInt)) ++ [0x7d]), ?_⟩
  rw [listed]
  simp [NlohmannDump.text, detectionsText, ruleText, Json.toValue, Json.toMembers, Tree.stored,
    Tree.separated, Tree.memberText, dets, rule, first, second]

theorem isDelimiter_float (double : JsonDouble) :
    ∀ byte ∈ library.text (.numberFloat double), isDelimiter byte = false := by
  rw [NlohmannDump.text, Json.toValue]
  split
  · rename_i finite
    simpa [Tree.stored] using isDelimiter_of_isNumber (library.isNumber_float double.value finite)
  · have words : nullWord.all (fun byte => !isDelimiter byte) = true := rfl
    have plain : ∀ byte ∈ nullWord, isDelimiter byte = false := by
      simpa using words
    simpa [Tree.stored, JsonText.Tree.map, Tree.text, Tree.symbols, Piece.spelling] using plain

theorem isDelimiter_integer (value : Int) : ∀ byte ∈ integer value, isDelimiter byte = false :=
  isDelimiter_of_isNumber (isNumber_integer value)

theorem notMem_word {word : List UInt8} (plain : ∀ byte ∈ word, isDelimiter byte = false)
    {byte : UInt8} (delimits : isDelimiter byte = true) : byte ∉ word := by
  intro member
  rw [plain byte member] at delimits
  cases delimits

theorem notMem_detectionRest {byte : UInt8} (delimits : isDelimiter byte = true)
    (first : byte ∉ ascii "\"confidence\":,") (last : byte ∉ ascii "\"track_id\":\x7d")
    (detection : Detection) : byte ∉ detectionRest library detection := by
  have score : byte ∉ library.text (.numberFloat (.ofFloat detection.confidence.toFloat)) :=
    notMem_word (isDelimiter_float _) delimits
  have track : byte ∉ integer detection.trackId.toInt :=
    notMem_word (isDelimiter_integer _) delimits
  have head : ascii "\"confidence\":," = ascii "\"confidence\":" ++ [0x2c] := by decide
  have tail : ascii "\"track_id\":\x7d" = ascii "\"track_id\":" ++ [0x7d] := by decide
  rw [head, List.mem_append, List.mem_singleton, not_or] at first
  rw [tail, List.mem_append, List.mem_singleton, not_or] at last
  simp [detectionRest, first, last, score, track]

theorem escape_contained (text : String) :
    isContained false (library.escape (utf8 text)) = true :=
  isContained_of_unescapeFrom (library.escapes.unescape _ (isUtf8_utf8 text))

def keyEnd : List UInt8 :=
  [0x6c, 0x65, 0x22, 0x3a]

theorem keyEnd_infix_ruleKey : keyEnd <:+: ruleKey := by decide

theorem not_infix_string {raw : List UInt8} (contained : isContained false raw = true) :
    ¬ keyEnd <:+: raw ++ [0x22] := by
  rw [List.infix_concat_iff, not_or]
  constructor
  · intro ends
    have last := ends.getLast (by simp [keyEnd])
    simp [keyEnd] at last
  · intro inside
    have part : [0x65, 0x22] <:+: keyEnd := by decide
    exact not_infix_of_isContained (by decide) contained (part.trans inside)

theorem opening_eq : ascii "\x7b\"class\":\"" =
    [0x7b, 0x22, 0x63, 0x6c, 0x61, 0x73, 0x73, 0x22, 0x3a, 0x22] := by decide

theorem keyEnd_detection (detection : Detection) :
    ¬ keyEnd <:+: library.text (detectionJson detection) := by
  have score : 0x22 ∉ library.text (.numberFloat (.ofFloat detection.confidence.toFloat)) :=
    notMem_word (isDelimiter_float _) rfl
  have track : 0x22 ∉ integer detection.trackId.toInt ++ [0x7d] := by
    simpa using @notMem_word _ (isDelimiter_integer detection.trackId.toInt) 0x22 rfl
  have quote : (0x22 : UInt8) ∈ keyEnd := by decide
  have first : ¬ keyEnd <:+: ascii "\"confidence\":" ++
      library.text (.numberFloat (.ofFloat detection.confidence.toFloat)) := by
    have name : ascii "\"confidence\":" =
        [0x22, 0x63, 0x6f, 0x6e, 0x66, 0x69, 0x64, 0x65, 0x6e, 0x63, 0x65, 0x22, 0x3a] := by
      decide
    simpa [name, List.infix_cons_iff, keyEnd] using not_infix_of_notMem quote score
  have second : ¬ keyEnd <:+: ascii "\"track_id\":" ++
      (integer detection.trackId.toInt ++ [0x7d]) := by
    have name : ascii "\"track_id\":" =
        [0x22, 0x74, 0x72, 0x61, 0x63, 0x6b, 0x5f, 0x69, 0x64, 0x22, 0x3a] := by
      decide
    simpa [name, List.infix_cons_iff, keyEnd] using not_infix_of_notMem quote track
  have rest : ¬ keyEnd <:+: detectionRest library detection := by
    rw [detectionRest, ← List.append_assoc, infix_append_cons_iff (by decide) (by decide), not_or]
    exact ⟨first, second⟩
  have string := not_infix_string (@escape_contained library detection.className)
  have later : ¬ keyEnd <:+: library.escape (utf8 detection.className) ++
      0x22 :: 0x2c :: detectionRest library detection := by
    rw [List.append_cons, infix_append_cons_iff (by decide) (by decide), not_or]
    exact ⟨string, rest⟩
  rw [text_detectionJson, opening_eq]
  simpa [List.infix_cons_iff, keyEnd] using later

theorem infix_separated_iff {pattern : List UInt8} (nonempty : pattern ≠ [])
    (other : 0x2c ∉ pattern) (items : List (List UInt8)) :
    pattern <:+: Tree.separated items ↔ ∃ item ∈ items, pattern <:+: item := by
  cases items with
  | nil => simp [Tree.separated, nonempty]
  | cons first rest => exact infix_flatMap_cons_iff nonempty other rest

theorem infix_detectionsText_iff {pattern : List UInt8} (nonempty : pattern ≠ [])
    (comma : 0x2c ∉ pattern) (opening : 0x5b ∉ pattern) (ending : 0x5d ∉ pattern) :
    pattern <:+: detectionsText library event ↔
      ∃ detection ∈ event.detections, pattern <:+: library.text (detectionJson detection) := by
  have begins := @infix_append_cons_iff _ pattern [] (detectionsBody library event ++ [0x5d]) _
    nonempty opening
  rw [List.nil_append] at begins
  rw [detectionsText_eq, begins, infix_append_cons_iff nonempty ending, detectionsBody,
    infix_separated_iff nonempty comma]
  simp [nonempty]

theorem keyEnd_detectionsText : ¬ keyEnd <:+: detectionsText library event := by
  rw [infix_detectionsText_iff (by decide) (by decide) (by decide) (by decide)]
  rintro ⟨detection, _, inside⟩
  exact keyEnd_detection detection inside

theorem behind_append {key before after : List UInt8}
    (first : ¬ key <:+: before ++ key.dropLast) :
    behind key (before ++ (key ++ after)) = some after := by
  rw [behind, find?_tails_append first, Option.map_some, List.drop_left' rfl]

theorem takeWhile_quote (name rest : List UInt8) :
    (name ++ 0x22 :: rest).takeWhile (fun byte => byte ≠ 0x22) =
      name.takeWhile fun byte => byte ≠ 0x22 := by
  induction name with
  | nil => simp
  | cons byte name ih =>
      rw [List.cons_append, List.takeWhile_cons, List.takeWhile_cons, ih]

theorem extractRule_text :
    extractRule (library.text (relayMetadata chosen event)) =
      (ruleText library chosen).takeWhile fun byte => byte ≠ 0x22 := by
  obtain ⟨rest, text⟩ := @text_relayMetadata library chosen event
  have outside : ¬ ruleKey <:+:
      (0x7b :: (detectionsKey ++ (detectionsText library event ++ [0x2c]))) ++
        ruleKey.dropLast := by
    intro found
    have name : detectionsKey = [0x22, 0x64, 0x65, 0x74, 0x65, 0x63, 0x74, 0x69, 0x6f, 0x6e,
        0x73, 0x22, 0x3a] := by decide
    have last : ¬ keyEnd <:+: ruleKey.dropLast := by decide
    have split : (0x7b :: (detectionsKey ++ (detectionsText library event ++ [0x2c]))) ++
        ruleKey.dropLast =
          (0x7b :: (detectionsKey ++ detectionsText library event)) ++
            0x2c :: ruleKey.dropLast := by simp
    have inside := keyEnd_infix_ruleKey.trans found
    rw [split, infix_append_cons_iff (by decide) (by decide), or_iff_left last, name] at inside
    refine @keyEnd_detectionsText library event ?_
    simpa [List.infix_cons_iff, keyEnd] using inside
  have found := @behind_append _ _ (0x22 :: (ruleText library chosen ++ 0x22 :: rest)) outside
  have whole : (0x7b :: (detectionsKey ++ (detectionsText library event ++ [0x2c]))) ++
      (ruleKey ++ 0x22 :: (ruleText library chosen ++ 0x22 :: rest)) =
        library.text (relayMetadata chosen event) := by
    rw [text]
    simp
  have opened : behind [0x22] (0x22 :: (ruleText library chosen ++ 0x22 :: rest)) =
      some (ruleText library chosen ++ 0x22 :: rest) := by
    simp [behind]
  rw [whole] at found
  rw [extractRule, found, Option.bind_some, opened]
  dsimp only
  rw [if_pos (by simp), takeWhile_quote]

theorem bracketWeight_ge (byte : UInt8) : -1 ≤ bracketWeight byte := by
  rw [bracketWeight]
  split
  · decide
  · split <;> decide

theorem extractDets_text : ∃ rest,
    extractDets (library.text (relayMetadata chosen event)) =
      (0x5b :: (detectionsBody library event ++ 0x5d :: rest)).take
        ((closing bracketWeight 0
          (0x5b :: (detectionsBody library event ++ 0x5d :: rest))).getD 0) := by
  obtain ⟨rest, text⟩ := @text_relayMetadata library chosen event
  have first : ¬ detectionsKey <:+: [0x7b] ++ detectionsKey.dropLast := by decide
  refine ⟨0x2c :: (ruleKey ++ 0x22 :: (ruleText library chosen ++ 0x22 :: rest)), ?_⟩
  have found := @behind_append _ _ (detectionsText library event ++
    0x2c :: (ruleKey ++ 0x22 :: (ruleText library chosen ++ 0x22 :: rest))) first
  rw [List.singleton_append, ← text] at found
  rw [extractDets, found, detectionsText_eq]
  simp

theorem extractDets_eq_iff :
    extractDets (library.text (relayMetadata chosen event)) = detectionsText library event ↔
      Balanced bracketWeight (detectionsBody library event) := by
  obtain ⟨rest, cut⟩ := @extractDets_text library chosen event
  rw [cut, detectionsText_eq]
  exact take_closing_iff bracketWeight_ge rfl rfl

def isBracket (byte : UInt8) : Bool :=
  byte = 0x5b || byte = 0x5d

theorem bracketWeight_of_not_isBracket (byte : UInt8) (other : isBracket byte = false) :
    bracketWeight byte = 0 := by
  simp only [isBracket, Bool.or_eq_false_iff, decide_eq_false_iff_not] at other
  rw [bracketWeight, if_neg other.1, if_neg other.2]

theorem filter_separated (items : List (List UInt8)) :
    (Tree.separated items).filter isBracket = items.flatMap fun item => item.filter isBracket := by
  have comma : isBracket 0x2c = false := rfl
  cases items with
  | nil => rfl
  | cons first rest => simp [Tree.separated, List.filter_flatMap, comma]

theorem filter_detection (detection : Detection) :
    (library.text (detectionJson detection)).filter isBracket =
      (library.escape (utf8 detection.className)).filter isBracket := by
  have opening : 0x5b ∉ detectionRest library detection :=
    notMem_detectionRest rfl (by decide) (by decide +kernel) detection
  have ending : 0x5d ∉ detectionRest library detection :=
    notMem_detectionRest rfl (by decide) (by decide +kernel) detection
  have rest : (0x22 :: 0x2c :: detectionRest library detection).filter isBracket = [] := by
    rw [List.filter_eq_nil_iff]
    intro byte member bracket
    simp only [isBracket, Bool.or_eq_true, decide_eq_true_eq] at bracket
    rcases bracket with rfl | rfl
    · simp [opening] at member
    · simp [ending] at member
  have head : (ascii "\x7b\"class\":\"").filter isBracket = [] := by decide
  rw [text_detectionJson, List.filter_append, List.filter_append, head, rest, List.nil_append,
    List.append_nil]

/-- The brackets between those of the detections are the ones in the class names. -/
theorem balanced_detectionsBody_iff :
    Balanced bracketWeight (detectionsBody library event) ↔
      Balanced bracketWeight (classTexts library event).flatten := by
  have same : (detectionsBody library event).filter isBracket =
      (classTexts library event).flatten.filter isBracket := by
    rw [detectionsBody, filter_separated, List.filter_flatten, classTexts, List.flatMap_map,
      List.map_map, List.flatMap_def]
    congr 2
    funext detection
    exact filter_detection detection
  rw [← balanced_filter_iff bracketWeight_of_not_isBracket, same,
    balanced_filter_iff bracketWeight_of_not_isBracket]

theorem marker_dets : Placeholder.dets.marker = [0x7b, 0x64, 0x65, 0x74, 0x73, 0x7d] := by decide

theorem infix_detection_iff (detection : Detection) :
    Placeholder.dets.marker <:+: library.text (detectionJson detection) ↔
      Placeholder.dets.marker <:+: library.escape (utf8 detection.className) := by
  have brace : 0x7b ∉ 0x2c :: detectionRest library detection := by
    rw [List.mem_cons, not_or]
    exact ⟨by decide, notMem_detectionRest rfl (by decide) (by decide +kernel) detection⟩
  have rest : ¬ Placeholder.dets.marker <:+: 0x2c :: detectionRest library detection :=
    not_infix_of_notMem (by decide) brace
  have string := @infix_append_cons_iff _ Placeholder.dets.marker
    (library.escape (utf8 detection.className)) (0x2c :: detectionRest library detection) 0x22
    (by decide) (by decide)
  rw [or_iff_left rest] at string
  rw [text_detectionJson, opening_eq, ← string, marker_dets]
  simp [List.infix_cons_iff]

theorem infix_dets_iff :
    Placeholder.dets.marker <:+: detectionsText library event ↔
      ∃ name ∈ classTexts library event, Placeholder.dets.marker <:+: name := by
  rw [infix_detectionsText_iff (by decide) (by decide) (by decide) (by decide)]
  simp [classTexts, infix_detection_iff]

theorem buildPrompt_text (fuel : Nat) (tmpl : List UInt8) :
    buildPrompt fuel (library.text (relayMetadata chosen event)) tmpl =
      replacePlaceholders fuel ((ruleText library chosen).takeWhile fun byte => byte ≠ 0x22)
        (extractDets (library.text (relayMetadata chosen event))) tmpl := by
  have nonempty : library.text (relayMetadata chosen event) ≠ [] := by
    obtain ⟨rest, text⟩ := @text_relayMetadata library chosen event
    rw [text]
    exact List.cons_ne_nil _ _
  rw [buildPrompt, if_neg nonempty, extractRule_text]

section

variable {rule dets : List UInt8}

theorem marker_ne_nil (kind : Placeholder) : kind.marker ≠ [] := by
  cases kind <;> decide

theorem mem_all (kind : Placeholder) : kind ∈ Placeholder.all := by
  cases kind <;> decide

theorem borderless_marker (kind : Placeholder) : Borderless kind.marker := by
  cases kind <;> exact borderless_cons (by decide)

theorem long_marker (kind : Placeholder) : 2 ≤ kind.marker.length := by
  cases kind <;> decide

theorem update_rule :
    Function.update Placeholder.marker .rule rule = filling rule Placeholder.dets.marker := by
  funext kind
  cases kind <;> rfl

theorem update_dets :
    Function.update (filling rule Placeholder.dets.marker) .dets dets = filling rule dets := by
  funext kind
  cases kind <;> rfl

/-- The loops fill every placeholder where neither marker comes up again. -/
theorem replacePlaceholders_substitute (apart : ∀ kind : Placeholder, ¬ Meets kind.marker rule)
    (free : ¬ Meets Placeholder.dets.marker dets) (tmpl : List UInt8) :
    ∃ fuel, replacePlaceholders fuel rule dets tmpl = some (substitute rule dets tmpl) := by
  have scanned := scanned_tokens marker_ne_nil mem_all 0 tmpl
  have whole := @render_tokens _ _ _ _ _ Placeholder.all marker_ne_nil 0 tmpl
  rw [List.drop_zero] at whole
  have noRule : ¬ Placeholder.rule.marker <:+: render (filling rule Placeholder.dets.marker)
      (tokens Placeholder.marker Placeholder.all 0 tmpl) := by
    refine not_infix_render (long_marker .rule) (fun kind => ?_) scanned ⟨.rule, rfl⟩
    cases kind with
    | rule => exact apart .rule
    | dets =>
        have other : ¬ Meets Placeholder.rule.marker Placeholder.dets.marker := by decide
        exact other
  have noDets : ¬ Placeholder.dets.marker <:+: substitute rule dets tmpl := by
    refine not_infix_render (long_marker .dets) (fun kind => ?_) scanned ⟨.dets, rfl⟩
    cases kind with
    | rule => exact apart .dets
    | dets => exact free
  rw [← update_rule] at noRule
  rw [substitute, ← update_dets] at noDets
  obtain ⟨fuel, first⟩ := @replaceAll_render _ _ _ _ _ _ _ (borderless_marker .rule) _ [] noRule
  obtain ⟨fuel', second⟩ :=
    @replaceAll_render _ _ (filling rule Placeholder.dets.marker) _ _ _ .dets
      (borderless_marker .dets) _ [] noDets
  rw [List.nil_append, List.nil_append, whole, update_rule] at first
  rw [List.nil_append, List.nil_append, update_dets] at second
  refine ⟨max fuel fuel', ?_⟩
  rw [replacePlaceholders, replaceAll_mono (Nat.le_max_left fuel fuel') first, Option.bind_some]
  exact replaceAll_mono (Nat.le_max_right fuel fuel') second

theorem replacePlaceholders_ends {fuel : Nat} {tmpl result : List UInt8}
    (ends : replacePlaceholders fuel rule dets tmpl = some result) :
    ∃ middle, replaceAll Placeholder.rule.marker rule fuel tmpl = some middle ∧
      replaceAll Placeholder.dets.marker dets fuel middle = some result :=
  Option.bind_eq_some_iff.mp ends

theorem dets_of_ends {fuel : Nat} {result : List UInt8}
    (ends : replacePlaceholders fuel rule dets Placeholder.dets.marker = some result) :
    result = dets ∧ ¬ Placeholder.dets.marker <:+: dets := by
  obtain ⟨middle, first, second⟩ := replacePlaceholders_ends ends
  obtain rfl := eq_of_replaceAll (by decide) first
  have free := not_infix_of_replaceAll (List.infix_refl _) second
  refine ⟨?_, free⟩
  cases fuel with
  | zero => cases second
  | succ fuel =>
      have found : Placeholder.dets.marker.dropInfix? Placeholder.dets.marker = some ([], []) := by
        decide
      rw [replaceAll, found] at second
      dsimp only at second
      rw [List.nil_append, List.append_nil] at second
      exact eq_of_replaceAll free second

theorem render_symbols {fill : Placeholder → List UInt8} (text : List UInt8) :
    render fill (text.map .symbol) = text := by
  induction text with
  | nil => rfl
  | cons byte text ih => rw [List.map_cons, render_symbol, ih]

theorem tokens_around (kind : Placeholder) :
    ∀ before < kind.marker.length, ∀ after < kind.marker.length,
      tokens Placeholder.marker Placeholder.all 0
          (kind.marker.take before ++ Placeholder.rule.marker ++ kind.marker.drop (after + 1)) =
        (kind.marker.take before).map .symbol ++
          .placeholder .rule :: (kind.marker.drop (after + 1)).map .symbol := by
  cases kind <;> decide

theorem substitute_around (kind : Placeholder) {before after : Nat}
    (front : before < kind.marker.length) (back : after < kind.marker.length) :
    substitute rule dets
        (kind.marker.take before ++ Placeholder.rule.marker ++ kind.marker.drop (after + 1)) =
      kind.marker.take before ++ rule ++ kind.marker.drop (after + 1) := by
  have first := @render_symbols (filling rule dets) (kind.marker.take before)
  have last := @render_symbols (filling rule dets) (kind.marker.drop (after + 1))
  rw [render] at first last
  rw [substitute, tokens_around kind before front after back, render, List.flatMap_append,
    List.flatMap_cons, first, last, List.append_assoc]
  rfl

theorem not_meets_dets (fills : ∀ tmpl, ∃ fuel, replacePlaceholders fuel rule dets tmpl =
    some (substitute rule dets tmpl)) : ¬ Meets Placeholder.dets.marker rule := by
  rintro ⟨before, front, after, back, found⟩
  obtain ⟨fuel, ends⟩ := fills (Placeholder.dets.marker.take before ++ Placeholder.rule.marker ++
    Placeholder.dets.marker.drop (after + 1))
  obtain ⟨middle, _, second⟩ := replacePlaceholders_ends ends
  rw [substitute_around .dets front back] at second
  exact not_infix_replaceAll second found

theorem not_meets_rule (fills : ∀ tmpl, ∃ fuel, replacePlaceholders fuel rule dets tmpl =
    some (substitute rule dets tmpl)) (apart : ¬ Meets Placeholder.dets.marker rule) :
    ¬ Meets Placeholder.rule.marker rule := by
  rintro ⟨before, front, after, back, found⟩
  obtain ⟨fuel, ends⟩ := fills (Placeholder.rule.marker.take before ++ Placeholder.rule.marker ++
    Placeholder.rule.marker.drop (after + 1))
  obtain ⟨middle, first, second⟩ := replacePlaceholders_ends ends
  rw [substitute_around .rule front back] at second
  have plain : ∀ before < Placeholder.rule.marker.length,
      ∀ after < Placeholder.rule.marker.length, ¬ Placeholder.dets.marker <:+:
        Placeholder.rule.marker.take before ++ Placeholder.rule.marker ++
          Placeholder.rule.marker.drop (after + 1) := by decide
  -- the first loop makes no placeholder of the other kind
  have kept := @replaceAll_keeps _ _ _ _ _ _ _ (fun text => ¬ Placeholder.dets.marker <:+: text)
    (fun front rest free => free_insert (long_marker .dets) apart
      (fun inside => free (inside.trans ((List.prefix_append front _).trans
        (List.prefix_append _ rest)).isInfix))
      fun inside => free (inside.trans (List.suffix_append _ rest).isInfix))
    (plain before front after back) first
  rw [← eq_of_replaceAll kept.1 second] at kept
  exact kept.2 found

end

def Braced (text : List UInt8) : Prop :=
  0x22 ∈ text → [0x7b, 0x22] <:+: text

theorem braced_detectionsText : Braced (detectionsText library event) := by
  intro quote
  rw [detectionsText_eq, detectionsBody] at quote ⊢
  cases listed : event.detections with
  | nil => simp [listed, Tree.separated] at quote
  | cons detection rest =>
      rw [List.map_cons, Tree.separated, text_detectionJson, opening_eq]
      simp [List.infix_cons_iff]

theorem braced_replace {before after : List UInt8}
    (braced : Braced (before ++ Placeholder.dets.marker ++ after)) :
    Braced (before ++ detectionsText library event ++ after) := by
  intro quote
  rw [List.mem_append, List.mem_append] at quote
  by_cases inside : 0x22 ∈ detectionsText library event
  · exact (braced_detectionsText inside).trans (List.infix_append _ _ _)
  · have outside : 0x22 ∈ before ++ Placeholder.dets.marker ++ after := by
      rw [List.mem_append, List.mem_append]
      rcases quote with (front | here) | back
      · exact .inl (.inl front)
      · exact absurd here inside
      · exact .inr back
    have pair := braced outside
    have split : before ++ Placeholder.dets.marker ++ after =
        (before ++ [0x7b]) ++ 0x64 :: ([0x65, 0x74, 0x73, 0x7d] ++ after) := by
      simp [marker_dets]
    rw [split, infix_append_cons_iff (by decide) (by decide), List.infix_concat_iff] at pair
    rcases pair with (ends | front) | back
    · have last := ends.getLast (by simp)
      simp at last
    · exact front.trans ((List.prefix_append before _).trans (List.prefix_append _ after)).isInfix
    · have later : [0x7b, 0x22] <:+: after := by
        simpa [List.infix_cons_iff] using back
      exact later.trans (List.suffix_append _ after).isInfix

theorem substitute_marker {rule dets : List UInt8} (kind : Placeholder) :
    substitute rule dets kind.marker = filling rule dets kind := by
  have alone : tokens Placeholder.marker Placeholder.all 0 kind.marker = [.placeholder kind] := by
    cases kind <;> decide
  rw [substitute, alone, render_placeholder, render_nil, List.append_nil]

/-- A rule that is cut at a quote brings none, and the detections bring no bare one. -/
theorem unquoted_of_fills
    (fills : ∀ tmpl, ∃ fuel, replacePlaceholders fuel
        ((ruleText library chosen).takeWhile fun byte => byte ≠ 0x22)
        (detectionsText library event) tmpl =
      some (substitute (ruleText library chosen) (detectionsText library event) tmpl)) :
    0x22 ∉ ruleText library chosen := by
  intro quote
  obtain ⟨fuel, ends⟩ := fills Placeholder.rule.marker
  rw [substitute_marker] at ends
  obtain ⟨middle, first, second⟩ := replacePlaceholders_ends ends
  have plain : 0x22 ∉ (ruleText library chosen).takeWhile fun byte => byte ≠ 0x22 := by
    intro member
    simpa using List.mem_takeWhile_imp member
  have unquoted := (@replaceAll_keeps _ _ _ _ _ _ _ (fun text => 0x22 ∉ text)
    (fun before after absent => by
      simp only [List.mem_append, not_or] at absent ⊢
      exact ⟨⟨absent.1.1, plain⟩, absent.2⟩) (by decide) first).1
  have braced := (@replaceAll_keeps _ _ _ _ _ _ _ Braced
    (fun _ _ braced => braced_replace braced) (fun member => absurd member unquoted) second).1
  exact not_infix_of_isContained (by decide) (escape_contained chosen.ruleName) (braced quote)

/-- The rule name and the class names as they are in the metadata leave the prompt in order. -/
structure Substitutable (rule : List UInt8) (classes : List (List UInt8)) : Prop where
  unquoted : 0x22 ∉ rule
  apart : ∀ kind : Placeholder, ¬ Meets kind.marker rule
  balanced : Balanced bracketWeight classes.flatten
  unmarked : ∀ name ∈ classes, ¬ Placeholder.dets.marker <:+: name

theorem takeWhile_of_unquoted {rule : List UInt8} (unquoted : 0x22 ∉ rule) :
    rule.takeWhile (fun byte => byte ≠ 0x22) = rule := by
  rw [List.takeWhile_eq_self_iff]
  intro byte member
  exact decide_eq_true fun same => unquoted (same ▸ member)

theorem fills_of_substitutable
    (clear : Substitutable (ruleText library chosen) (classTexts library event))
    (tmpl : List UInt8) :
    ∃ fuel, buildPrompt fuel (library.text (relayMetadata chosen event)) tmpl =
      some (substitute (ruleText library chosen) (detectionsText library event) tmpl) := by
  have whole : extractDets (library.text (relayMetadata chosen event)) =
      detectionsText library event :=
    extractDets_eq_iff.mpr (balanced_detectionsBody_iff.mpr clear.balanced)
  have unmarked : ¬ Placeholder.dets.marker <:+: detectionsText library event := by
    rw [infix_dets_iff]
    rintro ⟨name, listed, inside⟩
    exact clear.unmarked name listed inside
  have free : ¬ Meets Placeholder.dets.marker (detectionsText library event) := by
    intro meets
    rw [detectionsText_eq] at meets
    have inside := infix_of_meets (by decide) (by decide) meets
    refine unmarked (inside.trans ?_)
    rw [detectionsText_eq]
    exact ⟨[0x5b], [0x5d], rfl⟩
  simp only [buildPrompt_text, whole, takeWhile_of_unquoted clear.unquoted]
  exact replacePlaceholders_substitute clear.apart free tmpl

theorem substitutable_of_fills
    (fills : ∀ tmpl, ∃ fuel, buildPrompt fuel (library.text (relayMetadata chosen event)) tmpl =
      some (substitute (ruleText library chosen) (detectionsText library event) tmpl)) :
    Substitutable (ruleText library chosen) (classTexts library event) := by
  simp only [buildPrompt_text] at fills
  obtain ⟨fuel, ends⟩ := fills Placeholder.dets.marker
  rw [substitute_marker] at ends
  obtain ⟨whole, unmarked⟩ := dets_of_ends ends
  have cut : detectionsText library event =
      extractDets (library.text (relayMetadata chosen event)) := whole
  rw [← cut] at fills unmarked
  have unquoted := unquoted_of_fills fills
  rw [takeWhile_of_unquoted unquoted] at fills
  have apart := not_meets_dets fills
  refine {
    unquoted := unquoted
    apart := fun kind => ?_
    balanced := balanced_detectionsBody_iff.mp (extractDets_eq_iff.mp cut.symm)
    unmarked := fun name listed inside => unmarked (infix_dets_iff.mpr ⟨name, listed, inside⟩) }
  cases kind with
  | rule => exact not_meets_rule fills apart
  | dets => exact apart

/-- For which metadata the prompts of all templates end, with every placeholder filled. -/
theorem buildPrompt_substitutes_iff (library : NlohmannDump) (chosen : Alert)
    (event : EventMeta) :
    ∃ metadata, library.dump (relayMetadata chosen event) = some metadata ∧
      ((∀ tmpl, ∃ fuel, buildPrompt fuel metadata tmpl =
          some (substitute (ruleText library chosen) (detectionsText library event) tmpl)) ↔
        Substitutable (ruleText library chosen) (classTexts library event)) :=
  ⟨_, library.dump_eq_some _, substitutable_of_fills, fills_of_substitutable⟩

def NlohmannDump.reporting : NlohmannDump where
  toNlohmannText := NlohmannText.reporting
  escape_plain := MultiCam.flatMap_quoteByte_plain

def leftItemAlert : Alert where
  ruleName := "left_item"
  priority := 1
  dedupKey := "cam0_left_item_7"
  trackId := 7
  timestamp := 0

def sightOf (className : String) : EventMeta where
  sourceId := "cam0"
  sourceIdNum := 0
  timestamp := 0
  removedTrackIds := []
  detections := [⟨className, [], 7, 0.5, []⟩]
  slotIndex := 0
  width := 640
  height := 640
  channels := 3
  timestampNs := 0

/-- A class with the name of the placeholder for the detections keeps the loop going. -/
theorem endless_class :
    ∃ metadata, NlohmannDump.reporting.dump
          (relayMetadata leftItemAlert (sightOf "\x7bdets\x7d")) = some metadata ∧
      ∀ fuel, buildPrompt fuel metadata (ascii "\x7bdets\x7d") = none := by
  refine ⟨_, NlohmannDump.reporting.dump_eq_some _, fun fuel => ?_⟩
  have classes : classTexts NlohmannDump.reporting (sightOf "\x7bdets\x7d") =
      [ascii "\x7bdets\x7d"] := by decide
  have balanced : Balanced bracketWeight
      (classTexts NlohmannDump.reporting (sightOf "\x7bdets\x7d")).flatten := by
    rw [classes]
    decide
  have inside : Placeholder.dets.marker <:+:
      detectionsText NlohmannDump.reporting (sightOf "\x7bdets\x7d") := by
    rw [infix_dets_iff, classes]
    exact ⟨_, List.mem_singleton_self _, List.infix_refl _⟩
  have whole := (@extractDets_eq_iff _ leftItemAlert _).mpr
    (balanced_detectionsBody_iff.mpr balanced)
  rw [buildPrompt_text, whole]
  cases ends : replacePlaceholders fuel
      ((ruleText NlohmannDump.reporting leftItemAlert).takeWhile fun byte => byte ≠ 0x22)
      (detectionsText NlohmannDump.reporting (sightOf "\x7bdets\x7d"))
      (ascii "\x7bdets\x7d") with
  | none => rfl
  | some result => exact absurd inside (dets_of_ends ends).2

end Iq9Pipeline.Consumer
