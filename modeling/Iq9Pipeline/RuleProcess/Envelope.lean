import Iq9Pipeline.Foundation.Brackets
import Iq9Pipeline.Foundation.Replacement
import Iq9Pipeline.MultiCam.MsgAgg
import Iq9Pipeline.RuleProcess.Scene

/-!
The envelope of a scene update (`processScenePayload` in `main.cpp`). The scene is found
by its head, and its end by counting braces; braces inside strings count as well.
-/

namespace Iq9Pipeline.RuleProcess

open Foundation Foundation.JsonText MultiCam

def innerPayload (payload : List UInt8) : List UInt8 :=
  match payload.tails.find? fun text => sceneHead.isPrefixOf text with
  | none => []
  | some text =>
      match closingBrace 0 text with
      | none => []
      | some length => text.take length

def braceWeight (byte : UInt8) : Int :=
  if byte = 0x7b then 1 else if byte = 0x7d then -1 else 0

theorem closingBrace_eq_closing (depth : Int) (bytes : List UInt8) :
    closingBrace depth bytes = closing braceWeight depth bytes := by
  induction bytes generalizing depth with
  | nil => rfl
  | cons byte bytes ih =>
      rw [closingBrace, closing]
      by_cases opens : byte = 0x7b
      · simp [opens, braceWeight, ih]
      · by_cases closes : byte = 0x7d
        · by_cases back : depth - 1 = 0
          · have zero : depth + -1 = 0 := back
            simp [closes, braceWeight, back, zero]
          · have deep : ¬ depth + -1 = 0 := back
            simp [closes, braceWeight, deep, ih, Int.sub_eq_add_neg]
        · simp [opens, closes, braceWeight, ih]

theorem sceneText_eq (payload : List UInt8) :
    sceneText payload =
      if (innerPayload payload).isEmpty then payload else innerPayload payload := by
  rw [sceneText, innerPayload]
  cases found : payload.tails.find? fun text => sceneHead.isPrefixOf text with
  | none => rfl
  | some text =>
      simp only [closingBrace_eq_closing]
      cases closed : closing braceWeight 0 text with
      | none => rfl
      | some length =>
          have positive := closing_pos closed
          have nonempty : text ≠ [] := by
            rintro rfl
            simp [closing] at closed
          have cut : (text.take length).isEmpty = false := by
            simp [List.isEmpty_eq_false_iff, nonempty, Nat.pos_iff_ne_zero.mp positive]
          simp only [cut, Bool.false_eq_true, if_false]

theorem braceWeight_ge (byte : UInt8) : -1 ≤ braceWeight byte := by
  rw [braceWeight]
  split
  · decide
  · split <;> decide

theorem braceWeight_of_not_isBrace (byte : UInt8) (other : isBrace byte = false) :
    braceWeight byte = 0 := by
  simp only [isBrace, Bool.or_eq_false_iff, decide_eq_false_iff_not] at other
  rw [braceWeight, if_neg other.1, if_neg other.2]

theorem find_sceneHead {before scene : List UInt8} (outside : ¬ sceneHead <:+: before)
    (head : sceneHead <+: scene) :
    (before ++ scene).tails.find? (fun text => sceneHead.isPrefixOf text) = some scene := by
  obtain ⟨rest, rfl⟩ := head
  have once : 0x7b ∉ sceneHead.tail := by decide
  have borderless : Replacement.Borderless sceneHead := Replacement.borderless_cons once
  exact Replacement.find?_tails_append (borderless.not_infix outside)

/-- Behind an envelope, the extraction returns the scene if and only if the braces inside
the outermost object of the scene are balanced. -/
theorem innerPayload_append_iff {before body after : List UInt8}
    (outside : ¬ sceneHead <:+: before) (head : sceneHead <+: 0x7b :: (body ++ [0x7d])) :
    innerPayload (before ++ 0x7b :: (body ++ [0x7d]) ++ after) = 0x7b :: (body ++ [0x7d]) ↔
      Balanced braceWeight body := by
  have within : sceneHead <+: 0x7b :: (body ++ [0x7d]) ++ after :=
    head.trans (List.prefix_append _ _)
  have text : 0x7b :: (body ++ [0x7d]) ++ after = 0x7b :: (body ++ 0x7d :: after) := by simp
  have cut := @take_closing_iff _ braceWeight braceWeight_ge body after 0x7b 0x7d rfl rfl
  rw [innerPayload, List.append_assoc, find_sceneHead outside within, ← cut]
  dsimp only
  rw [closingBrace_eq_closing, text]
  cases closing braceWeight 0 (0x7b :: (body ++ 0x7d :: after)) with
  | none => simp
  | some length => rfl

def symbolBraces : Token → List UInt8
  | .mark .beginObject => [0x7b]
  | .mark .endObject => [0x7d]
  | .string text => (utf8 text).filter isBrace
  | _ => []

/-- The braces of a value in the order of its text: those of its objects, and those inside
its names and strings. -/
def bracesOf (value : Value) : List UInt8 :=
  value.symbols.flatMap symbolBraces

theorem filter_numeric {word : List UInt8} (number : isNumber word = true) :
    word.filter isBrace = [] := by
  rw [List.filter_eq_nil_iff]
  intro byte member brace
  have numeric := List.all_eq_true.mp (isNumeric_of_isNumber number) byte member
  simp only [isBrace, Bool.or_eq_true, decide_eq_true_eq] at brace
  rcases brace with rfl | rfl <;> exact absurd numeric (by decide)

theorem filter_spelling (glib : JsonGlib) (token : Token) :
    (Piece.spelling (token.map glib.number glib.quote)).filter isBrace = symbolBraces token := by
  cases token with
  | mark kind => cases kind <;> rfl
  | null => rfl
  | boolean value => cases value <;> rfl
  | number word => exact filter_numeric (glib.isNumber_number word)
  | string text =>
      have quote : [(0x22 : UInt8)].filter isBrace = [] := rfl
      have split : Piece.spelling (Symbol.map glib.number glib.quote (.string text)) =
          [0x22] ++ glib.quote text ++ [0x22] := rfl
      rw [split, List.filter_append, List.filter_append, quote, glib.quote_braces]
      simp [symbolBraces]

theorem filter_toText (glib : JsonGlib) (value : Value) :
    (glib.toText value).filter isBrace = bracesOf value := by
  rw [JsonGlib.toText, Tree.write, Tree.text, Tree.symbols_map, spell, List.flatMap_map,
    List.filter_flatMap, bracesOf]
  congr 1
  funext token
  exact filter_spelling glib token

def sceneBody (glib : JsonGlib) (sources : List Value) : List UInt8 :=
  utf8 "\"type\":\"scene_update\",\"sources\":" ++ glib.toText (.array sources)

theorem toText_sceneUpdate (glib : JsonGlib) (sources : List Value) :
    glib.toText (sceneUpdate sources) = 0x7b :: (sceneBody glib sources ++ [0x7d]) := by
  have names : glib.quote "type" = utf8 "type" ∧
      glib.quote "scene_update" = utf8 "scene_update" ∧
      glib.quote "sources" = utf8 "sources" :=
    ⟨glib.quote_plain _ (by decide +kernel), glib.quote_plain _ (by decide +kernel),
      glib.quote_plain _ (by decide +kernel)⟩
  have opening : utf8 "\"type\":\"scene_update\",\"sources\":" =
      0x22 :: (utf8 "type" ++ 0x22 :: 0x3a :: 0x22 :: (utf8 "scene_update" ++
        0x22 :: 0x2c :: 0x22 :: (utf8 "sources" ++ [0x22, 0x3a]))) := rfl
  simp [JsonGlib.toText, Tree.write, sceneUpdate, sceneBody, names, opening, Tree.separated,
    Tree.memberText]

theorem starts_with_sceneHead (glib : JsonGlib) (sources : List Value) :
    sceneHead <+: 0x7b :: (sceneBody glib sources ++ [0x7d]) := by
  have split : (0x7b :: utf8 "\"type\":\"scene_update\",\"sources\":") =
      sceneHead ++ utf8 ",\"sources\":" := by decide
  refine ⟨utf8 ",\"sources\":" ++ glib.toText (.array sources) ++ [0x7d], ?_⟩
  rw [sceneBody, ← List.cons_append, ← List.cons_append, split]
  simp

theorem bracesOf_array (sources : List Value) :
    bracesOf (.array sources) = sources.flatMap bracesOf := by
  have others : ∀ rest : List Value,
      (Tree.elementSymbols rest).flatMap symbolBraces = rest.flatMap bracesOf := by
    intro rest
    induction rest with
    | nil => rfl
    | cons next rest ih =>
        rw [Tree.elementSymbols, List.flatMap_cons, List.flatMap_append, ih]
        rfl
  cases sources with
  | nil => rfl
  | cons first rest =>
      rw [bracesOf, Tree.symbols, List.flatMap_cons, List.flatMap_append, others]
      rfl

theorem filter_sceneBody (glib : JsonGlib) (sources : List Value) :
    (sceneBody glib sources).filter isBrace = sources.flatMap bracesOf := by
  have names : (utf8 "\"type\":\"scene_update\",\"sources\":").filter isBrace = [] := by decide
  rw [sceneBody, List.filter_append, names, filter_toText, bracesOf_array, List.nil_append]

theorem innerPayload_sceneUpdate_iff (glib : JsonGlib) (sources : List Value)
    {before : List UInt8} (after : List UInt8) (outside : ¬ sceneHead <:+: before) :
    innerPayload (before ++ glib.toText (sceneUpdate sources) ++ after) =
        glib.toText (sceneUpdate sources) ↔
      Balanced braceWeight (sources.flatMap bracesOf) := by
  rw [toText_sceneUpdate, ← filter_sceneBody glib,
    balanced_filter_iff braceWeight_of_not_isBrace]
  exact innerPayload_append_iff outside (starts_with_sceneHead glib _)

/-- The extraction returns the merged scene if and only if the braces of its sources are
balanced, those inside strings included. -/
theorem innerPayload_buildSceneMerge_iff (glib : JsonGlib) (datapads : List DataPad)
    (before after : List UInt8) (outside : ¬ sceneHead <:+: before) :
    innerPayload (before ++ (buildSceneMerge glib datapads).1 ++ after) =
        (buildSceneMerge glib datapads).1 ↔
      Balanced braceWeight ((mergedSources glib datapads).flatMap bracesOf) :=
  innerPayload_sceneUpdate_iff glib (mergedSources glib datapads) after outside

def braced (label : List UInt8) : SceneSource Nat Nat where
  record := {
    channelId := 0
    imagePath := 7
    frameId := 1
    timestampNs := 1000
    detections := [{
      trackId := 1
      label := label
      score := 1
      left := 0
      top := 0
      right := 1
      bottom := 1
      face := none }] }
  metaWidth := 64
  metaHeight := 64

theorem mergedSources_braced {label : List UInt8} (writable : (braced label).record.Writable
    Ostream.whole) :
    mergedSources JsonGlib.verbatim [SceneSource.queued Ostream.whole [braced label]] =
      [(braced label).value Ostream.whole] := by
  have merged := mergedSources_queued Ostream.whole JsonGlib.verbatim [[braced label]]
  rw [List.map_singleton] at merged
  simpa [writable] using merged

theorem innerPayload_braced :
    innerPayload (utf8 "\x7b\"contents\":\"" ++ (buildSceneMerge JsonGlib.verbatim
        [SceneSource.queued Ostream.whole [braced (utf8 "\x7b\x7d")]]).1 ++ utf8 "\"\x7d") =
      (buildSceneMerge JsonGlib.verbatim
        [SceneSource.queued Ostream.whole [braced (utf8 "\x7b\x7d")]]).1 := by
  refine (innerPayload_buildSceneMerge_iff JsonGlib.verbatim _ _ _ (by decide)).mpr ?_
  rw [mergedSources_braced (by decide)]
  decide

/-- A closing brace in a class name ends the scene early. -/
theorem sceneCutShort : ¬ ∀ (glib : JsonGlib) (datapads : List DataPad)
    (before after : List UInt8), ¬ sceneHead <:+: before →
    innerPayload (before ++ (buildSceneMerge glib datapads).1 ++ after) =
      (buildSceneMerge glib datapads).1 := by
  intro universal
  have returned := universal JsonGlib.verbatim
    [SceneSource.queued Ostream.whole [braced (utf8 "\x7d")]] [] [] (by decide)
  rw [buildSceneMerge, mergedSources_braced (by decide),
    innerPayload_sceneUpdate_iff JsonGlib.verbatim _ [] (by decide)] at returned
  exact absurd returned.settled (by decide)

section Braceless

def Braceless (value : Value) : Prop :=
  value.All (fun _ => True) fun text => (utf8 text).filter isBrace = []

mutual

theorem balanced_of_braceless : ∀ value : Value, Braceless value →
    Balanced braceWeight (value.symbols.flatMap symbolBraces)
  | .null, _ => Balanced.nil
  | .boolean _, _ => Balanced.nil
  | .number _, _ => Balanced.nil
  | .string text, braceless => by
      have empty : (utf8 text).filter isBrace = [] := braceless
      simp [Tree.symbols, symbolBraces, empty, Balanced.nil]
  | .array [], _ => Balanced.nil
  | .array (first :: rest), braceless => by
      rw [Tree.symbols, List.flatMap_cons, List.flatMap_append]
      exact (balanced_of_braceless first braceless.1).append
        (balanced_elements_of_braceless rest braceless.2)
  | .object [], _ => Balanced.nil.enclose rfl rfl
  | .object ((name, value) :: rest), braceless => by
      obtain ⟨inner, split, balanced⟩ := balanced_members_of_braceless rest braceless.2.2
      have empty : (utf8 name).filter isBrace = [] := braceless.1
      have opens : braceWeight 0x7b = 1 := rfl
      have closes : braceWeight 0x7d = -1 := rfl
      have whole := ((balanced_of_braceless value braceless.2.1).append balanced).enclose opens
        closes
      simpa [Tree.symbols, symbolBraces, empty, split] using whole

theorem balanced_elements_of_braceless : ∀ elements : List Value,
    Tree.AllElements (fun _ => True) (fun text => (utf8 text).filter isBrace = []) elements →
      Balanced braceWeight ((Tree.elementSymbols elements).flatMap symbolBraces)
  | [], _ => Balanced.nil
  | next :: rest, braceless => by
      rw [Tree.elementSymbols, List.flatMap_cons, List.flatMap_append]
      exact (balanced_of_braceless next braceless.1).append
        (balanced_elements_of_braceless rest braceless.2)

theorem balanced_members_of_braceless : ∀ members : List (String × Value),
    Tree.AllMembers (fun _ => True) (fun text => (utf8 text).filter isBrace = []) members →
      ∃ inner, (Tree.memberSymbols members).flatMap symbolBraces = inner ++ [0x7d] ∧
        Balanced braceWeight inner
  | [], _ => ⟨[], rfl, Balanced.nil⟩
  | (name, value) :: rest, braceless => by
      obtain ⟨inner, split, balanced⟩ := balanced_members_of_braceless rest braceless.2.2
      have empty : (utf8 name).filter isBrace = [] := braceless.1
      refine ⟨value.symbols.flatMap symbolBraces ++ inner, ?_,
        (balanced_of_braceless value braceless.2.1).append balanced⟩
      simp [Tree.memberSymbols, symbolBraces, empty, split]

end

theorem innerPayload_of_braceless (glib : JsonGlib) (datapads : List DataPad)
    {before : List UInt8} (after : List UInt8) (outside : ¬ sceneHead <:+: before)
    (braceless : ∀ source ∈ mergedSources glib datapads, Braceless source) :
    innerPayload (before ++ (buildSceneMerge glib datapads).1 ++ after) =
      (buildSceneMerge glib datapads).1 :=
  (innerPayload_sceneUpdate_iff glib (mergedSources glib datapads) after outside).mpr
    (Balanced.flatMap _ fun source member => balanced_of_braceless source (braceless source member))

end Braceless

end Iq9Pipeline.RuleProcess
