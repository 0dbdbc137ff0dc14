import Iq9Pipeline.Foundation.JsonReader
import Iq9Pipeline.Foundation.JsonWriter

/-!
A writer of trees whose strings are bytes of any origin: it fails on a string that is not
UTF-8, and copies its words as they are. What it writes is one line, and it is a JSON text
exactly if the words are numbers.
-/

namespace Foundation.JsonText

def integer (value : Int) : List UInt8 :=
  if value < 0 then 0x2d :: decimal value.natAbs else decimal value.natAbs

theorem isNumber_minus {word : List UInt8} (number : isNumber word = true)
    (unsigned : 0x2d ∉ word) : isNumber (0x2d :: word) = true := by
  cases word with
  | nil => cases number
  | cons first rest =>
      rw [List.mem_cons, not_or] at unsigned
      rwa [isNumber, if_neg (Ne.symm unsigned.1)] at number

theorem isNumber_integer (value : Int) : isNumber (integer value) = true := by
  rw [integer]
  split
  · apply isNumber_minus (isNumber_decimal _)
    intro sign
    exact absurd (isDigit_of_mem_decimal sign) (by decide)
  · exact isNumber_decimal _

def isUtf8 (bytes : List UInt8) : Bool :=
  (decodeUtf8 bytes).isSome

theorem isUtf8_iff {bytes : List UInt8} :
    isUtf8 bytes = true ↔ (ByteArray.mk bytes.toArray).IsValidUTF8 := by
  rw [isUtf8, decodeUtf8]
  split
  · rename_i valid
    exact iff_of_true rfl valid
  · rename_i invalid
    exact iff_of_false Bool.false_ne_true invalid

@[simp] theorem isUtf8_utf8 (text : String) : isUtf8 (utf8 text) = true := by
  rw [isUtf8, decodeUtf8_eq_some_iff.mpr rfl, Option.isSome_some]

@[simp] theorem isUtf8_append (text : String) (bytes : List UInt8) :
    isUtf8 (utf8 text ++ bytes) = isUtf8 bytes := by
  have joined : ByteArray.mk (utf8 text ++ bytes).toArray =
      text.toList.utf8Encode ++ ByteArray.mk bytes.toArray := by
    apply ByteArray.ext
    simp [utf8]
  rw [Bool.eq_iff_iff, isUtf8_iff, isUtf8_iff, joined]
  induction text.toList with
  | nil => simp
  | cons character characters ih =>
      rw [← List.singleton_append, List.utf8Encode_append, ByteArray.append_assoc,
        ByteArray.isValidUTF8_utf8Encode_singleton_append_iff]
      exact ih

variable {Word Text : Type}

def Symbol.textOf : Symbol Word Text → Option Text
  | .string text => some text
  | _ => none

def Symbol.wordOf : Symbol Word Text → Option Word
  | .number word => some word
  | _ => none

namespace Tree

def texts (tree : Tree Word Text) : List Text :=
  tree.symbols.filterMap Symbol.textOf

def words (tree : Tree Word Text) : List Word :=
  tree.symbols.filterMap Symbol.wordOf

@[simp] theorem texts_string (text : Text) : (string text : Tree Word Text).texts = [text] :=
  rfl

@[simp] theorem texts_number (word : Word) : (number word : Tree Word Text).texts = [] :=
  rfl

@[simp] theorem texts_boolean (value : Bool) : (boolean value : Tree Word Text).texts = [] :=
  rfl

@[simp] theorem words_string (text : Text) : (string text : Tree Word Text).words = [] :=
  rfl

@[simp] theorem words_number (word : Word) : (number word : Tree Word Text).words = [word] :=
  rfl

@[simp] theorem words_boolean (value : Bool) : (boolean value : Tree Word Text).words = [] :=
  rfl

theorem filterMap_elementSymbols {Kind : Type} (kind : Symbol Word Text → Option Kind)
    (marks : ∀ mark, kind (.mark mark) = none) (elements : List (Tree Word Text)) :
    (elementSymbols elements).filterMap kind =
      elements.flatMap fun next => next.symbols.filterMap kind := by
  induction elements with
  | nil => simp [elementSymbols, marks]
  | cons next rest ih => simp [elementSymbols, marks, ih]

theorem filterMap_memberSymbols {Kind : Type} (kind : Symbol Word Text → Option Kind)
    (marks : ∀ mark, kind (.mark mark) = none) (members : List (Text × Tree Word Text)) :
    (memberSymbols members).filterMap kind = members.flatMap fun member =>
      (kind (.string member.1)).toList ++ member.2.symbols.filterMap kind := by
  induction members with
  | nil => simp [memberSymbols, marks]
  | cons member rest ih =>
      obtain ⟨name, value⟩ := member
      cases named : kind (.string name) <;> simp [memberSymbols, marks, ih, named]

@[simp] theorem texts_array (elements : List (Tree Word Text)) :
    (array elements).texts = elements.flatMap texts := by
  cases elements with
  | nil => rfl
  | cons first rest =>
      have others := filterMap_elementSymbols Symbol.textOf (fun _ => rfl) rest
      simp only [texts, symbols, List.filterMap_cons, List.filterMap_append, others,
        List.flatMap_cons]
      rfl

@[simp] theorem texts_object (members : List (Text × Tree Word Text)) :
    (object members).texts = members.flatMap fun member => member.1 :: member.2.texts := by
  cases members with
  | nil => rfl
  | cons member rest =>
      have others := filterMap_memberSymbols Symbol.textOf (fun _ => rfl) rest
      simp only [texts, symbols, List.filterMap_cons, List.filterMap_append, others,
        List.flatMap_cons]
      rfl

@[simp] theorem words_array (elements : List (Tree Word Text)) :
    (array elements).words = elements.flatMap words := by
  cases elements with
  | nil => rfl
  | cons first rest =>
      have others := filterMap_elementSymbols Symbol.wordOf (fun _ => rfl) rest
      simp only [words, symbols, List.filterMap_cons, List.filterMap_append, others,
        List.flatMap_cons]
      rfl

@[simp] theorem words_object (members : List (Text × Tree Word Text)) :
    (object members).words = members.flatMap fun member => member.2.words := by
  cases members with
  | nil => rfl
  | cons member rest =>
      have others := filterMap_memberSymbols Symbol.wordOf (fun _ => rfl) rest
      simp only [words, symbols, List.filterMap_cons, List.filterMap_append, others,
        List.flatMap_cons]
      rfl

def stored (value : Value) : Draft :=
  value.map id utf8

theorem texts_stored (value : Value) : value.stored.texts = value.texts.map utf8 := by
  rw [stored, texts, texts, symbols_map, List.filterMap_map, List.map_filterMap]
  congr 1
  funext symbol
  cases symbol <;> rfl

theorem words_stored (value : Value) : value.stored.words = value.words := by
  rw [stored, words, words, symbols_map, List.filterMap_map]
  congr 1
  funext symbol
  cases symbol <;> rfl

def dump (escape : List UInt8 → List UInt8) (document : Draft) : Option (List UInt8) :=
  if document.texts.all isUtf8 then some (document.map id escape).text else none

variable {escape : List UInt8 → List UInt8} {document : Draft} {line : List UInt8}

theorem dump_isSome : (document.dump escape).isSome = document.texts.all isUtf8 := by
  rw [dump]
  split
  · rename_i valid
    rw [valid, Option.isSome_some]
  · rename_i invalid
    rw [Bool.not_eq_true] at invalid
    rw [invalid, Option.isSome_none]

theorem texts_of_dump (dumped : document.dump escape = some line) :
    (∀ text ∈ document.texts, isUtf8 text = true) ∧ line = (document.map id escape).text := by
  rw [dump] at dumped
  split at dumped
  · rename_i valid
    exact ⟨List.all_eq_true.mp valid, (Option.some.inj dumped).symm⟩
  · cases dumped

/-- A string that is UTF-8 is read back, and has no line feed in what is written of it. -/
structure Escapes (escape : List UInt8 → List UInt8) : Prop where
  unescape : ∀ bytes, isUtf8 bytes = true → unescape (escape bytes) = some bytes
  oneLine : ∀ bytes, isUtf8 bytes = true → 0x0a ∉ escape bytes

theorem Escapes.decodeText (escapes : Escapes escape) {bytes : List UInt8}
    (valid : isUtf8 bytes = true) : decodeText (escape bytes) = decodeUtf8 bytes := by
  rw [JsonText.decodeText, escapes.unescape bytes valid, Option.bind_some]

theorem mem_symbols_map {piece : Piece} (member : piece ∈ (document.map id escape).symbols) :
    (∃ symbol ∈ document.symbols, Symbol.map id escape symbol = piece) := by
  rwa [symbols_map, List.mem_map] at member

theorem proper_dumped (escapes : Escapes escape)
    (valid : ∀ text ∈ document.texts, isUtf8 text = true)
    (bare : ∀ word ∈ document.words, Piece.Proper (.number word)) :
    Proper (document.map id escape) := by
  intro piece member
  obtain ⟨symbol, listed, rfl⟩ := mem_symbols_map member
  cases symbol with
  | number word => exact bare word (List.mem_filterMap.mpr ⟨_, listed, rfl⟩)
  | string bytes =>
      have utf := valid bytes (List.mem_filterMap.mpr ⟨_, listed, rfl⟩)
      obtain ⟨text, decoded⟩ := Option.isSome_iff_exists.mp utf
      exact isContained_of_decodeText ((escapes.decodeText utf).trans decoded)
  | _ => trivial

theorem mapM_isSome_iff {α β : Type} {read : α → Option β} {items : List α} :
    (items.mapM read).isSome = true ↔ ∀ item ∈ items, (read item).isSome = true := by
  induction items with
  | nil => simp
  | cons item items ih =>
      rw [List.forall_mem_cons, ← ih, List.mapM_cons]
      cases read item <;> cases items.mapM read <;> simp

theorem check_isSome_iff (escapes : Escapes escape)
    (valid : ∀ text ∈ document.texts, isUtf8 text = true) :
    (check (document.map id escape)).isSome = true ↔
      ∀ word ∈ document.words, isNumber word = true := by
  rw [← Option.isSome_map, ← mapM_check_symbols, mapM_isSome_iff]
  constructor
  · intro checked word listed
    obtain ⟨symbol, member, same⟩ := List.mem_filterMap.mp listed
    cases symbol with
    | number found =>
        obtain rfl := Option.some.inj same
        have number := checked (.number found) (by
          rw [symbols_map]
          exact List.mem_map_of_mem member)
        by_contra word
        simp [Piece.check, word] at number
    | _ => cases same
  · intro numbers piece member
    obtain ⟨symbol, listed, rfl⟩ := mem_symbols_map member
    cases symbol with
    | number word =>
        have number := numbers word (List.mem_filterMap.mpr ⟨_, listed, rfl⟩)
        simp [Symbol.map, Piece.check, number]
    | string bytes =>
        have utf := valid bytes (List.mem_filterMap.mpr ⟨_, listed, rfl⟩)
        rw [Symbol.map, Piece.check, Option.isSome_map, escapes.decodeText utf]
        exact utf
    | _ => rfl

theorem line_of_dump (escapes : Escapes escape)
    (bare : ∀ word ∈ document.words, Piece.Proper (.number word))
    (dumped : document.dump escape = some line) : 0x0a ∉ line := by
  obtain ⟨valid, rfl⟩ := texts_of_dump dumped
  intro feed
  obtain ⟨piece, member, inside⟩ := List.mem_flatMap.mp feed
  obtain ⟨symbol, listed, rfl⟩ := mem_symbols_map member
  cases symbol with
  | mark mark =>
      have plain : 0x0a ≠ mark.byte := by cases mark <;> decide
      exact plain (List.mem_singleton.mp inside)
  | null =>
      have plain : 0x0a ∉ nullWord := by decide
      exact plain inside
  | boolean value =>
      have plain : ∀ value, 0x0a ∉ booleanWord value := by decide
      exact plain value inside
  | number word =>
      have plain := (bare word (List.mem_filterMap.mpr ⟨_, listed, rfl⟩)).2.1 _ inside
      exact absurd plain (by decide)
  | string bytes =>
      have utf := valid bytes (List.mem_filterMap.mpr ⟨_, listed, rfl⟩)
      rcases List.mem_cons.mp inside with quote | inside
      · exact absurd quote (by decide)
      · rcases List.mem_append.mp inside with escaped | quote
        · exact escapes.oneLine bytes utf escaped
        · exact absurd (List.mem_singleton.mp quote) (by decide)

/-- An object is dumped as the text of an object, unless a word is no number. -/
theorem denotes_dump_object (escapes : Escapes escape)
    {members : List (List UInt8 × Draft)}
    (bare : ∀ word ∈ (object members).words, Piece.Proper (.number word))
    (dumped : (object members).dump escape = some line) :
    (∃ read, Denotes line (.object read)) ↔
      ∀ word ∈ (object members).words, isNumber word = true := by
  obtain ⟨valid, rfl⟩ := texts_of_dump dumped
  rw [← check_isSome_iff escapes valid]
  simp only [text, denotes_spell_iff (proper_dumped escapes valid bare)]
  rw [map, check, Option.isSome_map]
  constructor
  · rintro ⟨read, checked⟩
    obtain ⟨found, some_members, _⟩ := Option.map_eq_some_iff.mp checked
    rw [some_members, Option.isSome_some]
  · intro checked
    obtain ⟨read, found⟩ := Option.isSome_iff_exists.mp checked
    exact ⟨read, by rw [found, Option.map_some]⟩

end Tree

end Foundation.JsonText
