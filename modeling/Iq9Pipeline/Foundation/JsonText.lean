import Iq9Pipeline.Foundation.JsonLexeme

/-!
JSON texts and the values they denote. A tree is a value over some type of number words
and some type of string texts, so that a text a program writes is a tree too, over raw
bytes. A text denotes a value when its lexemes are the symbols of the value.
-/

namespace Foundation.JsonText

inductive Mark
  | beginObject
  | endObject
  | beginArray
  | endArray
  | nameSeparator
  | valueSeparator
deriving DecidableEq

inductive Tree (Word Text : Type)
  | null
  | boolean (value : Bool)
  | number (word : Word)
  | string (text : Text)
  | array (elements : List (Tree Word Text))
  | object (members : List (Text × Tree Word Text))

inductive Symbol (Word Text : Type)
  | mark (mark : Mark)
  | null
  | boolean (value : Bool)
  | number (word : Word)
  | string (text : Text)
deriving DecidableEq

abbrev Draft := Tree (List UInt8) (List UInt8)

abbrev Value := Tree (List UInt8) String

variable {Word Text Word' Text' : Type}

def Symbol.map (onWord : Word → Word') (onText : Text → Text') :
    Symbol Word Text → Symbol Word' Text'
  | .mark kind => .mark kind
  | .null => .null
  | .boolean value => .boolean value
  | .number word => .number (onWord word)
  | .string text => .string (onText text)

namespace Tree

mutual

def symbols : Tree Word Text → List (Symbol Word Text)
  | .null => [.null]
  | .boolean value => [.boolean value]
  | .number word => [.number word]
  | .string text => [.string text]
  | .array [] => [.mark .beginArray, .mark .endArray]
  | .array (first :: rest) => .mark .beginArray :: (symbols first ++ elementSymbols rest)
  | .object [] => [.mark .beginObject, .mark .endObject]
  | .object ((name, value) :: rest) =>
      .mark .beginObject :: .string name :: .mark .nameSeparator ::
        (symbols value ++ memberSymbols rest)

def elementSymbols : List (Tree Word Text) → List (Symbol Word Text)
  | [] => [.mark .endArray]
  | next :: rest => .mark .valueSeparator :: (symbols next ++ elementSymbols rest)

def memberSymbols : List (Text × Tree Word Text) → List (Symbol Word Text)
  | [] => [.mark .endObject]
  | (name, value) :: rest =>
      .mark .valueSeparator :: .string name :: .mark .nameSeparator ::
        (symbols value ++ memberSymbols rest)

end

mutual

def map (onWord : Word → Word') (onText : Text → Text') : Tree Word Text → Tree Word' Text'
  | .null => .null
  | .boolean value => .boolean value
  | .number word => .number (onWord word)
  | .string text => .string (onText text)
  | .array elements => .array (mapElements onWord onText elements)
  | .object members => .object (mapMembers onWord onText members)

def mapElements (onWord : Word → Word') (onText : Text → Text') :
    List (Tree Word Text) → List (Tree Word' Text')
  | [] => []
  | next :: rest => map onWord onText next :: mapElements onWord onText rest

def mapMembers (onWord : Word → Word') (onText : Text → Text') :
    List (Text × Tree Word Text) → List (Text' × Tree Word' Text')
  | [] => []
  | (name, value) :: rest => (onText name, map onWord onText value) :: mapMembers onWord onText rest

end

mutual

theorem symbols_map (onWord : Word → Word') (onText : Text → Text') :
    ∀ tree : Tree Word Text,
      (tree.map onWord onText).symbols = tree.symbols.map (Symbol.map onWord onText)
  | .null => rfl
  | .boolean _ => rfl
  | .number _ => rfl
  | .string _ => rfl
  | .array [] => rfl
  | .array (first :: rest) => by
      simp [map, mapElements, symbols, symbols_map onWord onText first,
        elementSymbols_map onWord onText rest, Symbol.map]
  | .object [] => rfl
  | .object ((name, value) :: rest) => by
      simp [map, mapMembers, symbols, symbols_map onWord onText value,
        memberSymbols_map onWord onText rest, Symbol.map]

theorem elementSymbols_map (onWord : Word → Word') (onText : Text → Text') :
    ∀ elements : List (Tree Word Text),
      elementSymbols (mapElements onWord onText elements) =
        (elementSymbols elements).map (Symbol.map onWord onText)
  | [] => rfl
  | next :: rest => by
      simp [mapElements, elementSymbols, symbols_map onWord onText next,
        elementSymbols_map onWord onText rest, Symbol.map]

theorem memberSymbols_map (onWord : Word → Word') (onText : Text → Text') :
    ∀ members : List (Text × Tree Word Text),
      memberSymbols (mapMembers onWord onText members) =
        (memberSymbols members).map (Symbol.map onWord onText)
  | [] => rfl
  | (name, value) :: rest => by
      simp [mapMembers, memberSymbols, symbols_map onWord onText value,
        memberSymbols_map onWord onText rest, Symbol.map]

end

end Tree

def isBlank (byte : UInt8) : Bool :=
  byte = 0x20 || byte = 0x09 || byte = 0x0a || byte = 0x0d

def Mark.byte : Mark → UInt8
  | .beginObject => 0x7b
  | .endObject => 0x7d
  | .beginArray => 0x5b
  | .endArray => 0x5d
  | .nameSeparator => 0x3a
  | .valueSeparator => 0x2c

def markOf (byte : UInt8) : Option Mark :=
  if byte = 0x7b then some .beginObject
  else if byte = 0x7d then some .endObject
  else if byte = 0x5b then some .beginArray
  else if byte = 0x5d then some .endArray
  else if byte = 0x3a then some .nameSeparator
  else if byte = 0x2c then some .valueSeparator
  else none

def isDelimiter (byte : UInt8) : Bool :=
  isBlank byte || (markOf byte).isSome || byte = 0x22

def nullWord : List UInt8 := utf8 "null"

def booleanWord (value : Bool) : List UInt8 :=
  if value then utf8 "true" else utf8 "false"

abbrev Piece := Symbol (List UInt8) (List UInt8)

abbrev Token := Symbol (List UInt8) String

def Piece.spelling : Piece → List UInt8
  | .mark kind => [kind.byte]
  | .null => nullWord
  | .boolean value => booleanWord value
  | .number word => word
  | .string raw => 0x22 :: (raw ++ [0x22])

def spell (pieces : List Piece) : List UInt8 :=
  pieces.flatMap Piece.spelling

def readWord (word : List UInt8) : Piece :=
  if word = nullWord then .null
  else if word = booleanWord true then .boolean true
  else if word = booleanWord false then .boolean false
  else .number word

/-- Where the scanner of a text is: between pieces, in a word, in a string, or behind a
backslash in a string. -/
inductive Scan
  | between
  | word (read : List UInt8)
  | text (read : List UInt8)
  | escaped (read : List UInt8)

def enter (byte : UInt8) : Scan × List Piece :=
  if isBlank byte then (.between, [])
  else match markOf byte with
    | some mark => (.between, [.mark mark])
    | none => if byte = 0x22 then (.text [], []) else (.word [byte], [])

def scanByte (byte : UInt8) : Scan → Scan × List Piece
  | .between => enter byte
  | .word read =>
      if isDelimiter byte then ((enter byte).1, readWord read :: (enter byte).2)
      else (.word (read ++ [byte]), [])
  | .text read =>
      if byte = 0x22 then (.between, [.string read])
      else if byte = 0x5c then (.escaped (read ++ [byte]), [])
      else (.text (read ++ [byte]), [])
  | .escaped read => (.text (read ++ [byte]), [])

def scanFrom : Scan → List UInt8 → Option (List Piece)
  | .between, [] => some []
  | .word read, [] => some [readWord read]
  | _, [] => none
  | scan, byte :: rest =>
      (scanFrom (scanByte byte scan).1 rest).map fun pieces => (scanByte byte scan).2 ++ pieces

def Piece.check : Piece → Option Token
  | .mark kind => some (.mark kind)
  | .null => some .null
  | .boolean value => some (.boolean value)
  | .number word => if isNumber word then some (.number word) else none
  | .string raw => (decodeText raw).map .string

def lex (text : List UInt8) : Option (List Token) :=
  (scanFrom .between text).bind fun pieces => pieces.mapM Piece.check

/-- The text is a JSON text, and the value is the one it is a text of. -/
def Denotes (text : List UInt8) (value : Value) : Prop :=
  lex text = some value.symbols

def Piece.Proper : Piece → Prop
  | .number word =>
      word ≠ [] ∧ (∀ byte ∈ word, isDelimiter byte = false) ∧ readWord word = .number word
  | .string raw => isContained false raw = true
  | _ => True

def Piece.isWord : Piece → Bool
  | .mark _ => false
  | .string _ => false
  | _ => true

def Closes (rest : List UInt8) : Prop :=
  ∀ byte ∈ rest.head?, isDelimiter byte = true

theorem scanFrom_contained {escaped : Bool} {raw more : List UInt8}
    (contained : isContained escaped (raw ++ more) = true) (read rest : List UInt8) :
    ∃ after, isContained after more = true ∧
      scanFrom (if escaped then .escaped read else .text read) (raw ++ rest) =
        scanFrom (if after then .escaped (read ++ raw) else .text (read ++ raw)) rest := by
  induction raw generalizing escaped read with
  | nil => exact ⟨escaped, contained, by simp⟩
  | cons byte raw ih =>
      cases escaped with
      | true =>
          obtain ⟨after, inside, next⟩ := @ih false contained (read ++ [byte])
          exact ⟨after, inside, by simpa [scanFrom, scanByte] using next⟩
      | false =>
          simp only [List.cons_append, isContained] at contained
          by_cases slash : byte = 0x5c
          · rw [if_pos slash] at contained
            obtain ⟨after, inside, next⟩ := @ih true contained (read ++ [byte])
            subst slash
            exact ⟨after, inside, by simpa [scanFrom, scanByte] using next⟩
          · rw [if_neg slash, Bool.and_eq_true, decide_eq_true_eq] at contained
            obtain ⟨after, inside, next⟩ := @ih false contained.2 (read ++ [byte])
            exact ⟨after, inside, by simpa [scanFrom, scanByte, contained.1, slash] using next⟩

theorem scanFrom_text {escaped : Bool} {raw : List UInt8}
    (contained : isContained escaped raw = true) (read rest : List UInt8) :
    scanFrom (if escaped then .escaped read else .text read) (raw ++ 0x22 :: rest) =
      (scanFrom .between rest).map fun pieces => .string (read ++ raw) :: pieces := by
  rw [← List.append_nil raw] at contained
  obtain ⟨after, closed, scanned⟩ := scanFrom_contained contained read (0x22 :: rest)
  cases after with
  | false => simpa [scanFrom, scanByte] using scanned
  | true => simp [isContained] at closed

theorem scanFrom_word {read word rest : List UInt8}
    (inside : ∀ byte ∈ word, isDelimiter byte = false) (closes : Closes rest) :
    scanFrom (.word read) (word ++ rest) =
      (scanFrom .between rest).map fun pieces => readWord (read ++ word) :: pieces := by
  induction word generalizing read with
  | nil =>
      cases rest with
      | nil => simp [scanFrom]
      | cons byte rest =>
          have delimiter : isDelimiter byte = true := closes byte (by simp)
          simp [scanFrom, scanByte, delimiter, Function.comp_def]
  | cons byte word ih =>
      rw [List.forall_mem_cons] at inside
      have next := @ih (read ++ [byte]) inside.2
      simpa [scanFrom, scanByte, inside.1] using next

theorem scanFrom_mark (mark : Mark) (rest : List UInt8) :
    scanFrom .between (mark.byte :: rest) =
      (scanFrom .between rest).map fun pieces => .mark mark :: pieces := by
  cases mark <;> rfl

theorem scanFrom_bareWord {word rest : List UInt8} (nonempty : word ≠ [])
    (inside : ∀ byte ∈ word, isDelimiter byte = false) (closes : Closes rest) :
    scanFrom .between (word ++ rest) =
      (scanFrom .between rest).map fun pieces => readWord word :: pieces := by
  obtain ⟨first, word, rfl⟩ := List.exists_cons_of_ne_nil nonempty
  rw [List.forall_mem_cons] at inside
  have outside := inside.1
  simp only [isDelimiter, Bool.or_eq_false_iff, Option.isSome_eq_false_iff,
    Option.isNone_iff_eq_none, decide_eq_false_iff_not] at outside
  have next := @scanFrom_word [first] _ _ inside.2 closes
  simpa [scanFrom, scanByte, enter, outside] using next

theorem scanFrom_spelling {piece : Piece} (proper : piece.Proper) {rest : List UInt8}
    (closes : piece.isWord = true → Closes rest) :
    scanFrom .between (piece.spelling ++ rest) =
      (scanFrom .between rest).map fun pieces => piece :: pieces := by
  cases piece with
  | mark mark => exact scanFrom_mark mark rest
  | null => exact scanFrom_bareWord (by decide +kernel) (by decide +kernel) (closes rfl)
  | boolean value =>
      cases value with
      | false => exact scanFrom_bareWord (by decide +kernel) (by decide +kernel) (closes rfl)
      | true => exact scanFrom_bareWord (by decide +kernel) (by decide +kernel) (closes rfl)
  | number word =>
      have scanned := scanFrom_bareWord proper.1 proper.2.1 (closes rfl)
      rw [proper.2.2] at scanned
      exact scanned
  | string raw =>
      have text := @scanFrom_text false raw proper [] rest
      have outside : enter 0x22 = (.text [], []) := rfl
      simpa [Piece.spelling, scanFrom, scanByte, outside] using text

def Spaced (rest : List UInt8) : List Piece → Prop
  | [] => True
  | piece :: pieces =>
      piece.Proper ∧ (piece.isWord = true → Closes (spell pieces ++ rest)) ∧ Spaced rest pieces

theorem scanFrom_spell {rest : List UInt8} {pieces : List Piece} (spaced : Spaced rest pieces) :
    scanFrom .between (spell pieces ++ rest) =
      (scanFrom .between rest).map fun more => pieces ++ more := by
  induction pieces with
  | nil => simp [spell]
  | cons piece pieces ih =>
      obtain ⟨proper, closes, spaced⟩ := spaced
      have split : spell (piece :: pieces) ++ rest = piece.spelling ++ (spell pieces ++ rest) := by
        simp [spell]
      rw [split, scanFrom_spelling proper closes, ih spaced, Option.map_map]
      rfl

theorem closes_mark (mark : Mark) (rest : List UInt8) : Closes (mark.byte :: rest) := by
  cases mark <;> simp [Closes] <;> decide

theorem closes_elementSymbols (elements : List Draft) (more : List Piece) (rest : List UInt8) :
    Closes (spell (Tree.elementSymbols elements ++ more) ++ rest) := by
  cases elements with
  | nil => exact closes_mark .endArray _
  | cons next elements => exact closes_mark .valueSeparator _

theorem closes_memberSymbols (members : List (List UInt8 × Draft)) (more : List Piece)
    (rest : List UInt8) : Closes (spell (Tree.memberSymbols members ++ more) ++ rest) := by
  cases members with
  | nil => exact closes_mark .endObject _
  | cons member members => exact closes_mark .valueSeparator _

namespace Tree

mutual

theorem spaced_symbols {rest : List UInt8} : ∀ (draft : Draft) (more : List Piece),
    (∀ piece ∈ draft.symbols, Piece.Proper piece) → Closes (spell more ++ rest) →
      Spaced rest more → Spaced rest (draft.symbols ++ more)
  | .null, more, proper, closes, spaced => ⟨trivial, fun _ => closes, spaced⟩
  | .boolean _, more, proper, closes, spaced => ⟨trivial, fun _ => closes, spaced⟩
  | .number _, more, proper, closes, spaced =>
      ⟨proper _ List.mem_cons_self, fun _ => closes, spaced⟩
  | .string _, more, proper, closes, spaced =>
      ⟨proper _ List.mem_cons_self, fun _ => closes, spaced⟩
  | .array [], more, proper, closes, spaced =>
      ⟨trivial, nofun, trivial, nofun, spaced⟩
  | .array (first :: elements), more, proper, closes, spaced => by
      rw [symbols, List.forall_mem_cons, List.forall_mem_append] at proper
      rw [symbols, List.cons_append, List.append_assoc]
      exact ⟨trivial, nofun, spaced_symbols first _ proper.2.1 (closes_elementSymbols _ _ _)
        (spaced_elementSymbols elements more proper.2.2 spaced)⟩
  | .object [], more, proper, closes, spaced =>
      ⟨trivial, nofun, trivial, nofun, spaced⟩
  | .object ((name, value) :: members), more, proper, closes, spaced => by
      rw [symbols, List.forall_mem_cons, List.forall_mem_cons, List.forall_mem_cons,
        List.forall_mem_append] at proper
      simp only [symbols, List.cons_append, List.append_assoc]
      exact ⟨trivial, nofun, proper.2.1, nofun, trivial, nofun,
        spaced_symbols value _ proper.2.2.2.1 (closes_memberSymbols _ _ _)
          (spaced_memberSymbols members more proper.2.2.2.2 spaced)⟩

theorem spaced_elementSymbols {rest : List UInt8} : ∀ (elements : List Draft) (more : List Piece),
    (∀ piece ∈ elementSymbols elements, Piece.Proper piece) → Spaced rest more →
      Spaced rest (elementSymbols elements ++ more)
  | [], more, _, spaced => ⟨trivial, nofun, spaced⟩
  | next :: elements, more, proper, spaced => by
      rw [elementSymbols, List.forall_mem_cons, List.forall_mem_append] at proper
      rw [elementSymbols, List.cons_append, List.append_assoc]
      exact ⟨trivial, nofun, spaced_symbols next _ proper.2.1 (closes_elementSymbols _ _ _)
        (spaced_elementSymbols elements more proper.2.2 spaced)⟩

theorem spaced_memberSymbols {rest : List UInt8} :
    ∀ (members : List (List UInt8 × Draft)) (more : List Piece),
      (∀ piece ∈ memberSymbols members, Piece.Proper piece) → Spaced rest more →
        Spaced rest (memberSymbols members ++ more)
  | [], more, _, spaced => ⟨trivial, nofun, spaced⟩
  | (name, value) :: members, more, proper, spaced => by
      rw [memberSymbols, List.forall_mem_cons, List.forall_mem_cons, List.forall_mem_cons,
        List.forall_mem_append] at proper
      simp only [memberSymbols, List.cons_append, List.append_assoc]
      exact ⟨trivial, nofun, proper.2.1, nofun, trivial, nofun,
        spaced_symbols value _ proper.2.2.2.1 (closes_memberSymbols _ _ _)
          (spaced_memberSymbols members more proper.2.2.2.2 spaced)⟩

end

mutual

def check : Draft → Option Value
  | .null => some .null
  | .boolean value => some (.boolean value)
  | .number word => if isNumber word then some (.number word) else none
  | .string raw => (decodeText raw).map .string
  | .array elements => (checkElements elements).map .array
  | .object members => (checkMembers members).map .object

def checkElements : List Draft → Option (List Value)
  | [] => some []
  | next :: rest =>
      (check next).bind fun value => (checkElements rest).map fun values => value :: values

def checkMembers : List (List UInt8 × Draft) → Option (List (String × Value))
  | [] => some []
  | (name, next) :: rest =>
      (decodeText name).bind fun name => (check next).bind fun value =>
        (checkMembers rest).map fun members => (name, value) :: members

end

mutual

theorem mapM_check_symbols : ∀ draft : Draft,
    draft.symbols.mapM Piece.check = draft.check.map symbols
  | .null => rfl
  | .boolean _ => rfl
  | .number word => by
      simp only [symbols, check, List.mapM_cons, List.mapM_nil, Piece.check]
      split <;> rfl
  | .string raw => by
      simp only [symbols, check, List.mapM_cons, List.mapM_nil, Piece.check]
      cases decodeText raw <;> rfl
  | .array [] => rfl
  | .array (first :: rest) => by
      simp only [symbols, check, checkElements, List.mapM_cons, List.mapM_append,
        mapM_check_symbols first, mapM_check_elementSymbols rest]
      cases check first <;> cases checkElements rest <;> rfl
  | .object [] => rfl
  | .object ((name, value) :: rest) => by
      simp only [symbols, check, checkMembers, List.mapM_cons, List.mapM_append, Piece.check,
        mapM_check_symbols value, mapM_check_memberSymbols rest]
      cases decodeText name <;> cases check value <;> cases checkMembers rest <;> rfl

theorem mapM_check_elementSymbols : ∀ elements : List Draft,
    (elementSymbols elements).mapM Piece.check = (checkElements elements).map elementSymbols
  | [] => rfl
  | next :: rest => by
      simp only [elementSymbols, checkElements, List.mapM_cons, List.mapM_append,
        mapM_check_symbols next, mapM_check_elementSymbols rest]
      cases check next <;> cases checkElements rest <;> rfl

theorem mapM_check_memberSymbols : ∀ members : List (List UInt8 × Draft),
    (memberSymbols members).mapM Piece.check = (checkMembers members).map memberSymbols
  | [] => rfl
  | (name, value) :: rest => by
      simp only [memberSymbols, checkMembers, List.mapM_cons, List.mapM_append, Piece.check,
        mapM_check_symbols value, mapM_check_memberSymbols rest]
      cases decodeText name <;> cases check value <;> cases checkMembers rest <;> rfl

end

def Proper (draft : Draft) : Prop :=
  ∀ piece ∈ draft.symbols, Piece.Proper piece

/-- What is written as a draft is read as the value of the draft, or not at all. -/
theorem lex_spell {draft : Draft} (proper : draft.Proper) :
    lex (spell draft.symbols) = draft.check.map symbols := by
  have spaced : Spaced [] (draft.symbols ++ []) :=
    spaced_symbols draft [] proper (by simp [Closes, spell]) trivial
  have scanned := scanFrom_spell spaced
  rw [List.append_nil, List.append_nil] at scanned
  rw [lex, scanned, ← mapM_check_symbols]
  simp [scanFrom]

end Tree

end Foundation.JsonText
