import Iq9Pipeline.Foundation.JsonReader
import Iq9Pipeline.Foundation.JsonTree

/-!
Writing values as JSON texts without blanks. How a number and the inside of a string are
spelled is the writer's business; the reader gets the value back, with its numbers as
the writer spells them.
-/

namespace Foundation.JsonText

theorem isDelimiter_of_isDigit {byte : UInt8} (digit : isDigit byte = true) :
    isDelimiter byte = false := by
  simp only [isDigit, Bool.and_eq_true, decide_eq_true_eq, UInt8.le_iff_toNat_le] at digit
  have apart : ∀ delimiter : UInt8, delimiter.toNat < 0x30 ∨ 0x39 < delimiter.toNat →
      byte ≠ delimiter := by
    rintro delimiter outside rfl
    have low : (0x30 : UInt8).toNat = 0x30 := rfl
    have high : (0x39 : UInt8).toNat = 0x39 := rfl
    omega
  simp [isDelimiter, isBlank, markOf, apart]

def isNumeric (byte : UInt8) : Bool :=
  isDigit byte || byte = 0x2b || byte = 0x2d || byte = 0x2e || byte = 0x45 || byte = 0x65

theorem isDelimiter_of_isNumeric {byte : UInt8} (numeric : isNumeric byte = true) :
    isDelimiter byte = false := by
  simp only [isNumeric, Bool.or_eq_true, decide_eq_true_eq] at numeric
  rcases numeric with ((((digit | rfl) | rfl) | rfl) | rfl) | rfl
  · exact isDelimiter_of_isDigit digit
  all_goals rfl

theorem isNumeric_of_isDigits {word : List UInt8} (digits : isDigits word = true) :
    word.all isNumeric = true := by
  rw [isDigits, Bool.and_eq_true, List.all_eq_true] at digits
  rw [List.all_eq_true]
  intro byte member
  simp [isNumeric, digits.2 byte member]

theorem isNumeric_of_isExponent {word : List UInt8} (exponent : isExponent word = true) :
    word.all isNumeric = true := by
  cases word with
  | nil => rfl
  | cons mark rest =>
      simp only [isExponent, Bool.and_eq_true, Bool.or_eq_true, decide_eq_true_eq] at exponent
      have first : isNumeric mark = true := by
        rcases exponent.1 with rfl | rfl <;> rfl
      have others := exponent.2
      rw [List.all_cons, first, Bool.true_and]
      split at others
      · rename_i sign digits
        split at others
        · rename_i signed
          have second : isNumeric sign = true := by
            rcases signed with rfl | rfl <;> rfl
          rw [List.all_cons, second, isNumeric_of_isDigits others, Bool.true_and]
        · exact isNumeric_of_isDigits others
      · rfl

theorem isNumeric_takeWhile (word : List UInt8) :
    (word.takeWhile isDigit).all isNumeric = true := by
  rw [List.all_eq_true]
  intro byte member
  simp [isNumeric, List.mem_takeWhile_imp member]

theorem all_of_dropWhile {word : List UInt8}
    (later : (word.dropWhile isDigit).all isNumeric = true) : word.all isNumeric = true := by
  rw [← List.takeWhile_append_dropWhile (p := isDigit) (l := word), List.all_append,
    isNumeric_takeWhile, later, Bool.and_self]

theorem isNumeric_of_isFraction {word : List UInt8} (fraction : isFraction word = true) :
    word.all isNumeric = true := by
  cases word with
  | nil => rfl
  | cons point rest =>
      rw [isFraction] at fraction
      split at fraction
      · rename_i same
        subst same
        rw [Bool.and_eq_true] at fraction
        have first : isNumeric 0x2e = true := rfl
        rw [List.all_cons, first, all_of_dropWhile (isNumeric_of_isExponent fraction.2)]
        rfl
      · exact isNumeric_of_isExponent fraction

theorem isNumeric_of_isUnsignedNumber {word : List UInt8}
    (number : isUnsignedNumber word = true) : word.all isNumeric = true := by
  cases word with
  | nil => rfl
  | cons digit rest =>
      rw [isUnsignedNumber] at number
      rw [List.all_cons]
      split at number
      · rename_i same
        subst same
        rw [isNumeric_of_isFraction number]
        rfl
      · rw [Bool.and_eq_true] at number
        rw [all_of_dropWhile (isNumeric_of_isFraction number.2), isNumeric, number.1]
        rfl

theorem isNumeric_of_isNumber {word : List UInt8} (number : isNumber word = true) :
    word.all isNumeric = true := by
  cases word with
  | nil => rfl
  | cons sign rest =>
      rw [isNumber] at number
      split at number
      · rename_i same
        subst same
        rw [List.all_cons, isNumeric_of_isUnsignedNumber number]
        rfl
      · exact isNumeric_of_isUnsignedNumber number

theorem isDelimiter_of_isNumber {word : List UInt8} (number : isNumber word = true) :
    ∀ byte ∈ word, isDelimiter byte = false := by
  intro byte member
  exact isDelimiter_of_isNumeric (List.all_eq_true.mp (isNumeric_of_isNumber number) byte member)

theorem proper_of_isNumber {word : List UInt8} (number : isNumber word = true) :
    Piece.Proper (.number word) := by
  refine ⟨?_, isDelimiter_of_isNumber number, ?_⟩
  · rintro rfl
    exact absurd number (by decide)
  · have noNull : word ≠ nullWord := by
      rintro rfl
      exact absurd number (by decide)
    have noBoolean : ∀ value, word ≠ booleanWord value := by
      rintro value rfl
      cases value <;> exact absurd number (by decide)
    simp [readWord, noNull, noBoolean]

namespace Tree

theorem proper_map {Word Text : Type} {onWord : Word → List UInt8} {onText : Text → List UInt8}
    (words : ∀ word, Piece.Proper (.number (onWord word)))
    (texts : ∀ text, isContained false (onText text) = true) (tree : Tree Word Text) :
    Proper (tree.map onWord onText) := by
  intro piece member
  rw [symbols_map, List.mem_map] at member
  obtain ⟨token, _, rfl⟩ := member
  cases token with
  | number word => exact words word
  | string text => exact texts text
  | _ => trivial

def separated : List (List UInt8) → List UInt8
  | [] => []
  | first :: rest => first ++ rest.flatMap fun next => 0x2c :: next

def text (draft : Draft) : List UInt8 :=
  spell draft.symbols

def memberText (member : List UInt8 × Draft) : List UInt8 :=
  0x22 :: (member.1 ++ 0x22 :: 0x3a :: member.2.text)

@[simp] theorem spell_nil : spell [] = [] :=
  rfl

@[simp] theorem spell_cons (piece : Piece) (pieces : List Piece) :
    spell (piece :: pieces) = piece.spelling ++ spell pieces :=
  rfl

@[simp] theorem spell_append (pieces more : List Piece) :
    spell (pieces ++ more) = spell pieces ++ spell more :=
  List.flatMap_append

theorem spell_elementSymbols (elements : List Draft) :
    spell (elementSymbols elements) =
      (elements.map text).flatMap (fun next => 0x2c :: next) ++ [0x5d] := by
  induction elements with
  | nil => rfl
  | cons next rest ih =>
      simp [elementSymbols, ih, Piece.spelling, Mark.byte, text]

theorem spell_memberSymbols (members : List (List UInt8 × Draft)) :
    spell (memberSymbols members) =
      (members.map memberText).flatMap (fun next => 0x2c :: next) ++ [0x7d] := by
  induction members with
  | nil => rfl
  | cons member rest ih =>
      simp [memberSymbols, ih, Piece.spelling, Mark.byte, text, memberText]

@[simp] theorem text_number (word : List UInt8) : text (.number word) = word := by
  simp [text, symbols, Piece.spelling]

@[simp] theorem text_string (raw : List UInt8) : text (.string raw) = 0x22 :: (raw ++ [0x22]) := by
  simp [text, symbols, Piece.spelling]

@[simp] theorem text_array (elements : List Draft) :
    text (.array elements) = 0x5b :: (separated (elements.map text) ++ [0x5d]) := by
  cases elements with
  | nil => rfl
  | cons first rest =>
      simp [text, symbols, Piece.spelling, Mark.byte, separated, spell_elementSymbols]

@[simp] theorem text_object (members : List (List UInt8 × Draft)) :
    text (.object members) = 0x7b :: (separated (members.map memberText) ++ [0x7d]) := by
  cases members with
  | nil => rfl
  | cons member rest =>
      simp [text, symbols, Piece.spelling, Mark.byte, separated, spell_memberSymbols,
        memberText]

def write (number : List UInt8 → List UInt8) (quote : String → List UInt8) (value : Value) :
    List UInt8 :=
  (value.map number quote).text

variable {number : List UInt8 → List UInt8} {quote : String → List UInt8}

theorem readBack_eq_id (texts : ∀ text, decodeText (quote text) = some text) :
    readBack quote = id := by
  funext text
  rw [readBack, texts, Option.getD_some, id]

theorem denotes_write (numbers : ∀ word, isNumber (number word) = true)
    (texts : ∀ text, decodeText (quote text) = some text) (value : Value) :
    Denotes (value.write number quote) (value.map number id) := by
  have sound : value.Sound number quote :=
    all_of_forall numbers (fun text => by rw [texts, Option.isSome_some]) value
  have proper : Proper (value.map number quote) :=
    proper_map (fun word => proper_of_isNumber (numbers word))
      (fun text => isContained_of_decodeText (texts text)) value
  rw [write, text, denotes_spell_iff proper, check_map value sound, readBack_eq_id texts]

end Tree

end Foundation.JsonText
