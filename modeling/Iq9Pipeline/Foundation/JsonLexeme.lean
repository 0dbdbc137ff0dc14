import Mathlib.Data.List.TakeWhile
import Mathlib.Data.Nat.Digits.Lemmas

/-!
The lexemes of JSON texts (RFC 8259) over bytes: the grammar of numbers, and the text
that the inside of a quoted string stands for.
-/

namespace Foundation.JsonText

def utf8 (text : String) : List UInt8 :=
  text.toByteArray.data.toList

def decodeUtf8 (bytes : List UInt8) : Option String :=
  if valid : (ByteArray.mk bytes.toArray).IsValidUTF8 then some (.ofByteArray ⟨bytes.toArray⟩ valid)
  else none

theorem decodeUtf8_eq_some_iff {bytes : List UInt8} {text : String} :
    decodeUtf8 bytes = some text ↔ utf8 text = bytes := by
  rw [decodeUtf8]
  constructor
  · intro decoded
    split at decoded
    · rw [← Option.some.inj decoded, utf8]
    · simp at decoded
  · rintro rfl
    rw [dif_pos (by simpa [utf8] using text.isValidUTF8)]
    simp [utf8]

def isDigit (byte : UInt8) : Bool :=
  0x30 ≤ byte && byte ≤ 0x39

def isDigits (bytes : List UInt8) : Bool :=
  !bytes.isEmpty && bytes.all isDigit

def isExponent : List UInt8 → Bool
  | [] => true
  | mark :: rest =>
      (mark = 0x65 || mark = 0x45) &&
        match rest with
        | sign :: digits =>
            if sign = 0x2b || sign = 0x2d then isDigits digits else isDigits rest
        | [] => false

def isFraction : List UInt8 → Bool
  | [] => true
  | point :: rest =>
      if point = 0x2e then
        isDigits (rest.takeWhile isDigit) && isExponent (rest.dropWhile isDigit)
      else isExponent (point :: rest)

def isUnsignedNumber : List UInt8 → Bool
  | [] => false
  | digit :: rest =>
      if digit = 0x30 then isFraction rest
      else isDigit digit && isFraction (rest.dropWhile isDigit)

def isNumber : List UInt8 → Bool
  | [] => false
  | sign :: rest => if sign = 0x2d then isUnsignedNumber rest else isUnsignedNumber (sign :: rest)

def decimal (value : Nat) : List UInt8 :=
  if value = 0 then [0x30]
  else (Nat.digits 10 value).reverse.map fun digit => 0x30 + UInt8.ofNat digit

def ofDecimal (bytes : List UInt8) : Nat :=
  Nat.ofDigits 10 (bytes.reverse.map fun byte => (byte - 0x30).toNat)

theorem digit_lt {value digit : Nat} (member : digit ∈ Nat.digits 10 value) : digit < 10 :=
  Nat.digits_lt_base (by decide) member

theorem isDigit_of_lt {digit : Nat} (bound : digit < 10) :
    isDigit (0x30 + UInt8.ofNat digit) = true := by
  have digits : ∀ digit < 10, isDigit (0x30 + UInt8.ofNat digit) = true := by decide
  exact digits digit bound

theorem ofDecimal_decimal (value : Nat) : ofDecimal (decimal value) = value := by
  rw [decimal]
  split
  · rename_i zero
    rw [zero]
    decide
  · rw [ofDecimal, ← List.map_reverse, List.reverse_reverse, List.map_map]
    have digits : ∀ digit < 10, (0x30 + UInt8.ofNat digit - 0x30).toNat = digit := by decide
    have values : ∀ digit ∈ Nat.digits 10 value,
        ((fun byte : UInt8 => (byte - 0x30).toNat) ∘ fun digit => 0x30 + UInt8.ofNat digit) digit =
          id digit := fun digit member => digits digit (digit_lt member)
    rw [List.map_congr_left values, List.map_id, Nat.ofDigits_digits]

theorem isDigit_of_mem_decimal {value : Nat} {byte : UInt8} (member : byte ∈ decimal value) :
    isDigit byte = true := by
  rw [decimal] at member
  split at member
  · rw [List.mem_singleton.mp member]
    decide
  · obtain ⟨digit, listed, rfl⟩ := List.mem_map.mp member
    exact isDigit_of_lt (digit_lt (List.mem_reverse.mp listed))

theorem isNumber_of_isDigit {first : UInt8} {rest : List UInt8} (leading : first ≠ 0x30)
    (digit : isDigit first = true) (digits : ∀ byte ∈ rest, isDigit byte = true) :
    isNumber (first :: rest) = true := by
  have unsigned : first ≠ 0x2d := by
    rintro rfl
    simp [isDigit] at digit
  have all : rest.dropWhile isDigit = [] := List.dropWhile_eq_nil_iff.mpr digits
  simp [isNumber, isUnsignedNumber, unsigned, leading, digit, all, isFraction]

theorem isNumber_decimal (value : Nat) : isNumber (decimal value) = true := by
  by_cases zero : value = 0
  · rw [zero]
    decide
  · have nonempty : Nat.digits 10 value ≠ [] := Nat.digits_ne_nil_iff_ne_zero.mpr zero
    have last := Nat.getLast_digit_ne_zero 10 zero
    obtain ⟨first, rest, split⟩ := List.exists_cons_of_ne_nil
      (List.reverse_ne_nil_iff.mpr nonempty)
    have digits : decimal value = (first :: rest).map fun digit => 0x30 + UInt8.ofNat digit := by
      rw [decimal, if_neg zero, split]
    have leading : first ≠ 0 := by
      rw [List.getLast_eq_head_reverse] at last
      simpa [split] using last
    have listed : first ∈ Nat.digits 10 value := by
      rw [← List.mem_reverse, split]
      exact List.mem_cons_self
    have all : ∀ byte ∈ decimal value, isDigit byte = true := fun _ => isDigit_of_mem_decimal
    rw [digits, List.map_cons] at all ⊢
    refine isNumber_of_isDigit ?_ (isDigit_of_lt (digit_lt listed))
      fun byte member => all byte (List.mem_cons_of_mem _ member)
    have nonzero : ∀ digit < 10, digit ≠ 0 → 0x30 + UInt8.ofNat digit ≠ 0x30 := by decide
    exact nonzero first (digit_lt listed) leading

def hexDigit (byte : UInt8) : Option Nat :=
  if isDigit byte then some (byte - 0x30).toNat
  else if 0x41 ≤ byte && byte ≤ 0x46 then some (byte - 0x37).toNat
  else if 0x61 ≤ byte && byte ≤ 0x66 then some (byte - 0x57).toNat
  else none

def shortEscape (byte : UInt8) : Option UInt8 :=
  if byte = 0x22 ∨ byte = 0x5c ∨ byte = 0x2f then some byte
  else if byte = 0x62 then some 0x08
  else if byte = 0x66 then some 0x0c
  else if byte = 0x6e then some 0x0a
  else if byte = 0x72 then some 0x0d
  else if byte = 0x74 then some 0x09
  else none

def scalarBytes (scalar : Nat) : List UInt8 :=
  utf8 (String.singleton (Char.ofNat scalar))

/-- Where the reader of a string's inside is: between characters, behind a surrogate
that wants its other half, behind a backslash, or inside the digits of a code unit. -/
inductive Escape
  | plain
  | half (high : Nat)
  | slash (high : Option Nat)
  | unit (high : Option Nat) (digits : List Nat)
deriving DecidableEq

def readUnit (high : Option Nat) (unit : Nat) : Option (Escape × List UInt8) :=
  match high with
  | none =>
      if 0xd800 ≤ unit ∧ unit < 0xdc00 then some (.half unit, [])
      else if 0xdc00 ≤ unit ∧ unit < 0xe000 then none
      else some (.plain, scalarBytes unit)
  | some high =>
      if 0xdc00 ≤ unit ∧ unit < 0xe000 then
        some (.plain, scalarBytes (0x10000 + (high - 0xd800) * 0x400 + (unit - 0xdc00)))
      else none

def readByte (byte : UInt8) : Escape → Option (Escape × List UInt8)
  | .plain =>
      if byte = 0x5c then some (.slash none, [])
      else if byte < 0x20 ∨ byte = 0x22 then none
      else some (.plain, [byte])
  | .half high => if byte = 0x5c then some (.slash (some high), []) else none
  | .slash high =>
      if byte = 0x75 then some (.unit high [], [])
      else if high.isSome then none
      else (shortEscape byte).map fun character => (.plain, [character])
  | .unit high digits =>
      (hexDigit byte).bind fun digit =>
        if digits.length < 3 then some (.unit high (digits ++ [digit]), [])
        else readUnit high (Nat.ofDigits 16 (digits ++ [digit]).reverse)

def unescapeFrom : Escape → List UInt8 → Option (List UInt8)
  | .plain, [] => some []
  | _, [] => none
  | escape, byte :: rest =>
      (readByte byte escape).bind fun read =>
        (unescapeFrom read.1 rest).map fun bytes => read.2 ++ bytes

def unescape (raw : List UInt8) : Option (List UInt8) :=
  unescapeFrom .plain raw

def decodeText (raw : List UInt8) : Option String :=
  (unescape raw).bind decodeUtf8

/-- The closing quote of a string is the first one that no backslash precedes. -/
def isContained : Bool → List UInt8 → Bool
  | escaped, [] => !escaped
  | true, _ :: rest => isContained false rest
  | false, byte :: rest =>
      if byte = 0x5c then isContained true rest else byte ≠ 0x22 && isContained false rest

theorem unescape_plain {byte : UInt8} (plain : 0x20 ≤ byte ∧ byte ≠ 0x22 ∧ byte ≠ 0x5c)
    (rest : List UInt8) :
    unescape (byte :: rest) = (unescape rest).map fun bytes => byte :: bytes := by
  have visible : ¬ (byte < 0x20 ∨ byte = 0x22) := by simp [plain.1, plain.2.1]
  simp [unescape, unescapeFrom, readByte, plain.2.2, visible]

theorem unescape_short {code byte : UInt8} (short : shortEscape code = some byte)
    (rest : List UInt8) :
    unescape (0x5c :: code :: rest) = (unescape rest).map fun bytes => byte :: bytes := by
  have noUnit : code ≠ 0x75 := by
    rintro rfl
    simp [shortEscape] at short
  simp [unescape, unescapeFrom, readByte, noUnit, short, Function.comp_def]

theorem unescape_control {byte : UInt8} (control : byte < 0x20) (rest : List UInt8) :
    unescape (byte :: rest) = none := by
  have noSlash : byte ≠ 0x5c := by
    rintro rfl
    exact absurd control (by decide)
  simp [unescape, unescapeFrom, readByte, noSlash, control]

def Escape.isSlash : Escape → Bool
  | .slash _ => true
  | _ => false

theorem isSlash_of_readUnit {high : Option Nat} {unit : Nat} {next : Escape}
    {bytes : List UInt8} (read : readUnit high unit = some (next, bytes)) :
    next.isSlash = false := by
  cases high with
  | none =>
      simp only [readUnit] at read
      split at read
      · cases read
        rfl
      · split at read
        · simp at read
        · cases read
          rfl
  | some high =>
      simp only [readUnit] at read
      split at read
      · cases read
        rfl
      · simp at read

theorem isContained_of_readByte {byte : UInt8} {escape next : Escape} {bytes rest : List UInt8}
    (read : readByte byte escape = some (next, bytes))
    (contained : isContained next.isSlash rest = true) :
    isContained escape.isSlash (byte :: rest) = true := by
  cases escape with
  | plain =>
      simp only [readByte] at read
      split at read
      · rename_i slash
        cases read
        simpa [isContained, Escape.isSlash, slash] using contained
      · split at read
        · simp at read
        · rename_i noSlash visible
          rw [not_or] at visible
          cases read
          simpa [isContained, Escape.isSlash, noSlash, visible.2] using contained
  | half high =>
      simp only [readByte] at read
      split at read
      · rename_i slash
        cases read
        simpa [isContained, Escape.isSlash, slash] using contained
      · simp at read
  | slash high =>
      simp only [readByte] at read
      split at read
      · cases read
        exact contained
      · split at read
        · simp at read
        · obtain ⟨character, _, same⟩ := Option.map_eq_some_iff.mp read
          cases same
          exact contained
  | unit high digits =>
      obtain ⟨digit, hex, read⟩ := Option.bind_eq_some_iff.mp read
      have outside : byte ≠ 0x5c ∧ byte ≠ 0x22 := by
        constructor
        · rintro rfl
          simp [hexDigit, isDigit] at hex
        · rintro rfl
          simp [hexDigit, isDigit] at hex
      have closed : next.isSlash = false := by
        split at read
        · cases read
          rfl
        · exact isSlash_of_readUnit read
      rw [closed] at contained
      simpa [isContained, Escape.isSlash, outside] using contained

theorem isContained_of_unescapeFrom {escape : Escape} {raw bytes : List UInt8}
    (read : unescapeFrom escape raw = some bytes) : isContained escape.isSlash raw = true := by
  induction raw generalizing escape bytes with
  | nil => cases escape <;> simp_all [unescapeFrom, isContained, Escape.isSlash]
  | cons byte rest ih =>
      simp only [unescapeFrom, Option.bind_eq_some_iff, Option.map_eq_some_iff] at read
      obtain ⟨next, first, bytes, later, _⟩ := read
      exact isContained_of_readByte first (ih later)

theorem isContained_of_decodeText {raw : List UInt8} {text : String}
    (decoded : decodeText raw = some text) : isContained false raw = true := by
  obtain ⟨bytes, read, _⟩ := Option.bind_eq_some_iff.mp decoded
  exact isContained_of_unescapeFrom read

theorem not_infix_of_isContained {byte : UInt8} (other : byte ≠ 0x5c) {escaped : Bool}
    {raw : List UInt8} (contained : isContained escaped raw = true) :
    ¬ [byte, 0x22] <:+: raw := by
  induction raw generalizing escaped with
  | nil => simp
  | cons first raw ih =>
      rw [List.infix_cons_iff, not_or]
      have later : ∃ next, isContained next raw = true ∧ (first ≠ 0x5c → next = false) := by
        cases escaped with
        | true => exact ⟨false, contained, fun _ => rfl⟩
        | false =>
            rw [isContained] at contained
            split at contained
            · rename_i slash
              exact ⟨true, contained, fun noSlash => absurd slash noSlash⟩
            · rw [Bool.and_eq_true] at contained
              exact ⟨false, contained.2, fun _ => rfl⟩
      obtain ⟨next, inside, plain⟩ := later
      refine ⟨fun begins => ?_, ih inside⟩
      obtain ⟨rfl, quote⟩ := List.cons_prefix_cons.mp begins
      obtain ⟨rest, rfl⟩ := quote
      rw [plain other] at inside
      simp [isContained] at inside

end Foundation.JsonText
