import Iq9Pipeline.Foundation.JsonWriter
import Mathlib.Data.List.Forall2

/-!
Texts put one behind another: a text is read to its end before what follows it, as long as
a delimiter follows. So texts of values between commas are read as the list of the values.
-/

namespace Foundation.JsonText

theorem scanFrom_append {scan : Scan} {text rest : List UInt8} {pieces : List Piece}
    (scanned : scanFrom scan text = some pieces) (closes : Closes rest) :
    scanFrom scan (text ++ rest) = (scanFrom .between rest).map fun more => pieces ++ more := by
  induction text generalizing scan pieces with
  | nil =>
      cases scan with
      | between =>
          obtain rfl : [] = pieces := by simpa [scanFrom] using scanned
          simp
      | word read =>
          obtain rfl : [readWord read] = pieces := by simpa [scanFrom] using scanned
          cases rest with
          | nil => simp [scanFrom]
          | cons byte rest =>
              have delimiter : isDelimiter byte = true := closes byte rfl
              simp [scanFrom, scanByte, delimiter, Function.comp_def]
      | text read => simp [scanFrom] at scanned
      | escaped read => simp [scanFrom] at scanned
  | cons byte text ih =>
      rw [scanFrom] at scanned
      obtain ⟨later, found, rfl⟩ := Option.map_eq_some_iff.mp scanned
      rw [List.cons_append, scanFrom, ih found, Option.map_map]
      simp [Function.comp_def]

theorem lex_append {text rest : List UInt8} {tokens : List Token} (lexed : lex text = some tokens)
    (closes : Closes rest) : lex (text ++ rest) = (lex rest).map fun more => tokens ++ more := by
  obtain ⟨pieces, scanned, checked⟩ := Option.bind_eq_some_iff.mp lexed
  rw [lex, scanFrom_append scanned closes, lex]
  cases scanFrom .between rest with
  | none => rfl
  | some more =>
      simp only [Option.map_some, Option.bind_some, List.mapM_append, checked]
      cases more.mapM Piece.check <;> rfl

theorem lex_mark (mark : Mark) (rest : List UInt8) :
    lex (mark.byte :: rest) = (lex rest).map fun more => .mark mark :: more := by
  rw [lex, scanFrom_mark, lex]
  cases scanFrom .between rest with
  | none => rfl
  | some pieces =>
      simp only [Option.map_some, Option.bind_some, List.mapM_cons, Piece.check]
      cases pieces.mapM Piece.check <;> rfl

theorem lex_commas {texts : List (List UInt8)} {values : List Value}
    (denoted : List.Forall₂ Denotes texts values) (mark : Mark) :
    lex (texts.flatMap (fun next => 0x2c :: next) ++ [mark.byte]) =
      some (values.flatMap (fun next => .mark .valueSeparator :: next.symbols) ++
        [.mark mark]) := by
  have closed (more : List (List UInt8)) :
      Closes (more.flatMap (fun next => 0x2c :: next) ++ [mark.byte]) := by
    cases more with
    | nil => exact closes_mark mark []
    | cons next more => exact closes_mark .valueSeparator _
  induction denoted with
  | nil =>
      simp only [List.flatMap_nil, List.nil_append]
      rw [lex_mark]
      rfl
  | cons first denoted ih =>
      simp only [List.flatMap_cons, List.cons_append, List.append_assoc]
      rw [show (0x2c : UInt8) = Mark.byte .valueSeparator from rfl, lex_mark,
        show Mark.byte .valueSeparator = (0x2c : UInt8) from rfl,
        lex_append first (closed _), ih]
      rfl

theorem elementSymbols_eq (values : List Value) :
    Tree.elementSymbols values =
      values.flatMap (fun next => .mark .valueSeparator :: next.symbols) ++ [.mark .endArray] := by
  induction values with
  | nil => rfl
  | cons next rest ih => simp [Tree.elementSymbols, ih]

theorem denotes_separated {texts : List (List UInt8)} {values : List Value}
    (denoted : List.Forall₂ Denotes texts values) :
    Denotes (0x5b :: (Tree.separated texts ++ [0x5d])) (.array values) := by
  rw [Denotes, show (0x5b : UInt8) = Mark.byte .beginArray from rfl, lex_mark]
  cases denoted with
  | nil => rfl
  | @cons text value texts values first rest =>
      have commas := lex_commas rest .endArray
      have closed : Closes (texts.flatMap (fun next => 0x2c :: next) ++ [Mark.byte .endArray]) := by
        cases texts with
        | nil => exact closes_mark .endArray []
        | cons next more => exact closes_mark .valueSeparator _
      rw [Tree.separated, List.append_assoc, show (0x5d : UInt8) = Mark.byte .endArray from rfl,
        lex_append first closed, commas]
      simp [Tree.symbols, elementSymbols_eq]

theorem symbols_object (members : List (String × Value)) :
    ∃ more, Tree.symbols (.object members) = .mark .beginObject :: more := by
  rcases members with _ | ⟨⟨name, value⟩, rest⟩ <;> exact ⟨_, rfl⟩

theorem symbols_ne_nested (value : Value) (more : List Token) :
    value.symbols ≠ .mark .beginObject :: .mark .beginObject :: more := by
  cases value with
  | array elements => cases elements <;> simp [Tree.symbols]
  | object members => rcases members with _ | ⟨⟨name, value⟩, rest⟩ <;> simp [Tree.symbols]
  | _ => simp [Tree.symbols]

/-- Nothing that starts with two opened objects is a text of a value. -/
theorem not_denotes_of_nested {text rest : List UInt8} {members : List (String × Value)}
    (inner : Denotes text (.object members)) (closes : Closes rest) (value : Value) :
    ¬ Denotes (0x7b :: (text ++ rest)) value := by
  rw [Denotes, show (0x7b : UInt8) = Mark.byte .beginObject from rfl, lex_mark,
    lex_append inner closes]
  intro whole
  obtain ⟨tokens, nested, same⟩ := Option.map_eq_some_iff.mp whole
  obtain ⟨later, _, rfl⟩ := Option.map_eq_some_iff.mp nested
  obtain ⟨more, head⟩ := symbols_object members
  rw [head] at same
  exact symbols_ne_nested value _ same.symm

end Foundation.JsonText
