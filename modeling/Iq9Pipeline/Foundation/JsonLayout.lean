import Iq9Pipeline.Foundation.JsonText

/-!
Blanks between the pieces of a text: the scanner does not see them. A generator that breaks
lines and indents writes a text of the same value.
-/

namespace Foundation.JsonText

def spellLaid (laid : List (List UInt8 × Piece)) : List UInt8 :=
  laid.flatMap fun item => item.1 ++ item.2.spelling

theorem scanFrom_blanks {gap : List UInt8} (blank : ∀ byte ∈ gap, isBlank byte = true)
    (rest : List UInt8) : scanFrom .between (gap ++ rest) = scanFrom .between rest := by
  induction gap with
  | nil => rfl
  | cons byte gap ih =>
      rw [List.forall_mem_cons] at blank
      have entered : enter byte = (.between, []) := by rw [enter, if_pos blank.1]
      rw [List.cons_append, scanFrom, scanByte, entered, ih blank.2]
      simp

theorem isDelimiter_of_isBlank {byte : UInt8} (blank : isBlank byte = true) :
    isDelimiter byte = true := by
  rw [isDelimiter, blank, Bool.true_or, Bool.true_or]

theorem spelling_ne_nil {piece : Piece} (proper : piece.Proper) : piece.spelling ≠ [] := by
  cases piece with
  | mark kind => exact List.cons_ne_nil _ _
  | null => decide
  | boolean value => cases value <;> decide
  | number word => exact proper.1
  | string raw => exact List.cons_ne_nil _ _

theorem closes_spellLaid {laid : List (List UInt8 × Piece)}
    (blank : ∀ item ∈ laid, ∀ byte ∈ item.1, isBlank byte = true)
    (spaced : Spaced [] (laid.map Prod.snd)) (closes : Closes (spell (laid.map Prod.snd))) :
    Closes (spellLaid laid) := by
  cases laid with
  | nil => exact closes
  | cons item laid =>
      obtain ⟨gap, piece⟩ := item
      rw [List.forall_mem_cons] at blank
      cases gap with
      | nil =>
          obtain ⟨first, more, spelled⟩ := List.exists_cons_of_ne_nil (spelling_ne_nil spaced.1)
          intro byte head
          apply closes byte
          simpa [spell, spellLaid, spelled] using head
      | cons first gap =>
          intro byte head
          obtain rfl : first = byte := by simpa [spellLaid] using head
          exact isDelimiter_of_isBlank (blank.1 first List.mem_cons_self)

theorem scanFrom_spellLaid {laid : List (List UInt8 × Piece)}
    (blank : ∀ item ∈ laid, ∀ byte ∈ item.1, isBlank byte = true)
    (spaced : Spaced [] (laid.map Prod.snd)) :
    scanFrom .between (spellLaid laid) = some (laid.map Prod.snd) := by
  induction laid with
  | nil => rfl
  | cons item laid ih =>
      rw [List.forall_mem_cons] at blank
      obtain ⟨proper, closes, rest⟩ := spaced
      have split : spellLaid (item :: laid) =
          item.1 ++ (item.2.spelling ++ spellLaid laid) := by
        simp [spellLaid]
      rw [split, scanFrom_blanks blank.1, scanFrom_spelling proper, ih blank.2 rest]
      · rfl
      · intro word
        have ends := closes word
        rw [List.append_nil] at ends
        exact closes_spellLaid blank.2 rest ends

namespace Tree

/-- What is laid out with blanks between its pieces is read as what is written without. -/
theorem lex_spellLaid {draft : Draft} (proper : draft.Proper)
    {laid : List (List UInt8 × Piece)} (pieces : laid.map Prod.snd = draft.symbols)
    (blank : ∀ item ∈ laid, ∀ byte ∈ item.1, isBlank byte = true) :
    lex (spellLaid laid) = lex (spell draft.symbols) := by
  have spaced : Spaced [] (draft.symbols ++ []) :=
    spaced_symbols draft [] proper (by simp [Closes, spell]) trivial
  have scanned := scanFrom_spell spaced
  rw [List.append_nil] at spaced
  rw [List.append_nil, List.append_nil] at scanned
  rw [lex, lex, scanFrom_spellLaid blank (pieces ▸ spaced), scanned, pieces]
  simp [scanFrom]

end Tree

def newline (depth : Nat) : List UInt8 :=
  0x0a :: List.replicate (4 * depth) 0x20

def gapBefore (depth : Nat) : Option Mark → Piece → List UInt8
  | some .beginArray, .mark .endArray => []
  | some .beginObject, .mark .endObject => newline (depth - 1)
  | _, .mark .endArray => newline (depth - 1)
  | _, .mark .endObject => newline (depth - 1)
  | _, .mark .nameSeparator => [0x20]
  | some .nameSeparator, _ => [0x20]
  | some .beginArray, _ => newline depth
  | some .beginObject, _ => newline depth
  | some .valueSeparator, _ => newline depth
  | _, _ => []

def depthBehind (depth : Nat) : Piece → Nat
  | .mark .beginArray => depth + 1
  | .mark .beginObject => depth + 1
  | .mark .endArray => depth - 1
  | .mark .endObject => depth - 1
  | _ => depth

def markOfPiece : Piece → Option Mark
  | .mark kind => some kind
  | _ => none

def layOut (depth : Nat) (before : Option Mark) : List Piece → List (List UInt8 × Piece)
  | [] => []
  | piece :: rest =>
      (gapBefore depth before piece, piece) ::
        layOut (depthBehind depth piece) (markOfPiece piece) rest

theorem map_snd_layOut (depth : Nat) (before : Option Mark) (pieces : List Piece) :
    (layOut depth before pieces).map Prod.snd = pieces := by
  induction pieces generalizing depth before with
  | nil => rfl
  | cons piece rest ih => rw [layOut, List.map_cons, ih]

theorem isBlank_newline {depth : Nat} {byte : UInt8} (member : byte ∈ newline depth) :
    isBlank byte = true := by
  rcases List.mem_cons.mp member with rfl | space
  · decide
  · rw [List.eq_of_mem_replicate space]
    decide

theorem isBlank_gapBefore {depth : Nat} {before : Option Mark} {piece : Piece} {byte : UInt8}
    (member : byte ∈ gapBefore depth before piece) : isBlank byte = true := by
  unfold gapBefore at member
  split at member <;> first | exact isBlank_newline member | simp at member
  all_goals
    subst member
    decide

theorem isBlank_layOut {depth : Nat} {before : Option Mark} {pieces : List Piece}
    {item : List UInt8 × Piece} (listed : item ∈ layOut depth before pieces) {byte : UInt8}
    (member : byte ∈ item.1) : isBlank byte = true := by
  induction pieces generalizing depth before with
  | nil => cases listed
  | cons piece rest ih =>
      rcases List.mem_cons.mp listed with rfl | later
      · exact isBlank_gapBefore member
      · exact ih later

/-- Every member and every element on a line of its own, indented by four blanks. -/
def Tree.pretty (draft : Draft) : List UInt8 :=
  spellLaid (layOut 0 none draft.symbols)

theorem Tree.lex_pretty {draft : Draft} (proper : draft.Proper) :
    lex draft.pretty = lex (spell draft.symbols) :=
  lex_spellLaid proper (map_snd_layOut _ _ _) fun _ listed _ member => isBlank_layOut listed member

end Foundation.JsonText
