import Iq9Pipeline.Foundation.JsonWriter

/-!
Texts that end at their first NUL byte. In what a writer prints, such a byte stands inside
a string; the cut leaves the string open, and a string with that byte is no string anyway.
-/

namespace Foundation.JsonText

theorem scanFrom_open {escaped : Bool} {raw more : List UInt8}
    (contained : isContained escaped (raw ++ more) = true) (read : List UInt8) :
    scanFrom (if escaped then .escaped read else .text read) raw = none := by
  obtain ⟨after, _, scanned⟩ := scanFrom_contained contained read []
  rw [List.append_nil] at scanned
  rw [scanned]
  cases after <;> rfl

theorem Spaced.before {rest tail raw : List UInt8} {before after : List Piece}
    (spaced : Spaced rest (before ++ .string raw :: after)) : Spaced (0x22 :: tail) before := by
  induction before with
  | nil => trivial
  | cons piece before ih =>
      obtain ⟨proper, closes, spaced⟩ := spaced
      refine ⟨proper, fun word => ?_, ih spaced⟩
      have next := closes word
      cases text : spell before with
      | nil =>
          intro byte head
          simp only [List.nil_append, List.head?_cons, Option.mem_some_iff] at head
          rw [← head]
          rfl
      | cons first more =>
          have split : spell (before ++ .string raw :: after) =
              first :: (more ++ spell (.string raw :: after)) := by
            rw [Tree.spell_append, text, List.cons_append]
          have same : Closes (spell (before ++ .string raw :: after) ++ rest) := next
          rw [split] at same
          exact same

theorem scanFrom_cut {rest raw more : List UInt8} {before after : List Piece}
    (spaced : Spaced rest (before ++ .string (raw ++ more) :: after))
    (contained : isContained false (raw ++ more) = true) :
    scanFrom .between (spell before ++ 0x22 :: raw) = none := by
  have opened : scanFrom (.text []) raw = none := @scanFrom_open false _ _ contained []
  have outside : enter 0x22 = (.text [], []) := rfl
  rw [scanFrom_spell spaced.before]
  simp [scanFrom, scanByte, outside, opened]

theorem takeWhile_of_notMem {bytes more : List UInt8} (absent : 0 ∉ bytes) :
    (bytes ++ more).takeWhile (fun byte => byte ≠ 0) =
      bytes ++ more.takeWhile fun byte => byte ≠ 0 := by
  refine List.takeWhile_append_of_pos fun byte member => ?_
  rw [decide_eq_true_eq]
  exact fun zero => absent (zero ▸ member)

theorem takeWhile_spell {pieces : List Piece}
    (plain : ∀ piece ∈ pieces, (∀ raw, piece ≠ .string raw) → 0 ∉ piece.spelling) :
    0 ∉ spell pieces ∨ ∃ before raw more after,
      pieces = before ++ .string (raw ++ 0 :: more) :: after ∧
        (spell pieces).takeWhile (fun byte => byte ≠ 0) = spell before ++ 0x22 :: raw := by
  induction pieces with
  | nil => exact Or.inl List.not_mem_nil
  | cons piece pieces ih =>
      rw [List.forall_mem_cons] at plain
      by_cases here : 0 ∈ piece.spelling
      · right
        by_cases other : ∀ raw, piece ≠ .string raw
        · exact absurd here (plain.1 other)
        · push Not at other
          obtain ⟨text, rfl⟩ := other
          have inside : 0 ∈ text := by simpa [Piece.spelling] using here
          obtain ⟨raw, more, rfl, first⟩ := List.eq_append_cons_of_mem inside
          have opening : spell (.string (raw ++ 0 :: more) :: pieces) =
              (0x22 :: raw) ++ 0 :: (more ++ 0x22 :: spell pieces) := by
            simp [Piece.spelling]
          refine ⟨[], raw, more, pieces, rfl, ?_⟩
          rw [opening, takeWhile_of_notMem (by simpa using first)]
          simp
      · rcases ih plain.2 with absent | ⟨before, raw, more, after, rfl, cut⟩
        · left
          rw [Tree.spell_cons, List.mem_append]
          exact fun member => member.elim here absent
        · right
          refine ⟨piece :: before, raw, more, after, rfl, ?_⟩
          rw [Tree.spell_cons, takeWhile_of_notMem here, cut, Tree.spell_cons, List.append_assoc]

theorem unescapeFrom_nul (escape : Escape) (raw more : List UInt8) :
    unescapeFrom escape (raw ++ 0 :: more) = none := by
  induction raw generalizing escape with
  | nil =>
      cases escape with
      | plain => simp [unescapeFrom, readByte]
      | half high => simp [unescapeFrom, readByte]
      | slash high => simp [unescapeFrom, readByte, shortEscape]
      | unit high digits => simp [unescapeFrom, readByte, hexDigit, isDigit]
  | cons byte raw ih => cases escape <;> simp [unescapeFrom, ih]

theorem mapM_check_eq_none {before after : List Piece} {raw more : List UInt8} :
    (before ++ .string (raw ++ 0 :: more) :: after).mapM Piece.check = none := by
  have unread : Piece.check (.string (raw ++ 0 :: more)) = none := by
    simp [Piece.check, decodeText, unescape, unescapeFrom_nul]
  rw [List.mapM_append, List.mapM_cons, unread]
  cases before.mapM Piece.check <;> rfl

/-- The cut at the first NUL byte does not change what a text denotes. -/
theorem lex_takeWhile_text {draft : Draft} (proper : draft.Proper)
    (plain : ∀ piece ∈ draft.symbols, (∀ raw, piece ≠ .string raw) → 0 ∉ Piece.spelling piece) :
    lex (draft.text.takeWhile fun byte => byte ≠ 0) = lex draft.text := by
  have spaced : Spaced [] (draft.symbols ++ []) :=
    Tree.spaced_symbols draft [] proper (by simp [Closes]) trivial
  rw [List.append_nil] at spaced
  have scanned := scanFrom_spell spaced
  rw [List.append_nil] at scanned
  rcases takeWhile_spell plain with absent | ⟨before, raw, more, after, split, cut⟩
  · have whole := @takeWhile_of_notMem (spell draft.symbols) [] absent
    rw [List.append_nil, List.takeWhile_nil, List.append_nil] at whole
    rw [Tree.text, whole]
  · have contained : isContained false (raw ++ 0 :: more) = true := by
      have member : Symbol.string (raw ++ 0 :: more) ∈ draft.symbols := by
        rw [split]
        simp
      exact proper _ member
    rw [split] at spaced scanned
    rw [Tree.text, cut, lex, scanFrom_cut spaced contained, split, lex, scanned]
    simp only [scanFrom, Option.map_some, List.append_nil, Option.bind_some, Option.bind_none]
    rw [mapM_check_eq_none]

end Foundation.JsonText
