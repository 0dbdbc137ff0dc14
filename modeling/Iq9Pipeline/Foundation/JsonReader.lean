import Iq9Pipeline.Foundation.JsonText

/-!
A reader of JSON texts, which accepts exactly the texts that denote a value and returns
that value. In particular a text denotes at most one value.
-/

namespace Foundation.JsonText

variable {Word Text : Type}

mutual

def readTree : Nat → List (Symbol Word Text) → Option (Tree Word Text × List (Symbol Word Text))
  | 0, _ => none
  | _ + 1, .null :: rest => some (.null, rest)
  | _ + 1, .boolean value :: rest => some (.boolean value, rest)
  | _ + 1, .number word :: rest => some (.number word, rest)
  | _ + 1, .string text :: rest => some (.string text, rest)
  | _ + 1, .mark .beginArray :: .mark .endArray :: rest => some (.array [], rest)
  | fuel + 1, .mark .beginArray :: rest =>
      (readTree fuel rest).bind fun first =>
        (readElements fuel first.2).map fun more => (.array (first.1 :: more.1), more.2)
  | _ + 1, .mark .beginObject :: .mark .endObject :: rest => some (.object [], rest)
  | fuel + 1, .mark .beginObject :: .string name :: .mark .nameSeparator :: rest =>
      (readTree fuel rest).bind fun first =>
        (readMembers fuel first.2).map fun more => (.object ((name, first.1) :: more.1), more.2)
  | _ + 1, _ => none

def readElements : Nat → List (Symbol Word Text) →
    Option (List (Tree Word Text) × List (Symbol Word Text))
  | 0, _ => none
  | _ + 1, .mark .endArray :: rest => some ([], rest)
  | fuel + 1, .mark .valueSeparator :: rest =>
      (readTree fuel rest).bind fun next =>
        (readElements fuel next.2).map fun more => (next.1 :: more.1, more.2)
  | _ + 1, _ => none

def readMembers : Nat → List (Symbol Word Text) →
    Option (List (Text × Tree Word Text) × List (Symbol Word Text))
  | 0, _ => none
  | _ + 1, .mark .endObject :: rest => some ([], rest)
  | fuel + 1, .mark .valueSeparator :: .string name :: .mark .nameSeparator :: rest =>
      (readTree fuel rest).bind fun next =>
        (readMembers fuel next.2).map fun more => ((name, next.1) :: more.1, more.2)
  | _ + 1, _ => none

end

def readSymbols (symbols : List (Symbol Word Text)) : Option (Tree Word Text) :=
  match readTree symbols.length symbols with
  | some (tree, []) => some tree
  | _ => none

def read (text : List UInt8) : Option Value :=
  (lex text).bind readSymbols

theorem symbols_eq_cons (tree : Tree Word Text) :
    ∃ head more, tree.symbols = head :: more ∧ head ≠ .mark .endArray := by
  cases tree with
  | null => exact ⟨_, _, rfl, nofun⟩
  | boolean value => exact ⟨_, _, rfl, nofun⟩
  | number word => exact ⟨_, _, rfl, nofun⟩
  | string text => exact ⟨_, _, rfl, nofun⟩
  | array elements => cases elements <;> exact ⟨_, _, rfl, nofun⟩
  | object members => cases members <;> exact ⟨_, _, rfl, nofun⟩

theorem readTree_array {head : Symbol Word Text} (other : head ≠ .mark .endArray) (fuel : Nat)
    (symbols : List (Symbol Word Text)) :
    readTree (fuel + 1) (.mark .beginArray :: head :: symbols) =
      (readTree fuel (head :: symbols)).bind fun first =>
        (readElements fuel first.2).map fun more => (.array (first.1 :: more.1), more.2) := by
  rw [readTree]
  intro rest same
  exact other (List.cons.inj same).1

/-- With enough fuel the reader takes a tree's symbols off whatever follows them. -/
theorem readTree_symbols (fuel : Nat) :
    (∀ (tree : Tree Word Text) rest, tree.symbols.length ≤ fuel →
      readTree fuel (tree.symbols ++ rest) = some (tree, rest)) ∧
    (∀ (elements : List (Tree Word Text)) rest,
      (Tree.elementSymbols elements).length ≤ fuel →
        readElements fuel (Tree.elementSymbols elements ++ rest) = some (elements, rest)) ∧
    (∀ (members : List (Text × Tree Word Text)) rest,
      (Tree.memberSymbols members).length ≤ fuel →
        readMembers fuel (Tree.memberSymbols members ++ rest) = some (members, rest)) := by
  induction fuel with
  | zero =>
      refine ⟨?_, ?_, ?_⟩
      · intro tree rest bound
        obtain ⟨head, more, split, _⟩ := symbols_eq_cons tree
        simp [split] at bound
      · intro elements rest bound
        cases elements <;> simp [Tree.elementSymbols] at bound
      · intro members rest bound
        cases members <;> simp [Tree.memberSymbols] at bound
  | succ fuel ih =>
      obtain ⟨onTree, onElements, onMembers⟩ := ih
      refine ⟨?_, ?_, ?_⟩
      · intro tree rest bound
        cases tree with
        | null => rfl
        | boolean value => rfl
        | number word => rfl
        | string text => rfl
        | array elements =>
            cases elements with
            | nil => rfl
            | cons first elements =>
                simp only [Tree.symbols, List.length_cons, List.length_append] at bound
                have read := onTree first (Tree.elementSymbols elements ++ rest) (by omega)
                obtain ⟨head, more, split, other⟩ := symbols_eq_cons first
                rw [split, List.cons_append] at read
                simp only [Tree.symbols, split, List.cons_append, List.append_assoc]
                rw [readTree_array other, read]
                simp only [onElements elements rest (by omega), Option.bind_some, Option.map_some]
        | object members =>
            cases members with
            | nil => rfl
            | cons member members =>
                obtain ⟨name, value⟩ := member
                simp only [Tree.symbols, List.length_cons, List.length_append] at bound
                simp only [Tree.symbols, List.cons_append, List.append_assoc, readTree,
                  onTree value _ (by omega), onMembers members rest (by omega), Option.bind_some,
                  Option.map_some]
      · intro elements rest bound
        cases elements with
        | nil => rfl
        | cons next elements =>
            simp only [Tree.elementSymbols, List.length_cons, List.length_append] at bound
            simp only [Tree.elementSymbols, List.cons_append, List.append_assoc, readElements,
              onTree next _ (by omega), onElements elements rest (by omega), Option.bind_some,
              Option.map_some]
      · intro members rest bound
        cases members with
        | nil => rfl
        | cons member members =>
            obtain ⟨name, value⟩ := member
            simp only [Tree.memberSymbols, List.length_cons, List.length_append] at bound
            simp only [Tree.memberSymbols, List.cons_append, List.append_assoc, readMembers,
              onTree value _ (by omega), onMembers members rest (by omega), Option.bind_some,
              Option.map_some]

theorem symbols_of_readTree (fuel : Nat) :
    (∀ (symbols : List (Symbol Word Text)) tree rest,
      readTree fuel symbols = some (tree, rest) → symbols = tree.symbols ++ rest) ∧
    (∀ (symbols : List (Symbol Word Text)) elements rest,
      readElements fuel symbols = some (elements, rest) →
        symbols = Tree.elementSymbols elements ++ rest) ∧
    (∀ (symbols : List (Symbol Word Text)) members rest,
      readMembers fuel symbols = some (members, rest) →
        symbols = Tree.memberSymbols members ++ rest) := by
  induction fuel with
  | zero => exact ⟨nofun, nofun, nofun⟩
  | succ fuel ih =>
      obtain ⟨onTree, onElements, onMembers⟩ := ih
      refine ⟨?_, ?_, ?_⟩
      · intro symbols tree rest read
        unfold readTree at read
        split at read
        · simp at read
        · cases read
          rfl
        · cases read
          rfl
        · cases read
          rfl
        · cases read
          rfl
        · cases read
          rfl
        · rename_i other same
          cases same
          obtain ⟨first, one, read⟩ := Option.bind_eq_some_iff.mp read
          obtain ⟨more, others, same⟩ := Option.map_eq_some_iff.mp read
          cases same
          rw [onTree _ _ _ one, onElements _ _ _ others]
          simp [Tree.symbols]
        · cases read
          rfl
        · rename_i same
          cases same
          obtain ⟨first, one, read⟩ := Option.bind_eq_some_iff.mp read
          obtain ⟨more, others, same⟩ := Option.map_eq_some_iff.mp read
          cases same
          rw [onTree _ _ _ one, onMembers _ _ _ others]
          simp [Tree.symbols]
        · simp at read
      · intro symbols elements rest read
        unfold readElements at read
        split at read
        · simp at read
        · cases read
          rfl
        · rename_i same
          cases same
          obtain ⟨next, one, read⟩ := Option.bind_eq_some_iff.mp read
          obtain ⟨more, others, same⟩ := Option.map_eq_some_iff.mp read
          cases same
          rw [onTree _ _ _ one, onElements _ _ _ others]
          simp [Tree.elementSymbols]
        · simp at read
      · intro symbols members rest read
        unfold readMembers at read
        split at read
        · simp at read
        · cases read
          rfl
        · rename_i same
          cases same
          obtain ⟨next, one, read⟩ := Option.bind_eq_some_iff.mp read
          obtain ⟨more, others, same⟩ := Option.map_eq_some_iff.mp read
          cases same
          rw [onTree _ _ _ one, onMembers _ _ _ others]
          simp [Tree.memberSymbols]
        · simp at read

theorem readSymbols_eq_some_iff {symbols : List (Symbol Word Text)} {tree : Tree Word Text} :
    readSymbols symbols = some tree ↔ symbols = tree.symbols := by
  rw [readSymbols]
  constructor
  · intro read
    split at read
    · rename_i found whole
      rw [Option.some.injEq] at read
      rw [read] at whole
      rw [(symbols_of_readTree _).1 _ _ _ whole, List.append_nil]
    · simp at read
  · rintro rfl
    have whole := (readTree_symbols tree.symbols.length).1 tree [] (Nat.le_refl _)
    rw [List.append_nil] at whole
    rw [whole]

theorem Tree.symbols_injective {first second : Tree Word Text}
    (same : first.symbols = second.symbols) : first = second := by
  have read := readSymbols_eq_some_iff.mpr same
  rw [readSymbols_eq_some_iff.mpr rfl, Option.some.injEq] at read
  exact read

theorem read_eq_some_iff {text : List UInt8} {value : Value} :
    read text = some value ↔ Denotes text value := by
  rw [read, Denotes, Option.bind_eq_some_iff]
  constructor
  · rintro ⟨tokens, lexed, tree⟩
    rw [lexed, readSymbols_eq_some_iff.mp tree]
  · intro lexed
    exact ⟨_, lexed, readSymbols_eq_some_iff.mpr rfl⟩

theorem Denotes.unique {text : List UInt8} {first second : Value} (denotes : Denotes text first)
    (denotes' : Denotes text second) : first = second := by
  rw [← read_eq_some_iff] at denotes denotes'
  exact Option.some.inj (denotes.symm.trans denotes')

/-- A draft is a text of a value exactly when its words and strings are valid. -/
theorem denotes_spell_iff {draft : Draft} (proper : draft.Proper) {value : Value} :
    Denotes (spell draft.symbols) value ↔ draft.check = some value := by
  rw [Denotes, Tree.lex_spell proper, Option.map_eq_some_iff]
  constructor
  · rintro ⟨found, checked, same⟩
    rw [checked, Tree.symbols_injective same]
  · intro checked
    exact ⟨value, checked, rfl⟩

end Foundation.JsonText
