import Iq9Pipeline.Foundation.Replacement
import Mathlib.Logic.Function.Basic

/-!
Templates with placeholders of several kinds, each spelled by a marker. Filling them all at
once leaves no marker where no fill meets it, and then the loop of replacements fills the
placeholders of one kind.
-/

namespace Foundation.Replacement

inductive Token (Kind Symbol : Type*)
  | placeholder (kind : Kind)
  | symbol (symbol : Symbol)
deriving DecidableEq

variable {Kind Symbol : Type*}

def Token.text (fill : Kind → List Symbol) : Token Kind Symbol → List Symbol
  | .placeholder kind => fill kind
  | .symbol letter => [letter]

def render (fill : Kind → List Symbol) (tokens : List (Token Kind Symbol)) : List Symbol :=
  tokens.flatMap (Token.text fill)

section

variable [BEq Symbol] (marker : Kind → List Symbol) (kinds : List Kind)

/-- The markers of a text from the front; the symbols of the last marker are skipped. -/
def tokens : Nat → List Symbol → List (Token Kind Symbol)
  | _, [] => []
  | skip + 1, _ :: rest => tokens skip rest
  | 0, symbol :: rest =>
      match kinds.find? fun kind => (marker kind).isPrefixOf (symbol :: rest) with
      | some kind => .placeholder kind :: tokens ((marker kind).length - 1) rest
      | none => .symbol symbol :: tokens 0 rest

end

variable {fill : Kind → List Symbol} {pattern : List Symbol}

@[simp] theorem render_nil : render fill [] = [] :=
  rfl

@[simp] theorem render_placeholder (kind : Kind) (rest : List (Token Kind Symbol)) :
    render fill (.placeholder kind :: rest) = fill kind ++ render fill rest :=
  rfl

@[simp] theorem render_symbol (symbol : Symbol) (rest : List (Token Kind Symbol)) :
    render fill (.symbol symbol :: rest) = symbol :: render fill rest :=
  rfl

def Scanned (marker : Kind → List Symbol) : List (Token Kind Symbol) → Prop
  | [] => True
  | .placeholder _ :: rest => Scanned marker rest
  | .symbol symbol :: rest =>
      (∀ kind, ¬ marker kind <+: symbol :: render marker rest) ∧ Scanned marker rest

section

variable [BEq Symbol] [LawfulBEq Symbol] {marker : Kind → List Symbol} {kinds : List Kind}

theorem render_tokens (nonempty : ∀ kind, marker kind ≠ []) (skip : Nat) (text : List Symbol) :
    render marker (tokens marker kinds skip text) = text.drop skip := by
  induction text generalizing skip with
  | nil => simp [tokens]
  | cons symbol rest ih =>
      cases skip with
      | succ skip => rw [tokens, ih, List.drop_succ_cons]
      | zero =>
          rw [tokens, List.drop_zero]
          split
          · rename_i kind found
            have begins : marker kind <+: symbol :: rest :=
              by
              simpa using List.find?_some found
            have positive := List.length_pos_iff.mpr (nonempty kind)
            obtain ⟨after, split⟩ := begins
            rw [render_placeholder, ih]
            conv_rhs => rw [← split]
            congr 1
            have behind := congrArg (List.drop (marker kind).length) split
            rw [List.drop_left' rfl] at behind
            obtain ⟨length, same⟩ := Nat.exists_eq_add_one_of_ne_zero positive.ne'
            rw [same, List.drop_succ_cons] at behind
            rw [behind, same, Nat.add_sub_cancel]
          · rw [render_symbol, ih, List.drop_zero]

theorem scanned_tokens (nonempty : ∀ kind, marker kind ≠ []) (complete : ∀ kind, kind ∈ kinds)
    (skip : Nat) (text : List Symbol) : Scanned marker (tokens marker kinds skip text) := by
  induction text generalizing skip with
  | nil => trivial
  | cons symbol rest ih =>
      cases skip with
      | succ skip => exact ih skip
      | zero =>
          rw [tokens]
          split
          · exact ih _
          · rename_i unfound
            refine ⟨fun kind begins => ?_, ih 0⟩
            rw [render_tokens nonempty, List.drop_zero] at begins
            exact List.find?_eq_none.mp unfound kind (complete kind)
              (List.isPrefixOf_iff_prefix.mpr begins)

end

variable {marker : Kind → List Symbol}

theorem prefix_of_prefix_render (long : 2 ≤ pattern.length)
    (apart : ∀ kind, ¬ Meets pattern (fill kind)) {tokens : List (Token Kind Symbol)}
    {head tail : List Symbol} (split : pattern = head ++ tail)
    (begins : tail <+: render fill tokens) : tail <+: render marker tokens := by
  induction tokens generalizing head tail with
  | nil => exact begins
  | cons token tokens ih =>
      cases tail with
      | nil => exact List.nil_prefix
      | cons first tail =>
          cases token with
          | placeholder kind =>
              exact absurd begins
                (not_prefix_of_not_meets long (apart kind) split (List.cons_ne_nil _ _))
          | symbol symbol =>
              rw [render_symbol, List.cons_prefix_cons] at begins ⊢
              have further : pattern = (head ++ [first]) ++ tail := by simp [split]
              exact ⟨begins.1, ih further begins.2⟩

theorem not_infix_render (long : 2 ≤ pattern.length)
    (apart : ∀ kind, ¬ Meets pattern (fill kind)) {tokens : List (Token Kind Symbol)}
    (scanned : Scanned marker tokens) (marks : ∃ kind, marker kind = pattern) :
    ¬ pattern <:+: render fill tokens := by
  have nonempty : pattern ≠ [] := by
    rintro rfl
    simp at long
  induction tokens with
  | nil => exact fun found => nonempty (List.infix_nil.mp found)
  | cons token tokens ih =>
      cases token with
      | placeholder kind =>
          rw [render_placeholder, List.infix_append_iff_ne_nil]
          rintro (inside | later | ⟨head, tail, front, _, split, ends, _⟩)
          · exact not_infix_of_not_meets nonempty (apart kind) inside
          · exact ih scanned later
          · exact not_suffix_of_not_meets (apart kind) split front ends
      | symbol symbol =>
          rw [render_symbol, List.infix_cons_iff, not_or]
          refine ⟨fun begins => ?_, ih scanned.2⟩
          obtain ⟨kind, marks⟩ := marks
          obtain ⟨first, tail, whole⟩ := List.exists_cons_of_ne_nil nonempty
          apply scanned.1 kind
          have further : pattern = [first] ++ tail := whole
          rw [whole, List.cons_prefix_cons] at begins
          rw [marks, whole, List.cons_prefix_cons]
          exact ⟨begins.1, prefix_of_prefix_render long apart further begins.2⟩

variable [DecidableEq Kind] [DecidableEq Symbol] {insert : List Symbol}

/-- The loop fills the placeholders from the front: what it has done holds no pattern. -/
theorem replaceAll_render {kind : Kind} (borderless : Borderless (fill kind))
    {tokens : List (Token Kind Symbol)} {done : List Symbol}
    (free : ¬ fill kind <:+: done ++ render (Function.update fill kind insert) tokens) :
    ∃ fuel, replaceAll (fill kind) insert fuel (done ++ render fill tokens) =
      some (done ++ render (Function.update fill kind insert) tokens) := by
  induction tokens generalizing done with
  | nil => exact ⟨1, replaceAll_of_free free⟩
  | cons token tokens ih =>
      by_cases replaced : token = .placeholder kind
      · subst replaced
        rw [render_placeholder, Function.update_self, ← List.append_assoc] at free
        obtain ⟨fuel, ends⟩ := ih free
        have first : ¬ fill kind <:+: done := fun inside =>
          free (inside.trans ((List.prefix_append done insert).isInfix.trans
            (List.prefix_append _ _).isInfix))
        refine ⟨fuel + 1, ?_⟩
        rw [render_placeholder, render_placeholder, Function.update_self, ← List.append_assoc,
          ← List.append_assoc, replaceAll, dropInfix?_append (borderless.not_infix first)]
        exact ends
      · have same : token.text (Function.update fill kind insert) = token.text fill := by
          cases token with
          | symbol symbol => rfl
          | placeholder other =>
              have differs : other ≠ kind := fun same => replaced (same ▸ rfl)
              exact Function.update_of_ne differs insert fill
        rw [render, List.flatMap_cons, same, ← List.append_assoc] at free
        obtain ⟨fuel, ends⟩ := ih free
        refine ⟨fuel, ?_⟩
        rw [render, render, List.flatMap_cons, List.flatMap_cons, same, ← List.append_assoc,
          ← List.append_assoc]
        exact ends

end Foundation.Replacement
