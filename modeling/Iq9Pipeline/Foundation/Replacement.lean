import Mathlib.Data.List.Infix
import Mathlib.Data.Nat.Find

/-!
Replacing a pattern in a text, over and over from the front until none is left, and
filling the placeholders of a template all at once. The loop fills the placeholders when
the text that is wanted holds no pattern; that depends on whether what is inserted can
make a pattern with what stands around it. A pattern that is quoted is found where it stands
between two quotes of the text.
-/

namespace Foundation.Replacement

variable {Symbol : Type*}

theorem not_infix_of_notMem {pattern text : List Symbol} {symbol : Symbol}
    (member : symbol ∈ pattern) (absent : symbol ∉ text) : ¬ pattern <:+: text :=
  fun found => absent (found.subset member)

theorem infix_append_cons_iff {pattern first second : List Symbol} {stop : Symbol}
    (nonempty : pattern ≠ []) (other : stop ∉ pattern) :
    pattern <:+: first ++ stop :: second ↔ pattern <:+: first ∨ pattern <:+: second := by
  constructor
  · rw [List.infix_append_iff_ne_nil]
    rintro (inside | later | ⟨head, tail, _, rear, split, _, begins⟩)
    · exact .inl inside
    · rcases List.infix_cons_iff.mp later with begins | inside
      · obtain ⟨symbol, tail, rfl⟩ := List.exists_cons_of_ne_nil nonempty
        rw [(List.cons_prefix_cons.mp begins).1] at other
        exact absurd List.mem_cons_self other
      · exact .inr inside
    · obtain ⟨symbol, tail, rfl⟩ := List.exists_cons_of_ne_nil rear
      rw [(List.cons_prefix_cons.mp begins).1] at split
      exact absurd (by simp [split]) other
  · rintro (inside | inside)
    · exact inside.trans (List.prefix_append first _).isInfix
    · exact inside.trans ((List.suffix_cons stop second).trans (List.suffix_append first _)).isInfix

theorem infix_flatMap_cons_iff {pattern first : List Symbol} {stop : Symbol}
    (nonempty : pattern ≠ []) (other : stop ∉ pattern) (rest : List (List Symbol)) :
    pattern <:+: first ++ rest.flatMap (fun next => stop :: next) ↔
      ∃ item ∈ first :: rest, pattern <:+: item := by
  induction rest generalizing first with
  | nil => simp
  | cons next rest ih =>
      rw [List.flatMap_cons, List.cons_append, infix_append_cons_iff nonempty other, ih]
      simp

/-- No proper part of the pattern is at both ends of it. -/
def Borderless (pattern : List Symbol) : Prop :=
  ∀ part, part <+: pattern → part <:+ pattern → part = [] ∨ part = pattern

/-- A part of the pattern before the insert and one behind it may make the pattern again. -/
def Meets (pattern insert : List Symbol) : Prop :=
  ∃ before < pattern.length, ∃ behind < pattern.length,
    pattern <:+: pattern.take before ++ insert ++ pattern.drop (behind + 1)

instance [DecidableEq Symbol] (pattern insert : List Symbol) : Decidable (Meets pattern insert) :=
  inferInstanceAs (Decidable (∃ before < pattern.length, ∃ behind < pattern.length,
    pattern <:+: pattern.take before ++ insert ++ pattern.drop (behind + 1)))

theorem borderless_cons {first : Symbol} {rest : List Symbol} (once : first ∉ rest) :
    Borderless (first :: rest) := by
  intro part begins ends
  rcases List.suffix_cons_iff.mp ends with whole | inside
  · exact .inr whole
  · cases part with
    | nil => exact .inl rfl
    | cons symbol part =>
        rw [List.cons_prefix_cons] at begins
        exact absurd (inside.subset (begins.1 ▸ List.mem_cons_self)) once

section

variable {pattern insert : List Symbol}

theorem not_infix_of_not_meets (nonempty : pattern ≠ []) (apart : ¬ Meets pattern insert) :
    ¬ pattern <:+: insert := by
  intro inside
  have positive := List.length_pos_iff.mpr nonempty
  refine apart ⟨0, positive, pattern.length - 1, by omega, ?_⟩
  have all : pattern.length - 1 + 1 = pattern.length := by omega
  simpa [all] using inside

theorem not_prefix_of_not_meets (long : 2 ≤ pattern.length) (apart : ¬ Meets pattern insert)
    {head tail after : List Symbol} (split : pattern = head ++ tail) (rear : tail ≠ []) :
    ¬ tail <+: insert ++ after := by
  have total := congrArg List.length split
  have positive := List.length_pos_iff.mpr rear
  rw [List.length_append] at total
  intro begins
  rcases List.prefix_or_prefix_of_prefix begins (List.prefix_append insert after) with
    ⟨rest, whole⟩ | ⟨rest, whole⟩
  · refine apart ⟨head.length, by omega, pattern.length - 1, by omega, ?_⟩
    have all : pattern.length - 1 + 1 = pattern.length := by omega
    refine ⟨[], rest, ?_⟩
    rw [all, List.drop_length, split, List.take_left', ← whole]
    · simp
    · rfl
  · subst whole
    rw [List.length_append] at total positive
    by_cases trivial : head = [] ∧ insert = []
    · refine apart ⟨1, by omega, 0, by omega, ?_⟩
      rw [trivial.2, List.append_nil, List.take_append_drop]
    · have placed : 0 < head.length + insert.length := by
        by_contra empty
        refine trivial ⟨List.length_eq_zero_iff.mp ?_, List.length_eq_zero_iff.mp ?_⟩ <;> omega
      refine apart ⟨head.length, by omega, head.length + insert.length - 1, by omega, ?_⟩
      have back : head.length + insert.length - 1 + 1 = (head ++ insert).length := by
        rw [List.length_append]
        omega
      rw [back, split, List.take_left' rfl, ← List.append_assoc, List.drop_left' rfl]

theorem not_suffix_of_not_meets (apart : ¬ Meets pattern insert) {head tail : List Symbol}
    (split : pattern = head ++ tail) (front : head ≠ []) : ¬ head <:+ insert := by
  rintro ⟨before, whole⟩
  have total := congrArg List.length split
  have positive := List.length_pos_iff.mpr front
  rw [List.length_append] at total
  refine apart ⟨0, by omega, head.length - 1, by omega, before, [], ?_⟩
  have length : head.length - 1 + 1 = head.length := by omega
  rw [length, List.take_zero, List.nil_append, ← whole, split, List.drop_left' rfl,
    List.append_nil, List.append_assoc]

/-- An insert that does not meet the pattern makes none where there was none. -/
theorem free_insert (long : 2 ≤ pattern.length) (apart : ¬ Meets pattern insert)
    {before after : List Symbol} (free : ¬ pattern <:+: before) (free' : ¬ pattern <:+: after) :
    ¬ pattern <:+: before ++ insert ++ after := by
  have nonempty : pattern ≠ [] := by
    rintro rfl
    simp at long
  rw [List.append_assoc, List.infix_append_iff_ne_nil, List.infix_append_iff_ne_nil]
  rintro (inside | (inside | inside | ⟨head, tail, front, _, split, ends, _⟩) |
    ⟨head, tail, _, rear, split, _, begins⟩)
  · exact free inside
  · exact not_infix_of_not_meets nonempty apart inside
  · exact free' inside
  · exact not_suffix_of_not_meets apart split front ends
  · exact not_prefix_of_not_meets long apart split rear begins

theorem infix_of_meets {opener stop : Symbol} {body : List Symbol} (opening : opener ∉ pattern)
    (ending : stop ∉ pattern) (meets : Meets pattern (opener :: (body ++ [stop]))) :
    pattern <:+: body := by
  obtain ⟨before, front, behind, back, found⟩ := meets
  have nonempty : pattern ≠ [] := List.ne_nil_of_length_pos (by omega)
  have split : pattern.take before ++ (opener :: (body ++ [stop])) ++ pattern.drop (behind + 1) =
      pattern.take before ++ opener :: (body ++ stop :: pattern.drop (behind + 1)) := by simp
  rw [split, infix_append_cons_iff nonempty opening, infix_append_cons_iff nonempty ending] at found
  rcases found with early | inside | late
  · have short := early.length_le
    rw [List.length_take] at short
    omega
  · exact inside
  · have short := late.length_le
    rw [List.length_drop] at short
    omega

theorem Borderless.not_infix (borderless : Borderless pattern) {before : List Symbol}
    (free : ¬ pattern <:+: before) : ¬ pattern <:+: before ++ pattern.dropLast := by
  rw [List.infix_append_iff_ne_nil]
  rintro (inside | later | ⟨head, tail, front, rear, split, _, begins⟩)
  · exact free inside
  · have short := later.length_le
    rw [List.length_dropLast] at short
    have empty : pattern = [] := List.length_eq_zero_iff.mp (by omega)
    subst empty
    exact free List.nil_infix
  · rcases borderless tail (begins.trans (List.dropLast_prefix pattern)) ⟨head, split.symm⟩ with
      empty | all
    · exact rear empty
    · exact front (by simpa [all] using split)

end

section

variable [DecidableEq Symbol] {pattern insert text before after : List Symbol}

theorem dropInfix?_eq_some_iff : text.dropInfix? pattern = some (before, after) ↔
    text = before ++ pattern ++ after ∧
      ∀ before' after', text = before' ++ pattern ++ after' → before.length ≤ before'.length := by
  rw [List.dropInfix?_eq_some_iff]
  constructor
  · rintro ⟨⟨_, split, same⟩, first⟩
    rw [eq_of_beq same] at split
    exact ⟨split, fun before' after' split' => first before' _ after' split' (beq_self_eq_true _)⟩
  · rintro ⟨split, first⟩
    refine ⟨⟨pattern, split, beq_self_eq_true _⟩, fun before' found after' split' same => ?_⟩
    rw [eq_of_beq same] at split'
    exact first before' after' split'

theorem dropInfix?_eq_none_iff : text.dropInfix? pattern = none ↔ ¬ pattern <:+: text := by
  classical
  constructor
  · rintro unfound ⟨before, after, split⟩
    have occurs : ∃ length before after,
        before.length = length ∧ text = before ++ pattern ++ after :=
      ⟨_, before, after, rfl, split.symm⟩
    obtain ⟨first, rest, length, whole⟩ := Nat.find_spec occurs
    have found : text.dropInfix? pattern = some (first, rest) := by
      refine dropInfix?_eq_some_iff.mpr ⟨whole, fun before' after' split' => ?_⟩
      rw [length]
      exact Nat.find_min' occurs ⟨before', after', rfl, split'⟩
    rw [unfound] at found
    cases found
  · intro free
    cases found : text.dropInfix? pattern with
    | none => rfl
    | some parts =>
        exact absurd ⟨_, _, (dropInfix?_eq_some_iff.mp found).1.symm⟩ free

theorem dropInfix?_append (first : ¬ pattern <:+: before ++ pattern.dropLast) :
    (before ++ pattern ++ after).dropInfix? pattern = some (before, after) := by
  refine dropInfix?_eq_some_iff.mpr ⟨rfl, fun before' after' split => ?_⟩
  by_contra shorter
  have total : (before' ++ pattern).length ≤ (before ++ pattern.dropLast).length := by
    rw [List.length_append, List.length_append, List.length_dropLast]
    omega
  have here : before' ++ pattern <+: before ++ pattern ++ after := split ▸ List.prefix_append _ _
  have there : before ++ pattern.dropLast <+: before ++ pattern ++ after :=
    ((List.prefix_append_right_inj before).mpr (List.dropLast_prefix pattern)).trans
      (List.prefix_append _ _)
  exact first ((List.suffix_append before' pattern).isInfix.trans
    (List.prefix_of_prefix_length_le here there total).isInfix)

theorem find?_tails_append (first : ¬ pattern <:+: before ++ pattern.dropLast) :
    (before ++ (pattern ++ after)).tails.find? (fun rest => pattern.isPrefixOf rest) =
      some (pattern ++ after) := by
  induction before with
  | nil =>
      have here : pattern.isPrefixOf (pattern ++ after) = true :=
        List.isPrefixOf_iff_prefix.mpr (List.prefix_append pattern after)
      obtain ⟨more, split⟩ : ∃ more, (pattern ++ after).tails = (pattern ++ after) :: more := by
        cases pattern ++ after with
        | nil => exact ⟨[], rfl⟩
        | cons symbol rest => exact ⟨rest.tails, List.tails_cons symbol rest⟩
      rw [List.nil_append, split, List.find?_cons_of_pos here]
  | cons symbol before ih =>
      rw [List.cons_append, List.infix_cons_iff, not_or] at first
      have notHere : ¬ pattern.isPrefixOf (symbol :: (before ++ (pattern ++ after))) = true := by
        rw [List.isPrefixOf_iff_prefix]
        intro here
        have there : symbol :: (before ++ pattern.dropLast) <+:
            symbol :: (before ++ (pattern ++ after)) :=
          (List.prefix_cons_inj symbol).mpr ((List.prefix_append_right_inj before).mpr
            ((List.dropLast_prefix pattern).trans (List.prefix_append pattern after)))
        refine first.1 (List.prefix_of_prefix_length_le here there ?_)
        rw [List.length_cons, List.length_append, List.length_dropLast]
        omega
      rw [List.cons_append, List.tails_cons, List.find?_cons_of_neg notHere]
      exact ih first.2

/-- The loop of replacements, `none` where the fuel does not take it to its end. -/
def replaceAll (pattern insert : List Symbol) : Nat → List Symbol → Option (List Symbol)
  | 0, _ => none
  | fuel + 1, text =>
      match text.dropInfix? pattern with
      | none => some text
      | some (before, after) => replaceAll pattern insert fuel (before ++ insert ++ after)

variable {fuel : Nat} {result : List Symbol}

theorem replaceAll_mono {more : Nat} (enough : fuel ≤ more)
    (ends : replaceAll pattern insert fuel text = some result) :
    replaceAll pattern insert more text = some result := by
  induction fuel generalizing more text with
  | zero => cases ends
  | succ fuel ih =>
      obtain ⟨more, rfl⟩ := Nat.exists_eq_add_one_of_ne_zero (n := more) (by omega)
      rw [replaceAll] at ends ⊢
      split at ends
      · exact ends
      · exact ih (by omega) ends

/-- What every replacement keeps holds of the text in the end, which is free of the pattern. -/
theorem replaceAll_keeps {Keeps : List Symbol → Prop}
    (each : ∀ before after, Keeps (before ++ pattern ++ after) → Keeps (before ++ insert ++ after))
    (start : Keeps text) (ends : replaceAll pattern insert fuel text = some result) :
    Keeps result ∧ ¬ pattern <:+: result := by
  induction fuel generalizing text with
  | zero => cases ends
  | succ fuel ih =>
      rw [replaceAll] at ends
      split at ends
      · rename_i unfound
        cases ends
        exact ⟨start, dropInfix?_eq_none_iff.mp unfound⟩
      · rename_i before after found
        rw [(dropInfix?_eq_some_iff.mp found).1] at start
        exact ih (each before after start) ends

theorem not_infix_replaceAll (ends : replaceAll pattern insert fuel text = some result) :
    ¬ pattern <:+: result :=
  (@replaceAll_keeps _ _ _ _ _ _ _ (fun _ => True) (fun _ _ _ => trivial) trivial ends).2

theorem replaceAll_of_free (free : ¬ pattern <:+: text) :
    replaceAll pattern insert (fuel + 1) text = some text := by
  rw [replaceAll, dropInfix?_eq_none_iff.mpr free]

theorem eq_of_replaceAll (free : ¬ pattern <:+: text)
    (ends : replaceAll pattern insert fuel text = some result) : result = text := by
  have same := replaceAll_mono (Nat.le_succ fuel) ends
  rw [replaceAll_of_free free] at same
  exact (Option.some.inj same).symm

/-- An insert with the pattern in it keeps the loop going. -/
theorem not_infix_of_replaceAll (inside : pattern <:+: text)
    (ends : replaceAll pattern insert fuel text = some result) : ¬ pattern <:+: insert := by
  intro again
  refine not_infix_replaceAll ends (replaceAll_keeps (fun before after _ => ?_) inside ends).1
  exact again.trans (List.infix_append before insert after)

end

section Quotes

def quoted (quote : Symbol) (word : List Symbol) : List Symbol :=
  quote :: (word ++ [quote])

variable {quote : Symbol} {word first second : List Symbol}

theorem word_prefix_iff (plain : quote ∉ word) (other : quote ∉ first) :
    word ++ [quote] <+: first ++ quote :: second ↔ word = first := by
  induction word generalizing first with
  | nil =>
      cases first with
      | nil => simp
      | cons symbol first =>
          have apart : quote ≠ symbol := fun same => other (same ▸ List.mem_cons_self)
          simp [List.cons_prefix_cons, apart]
  | cons symbol word ih =>
      cases first with
      | nil =>
          have apart : symbol ≠ quote := fun same => plain (same ▸ List.mem_cons_self)
          simp [List.cons_prefix_cons, apart]
      | cons next first =>
          rw [List.cons_append, List.cons_append, List.cons_prefix_cons, List.cons.injEq,
            ih (List.not_mem_of_not_mem_cons plain) (List.not_mem_of_not_mem_cons other)]

theorem quoted_infix_iff (other : quote ∉ first) :
    quoted quote word <:+: first ++ quote :: second ↔
      word ++ [quote] <+: second ∨ quoted quote word <:+: second := by
  induction first with
  | nil =>
      rw [List.nil_append, List.infix_cons_iff, quoted, List.cons_prefix_cons, eq_self, true_and]
  | cons symbol first ih =>
      have apart : quote ≠ symbol := fun same => other (same ▸ List.mem_cons_self)
      rw [List.cons_append, List.infix_cons_iff, ih (List.not_mem_of_not_mem_cons other),
        or_iff_right]
      rw [quoted, List.cons_prefix_cons]
      exact fun here => apart here.1

theorem not_quoted_infix (other : quote ∉ first) : ¬ quoted quote word <:+: first :=
  not_infix_of_notMem List.mem_cons_self other

variable [DecidableEq Symbol]

theorem dropInfix?_symbol (absent : quote ∉ first) :
    (first ++ quote :: second).dropInfix? [quote] = some (first, second) := by
  have free : ¬ [quote] <:+: first ++ [quote].dropLast := by
    rw [List.dropLast_singleton, List.append_nil]
    exact not_infix_of_notMem List.mem_cons_self absent
  have found : (first ++ [quote] ++ second).dropInfix? [quote] = some (first, second) :=
    dropInfix?_append free
  simpa using found

theorem dropInfix?_quoted (plain : quote ∉ word) (other : quote ∉ first) :
    (first ++ quote :: (word ++ quote :: second)).dropInfix? (quoted quote word) =
      some (first, second) := by
  have opened : (quoted quote word).dropLast = quote :: word := by
    rw [quoted, ← List.cons_append, List.dropLast_concat]
  have free : ¬ quoted quote word <:+: first ++ (quoted quote word).dropLast := by
    rw [opened, quoted_infix_iff other, not_or]
    refine ⟨fun here => ?_, not_quoted_infix plain⟩
    have shorter := here.length_le
    rw [List.length_append, List.length_singleton] at shorter
    omega
  have whole : first ++ quote :: (word ++ quote :: second) =
      first ++ quoted quote word ++ second := by simp [quoted]
  rw [whole, dropInfix?_append free]

end Quotes

end Foundation.Replacement
