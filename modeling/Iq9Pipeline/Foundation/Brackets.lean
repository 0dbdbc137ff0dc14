import Mathlib.Algebra.BigOperators.Group.List.Basic
import Mathlib.Algebra.Order.Ring.Int
import Mathlib.Data.List.Infix
import Mathlib.Tactic.Linarith

/-!
Words over symbols that open or close something. A word is balanced when it closes only
what it opened, and all of it; a scan that counts the depth finds the partner of an
opening symbol exactly behind a balanced word.
-/

namespace Foundation

variable {Sign : Type*} (weight : Sign → Int)

def level (word : List Sign) : Int :=
  (word.map weight).sum

structure Balanced (word : List Sign) : Prop where
  above : ∀ start, start <+: word → 0 ≤ level weight start
  settled : level weight word = 0

instance (word : List Sign) : Decidable (Balanced weight word) :=
  decidable_of_iff ((∀ start ∈ word.inits, 0 ≤ level weight start) ∧ level weight word = 0)
    ⟨fun both =>
        ⟨fun start begins => both.1 start ((List.mem_inits start word).mpr begins), both.2⟩,
      fun balanced =>
        ⟨fun start member => balanced.above start ((List.mem_inits start word).mp member),
          balanced.settled⟩⟩

def closing (depth : Int) : List Sign → Option Nat
  | [] => none
  | sign :: rest =>
      if weight sign < 0 ∧ depth + weight sign = 0 then some 1
      else (closing (depth + weight sign) rest).map Nat.succ

variable {weight}

@[simp] theorem level_nil : level weight [] = 0 :=
  rfl

@[simp] theorem level_cons (sign : Sign) (word : List Sign) :
    level weight (sign :: word) = weight sign + level weight word := by
  simp [level]

@[simp] theorem level_append (word more : List Sign) :
    level weight (word ++ more) = level weight word + level weight more := by
  simp [level]

theorem level_filter {matters : Sign → Bool} (idle : ∀ sign, matters sign = false → weight sign = 0)
    (word : List Sign) : level weight (word.filter matters) = level weight word := by
  induction word with
  | nil => rfl
  | cons sign word ih =>
      cases relevant : matters sign with
      | true => simp [relevant, ih]
      | false => simp [relevant, ih, idle sign relevant]

theorem closing_pos {depth : Int} {word : List Sign} {length : Nat}
    (closed : closing weight depth word = some length) : 0 < length := by
  cases word with
  | nil => exact nomatch closed
  | cons sign word =>
      rw [closing] at closed
      split at closed
      · cases closed
        exact Nat.one_pos
      · obtain ⟨count, _, rfl⟩ := Option.map_eq_some_iff.mp closed
        exact Nat.succ_pos count

theorem closing_le_length {depth : Int} {word : List Sign} {length : Nat}
    (closed : closing weight depth word = some length) : length ≤ word.length := by
  induction word generalizing depth length with
  | nil => exact nomatch closed
  | cons sign word ih =>
      rw [closing] at closed
      split at closed
      · cases closed
        exact Nat.le_add_left 1 word.length
      · obtain ⟨count, later, rfl⟩ := Option.map_eq_some_iff.mp closed
        exact Nat.succ_le_succ (ih later)

theorem Balanced.nil : Balanced weight [] where
  above start begins := by rw [List.prefix_nil.mp begins, level_nil]
  settled := rfl

theorem isPrefix_append {start word more : List Sign} (begins : start <+: word ++ more) :
    start <+: word ∨ ∃ later, start = word ++ later ∧ later <+: more := by
  obtain ⟨rest, split⟩ := begins
  rcases List.append_eq_append_iff.mp split with ⟨left, rfl, _⟩ | ⟨later, rfl, rest⟩
  · exact Or.inl (List.prefix_append start left)
  · exact Or.inr ⟨later, rfl, ⟨_, rest.symm⟩⟩

theorem Balanced.append {word more : List Sign} (first : Balanced weight word)
    (second : Balanced weight more) : Balanced weight (word ++ more) where
  above start begins := by
    rcases isPrefix_append begins with inside | ⟨later, rfl, inside⟩
    · exact first.above start inside
    · rw [level_append, first.settled, zero_add]
      exact second.above later inside
  settled := by rw [level_append, first.settled, second.settled, zero_add]

theorem Balanced.enclose {word : List Sign} (inner : Balanced weight word) {opener closer : Sign}
    (opens : weight opener = 1) (closes : weight closer = -1) :
    Balanced weight (opener :: (word ++ [closer])) where
  above start begins := by
    rcases List.prefix_cons_iff.mp begins with rfl | ⟨start, rfl, inside⟩
    · rw [level_nil]
    · rw [level_cons, opens]
      rcases isPrefix_append inside with within | ⟨later, rfl, last⟩
      · have low := inner.above start within
        omega
      · rw [level_append, inner.settled]
        rcases List.prefix_cons_iff.mp last with rfl | ⟨empty, rfl, nothing⟩
        · simp
        · rw [List.prefix_nil.mp nothing, level_cons, closes]
          simp
  settled := by simp [inner.settled, opens, closes]

theorem Balanced.flatMap {Item : Type*} {word : Item → List Sign} (items : List Item)
    (each : ∀ item ∈ items, Balanced weight (word item)) :
    Balanced weight (items.flatMap word) := by
  induction items with
  | nil => exact Balanced.nil
  | cons item items ih =>
      rw [List.forall_mem_cons] at each
      exact each.1.append (ih each.2)

theorem balanced_filter_iff {matters : Sign → Bool}
    (idle : ∀ sign, matters sign = false → weight sign = 0) {word : List Sign} :
    Balanced weight (word.filter matters) ↔ Balanced weight word := by
  constructor
  · intro filtered
    refine ⟨fun start begins => ?_, ?_⟩
    · rw [← level_filter idle]
      exact filtered.above _ (begins.filter matters)
    · rw [← level_filter idle, filtered.settled]
  · intro whole
    refine ⟨fun start begins => ?_, ?_⟩
    · obtain ⟨rest, split⟩ := begins
      obtain ⟨first, second, rfl, rfl, _⟩ := List.filter_eq_append_iff.mp split.symm
      rw [level_filter idle]
      exact whole.above first (List.prefix_append first second)
    · rw [level_filter idle, whole.settled]

/-- Where the scan stops: behind a body that never gets back to depth zero by itself. -/
theorem closing_eq_some_iff (units : ∀ sign, -1 ≤ weight sign) {depth : Int} (inside : 0 < depth)
    {word : List Sign} {length : Nat} :
    closing weight depth word = some length ↔
      ∃ body stop rest, word = body ++ stop :: rest ∧ length = body.length + 1 ∧
        weight stop < 0 ∧ depth + level weight body + weight stop = 0 ∧
          ∀ start, start <+: body → 0 < depth + level weight start := by
  induction word generalizing depth length with
  | nil => simp [closing]
  | cons sign word ih =>
      rw [closing]
      split
      · rename_i stops
        constructor
        · intro found
          refine ⟨[], sign, word, rfl, (Option.some.inj found).symm, stops.1,
            by simpa using stops.2, fun start begins => ?_⟩
          rw [List.prefix_nil.mp begins]
          simpa using inside
        · rintro ⟨body, stop, rest, split, rfl, negative, zero, positive⟩
          cases body with
          | nil => rfl
          | cons first body =>
              obtain ⟨rfl, rfl⟩ := List.cons.inj split
              have low := positive [sign] ⟨body, rfl⟩
              rw [level_cons, level_nil] at low
              omega
      · rename_i goes
        have deeper : 0 < depth + weight sign := by
          have bound := units sign
          by_cases negative : weight sign < 0
          · have nonzero : depth + weight sign ≠ 0 := fun zero => goes ⟨negative, zero⟩
            omega
          · omega
        rw [Option.map_eq_some_iff]
        constructor
        · rintro ⟨count, found, rfl⟩
          obtain ⟨body, stop, rest, rfl, rfl, negative, zero, positive⟩ := (ih deeper).mp found
          refine ⟨sign :: body, stop, rest, rfl, rfl, negative, ?_, fun start begins => ?_⟩
          · rw [level_cons]
            omega
          · rcases List.prefix_cons_iff.mp begins with rfl | ⟨later, rfl, further⟩
            · simpa using inside
            · have low := positive later further
              rw [level_cons]
              omega
        · rintro ⟨body, stop, rest, split, rfl, negative, zero, positive⟩
          cases body with
          | nil =>
              obtain ⟨rfl, rfl⟩ := List.cons.inj split
              rw [level_nil, add_zero] at zero
              exact absurd ⟨negative, zero⟩ goes
          | cons first body =>
              obtain ⟨rfl, rfl⟩ := List.cons.inj split
              refine ⟨body.length + 1, (ih deeper).mpr ⟨body, stop, rest, rfl, rfl, negative, ?_,
                fun start begins => ?_⟩, rfl⟩
              · rw [level_cons] at zero
                omega
              · have low := positive (sign :: start) (List.prefix_cons_inj sign |>.mpr begins)
                rw [level_cons] at low
                omega

/-- From depth one the scan stops right behind a word if and only if the word is balanced. -/
theorem closing_append_iff (units : ∀ sign, -1 ≤ weight sign) {word rest : List Sign} {stop : Sign}
    (closes : weight stop = -1) :
    closing weight 1 (word ++ stop :: rest) = some (word.length + 1) ↔ Balanced weight word := by
  rw [closing_eq_some_iff units Int.one_pos]
  constructor
  · rintro ⟨body, stop', rest', split, length, _, zero, positive⟩
    obtain ⟨rfl, tail⟩ := List.append_inj split (Nat.succ.inj length)
    obtain ⟨rfl, rfl⟩ := List.cons.inj tail
    refine ⟨fun start begins => ?_, by omega⟩
    have low := positive start begins
    omega
  · intro balanced
    refine ⟨word, stop, rest, rfl, rfl, by omega, by rw [balanced.settled, closes]; rfl,
      fun start begins => ?_⟩
    have low := balanced.above start begins
    omega

theorem take_closing_iff (units : ∀ sign, -1 ≤ weight sign) {word rest : List Sign}
    {opener stop : Sign} (opens : weight opener = 1) (closes : weight stop = -1) :
    (opener :: (word ++ stop :: rest)).take
        ((closing weight 0 (opener :: (word ++ stop :: rest))).getD 0) =
      opener :: (word ++ [stop]) ↔ Balanced weight word := by
  have opened : closing weight 0 (opener :: (word ++ stop :: rest)) =
      (closing weight 1 (word ++ stop :: rest)).map Nat.succ := by
    simp [closing, opens]
  rw [opened, ← @closing_append_iff _ weight units word rest stop closes]
  cases scanned : closing weight 1 (word ++ stop :: rest) with
  | none => simp
  | some length =>
      have bound := closing_le_length scanned
      rw [Option.map_some, Option.getD_some, Option.some.injEq]
      constructor
      · intro same
        have lengths := congrArg List.length same
        simp only [List.length_take, List.length_cons, List.length_append, List.length_nil]
          at lengths bound
        omega
      · rintro rfl
        have whole : word ++ stop :: rest = (word ++ [stop]) ++ rest := by simp
        rw [Nat.succ_eq_add_one, List.take_succ_cons, whole, List.take_left' (by simp)]

end Foundation
