import Mathlib.Data.List.Basic

/-!
Which computations that may throw return: a sequence of them does if each does,
and what a loop collects is what its rounds give one by one.
-/

namespace Foundation

variable {Error α β : Type}

def Returns (outcome : Except Error α) : Prop :=
  ∃ value, outcome = .ok value

@[simp] theorem returns_ok (value : α) : Returns (.ok value : Except Error α) :=
  ⟨value, rfl⟩

@[simp] theorem returns_pure (value : α) : Returns (pure value : Except Error α) :=
  ⟨value, rfl⟩

@[simp] theorem not_returns_error (error : Error) : ¬Returns (.error error : Except Error α) :=
  nofun

theorem ok_then (middle : α) (next : α → Except Error β) : (.ok middle >>= next) = next middle :=
  rfl

theorem error_then (error : Error) (next : α → Except Error β) :
    (.error error >>= next) = .error error :=
  rfl

theorem then_eq_ok {first : Except Error α} {next : α → Except Error β} {value : β} :
    first >>= next = .ok value ↔ ∃ middle, first = .ok middle ∧ next middle = .ok value := by
  cases first with
  | error error => exact iff_of_false nofun (by rintro ⟨_, returned, _⟩; cases returned)
  | ok middle => simp [bind, Except.bind]

theorem returns_then {first : Except Error α} {next : α → Except Error β} {here rest : Prop}
    (begins : Returns first ↔ here) (continues : ∀ value, Returns (next value) ↔ rest) :
    Returns (first >>= next) ↔ here ∧ rest := by
  rw [← begins]
  cases first with
  | error error =>
      apply iff_of_false (not_returns_error error)
      rintro ⟨returned, _⟩
      exact not_returns_error error returned
  | ok value => exact (continues value).trans ⟨fun held => ⟨⟨value, rfl⟩, held⟩, And.right⟩

theorem returns_mapM {read : α → Except Error β} {items : List α} :
    Returns (items.mapM read) ↔ ∀ item ∈ items, Returns (read item) := by
  induction items with
  | nil => simp
  | cons item items ih =>
      rw [List.mapM_cons, List.forall_mem_cons]
      apply returns_then Iff.rfl
      intro value
      rw [← and_true (∀ item ∈ items, _), ← ih]
      exact returns_then Iff.rfl fun _ => by simp

theorem returns_filterMapM {read : α → Except Error (Option β)} {items : List α} :
    Returns (items.filterMapM read) ↔ ∀ item ∈ items, Returns (read item) := by
  induction items with
  | nil => simp
  | cons item items ih =>
      rw [List.filterMapM_cons, List.forall_mem_cons]
      apply returns_then Iff.rfl
      intro answer
      cases answer with
      | none => exact ih
      | some value =>
          rw [← and_true (∀ item ∈ items, _), ← ih]
          exact returns_then Iff.rfl fun _ => by simp

theorem filterMapM_answers {read : α → Except Error (Option β)} (answers : List (α × Option β))
    (answered : ∀ answer ∈ answers, read answer.1 = .ok answer.2) :
    (answers.map Prod.fst).filterMapM read = .ok (answers.filterMap Prod.snd) := by
  induction answers with
  | nil => rfl
  | cons answer answers ih =>
      rw [List.forall_mem_cons] at answered
      rw [List.map_cons, List.filterMapM_cons, answered.1, ih answered.2]
      obtain ⟨item, found⟩ := answer
      cases found <;> rfl

theorem exists_answers {read : α → Except Error (Option β)} {items : List α}
    (returns : ∀ item ∈ items, Returns (read item)) :
    ∃ answers : List (α × Option β), answers.map Prod.fst = items ∧
      ∀ answer ∈ answers, read answer.1 = .ok answer.2 := by
  induction items with
  | nil => exact ⟨[], rfl, by simp⟩
  | cons item items ih =>
      rw [List.forall_mem_cons] at returns
      obtain ⟨found, here⟩ := returns.1
      obtain ⟨answers, listed, answered⟩ := ih returns.2
      refine ⟨(item, found) :: answers, by rw [List.map_cons, listed], ?_⟩
      rw [List.forall_mem_cons]
      exact ⟨here, answered⟩

end Foundation
