import Mathlib.Logic.Basic

/-!
Programs that check one requirement after the other and stop at the first that is not met.
Such a program judges a set of requirements: it accepts only what meets them all, and names one
of them that is not met where it does not.
-/

namespace Foundation

variable {Fault Result Result' : Type} {met covered covered' : Fault → Prop}

structure Judges (met covered : Fault → Prop) (outcome : Except Fault Result) : Prop where
  accepts : ∀ result, outcome = .ok result → ∀ fault, covered fault → met fault
  rejects : ∀ fault, outcome = .error fault → covered fault ∧ ¬met fault

def Yields (good : Result → Prop) (outcome : Except Fault Result) : Prop :=
  ∀ result, outcome = .ok result → good result

namespace Judges

theorem ok (result : Result) : Judges met (fun _ => False) (.ok result : Except Fault Result) :=
  ⟨fun _ _ _ => False.elim, fun _ fails => by cases fails⟩

theorem bind {outcome : Except Fault Result} {next : Result → Except Fault Result'}
    (first : Judges met covered outcome)
    (rest : ∀ result, outcome = .ok result → Judges met covered' (next result)) :
    Judges met (fun fault => covered fault ∨ covered' fault) (outcome >>= next) := by
  cases outcome with
  | error fault =>
      refine ⟨fun _ accepted => (by cases accepted), fun fault' rejected => ?_⟩
      obtain rfl : fault = fault' := Except.error.inj rejected
      obtain ⟨covers, unmet⟩ := first.rejects fault rfl
      exact ⟨.inl covers, unmet⟩
  | ok result =>
      have later := rest result rfl
      constructor
      · intro last accepted fault covers
        rcases covers with before | after
        · exact first.accepts result rfl fault before
        · exact later.accepts last accepted fault after
      · intro fault rejected
        obtain ⟨covers, unmet⟩ := later.rejects fault rejected
        exact ⟨.inr covers, unmet⟩

theorem map {outcome : Except Fault Result} (judged : Judges met covered outcome)
    (convert : Result → Result') : Judges met covered (outcome.map convert) := by
  cases outcome with
  | error fault =>
      refine ⟨fun _ accepted => (by cases accepted), fun fault' rejected => ?_⟩
      obtain rfl : fault = fault' := Except.error.inj rejected
      exact judged.rejects fault rfl
  | ok result =>
      exact ⟨fun _ _ => judged.accepts result rfl, fun _ rejected => by cases rejected⟩

theorem widen {outcome : Except Fault Result} (judged : Judges met covered outcome)
    (same : ∀ fault, covered fault ↔ covered' fault) : Judges met covered' outcome :=
  ⟨fun result accepted fault covers =>
      judged.accepts result accepted fault ((same fault).mpr covers),
    fun fault rejected => (judged.rejects fault rejected).imp_left (same fault).mp⟩

/-- Accepted is exactly what meets every requirement. -/
theorem ok_iff {outcome : Except Fault Result} (judged : Judges met covered outcome) :
    (∃ result, outcome = .ok result) ↔ ∀ fault, covered fault → met fault := by
  constructor
  · rintro ⟨result, accepted⟩
    exact judged.accepts result accepted
  · intro all
    cases outcome with
    | ok result => exact ⟨result, rfl⟩
    | error fault =>
        obtain ⟨covers, unmet⟩ := judged.rejects fault rfl
        exact absurd (all fault covers) unmet

end Judges

theorem mapM_error {Item : Type} {check : Item → Except Fault Result} {items : List Item}
    {fault : Fault} (rejected : items.mapM check = .error fault) :
    ∃ item ∈ items, check item = .error fault := by
  induction items with
  | nil => cases rejected
  | cons item rest ih =>
      rw [List.mapM_cons] at rejected
      cases first : check item with
      | error fault' =>
          rw [first] at rejected
          obtain rfl : fault' = fault := Except.error.inj rejected
          exact ⟨item, List.mem_cons_self, first⟩
      | ok result =>
          rw [first] at rejected
          cases later : rest.mapM check with
          | error fault' =>
              obtain rfl : fault' = fault := by
                simpa [later, Bind.bind, Except.bind] using rejected
              obtain ⟨item', listed, failed⟩ := ih later
              exact ⟨item', List.mem_cons_of_mem _ listed, failed⟩
          | ok results =>
              simp [later, Bind.bind, Except.bind, Pure.pure, Except.pure] at rejected

theorem mapM_ok {Item : Type} {check : Item → Except Fault Result} {items : List Item}
    {results : List Result} (accepted : items.mapM check = .ok results) :
    ∀ item ∈ items, ∃ result, check item = .ok result := by
  induction items generalizing results with
  | nil => nofun
  | cons item rest ih =>
      rw [List.mapM_cons] at accepted
      cases first : check item with
      | error fault =>
          rw [first] at accepted
          cases accepted
      | ok result =>
          rw [first] at accepted
          cases later : rest.mapM check with
          | error fault =>
              simp [later, Bind.bind, Except.bind] at accepted
          | ok results' =>
              rintro item' (_ | ⟨_, listed⟩)
              · exact ⟨result, first⟩
              · exact ih later item' listed

namespace Yields

theorem ok {good : Result → Prop} {result : Result} (holds : good result) :
    Yields good (.ok result : Except Fault Result) := by
  rintro _ ⟨⟩
  exact holds

theorem error {good : Result → Prop} (fault : Fault) :
    Yields good (.error fault : Except Fault Result) :=
  fun _ accepted => by cases accepted

theorem bind {good : Result → Prop} {good' : Result' → Prop} {outcome : Except Fault Result}
    {next : Result → Except Fault Result'} (first : Yields good outcome)
    (rest : ∀ result, good result → Yields good' (next result)) :
    Yields good' (outcome >>= next) := by
  cases outcome with
  | error fault => exact error fault
  | ok result => exact rest result (first result rfl)

theorem map {good : Result → Prop} {good' : Result' → Prop} {outcome : Except Fault Result}
    {convert : Result → Result'} (yields : Yields good outcome)
    (keeps : ∀ result, good result → good' (convert result)) :
    Yields good' (outcome.map convert) := by
  cases outcome with
  | error fault => exact error fault
  | ok result => exact ok (keeps result (yields result rfl))

theorem mapM {Item : Type} {good : Result → Prop} {check : Item → Except Fault Result}
    (each : ∀ item, Yields good (check item)) (items : List Item) :
    Yields (fun results => results.length = items.length ∧ ∀ result ∈ results, good result)
      (items.mapM check) := by
  induction items with
  | nil => exact ok ⟨rfl, nofun⟩
  | cons item rest ih =>
      rw [List.mapM_cons]
      refine bind (each item) fun result holds => bind ih fun results all => ok ⟨?_, ?_⟩
      · rw [List.length_cons, List.length_cons, all.1]
      · rintro later (_ | ⟨_, listed⟩)
        · exact holds
        · exact all.2 later listed

end Yields

end Foundation
