import Mathlib.Data.List.Basic

/-!
Reactive components and what one observer learns from them. A component answers each
event and moves on; an observer sees the answers to its own events only. It is not
interfered with when those answers do not depend on the events of others.
-/

namespace Foundation

abbrev Reactor (State Event Output : Type*) := State → Event → Output × State

namespace Reactor

variable {State Event Output : Type*}

def responses (react : Reactor State Event Output) (state : State) :
    List Event → List (Event × Output)
  | [] => []
  | event :: events =>
      let answered := react state event
      (event, answered.1) :: responses react answered.2 events

def observed (own : Event → Bool) (responses : List (Event × Output)) : List Output :=
  (responses.filter fun response => own response.1).map Prod.snd

def Noninterfering (react : Reactor State Event Output) (start : State) (own : Event → Bool)
    (possible : Event → Prop) : Prop :=
  ∀ run other : List Event, (∀ event ∈ run, possible event) → (∀ event ∈ other, possible event) →
    run.filter own = other.filter own →
      observed own (responses react start run) = observed own (responses react start other)

theorem observed_filter {react : Reactor State Event Output} {own : Event → Bool}
    (related : State → State → Prop)
    (answers : ∀ state other event, related state other → own event = true →
      (react state event).1 = (react other event).1 ∧
        related (react state event).2 (react other event).2)
    (ignores : ∀ state other event, related state other → own event = false →
      related (react state event).2 other)
    {state other : State} (begun : related state other) (run : List Event) :
    observed own (responses react state run) =
      observed own (responses react other (run.filter own)) := by
  induction run generalizing state other with
  | nil => rfl
  | cons event run ih =>
      cases mine : own event with
      | true =>
          obtain ⟨same, next⟩ := answers state other event begun mine
          have rest := ih next
          simp only [observed] at rest
          simp only [observed, responses, List.filter_cons, mine, if_true, List.map_cons, same,
            rest]
      | false =>
          have rest := ih (ignores state other event begun mine)
          simp only [observed] at rest
          simp [observed, responses, mine, rest]

/-- The unwinding rule: states that the observer cannot tell apart answer its events
alike, and the events of others do not take a state out of its class. -/
theorem Noninterfering.of_unwinding {react : Reactor State Event Output} {own : Event → Bool}
    {start : State} (possible : Event → Prop) (related : State → State → Prop)
    (answers : ∀ state other event, related state other → own event = true →
      (react state event).1 = (react other event).1 ∧
        related (react state event).2 (react other event).2)
    (ignores : ∀ state other event, related state other → own event = false →
      related (react state event).2 other)
    (begun : related start start) : react.Noninterfering start own possible := by
  intro run other _ _ same
  rw [observed_filter related answers ignores begun run,
    observed_filter related answers ignores begun other, same]

/-- Answers that an invariant makes a function of the event alone carry nothing over. -/
theorem Noninterfering.of_answers {react : Reactor State Event Output} {own : Event → Bool}
    {start : State} (possible : Event → Prop) (holds : State → Prop) (answer : Event → Output)
    (answers : ∀ state event, holds state → (react state event).1 = answer event)
    (kept : ∀ state event, holds state → holds (react state event).2)
    (begun : holds start) : react.Noninterfering start own possible := by
  refine of_unwinding possible (fun state other => holds state ∧ holds other) ?_ ?_
    ⟨begun, begun⟩
  · intro state other event both _
    exact ⟨(answers state event both.1).trans (answers other event both.2).symm,
      kept state event both.1, kept other event both.2⟩
  · intro state other event both _
    exact ⟨kept state event both.1, both.2⟩

end Reactor

end Foundation
