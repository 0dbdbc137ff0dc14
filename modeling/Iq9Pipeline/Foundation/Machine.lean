import Mathlib.Logic.Basic

/-!
Labelled machines whose labels carry every choice of the environment, so that a
step is a partial function. An invariant is proved once per machine, for runs
whose steps all satisfy a guard; the unguarded runs are the special case.
-/

namespace Foundation

structure Machine (State Label : Type*) where
  start : State → Prop
  step : State → Label → Option State

namespace Machine

variable {State Label State' Label' : Type*}

/-- The states of the runs every step of which is allowed in the state it leaves. -/
inductive ReachableUnder (machine : Machine State Label) (allowed : State → Label → Prop) :
    State → Prop
  | start {state} : machine.start state → ReachableUnder machine allowed state
  | step {state label next} : ReachableUnder machine allowed state → allowed state label →
      machine.step state label = some next → ReachableUnder machine allowed next

def Reachable (machine : Machine State Label) : State → Prop :=
  machine.ReachableUnder fun _ _ => True

theorem Reachable.next {machine : Machine State Label} {state next : State} {label : Label}
    (reachable : machine.Reachable state) (stepped : machine.step state label = some next) :
    machine.Reachable next :=
  ReachableUnder.step reachable trivial stepped

theorem ReachableUnder.invariant {machine : Machine State Label}
    {allowed : State → Label → Prop} (holds : State → Prop)
    (started : ∀ state, machine.start state → holds state)
    (kept : ∀ state label next, machine.ReachableUnder allowed state → holds state →
      allowed state label → machine.step state label = some next → holds next)
    {state : State} (reachable : machine.ReachableUnder allowed state) : holds state := by
  induction reachable with
  | start begun => exact started _ begun
  | step earlier permitted stepped ih => exact kept _ _ _ earlier ih permitted stepped

theorem Reachable.invariant {machine : Machine State Label} (holds : State → Prop)
    (started : ∀ state, machine.start state → holds state)
    (kept : ∀ state label next, holds state → machine.step state label = some next → holds next)
    {state : State} (reachable : machine.Reachable state) : holds state :=
  ReachableUnder.invariant holds started
    (fun state label next _ held _ => kept state label next held) reachable

theorem ReachableUnder.reachable {machine : Machine State Label}
    {allowed : State → Label → Prop} {state : State}
    (reachable : machine.ReachableUnder allowed state) : machine.Reachable state := by
  induction reachable with
  | start begun => exact ReachableUnder.start begun
  | step _ _ stepped ih => exact ih.next stepped

theorem ReachableUnder.widen {machine : Machine State Label}
    {allowed allowed' : State → Label → Prop}
    (holds : State → Prop) (started : ∀ state, machine.start state → holds state)
    (kept : ∀ state label next, holds state → allowed state label →
      machine.step state label = some next → holds next)
    (permits : ∀ state label, holds state → allowed state label → allowed' state label)
    {state : State} (reachable : machine.ReachableUnder allowed state) :
    machine.ReachableUnder allowed' state := by
  have both : machine.ReachableUnder allowed' state ∧ holds state := by
    induction reachable with
    | start begun => exact ⟨.start begun, started _ begun⟩
    | step _ permitted stepped ih =>
        exact ⟨ih.1.step (permits _ _ ih.2 permitted) stepped, kept _ _ _ ih.2 permitted stepped⟩
  exact both.1

/-- A component of a larger machine only ever takes its own steps, so what every
run of the component keeps, every run of the larger machine keeps. -/
theorem Reachable.project {whole : Machine State Label} {part : Machine State' Label'}
    (view : State → State')
    (started : ∀ state, whole.start state → part.start (view state))
    (simulated : ∀ state label next, whole.step state label = some next →
      view next = view state ∨ ∃ label', part.step (view state) label' = some (view next))
    {state : State} (reachable : whole.Reachable state) : part.Reachable (view state) := by
  induction reachable with
  | start begun => exact ReachableUnder.start (started _ begun)
  | step _ _ stepped ih =>
      rcases simulated _ _ _ stepped with unchanged | ⟨label', moved⟩
      · rw [unchanged]
        exact ih
      · exact ih.next moved

def run (machine : Machine State Label) (allowed : State → Label → Prop)
    [∀ state label, Decidable (allowed state label)] (state : State) :
    List Label → Option State
  | [] => some state
  | label :: labels =>
      if allowed state label then
        (machine.step state label).bind fun next => machine.run allowed next labels
      else none

theorem ReachableUnder.run {machine : Machine State Label} {allowed : State → Label → Prop}
    [∀ state label, Decidable (allowed state label)] {labels : List Label} {state final : State}
    (reachable : machine.ReachableUnder allowed state)
    (ran : machine.run allowed state labels = some final) :
    machine.ReachableUnder allowed final := by
  induction labels generalizing state with
  | nil =>
      simp only [Machine.run, Option.some.injEq] at ran
      exact ran ▸ reachable
  | cons label labels ih =>
      simp only [Machine.run] at ran
      split at ran
      · rename_i permitted
        obtain ⟨next, stepped, rest⟩ := Option.bind_eq_some_iff.mp ran
        exact ih (reachable.step permitted stepped) rest
      · simp at ran

theorem ReachableUnder.exists_run {machine : Machine State Label}
    {allowed : State → Label → Prop} [∀ state label, Decidable (allowed state label)]
    {state : State} (reachable : machine.ReachableUnder allowed state) (labels : List Label)
    (shown : State → Bool) (ran : (machine.run allowed state labels).any shown) :
    ∃ final, machine.run allowed state labels = some final ∧
      machine.ReachableUnder allowed final ∧ shown final = true := by
  obtain ⟨final, reached, shows⟩ := (Option.any_eq_true _ _).mp ran
  exact ⟨final, reached, reachable.run reached, shows⟩

end Machine

end Foundation
