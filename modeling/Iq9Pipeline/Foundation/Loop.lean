import Mathlib.Logic.Basic

/-!
A loop as the partial function that its body is: a turn either leaves the loop or
gives the state that the next turn begins with.
-/

namespace Foundation.Loop

variable {State : Type*}

def turns (body : State → Option State) : Nat → State → Option State
  | 0, state => some state
  | count + 1, state => (body state).bind (turns body count)

theorem turns_left_mono {body : State → Option State} {count later : Nat} {state : State}
    (left : turns body count state = none) (after : count ≤ later) :
    turns body later state = none := by
  induction count generalizing later state with
  | zero => simp [turns] at left
  | succ count ih =>
      cases later with
      | zero => omega
      | succ later =>
          simp only [turns] at left ⊢
          cases turned : body state with
          | none => rfl
          | some next =>
              rw [turned, Option.bind_some] at left
              exact ih left (by omega)

/-- A measure that every turn decreases bounds the number of turns. -/
theorem turns_left {body : State → Option State} (measure : State → Nat) {state : State}
    (decreases : ∀ count last next, turns body count state = some last → body last = some next →
      measure next < measure last) :
    turns body (measure state + 1) state = none := by
  induction bound : measure state using Nat.strongRecOn generalizing state with
  | ind bound ih =>
      subst bound
      rw [turns]
      cases turned : body state with
      | none => rfl
      | some next =>
          have fewer := decreases 0 state next rfl turned
          have rest := @ih _ fewer next (fun count last following reached =>
            decreases (count + 1) last following (by rw [turns, turned, Option.bind_some, reached]))
            rfl
          exact turns_left_mono rest (by omega)

theorem turns_still {body : State → Option State} {state : State}
    (still : body state = some state) (count : Nat) : turns body count state = some state := by
  induction count with
  | zero => rfl
  | succ count ih => rw [turns, still, Option.bind_some, ih]

end Foundation.Loop
