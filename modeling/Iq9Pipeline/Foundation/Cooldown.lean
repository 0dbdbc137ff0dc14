import Mathlib.Data.List.Pairwise
import Mathlib.Logic.Function.Basic

/-!
Rate limiting with a bounded memory. A limiter lets an event of a key through
when the last one it remembers for that key is a cooldown old, and it may forget
what it remembered. `Covers` says what it must not forget: of every event let
through, either something at least as late is remembered for its key, or the
event's cooldown has ended by the time the key's horizon gives.
-/

namespace Foundation

variable {Key : Type*}

def Apart (cooldown : Nat) (first second : Key × Nat) : Prop :=
  first.1 = second.1 → first.2 + cooldown ≤ second.2 ∨ second.2 + cooldown ≤ first.2

def Covers (cooldown : Nat) (horizon : Key → Nat) (memory : Key → Option Nat)
    (log : List (Key × Nat)) : Prop :=
  ∀ event ∈ log, (∃ last, memory event.1 = some last ∧ event.2 ≤ last) ∨
    event.2 + cooldown ≤ horizon event.1

namespace Covers

variable {cooldown : Nat} {horizon later : Key → Nat} {memory kept : Key → Option Nat}
  {log : List (Key × Nat)} {key : Key} {now : Nat}

theorem ready (covers : Covers cooldown horizon memory log) (reached : horizon key ≤ now)
    (quiet : ∀ last, memory key = some last → last + cooldown ≤ now) :
    ∀ event ∈ log, event.1 = key → event.2 + cooldown ≤ now := by
  intro event member same
  subst same
  rcases covers event member with ⟨last, remembered, newer⟩ | ended
  · have waited := quiet last remembered
    omega
  · omega

theorem record [DecidableEq Key] (covers : Covers cooldown horizon memory log)
    (newer : ∀ last, memory key = some last → last ≤ now) :
    Covers cooldown horizon (Function.update memory key (some now)) (log ++ [(key, now)]) := by
  intro event member
  rcases List.mem_append.mp member with earlier | new
  · rcases covers event earlier with ⟨last, remembered, bound⟩ | ended
    · by_cases same : event.1 = key
      · rw [same] at remembered ⊢
        exact .inl ⟨now, Function.update_self .., Nat.le_trans bound (newer last remembered)⟩
      · exact .inl ⟨last, by rw [Function.update_of_ne same, remembered], bound⟩
    · exact .inr ended
  · rw [List.mem_singleton] at new
    subst new
    exact .inl ⟨now, Function.update_self .., Nat.le_refl _⟩

/-- A memory may drop what is a cooldown old, once the horizon has moved past it. -/
theorem forget (covers : Covers cooldown horizon memory log)
    (dropped : ∀ key last, memory key = some last →
      kept key = some last ∨ last + cooldown ≤ later key)
    (grown : ∀ key, horizon key ≤ later key) : Covers cooldown later kept log := by
  intro event member
  rcases covers event member with ⟨last, remembered, bound⟩ | ended
  · rcases dropped event.1 last remembered with stays | old
    · exact .inl ⟨last, stays, bound⟩
    · exact .inr (by omega)
  · exact .inr (Nat.le_trans ended (grown event.1))

end Covers

end Foundation
