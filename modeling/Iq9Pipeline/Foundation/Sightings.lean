import Mathlib.Algebra.Group.Nat.Defs
import Mathlib.Data.List.Basic

/-!
Which keys were seen when. The sightings are numbered by a counter that never falls; what a
program keeps of a number may be a counter that wraps.
-/

namespace Foundation

structure Sighting (Key : Type*) where
  number : Nat
  keys : List Key

section

variable {Key : Type*}

def newest (log : List (Sighting Key)) : Nat :=
  (log.head?.map Sighting.number).getD 0

structure LastSeen (log : List (Sighting Key)) (key : Key) (number : Nat) : Prop where
  listed : ∃ sighting ∈ log, sighting.number = number ∧ key ∈ sighting.keys
  last : ∀ sighting ∈ log, key ∈ sighting.keys → sighting.number ≤ number

def Recent (span : Nat) (log : List (Sighting Key)) (key : Key) : Prop :=
  ∃ sighting ∈ log, key ∈ sighting.keys ∧ newest log ≤ sighting.number + span

variable {log : List (Sighting Key)} {keys : List Key} {key : Key} {number next span : Nat}

@[simp] theorem newest_cons (sighting : Sighting Key) (log : List (Sighting Key)) :
    newest (sighting :: log) = sighting.number :=
  rfl

theorem newest_le {bound : Nat} (older : ∀ sighting ∈ log, sighting.number ≤ bound) :
    newest log ≤ bound := by
  cases log with
  | nil => exact Nat.zero_le bound
  | cons sighting _ => exact older sighting List.mem_cons_self

theorem LastSeen.here (seen : key ∈ keys) (older : ∀ sighting ∈ log, sighting.number ≤ next) :
    LastSeen (⟨next, keys⟩ :: log) key next where
  listed := ⟨_, List.mem_cons_self, rfl, seen⟩
  last := List.forall_mem_cons.mpr ⟨fun _ => Nat.le_refl next, fun sighting earlier _ =>
    older sighting earlier⟩

theorem LastSeen.there (lastSeen : LastSeen log key number) (unseen : key ∉ keys) :
    LastSeen (⟨next, keys⟩ :: log) key number where
  listed := by
    obtain ⟨sighting, earlier, facts⟩ := lastSeen.listed
    exact ⟨sighting, List.mem_cons_of_mem _ earlier, facts⟩
  last := List.forall_mem_cons.mpr ⟨fun seen => absurd seen unseen, lastSeen.last⟩

theorem LastSeen.recent_iff (lastSeen : LastSeen log key number) :
    Recent span log key ↔ newest log ≤ number + span := by
  constructor
  · rintro ⟨sighting, listed, seen, near⟩
    exact Nat.le_trans near (Nat.add_le_add_right (lastSeen.last sighting listed seen) span)
  · intro near
    obtain ⟨sighting, listed, rfl, seen⟩ := lastSeen.listed
    exact ⟨sighting, listed, seen, near⟩

end

theorem toNat_counter_sub {first last : Nat} (ordered : first ≤ last)
    (near : last < first + 2 ^ 64) :
    (UInt64.ofNat last - UInt64.ofNat first).toNat = last - first := by
  have high : (UInt64.ofNat last).toNat = last % 2 ^ 64 := UInt64.toNat_ofNat'
  have low : (UInt64.ofNat first).toNat = first % 2 ^ 64 := UInt64.toNat_ofNat'
  rw [UInt64.toNat_sub, high, low]
  omega

end Foundation
