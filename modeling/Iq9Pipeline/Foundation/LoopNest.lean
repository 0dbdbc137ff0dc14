import Iq9Pipeline.Foundation.Digits
import Mathlib.Data.List.Basic
import Mathlib.Data.List.Nodup
import Mathlib.Data.List.Perm.Subperm
import Mathlib.Data.List.Range

/-!
What nested counting loops write one after the other: the place of an element in the
output is the mixed-radix number of the counters.
-/

namespace Foundation

variable {α : Type*}

def nest (bound : Nat) (body : Nat → List α) : List α :=
  (List.range bound).flatMap body

theorem nest_succ (bound : Nat) (body : Nat → List α) :
    nest (bound + 1) body = nest bound body ++ body bound := by
  rw [nest, nest, List.range_succ, List.flatMap_append, List.flatMap_singleton]

theorem mem_nest {bound : Nat} {body : Nat → List α} {item : α} :
    item ∈ nest bound body ↔ ∃ count < bound, item ∈ body count := by
  simp only [nest, List.mem_flatMap, List.mem_range]

theorem length_nest {body : Nat → List α} {size : Nat} (each : ∀ count, (body count).length = size)
    (bound : Nat) : (nest bound body).length = bound * size := by
  induction bound with
  | zero => rw [Nat.zero_mul]; rfl
  | succ bound ih => rw [nest_succ, List.length_append, ih, each, Nat.succ_mul]

theorem getElem?_nest {body : Nat → List α} {size : Nat}
    (each : ∀ count, (body count).length = size) {bound place : Nat}
    (inside : place < bound * size) :
    (nest bound body)[place]? = (body (place / size))[place % size]? := by
  induction bound with
  | zero =>
      rw [Nat.zero_mul] at inside
      exact absurd inside (Nat.not_lt_zero _)
  | succ bound ih =>
      have length := length_nest each bound
      rw [nest_succ]
      by_cases earlier : place < bound * size
      · rw [List.getElem?_append_left (by rwa [length]), ih earlier]
      · rw [Nat.succ_mul] at inside
        have positive : 0 < size := by omega
        have last : place / size = bound := by
          apply Nat.div_eq_of_lt_le
          · omega
          · rw [Nat.succ_mul]
            omega
        have rest : place % size = place - bound * size := by
          have whole := Nat.div_add_mod place size
          rw [last, Nat.mul_comm] at whole
          omega
        rw [List.getElem?_append_right (by omega), length, last, rest]

theorem nest_range (outer inner : Nat) (body : Nat → Nat → α) :
    (nest outer fun i => (List.range inner).map (body i)) =
      (List.range (outer * inner)).map fun place => body (place / inner) (place % inner) := by
  have each (i : Nat) : ((List.range inner).map (body i)).length = inner := by
    rw [List.length_map, List.length_range]
  apply List.ext_getElem?
  intro place
  by_cases inside : place < outer * inner
  · have positive : 0 < inner := by
      apply Nat.pos_of_ne_zero
      rintro rfl
      exact Nat.not_lt_zero _ inside
    rw [getElem?_nest each inside, List.getElem?_map, List.getElem?_map,
      List.getElem?_range (Nat.mod_lt _ positive), List.getElem?_range inside]
    rfl
  · rw [List.getElem?_eq_none, List.getElem?_eq_none]
    · rw [List.length_map, List.length_range]
      exact Nat.not_lt.mp inside
    · rw [length_nest each]
      exact Nat.not_lt.mp inside

theorem perm_range {count : Nat} {place : Nat → Nat} (inside : ∀ i < count, place i < count)
    (apart : ∀ i < count, ∀ j < count, place i = place j → i = j) :
    ((List.range count).map place).Perm (List.range count) := by
  have distinct : ((List.range count).map place).Nodup := by
    apply List.Nodup.map_on _ List.nodup_range
    intro i listed j listed'
    exact apart i (List.mem_range.mp listed) j (List.mem_range.mp listed')
  have subset : (List.range count).map place ⊆ List.range count := by
    intro other member
    obtain ⟨i, listed, rfl⟩ := List.mem_map.mp member
    exact List.mem_range.mpr (inside i (List.mem_range.mp listed))
  apply (distinct.subperm subset).perm_of_length_le
  rw [List.length_map]

end Foundation
