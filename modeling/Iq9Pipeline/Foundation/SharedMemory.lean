import Mathlib.Data.List.Nodup
import Mathlib.Logic.Function.Basic

/-!
A memory that several writers store into, one cell at a time. What a writer has stored
so far stays there as long as the others store elsewhere.
-/

namespace Foundation

variable {α : Type*}

def Holds (memory : Int → α) (base : Int) (stores : List (Int × α)) : Prop :=
  ∀ store ∈ stores, memory (base + store.1) = store.2

theorem Holds.nil (memory : Int → α) (base : Int) : Holds memory base [] :=
  fun _ absent => absurd absent List.not_mem_nil

theorem Holds.store_elsewhere {memory : Int → α} {base : Int} {stores : List (Int × α)}
    (held : Holds memory base stores) {cell : Int} (value : α)
    (elsewhere : ∀ store ∈ stores, base + store.1 ≠ cell) :
    Holds (Function.update memory cell value) base stores := by
  intro store member
  rw [Function.update_of_ne (elsewhere store member)]
  exact held store member

theorem Holds.store_next {memory : Int → α} {base : Int} {stores : List (Int × α)} {count : Nat}
    {store : Int × α} (held : Holds memory base (stores.take count))
    (distinct : (stores.map Prod.fst).Nodup) (next : stores[count]? = some store) :
    Holds (Function.update memory (base + store.1) store.2) base (stores.take (count + 1)) := by
  have prefixOf : stores.take (count + 1) = stores.take count ++ [store] := by
    rw [List.take_add_one, next]
    rfl
  have placed := (List.take_sublist (count + 1) stores).map Prod.fst |>.nodup distinct
  rw [prefixOf, List.map_append, List.nodup_append] at placed
  have fresh : ∀ earlier ∈ stores.take count, base + earlier.1 ≠ base + store.1 := by
    intro earlier member sameCell
    exact placed.2.2 earlier.1 (List.mem_map_of_mem member) store.1 (by simp) (by omega)
  rw [prefixOf]
  intro other member
  rcases List.mem_append.mp member with earlier | last
  · exact held.store_elsewhere store.2 fresh other earlier
  · rw [List.mem_singleton.mp last, Function.update_self]

end Foundation
