import Mathlib.Data.List.Nodup
import Std.Data.TreeMap.Lemmas

/-!
Records that are kept under keys: keys that are joined from fields, and tables in
which the last record of a key is the one that stays.
-/

namespace Foundation.KeyedTable

variable {Key Field Value Symbol : Type*}

/-- A separator that the back parts do not hold can be found again from the right. -/
theorem append_separator_inj {separator : Symbol} {front back front' back' : List Symbol}
    (free : separator ∉ back) (free' : separator ∉ back')
    (same : front ++ separator :: back = front' ++ separator :: back') :
    front = front' ∧ back = back' := by
  rcases List.append_eq_append_iff.mp same with ⟨extra, longer, rest⟩ | ⟨extra, longer, rest⟩
  · cases extra with
    | nil => simpa [eq_comm] using And.intro longer rest
    | cons symbol extra =>
        rw [List.cons_append, List.cons.injEq] at rest
        exact absurd (rest.2 ▸ by simp) free
  · cases extra with
    | nil => simpa [eq_comm] using And.intro longer rest
    | cons symbol extra =>
        rw [List.cons_append, List.cons.injEq] at rest
        exact absurd (rest.2 ▸ by simp) free'

theorem size_foldl_erase [Ord Key] [Std.TransOrd Key] [Std.LawfulEqOrd Key]
    (keys : List Key) (table : Std.TreeMap Key Value) (distinct : keys.Nodup)
    (present : ∀ key ∈ keys, key ∈ table) :
    (keys.foldl (fun table key => table.erase key) table).size + keys.length = table.size := by
  induction keys generalizing table with
  | nil => rfl
  | cons key rest ih =>
      rw [List.nodup_cons] at distinct
      have listed := present key List.mem_cons_self
      have later : ∀ other ∈ rest, other ∈ table.erase key := by
        intro other member
        rw [Std.TreeMap.mem_erase, Std.LawfulEqCmp.compare_eq_iff_eq.ne]
        exact ⟨fun same => distinct.1 (same ▸ member),
          present other (List.mem_cons_of_mem _ member)⟩
      have positive : 0 < table.size := by
        rw [← Std.TreeMap.length_keys]
        exact List.length_pos_of_mem (Std.TreeMap.mem_keys.mpr listed)
      have erased := ih (table.erase key) distinct.2 later
      rw [Std.TreeMap.size_erase, if_pos (Std.TreeMap.mem_iff_contains.mp listed)] at erased
      rw [List.foldl_cons, List.length_cons]
      omega

section

variable [DecidableEq Key] [DecidableEq Field]

def recorded : List (Key × Value) → Key → Option Value
  | [], _ => none
  | record :: rest, key =>
      (recorded rest key).or (if record.1 = key then some record.2 else none)

theorem recorded_isSome_iff (records : List (Key × Value)) (key : Key) :
    (recorded records key).isSome ↔ key ∈ records.map Prod.fst := by
  induction records with
  | nil => simp [recorded]
  | cons record rest ih =>
      rw [recorded, Option.isSome_or, Bool.or_eq_true, ih, List.map_cons, List.mem_cons]
      by_cases named : record.1 = key
      · simp [named]
      · simp [named, Ne.symm named]

theorem mem_of_recorded {records : List (Key × Value)} {key : Key} {value : Value}
    (found : recorded records key = some value) : (key, value) ∈ records := by
  induction records with
  | nil => simp [recorded] at found
  | cons record rest ih =>
      rw [recorded, Option.or_eq_some_iff] at found
      rcases found with later | ⟨_, this⟩
      · exact List.mem_cons_of_mem _ (ih later)
      · by_cases named : record.1 = key
        · rw [if_pos named, Option.some.injEq] at this
          rw [← named, ← this]
          exact List.mem_cons_self
        · simp [named] at this

theorem recorded_of_mem {records : List (Key × Value)} {key : Key} {value : Value}
    (distinct : (records.map Prod.fst).Nodup) (listed : (key, value) ∈ records) :
    recorded records key = some value := by
  have named : key ∈ records.map Prod.fst := List.mem_map_of_mem listed
  obtain ⟨other, found⟩ := Option.isSome_iff_exists.mp ((recorded_isSome_iff _ _).mpr named)
  have same := List.inj_on_of_nodup_map distinct listed (mem_of_recorded found) rfl
  rw [found, (Prod.mk.inj same).2]

theorem recorded_map {rename : Field → Key} (injective : Function.Injective rename)
    (records : List (Field × Value)) (key : Field) :
    recorded (records.map fun record => (rename record.1, record.2)) (rename key) =
      recorded records key := by
  induction records with
  | nil => rfl
  | cons record rest ih => simp [recorded, ih, injective.eq_iff]

theorem getElem?_foldl_insert [Ord Key] [Std.TransOrd Key] [Std.LawfulEqOrd Key]
    (records : List (Key × Value)) (table : Std.TreeMap Key Value) (key : Key) :
    (records.foldl (fun table record => table.insert record.1 record.2) table)[key]? =
      (recorded records key).or table[key]? := by
  induction records generalizing table with
  | nil => simp [recorded]
  | cons record rest ih =>
      rw [List.foldl_cons, ih, recorded, Option.or_assoc, Std.TreeMap.getElem?_insert]
      by_cases named : record.1 = key <;> simp [named]

end

end Foundation.KeyedTable
