import Iq9Pipeline.Foundation.LoopNest
import Mathlib.Data.List.Nodup
import Mathlib.Data.List.Perm.Basic

/-!
Work items that store into one buffer, in no particular order. Where each element is
stored once, the order makes no difference.
-/

namespace Foundation

variable {ι α : Type*}

def scatter (buffer : List α) (stores : List (Nat × α)) : List α :=
  stores.foldl (fun buffer store => buffer.set store.1 store.2) buffer

/-- What the work items store; nothing is known where one of them reads outside of its input. -/
def launch (kernel : ι → Option (List (Nat × α))) (items : List ι) : Option (List (Nat × α)) :=
  (items.mapM kernel).map List.flatten

/-- A launch into a buffer, with its stores in some order; nothing is known where one of them is
outside of the buffer. -/
def execute (kernel : ι → Option (List (Nat × α))) (items : List ι)
    (order : List (Nat × α) → List (Nat × α)) (buffer : List α) : Option (List α) := do
  let stores ← launch kernel items
  if ∀ store ∈ stores, store.1 < buffer.length then some (scatter buffer (order stores)) else none

/-- The launch stores each element of the output once, and so leaves it in every buffer of
its size, in whatever order the stores are done. -/
structure Computes (kernel : ι → Option (List (Nat × α))) (items : List ι) (output : List α) :
    Prop where
  once : ∃ stored, launch kernel items = some stored ∧
    stored.Perm (output.zipIdx.map Prod.swap)
  leaves : ∀ stored, launch kernel items = some stored → ∀ order, order.Perm stored →
    ∀ buffer : List α, buffer.length = output.length → scatter buffer order = output

theorem getElem?_scatter_of_notMem {stores : List (Nat × α)} {place : Nat}
    (untouched : place ∉ stores.map Prod.fst) (buffer : List α) :
    (scatter buffer stores)[place]? = buffer[place]? := by
  induction stores generalizing buffer with
  | nil => rfl
  | cons store rest ih =>
      rw [List.map_cons, List.mem_cons, not_or] at untouched
      rw [scatter, List.foldl_cons, ← scatter, ih untouched.2,
        List.getElem?_set_ne (Ne.symm untouched.1)]

theorem getElem?_scatter_of_mem {stores : List (Nat × α)} {place : Nat} {value : α}
    (distinct : (stores.map Prod.fst).Nodup) (stored : (place, value) ∈ stores)
    {buffer : List α} (inside : place < buffer.length) :
    (scatter buffer stores)[place]? = some value := by
  induction stores generalizing buffer with
  | nil => exact absurd stored List.not_mem_nil
  | cons store rest ih =>
      rw [List.map_cons, List.nodup_cons] at distinct
      rw [scatter, List.foldl_cons, ← scatter]
      rcases List.mem_cons.mp stored with rfl | later
      · rw [getElem?_scatter_of_notMem distinct.1, List.getElem?_set_self inside]
      · exact ih distinct.2 later (by rwa [List.length_set])

theorem length_scatter (stores : List (Nat × α)) (buffer : List α) :
    (scatter buffer stores).length = buffer.length := by
  induction stores generalizing buffer with
  | nil => rfl
  | cons store rest ih => rw [scatter, List.foldl_cons, ← scatter, ih, List.length_set]

theorem scatter_eq {stores : List (Nat × α)} {output buffer : List α}
    (once : stores.Perm (output.zipIdx.map Prod.swap))
    (sized : buffer.length = output.length) : scatter buffer stores = output := by
  have places : (output.zipIdx.map Prod.swap).map Prod.fst = List.range output.length := by
    rw [List.map_map, List.range_eq_range']
    exact List.zipIdx_map_snd 0 output
  have distinct : (stores.map Prod.fst).Nodup := by
    rw [(once.map Prod.fst).nodup_iff, places]
    exact List.nodup_range
  apply List.ext_getElem?
  intro place
  by_cases inside : place < output.length
  · rw [List.getElem?_eq_getElem inside]
    apply getElem?_scatter_of_mem distinct _ (by rwa [sized])
    rw [once.mem_iff, List.mem_map]
    exact ⟨(output[place], place), List.mk_mem_zipIdx_iff_getElem?.mpr
      (List.getElem?_eq_getElem inside), rfl⟩
  · rw [List.getElem?_eq_none, List.getElem?_eq_none (Nat.not_lt.mp inside)]
    rw [length_scatter, sized]
    exact Nat.not_lt.mp inside

theorem scatter_append {front : List α} (back : List α) {stores : List (Nat × α)}
    (inside : ∀ store ∈ stores, store.1 < front.length) :
    scatter (front ++ back) stores = scatter front stores ++ back := by
  induction stores generalizing front with
  | nil => rfl
  | cons store rest ih =>
      rw [List.forall_mem_cons] at inside
      rw [scatter, List.foldl_cons, List.set_append_left _ _ inside.1, ← scatter, ih]
      · rfl
      · rw [List.length_set]
        exact inside.2

theorem length_execute {kernel : ι → Option (List (Nat × α))} {items : List ι}
    {order : List (Nat × α) → List (Nat × α)} {buffer after : List α}
    (executed : execute kernel items order buffer = some after) :
    after.length = buffer.length := by
  obtain ⟨stores, _, placed⟩ := Option.bind_eq_some_iff.mp executed
  obtain ⟨_, stored⟩ := Option.ite_none_right_eq_some.mp placed
  rw [← Option.some.inj stored, length_scatter]

theorem Computes.execute {kernel : ι → Option (List (Nat × α))} {items : List ι}
    {output : List α} (computes : Computes kernel items output)
    {order : List (Nat × α) → List (Nat × α)} (permutes : ∀ stores, (order stores).Perm stores)
    (buffer : List α) (room : output.length ≤ buffer.length) :
    execute kernel items order buffer = some (output ++ buffer.drop output.length) := by
  obtain ⟨stored, launched, once⟩ := computes.once
  have inside : ∀ store ∈ stored, store.1 < output.length := by
    intro store member
    obtain ⟨⟨value, place⟩, listed, rfl⟩ := List.mem_map.mp (once.mem_iff.mp member)
    exact (List.getElem?_eq_some_iff.mp (List.mk_mem_zipIdx_iff_getElem?.mp listed)).1
  have front : (buffer.take output.length).length = output.length := by
    rw [List.length_take, Nat.min_eq_left room]
  have left := computes.leaves stored launched (order stored) (permutes stored)
    (buffer.take output.length) front
  have whole := scatter_append (buffer.drop output.length) (fun store member =>
    front.symm ▸ inside store ((permutes stored).mem_iff.mp member))
  rw [Foundation.execute, launched, Option.bind_eq_bind, Option.bind_some,
    if_pos fun store member => (inside store member).trans_le room]
  rw [List.take_append_drop, left] at whole
  exact congrArg some whole

theorem mapM_eq_none {β : Type*} {read : ι → Option β} {items : List ι} {item : ι}
    (member : item ∈ items) (fails : read item = none) : items.mapM read = none := by
  induction items with
  | nil => exact absurd member List.not_mem_nil
  | cons first rest ih =>
      rw [List.mapM_cons]
      rcases List.mem_cons.mp member with rfl | later
      · rw [fails]
        rfl
      · rw [ih later]
        cases read first <;> rfl

theorem execute_eq_none {kernel : ι → Option (List (Nat × α))} {items : List ι} {item : ι}
    (member : item ∈ items) (fails : kernel item = none)
    (order : List (Nat × α) → List (Nat × α)) (buffer : List α) :
    execute kernel items order buffer = none := by
  rw [execute, launch, mapM_eq_none member fails]
  rfl

theorem mapM_eq_some {β : Type*} {read : ι → Option β} {value : ι → β} {items : List ι}
    (each : ∀ item ∈ items, read item = some (value item)) :
    items.mapM read = some (items.map value) := by
  induction items with
  | nil => rfl
  | cons item rest ih =>
      rw [List.forall_mem_cons] at each
      rw [List.mapM_cons, each.1, ih each.2]
      rfl

structure LaunchedOnce (items counted : List ι) : Prop where
  distinct : items.Nodup
  covers : counted ⊆ items

theorem LaunchedOnce.of_perm {items counted : List ι} (launched : items.Perm counted)
    (distinct : counted.Nodup) : LaunchedOnce items counted :=
  ⟨launched.nodup_iff.mpr distinct, fun _ member => launched.mem_iff.mpr member⟩

theorem LaunchedOnce.perm {items counted : List ι} (launched : LaunchedOnce items counted)
    (distinct : counted.Nodup) {stores : ι → List (Nat × α)}
    (surplus : ∀ item, item ∉ counted → stores item = []) :
    (items.flatMap stores).Perm (counted.flatMap stores) := by
  classical
  have kept : (items.filter (· ∈ counted)).Perm counted := by
    apply (List.perm_ext_iff_of_nodup (launched.distinct.filter _) distinct).mpr
    intro item
    rw [List.mem_filter, decide_eq_true_eq]
    exact ⟨And.right, fun member => ⟨launched.covers member, member⟩⟩
  have same : items.flatMap stores = (items.filter (· ∈ counted)).flatMap stores := by
    clear launched kept
    induction items with
    | nil => rfl
    | cons item rest ih =>
        by_cases member : item ∈ counted
        · rw [List.filter_cons_of_pos (by simpa), List.flatMap_cons, List.flatMap_cons, ih]
        · rw [List.filter_cons_of_neg (by simpa), List.flatMap_cons, surplus item member, ih,
            List.nil_append]
  rw [same]
  exact kept.flatMap_right stores

theorem LaunchedOnce.computes_perm {items counted : List ι} (launched : LaunchedOnce items counted)
    (distinct : counted.Nodup) {kernel : ι → Option (List (Nat × α))}
    {stores : ι → List (Nat × α)} {output : List α}
    (runs : ∀ item ∈ counted, kernel item = some (stores item))
    (surplus : ∀ item, item ∉ counted → kernel item = some [])
    (stored : (counted.flatMap stores).Perm (output.zipIdx.map Prod.swap)) :
    Computes kernel items output := by
  classical
  let kept item := if item ∈ counted then stores item else []
  have each (item : ι) : kernel item = some (kept item) := by
    by_cases member : item ∈ counted
    · rw [runs item member]
      simp only [kept, if_pos member]
    · rw [surplus item member]
      simp only [kept, if_neg member]
  have together : launch kernel items = some (items.flatMap kept) := by
    rw [launch, mapM_eq_some fun item _ => each item, List.flatMap_def]
    rfl
  have counts : counted.flatMap kept = counted.flatMap stores :=
    List.flatMap_congr fun item member => if_pos member
  have once : (items.flatMap kept).Perm (output.zipIdx.map Prod.swap) := by
    rw [← counts] at stored
    exact (launched.perm distinct fun item member => if_neg member).trans stored
  constructor
  · exact ⟨_, together, once⟩
  · intro stored' together' order reordered buffer sized
    rw [together, Option.some.injEq] at together'
    subst together'
    exact scatter_eq (reordered.trans once) sized

/-- The work items that count may store in the order of the output. -/
theorem LaunchedOnce.computes {items counted : List ι} (launched : LaunchedOnce items counted)
    (distinct : counted.Nodup) {kernel : ι → Option (List (Nat × α))}
    {stores : ι → List (Nat × α)} {output : List α}
    (runs : ∀ item ∈ counted, kernel item = some (stores item))
    (surplus : ∀ item, item ∉ counted → kernel item = some [])
    (stored : counted.flatMap stores = output.zipIdx.map Prod.swap) :
    Computes kernel items output :=
  launched.computes_perm distinct runs surplus (.of_eq stored)

theorem zipIdx_map_range (value : Nat → α) (count : Nat) :
    ((List.range count).map value).zipIdx =
      (List.range count).map fun place => (value place, place) := by
  rw [List.zipIdx_eq_zip_range', List.length_map, List.length_range, ← List.range_eq_range',
    ← List.zip_map', List.map_id']

theorem nest_stores (outer inner : Nat) (value : Nat → Nat → α) :
    (nest outer fun i => (List.range inner).map fun j => (i * inner + j, value i j)) =
      ((List.range (outer * inner)).map fun place =>
        value (place / inner) (place % inner)).zipIdx.map Prod.swap := by
  rw [nest_range, zipIdx_map_range, List.map_map]
  apply List.map_congr_left
  intro place _
  rw [Nat.div_add_mod', Function.comp_apply, Prod.swap_prod_mk]

theorem planar_stores (count planes : Nat) (value : Nat → Nat → α) :
    (nest count fun place => (List.range planes).map fun plane =>
        (plane * count + place, value plane place)).Perm
      (((List.range (planes * count)).map fun idx =>
        value (idx / count) (idx % count)).zipIdx.map Prod.swap) := by
  have split {step : Nat} (inside : step < planes * count) :
      step / planes < count ∧ step % planes < planes := by
    have positive : 0 < planes := Nat.pos_of_mul_pos_right (Nat.zero_lt_of_lt inside)
    exact ⟨Nat.div_lt_of_lt_mul inside, Nat.mod_lt step positive⟩
  have order : ((List.range (planes * count)).map fun step =>
      step % planes * count + step / planes).Perm (List.range (planes * count)) := by
    apply perm_range
    · intro step inside
      obtain ⟨place, plane⟩ := split inside
      exact digits_lt plane place
    · intro step inside other within same
      obtain ⟨place, _⟩ := split inside
      obtain ⟨place', _⟩ := split within
      obtain ⟨plane, high⟩ := digits_inj place place' same
      exact eq_of_digits high plane
  have stored : ((List.range (planes * count)).map fun step =>
        (step % planes * count + step / planes, value (step % planes) (step / planes))) =
      ((List.range (planes * count)).map fun step =>
        step % planes * count + step / planes).map fun idx =>
          (idx, value (idx / count) (idx % count)) := by
    rw [List.map_map]
    apply List.map_congr_left
    intro step listed
    obtain ⟨place, _⟩ := split (List.mem_range.mp listed)
    have positive : 0 < count := Nat.zero_lt_of_lt place
    rw [Function.comp_apply, Nat.mul_comm _ count, Nat.mul_add_div positive,
      Nat.div_eq_of_lt place, Nat.mul_add_mod, Nat.mod_eq_of_lt place, Nat.add_zero]
  rw [nest_range, zipIdx_map_range, Nat.mul_comm count planes, stored]
  refine (order.map _).trans (.of_eq ?_)
  rw [List.map_map]
  rfl

end Foundation
