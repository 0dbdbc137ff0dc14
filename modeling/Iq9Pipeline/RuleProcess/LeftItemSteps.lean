import Iq9Pipeline.RuleProcess.LeftItemRule
import Mathlib.Data.List.Basic

/-!
What one call of the left-item rule does to one item. The update of the state either
erases the item, gives it the box of its last detection, or leaves it alone; the
decision on it then depends on its own state only.
-/

namespace Iq9Pipeline.RuleProcess

variable {Number : Type}

def lastBox (trackId : Int32) : List (Int32 × List Number) → Option (List Number)
  | [] => none
  | update :: updates =>
      match lastBox trackId updates with
      | some bbox => some bbox
      | none => if update.1 = trackId then some update.2 else none

def Decision.settle (decision : Decision) (item : ItemState Number) : ItemState Number :=
  { item with startTs := decision.startTs, alerted := decision.alerted }

theorem erased_lookup {Value : Type} (entries : Std.TreeMap Int32 Value) (removed : List Int32)
    (trackId : Int32) :
    (removed.foldl (fun entries rid => entries.erase rid) entries)[trackId]? =
      if trackId ∈ removed then none else entries[trackId]? := by
  induction removed generalizing entries with
  | nil => simp
  | cons rid removed ih =>
      rw [List.foldl_cons, ih, Std.TreeMap.getElem?_erase]
      by_cases same : rid = trackId
      · simp [same]
      · have other : trackId ≠ rid := Ne.symm same
        simp only [List.mem_cons, other, false_or, Std.LawfulEqCmp.compare_eq_iff_eq, same,
          if_false]

theorem lastBox_isSome_iff {trackId : Int32} {updates : List (Int32 × List Number)} :
    (lastBox trackId updates).isSome ↔ trackId ∈ updates.map Prod.fst := by
  induction updates with
  | nil => simp [lastBox]
  | cons update updates ih =>
      rw [lastBox, List.map_cons, List.mem_cons, ← ih]
      cases later : lastBox trackId updates with
      | some bbox => simp
      | none => simp [eq_comm (a := trackId)]

theorem mem_of_lastBox {updates : List (Int32 × List Number)} {trackId : Int32}
    {bbox : List Number} (last : lastBox trackId updates = some bbox) :
    (trackId, bbox) ∈ updates := by
  induction updates with
  | nil => simp [lastBox] at last
  | cons update updates ih =>
      rw [lastBox] at last
      cases later : lastBox trackId updates with
      | some kept =>
          simp only [later, Option.some.injEq] at last
          exact List.mem_cons_of_mem update (ih (last ▸ later))
      | none =>
          simp only [later, Option.ite_none_right_eq_some, Option.some.injEq] at last
          obtain ⟨rfl, rfl⟩ := last
          exact List.mem_cons_self

namespace LeftItemRule

theorem putBox_lookup (items : Std.TreeMap Int32 (ItemState Number))
    (update : Int32 × List Number) (trackId : Int32) :
    (putBox items update)[trackId]? =
      if update.1 = trackId then
        some { items[trackId]?.getD {} with bbox := update.2 }
      else items[trackId]? := by
  rw [putBox, Std.TreeMap.getElem?_insert]
  by_cases same : update.1 = trackId
  · simp [same, Std.TreeMap.getD_eq_getD_getElem?]
  · simp only [Std.LawfulEqCmp.compare_eq_iff_eq, same, if_false]

theorem putBoxes_lookup (items : Std.TreeMap Int32 (ItemState Number))
    (updates : List (Int32 × List Number)) (trackId : Int32) :
    (updates.foldl putBox items)[trackId]? =
      match lastBox trackId updates with
      | some bbox => some { items[trackId]?.getD {} with bbox := bbox }
      | none => items[trackId]? := by
  induction updates generalizing items with
  | nil => rfl
  | cons update updates ih =>
      rw [List.foldl_cons, ih, putBox_lookup, lastBox]
      cases later : lastBox trackId updates with
      | some bbox => by_cases same : update.1 = trackId <;> simp [same]
      | none => by_cases same : update.1 = trackId <;> simp [same]

theorem writeBack_lookup_of_absent {state : LeftItemState Number} {decisions : List Decision}
    {trackId : Int32} (absent : trackId ∉ decisions.map Decision.trackId) :
    (writeBack state decisions).itemStates[trackId]? = state.itemStates[trackId]? := by
  induction decisions generalizing state with
  | nil => rfl
  | cons decision decisions ih =>
      rw [List.map_cons, List.mem_cons, not_or] at absent
      have rest := @ih (writeBack state [decision]) absent.2
      simp only [writeBack, List.foldl_cons, List.foldl_nil] at rest ⊢
      rw [rest, Std.TreeMap.getElem?_modify]
      simp only [Std.LawfulEqCmp.compare_eq_iff_eq, Ne.symm absent.1, if_false]

theorem writeBack_lookup {state : LeftItemState Number} {decisions : List Decision}
    (distinct : (decisions.map Decision.trackId).Nodup) {decision : Decision}
    (member : decision ∈ decisions) :
    (writeBack state decisions).itemStates[decision.trackId]? =
      state.itemStates[decision.trackId]?.map decision.settle := by
  induction decisions generalizing state with
  | nil => simp at member
  | cons first decisions ih =>
      rw [List.map_cons, List.nodup_cons] at distinct
      have split : writeBack state (first :: decisions) =
          writeBack (writeBack state [first]) decisions := rfl
      rw [split]
      have single : ∀ trackId, (writeBack state [first]).itemStates[trackId]? =
          if first.trackId = trackId then state.itemStates[trackId]?.map first.settle
          else state.itemStates[trackId]? := by
        intro trackId
        simp only [writeBack, List.foldl_cons, List.foldl_nil, Std.TreeMap.getElem?_modify,
          Std.LawfulEqCmp.compare_eq_iff_eq]
        by_cases same : first.trackId = trackId
        · subst same
          rw [if_pos rfl, if_pos rfl]
          rfl
        · simp [same]
      rcases List.mem_cons.mp member with rfl | later
      · rw [writeBack_lookup_of_absent distinct.1, single, if_pos rfl]
      · have other : first.trackId ≠ decision.trackId := by
          intro same
          exact distinct.1 (same ▸ List.mem_map_of_mem later)
        rw [ih distinct.2 later, single, if_neg other]

theorem workItems_nodup (state : LeftItemState Number) :
    ((workItems state).map Prod.fst).Nodup := by
  rw [List.Nodup, List.pairwise_map]
  refine Std.TreeMap.distinct_keys_toList.imp fun apart same => ?_
  exact apart (Std.LawfulEqCmp.compare_eq_iff_eq.mpr same)

theorem mem_workItems {state : LeftItemState Number} {item : Int32 × ItemState Number} :
    item ∈ workItems state ↔ state.itemStates[item.1]? = some item.2 :=
  Std.TreeMap.mem_toList_iff_getElem?_eq_some

theorem itemAlert_trackId (rule : LeftItemRule Number) (event : RuleEvent Number)
    (trackId : Int32) : (rule.itemAlert event trackId).trackId = trackId := by
  rw [itemAlert]
  split
  · rename_i merged
    exact merged.symm
  · rfl

theorem itemAlert_timestamp (rule : LeftItemRule Number) (event : RuleEvent Number)
    (trackId : Int32) : (rule.itemAlert event trackId).timestamp = event.timestamp := by
  rw [itemAlert]
  split <;> rfl

variable [Scalar Number] (rule : LeftItemRule Number) (state : LeftItemState Number)
  (event : RuleEvent Number)

theorem gracePeriodUs_ne_zero {rule : LeftItemRule Number} (valid : rule.validate = .ok ()) :
    rule.gracePeriodUs ≠ 0 := by
  intro zero
  simp only [validate, zero, if_true] at valid
  split at valid
  · exact nomatch valid
  · split at valid <;> exact nomatch valid

theorem decision_of_owned {event : RuleEvent Number} {zones : List (List Number)}
    {trackId : Int32} {item : ItemState Number} (owned : rule.hasOwner zones item.bbox = true) :
    rule.decision event zones (trackId, item) = ⟨trackId, true, 0, false, none⟩ := by
  simp [decision, owned]

theorem decision_of_unowned {event : RuleEvent Number} {zones : List (List Number)}
    {trackId : Int32} {item : ItemState Number}
    (unowned : rule.hasOwner zones item.bbox = false) :
    rule.decision event zones (trackId, item) =
      ⟨trackId, false, startTs event item, item.alerted || rule.overdue event item,
        if !item.alerted && rule.overdue event item then some (rule.itemAlert event trackId)
        else none⟩ := by
  cases latch : item.alerted <;> simp [decision, unowned, latch]

@[simp] theorem decision_trackId (zones : List (List Number))
    (item : Int32 × ItemState Number) : (rule.decision event zones item).trackId = item.1 := by
  rw [decision]
  split <;> rfl

theorem eq_itemAlert_of_decision {event : RuleEvent Number} {zones : List (List Number)}
    {item : Int32 × ItemState Number} {alert : Alert}
    (raised : (rule.decision event zones item).alert = some alert) :
    alert = rule.itemAlert event item.1 := by
  rw [decision] at raised
  split at raised
  · simp at raised
  · dsimp only at raised
    split at raised
    · exact (Option.some.inj raised).symm
    · simp at raised

theorem decisions_nodup (event : RuleEvent Number) (zones : List (List Number)) :
    (((workItems state).map (rule.decision event zones)).map Decision.trackId).Nodup := by
  rw [List.map_map]
  have keys : Decision.trackId ∘ rule.decision event zones = Prod.fst := by
    funext item
    exact rule.decision_trackId event zones item
  rw [keys]
  exact workItems_nodup state

/-- What the update of the state leaves of an item. -/
theorem updateState_lookup (removedTrackIds : List Int32) (gathered : Gathered Number)
    (trackId : Int32) :
    let kept := if trackId ∈ rule.erasedItems state removedTrackIds then none
      else state.itemStates[trackId]?
    (rule.updateState state removedTrackIds gathered).itemStates[trackId]? =
      match lastBox trackId (rule.allItemUpdates gathered) with
      | some bbox => some { kept.getD {} with bbox := bbox }
      | none => kept := by
  simp only [updateState, putBoxes_lookup, erased_lookup]

theorem refreshed_lookup (trackId : Int32) :
    let gathered := (rule.scan state.personStates event.detections).2
    let kept := if trackId ∈ rule.erasedItems state event.removedTrackIds then none
      else state.itemStates[trackId]?
    (rule.refreshed state event).itemStates[trackId]? =
      match lastBox trackId (rule.allItemUpdates gathered) with
      | some bbox => some { kept.getD {} with bbox := bbox }
      | none => kept :=
  rule.updateState_lookup _ event.removedTrackIds _ trackId

theorem apply_lookup (trackId : Int32) :
    (rule.apply state event).2.itemStates[trackId]? =
      (rule.refreshed state event).itemStates[trackId]?.map fun item =>
        (rule.decision event (rule.zones state event) (trackId, item)).settle item := by
  have distinct := rule.decisions_nodup (rule.refreshed state event) event
    (rule.zones state event)
  simp only [apply, decisions]
  cases found : (rule.refreshed state event).itemStates[trackId]? with
  | none =>
      rw [writeBack_lookup_of_absent, found]
      · rfl
      · intro member
        simp only [List.map_map, List.mem_map, Function.comp_apply, decision_trackId] at member
        obtain ⟨item, listed, rfl⟩ := member
        rw [mem_workItems, found] at listed
        simp at listed
  | some item =>
      have listed : (trackId, item) ∈ workItems (rule.refreshed state event) :=
        mem_workItems.mpr found
      have written := @writeBack_lookup _ (rule.refreshed state event) _ distinct _
        (List.mem_map_of_mem listed)
      rw [decision_trackId, found] at written
      exact written

theorem mem_apply {alert : Alert} :
    alert ∈ (rule.apply state event).1 ↔
      ∃ trackId item, (rule.refreshed state event).itemStates[trackId]? = some item ∧
        (rule.decision event (rule.zones state event) (trackId, item)).alert = some alert := by
  simp only [apply, decisions, List.mem_filterMap, List.mem_map]
  constructor
  · rintro ⟨_, ⟨item, listed, rfl⟩, raised⟩
    exact ⟨item.1, item.2, mem_workItems.mp listed, raised⟩
  · rintro ⟨trackId, item, found, raised⟩
    exact ⟨_, ⟨(trackId, item), mem_workItems.mpr found, rfl⟩, raised⟩

end LeftItemRule

end Iq9Pipeline.RuleProcess
