import Iq9Pipeline.MultiCam.MsgAgg
import Iq9Pipeline.Foundation.JsonJoin

/-!
The text that one pass of the message aggregator's worker emits (`gstmsgagg.cpp`, phase 3),
from the items that it pops: one or none of each pad, in the order of the pads.
-/

namespace Iq9Pipeline.MultiCam

open Foundation.JsonText

def placeholder : List UInt8 :=
  [0x7b, 0x7d]

def appendItem (batch : List UInt8) (item : Option (List UInt8)) : List UInt8 :=
  (if 1 < batch.length then batch ++ [0x2c] else batch) ++ item.getD placeholder

def batchText (items : List (Option (List UInt8))) : List UInt8 :=
  items.foldl appendItem [0x7b] ++ [0x7d]

def sourceOf (glib : JsonGlib) (item : Option (List UInt8)) : Option Value :=
  item.bind fun json => (glib.parse json).bind asObject

def mergeText (glib : JsonGlib) (items : List (Option (List UInt8))) : List UInt8 :=
  glib.toText (sceneUpdate (items.filterMap (sourceOf glib)))

theorem buildSceneMerge_eq (glib : JsonGlib) (datapads : List DataPad) :
    (buildSceneMerge glib datapads).1 = mergeText glib (datapads.map List.head?) := by
  rw [buildSceneMerge, mergeText, mergedSources, List.filterMap_map]
  rfl

def emittedText (glib : JsonGlib) (merge : Bool) (items : List (Option (List UInt8))) :
    List UInt8 :=
  if merge then mergeText glib items else batchText items

def Objects (items : List (Option (List UInt8))) : Prop :=
  ∀ json, some json ∈ items → ∃ members, Denotes json (.object members)

def padObjects (items : List (Option (List UInt8))) : List (Option Value) :=
  items.map fun item => read (item.getD placeholder)

theorem denotes_placeholder : Denotes placeholder (.object []) := by
  rw [Denotes]
  decide +kernel

theorem Objects.denotes {items : List (Option (List UInt8))} (objects : Objects items) :
    ∀ item ∈ items, ∃ members, Denotes (item.getD placeholder) (.object members) := by
  intro item member
  cases item with
  | none => exact ⟨[], denotes_placeholder⟩
  | some json => exact objects json member

theorem ne_nil_of_denotes {text : List UInt8} {value : Value} (denotes : Denotes text value) :
    text ≠ [] := by
  rintro rfl
  obtain ⟨head, more, same, _⟩ := symbols_eq_cons value
  rw [Denotes, same] at denotes
  exact absurd denotes (by simp [lex, scanFrom])

theorem foldl_appendItem {batch : List UInt8} (longer : 1 < batch.length)
    (items : List (Option (List UInt8))) :
    items.foldl appendItem batch =
      batch ++ (items.map fun item => item.getD placeholder).flatMap fun next => 0x2c :: next := by
  induction items generalizing batch with
  | nil => simp
  | cons item items ih =>
      rw [List.foldl_cons, ih]
      · simp [appendItem, longer]
      · rw [appendItem, if_pos longer, List.length_append, List.length_append]
        omega

theorem batchText_eq {items : List (Option (List UInt8))} (objects : Objects items) :
    batchText items =
      0x7b :: (Tree.separated (items.map fun item => item.getD placeholder) ++ [0x7d]) := by
  cases items with
  | nil => rfl
  | cons item items =>
      obtain ⟨members, denotes⟩ := objects.denotes item (List.mem_cons_self ..)
      have filled := List.length_pos_iff.mpr (ne_nil_of_denotes denotes)
      have longer : 1 < (appendItem [0x7b] item).length := by
        simpa [appendItem] using filled
      rw [batchText, List.foldl_cons, foldl_appendItem longer]
      simp [appendItem, Tree.separated]

/-- Between square brackets the items would be the list of the pads' objects. -/
theorem denotes_bracketed {items : List (Option (List UInt8))} (objects : Objects items) :
    ∃ values, padObjects items = values.map some ∧
      Denotes (0x5b :: (Tree.separated (items.map fun item => item.getD placeholder) ++ [0x5d]))
        (.array values) := by
  have each : ∃ values, padObjects items = values.map some ∧
      List.Forall₂ Denotes (items.map fun item => item.getD placeholder) values := by
    have denotes := objects.denotes
    clear objects
    induction items with
    | nil => exact ⟨[], rfl, .nil⟩
    | cons item items ih =>
        rw [List.forall_mem_cons] at denotes
        obtain ⟨⟨members, first⟩, rest⟩ := denotes
        obtain ⟨values, same, denoted⟩ := ih rest
        refine ⟨.object members :: values, ?_, .cons first denoted⟩
        rw [List.map_cons, ← same, ← read_eq_some_iff.mpr first]
        rfl
  obtain ⟨values, same, denoted⟩ := each
  exact ⟨values, same, denotes_separated denoted⟩

theorem padObjects_of_batchText {items others : List (Option (List UInt8))}
    (objects : Objects items) (objects' : Objects others)
    (same : batchText others = batchText items) : padObjects others = padObjects items := by
  rw [batchText_eq objects, batchText_eq objects', List.cons_inj_right,
    List.append_cancel_right_eq] at same
  obtain ⟨values, listed, denotes⟩ := denotes_bracketed objects
  obtain ⟨values', listed', denotes'⟩ := denotes_bracketed objects'
  rw [same] at denotes'
  obtain rfl : values' = values := by simpa using denotes'.unique denotes
  rw [listed, listed']

/-- One value, from which a reader of the other mode gets the objects back. -/
def Decodable (glib : JsonGlib) (merge : Bool) (items : List (Option (List UInt8))) : Prop :=
  (∃ value, Denotes (emittedText glib merge items) value) ∧
    (merge = false → ∀ others, Objects others → batchText others = batchText items →
      padObjects others = padObjects items)

theorem not_denotes_batchText {items : List (Option (List UInt8))} (nonempty : items ≠ [])
    (objects : Objects items) (value : Value) : ¬ Denotes (batchText items) value := by
  cases items with
  | nil => exact absurd rfl nonempty
  | cons item items =>
      obtain ⟨members, denotes⟩ := objects.denotes item (List.mem_cons_self ..)
      rw [batchText_eq objects, List.map_cons, Tree.separated, List.append_assoc]
      refine not_denotes_of_nested denotes ?_ value
      cases items with
      | nil => exact closes_mark .endObject []
      | cons next items => exact closes_mark .valueSeparator _

/-- A merge is one value, a plain batch never is. -/
theorem decodable_iff (glib : JsonGlib) (merge : Bool) {items : List (Option (List UInt8))}
    (nonempty : items ≠ []) (objects : Objects items) :
    Decodable glib merge items ↔ merge = true := by
  constructor
  · rintro ⟨⟨value, denotes⟩, _⟩
    cases merge with
    | true => rfl
    | false => exact absurd denotes (not_denotes_batchText nonempty objects value)
  · rintro rfl
    exact ⟨⟨_, Tree.denotes_write glib.isNumber_number glib.decodeText_quote _⟩, nofun⟩

def oneItem : List (Option (List UInt8)) :=
  [some (utf8 "\x7b\"frame_id\":1\x7d"), none]

theorem objects_oneItem : Objects oneItem := by
  intro json member
  simp only [oneItem, List.mem_cons, Option.some.injEq, reduceCtorEq, List.not_mem_nil,
    or_false] at member
  rw [member]
  refine ⟨[("frame_id", .number (utf8 "1"))], ?_⟩
  rw [Denotes]
  decide +kernel

theorem decodable_iff_oneItem : Decodable JsonGlib.verbatim true oneItem ↔ true = true :=
  decodable_iff JsonGlib.verbatim true (by decide) objects_oneItem

theorem batchUndecodable : ¬ ∀ (glib : JsonGlib) (merge : Bool)
    (items : List (Option (List UInt8))), items ≠ [] → Objects items →
      Decodable glib merge items := by
  intro universal
  obtain ⟨⟨value, denotes⟩, _⟩ :=
    universal JsonGlib.verbatim false oneItem (by decide) objects_oneItem
  exact not_denotes_batchText (by decide) objects_oneItem value denotes

end Iq9Pipeline.MultiCam
