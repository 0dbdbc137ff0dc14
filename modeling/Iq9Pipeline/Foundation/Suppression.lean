import Mathlib.Data.List.Basic
import Mathlib.Data.List.Sort
import Mathlib.Order.Defs.LinearOrder

/-!
Greedy suppression: the items are taken in the order of their scores, and one that is kept
flags the later ones it overlaps too much. The loop over the flags keeps an item exactly
where none that was kept before overlaps it.
-/

namespace Foundation

/-- A sort by falling scores, which leaves items of one score in any order. -/
structure FallingSort {Item Score : Type*} [LinearOrder Score] (score : Item → Score) where
  sort : List Item → List Item
  perm : ∀ items, (sort items).Perm items
  ordered : ∀ items, (sort items).Pairwise fun first second => score second ≤ score first

def FallingSort.insertion {Item Score : Type*} [LinearOrder Score] (score : Item → Score) :
    FallingSort score where
  sort := List.insertionSort fun first second => score second ≤ score first
  perm := List.perm_insertionSort _
  ordered items :=
    haveI : Std.Total fun first second : Item => score second ≤ score first :=
      ⟨fun _ _ => le_total _ _⟩
    haveI : IsTrans Item fun first second => score second ≤ score first :=
      ⟨fun _ _ _ first second => le_trans second first⟩
    List.pairwise_insertionSort _ items

namespace Suppression

variable {Item : Type*} (overlaps : Item → Item → Bool)

def flagLater (item : Item) (rest : List Item) (suppressed : List Bool) : List Bool :=
  List.zipWith (fun other flag => flag || overlaps item other) rest suppressed

def scan : List Item → List Bool → List Item
  | [], _ => []
  | item :: rest, suppressed =>
      if suppressed.headD false then scan rest suppressed.tail
      else item :: scan rest (flagLater overlaps item rest suppressed.tail)

def suppress (items : List Item) : List Item :=
  scan overlaps items (List.replicate items.length false)

def pick (kept : List Item) : List Item → List Item
  | [] => []
  | item :: rest =>
      if kept.any (overlaps · item) then pick kept rest
      else item :: pick (kept ++ [item]) rest

theorem scan_eq_pick (kept items : List Item) :
    scan overlaps items (items.map fun item => kept.any (overlaps · item)) =
      pick overlaps kept items := by
  induction items generalizing kept with
  | nil => rfl
  | cons item rest ih =>
      simp only [scan, pick, List.map_cons, List.headD_cons, List.tail_cons]
      split
      · exact ih kept
      · have flags :
            flagLater overlaps item rest (rest.map fun other => kept.any (overlaps · other)) =
              rest.map fun other => (kept ++ [item]).any (overlaps · other) := by
          rw [flagLater, List.zipWith_map_right, List.zipWith_self]
          simp
        rw [flags, ih]

theorem suppress_eq_pick (items : List Item) :
    suppress overlaps items = pick overlaps [] items := by
  rw [← scan_eq_pick, suppress]
  simp

theorem pick_sublist (kept items : List Item) : (pick overlaps kept items).Sublist items := by
  induction items generalizing kept with
  | nil => exact List.Sublist.refl _
  | cons item rest ih =>
      rw [pick]
      split
      · exact (ih kept).cons item
      · exact (ih _).cons_cons item

theorem pick_clear (kept items : List Item) :
    ∀ item ∈ pick overlaps kept items, ∀ before ∈ kept, overlaps before item = false := by
  induction items generalizing kept with
  | nil => simp [pick]
  | cons item rest ih =>
      rw [pick]
      split
      · exact ih kept
      · next clear =>
          intro other listed before member
          rcases List.mem_cons.mp listed with rfl | later
          · simp only [List.any_eq_true, not_exists, not_and, Bool.not_eq_true] at clear
            exact clear before member
          · exact ih _ other later before (List.mem_append_left _ member)

theorem pick_independent (kept items : List Item) :
    (pick overlaps kept items).Pairwise fun first second => overlaps first second = false := by
  induction items generalizing kept with
  | nil => exact List.Pairwise.nil
  | cons item rest ih =>
      rw [pick]
      split
      · exact ih kept
      · refine List.pairwise_cons.mpr ⟨fun other later => ?_, ih _⟩
        exact pick_clear overlaps _ rest other later item (by simp)

theorem pick_covers {before : Item → Item → Prop} (kept items : List Item)
    (ordered : items.Pairwise before) :
    ∃ dropped, (pick overlaps kept items ++ dropped).Perm items ∧
      ∀ item ∈ dropped, (∃ other ∈ kept, overlaps other item) ∨
        ∃ other ∈ pick overlaps kept items, overlaps other item ∧ before other item := by
  induction items generalizing kept with
  | nil => exact ⟨[], List.Perm.refl _, by simp⟩
  | cons item rest ih =>
      rw [List.pairwise_cons] at ordered
      rw [pick]
      split
      · next overlapped =>
          obtain ⟨dropped, perm, covered⟩ := ih kept ordered.2
          refine ⟨item :: dropped, List.perm_middle.trans (perm.cons item), ?_⟩
          intro other listed
          rcases List.mem_cons.mp listed with rfl | later
          · exact Or.inl (List.any_eq_true.mp overlapped)
          · exact covered other later
      · obtain ⟨dropped, perm, covered⟩ := ih (kept ++ [item]) ordered.2
        refine ⟨dropped, perm.cons item, fun other listed => ?_⟩
        rcases covered other listed with
          ⟨first, member, overlap⟩ | ⟨first, member, overlap, precedes⟩
        · rcases List.mem_append.mp member with earlier | last
          · exact Or.inl ⟨first, earlier, overlap⟩
          · rw [List.mem_singleton] at last
            subst last
            have later : other ∈ rest := perm.subset (List.mem_append_right _ listed)
            exact Or.inr ⟨first, List.mem_cons_self, overlap, ordered.1 other later⟩
        · exact Or.inr ⟨first, List.mem_cons_of_mem _ member, overlap, precedes⟩

/-- What suppression keeps of items that come in an order. -/
structure Suppresses (before : Item → Item → Prop) (items kept : List Item) : Prop where
  sublist : kept.Sublist items
  independent : kept.Pairwise fun first second => overlaps first second = false
  covered : ∃ dropped, (kept ++ dropped).Perm items ∧
    ∀ item ∈ dropped, ∃ other ∈ kept, overlaps other item ∧ before other item

theorem suppress_spec {before : Item → Item → Prop} {items : List Item}
    (ordered : items.Pairwise before) :
    Suppresses overlaps before items (suppress overlaps items) := by
  rw [suppress_eq_pick]
  obtain ⟨dropped, perm, covered⟩ := pick_covers overlaps [] items ordered
  refine ⟨pick_sublist overlaps [] items, pick_independent overlaps [] items, dropped, perm, ?_⟩
  intro item listed
  exact (covered item listed).resolve_left (by simp)

theorem pick_map {Tagged : Type*} (untag : Tagged → Item) (kept items : List Tagged) :
    pick overlaps (kept.map untag) (items.map untag) =
      (pick (fun first second => overlaps (untag first) (untag second)) kept items).map untag := by
  induction items generalizing kept with
  | nil => rfl
  | cons item rest ih =>
      simp only [List.map_cons, pick, List.any_map, Function.comp_def]
      split
      · exact ih kept
      · rw [List.map_cons, ← ih, List.map_append, List.map_singleton]

theorem suppress_map {Tagged : Type*} (untag : Tagged → Item) (items : List Tagged) :
    suppress overlaps (items.map untag) =
      (suppress (fun first second => overlaps (untag first) (untag second)) items).map untag := by
  rw [suppress_eq_pick, suppress_eq_pick]
  exact pick_map overlaps untag [] items

end Suppression

end Foundation
