import Mathlib.Data.List.Induction

/-!
Announcements that are made once until a renewal: what is outstanding in a trace of events,
and how a trace goes on without an announcement that is outstanding.
-/

namespace Foundation

variable {Event Item : Type*} {announces renews : Event → Item → Prop} {trace added : List Event}
  {event : Event} {item : Item}

def Outstanding (announces renews : Event → Item → Prop) (trace : List Event) (item : Item) :
    Prop :=
  ∃ before announcement after, trace = before ++ announcement :: after ∧
    announces announcement item ∧ ∀ event ∈ after, ¬renews event item

def Once (announces renews : Event → Item → Prop) (trace : List Event) (item : Item) : Prop :=
  ∀ before first between second after,
    trace = before ++ first :: (between ++ second :: after) →
      announces first item → announces second item → ∃ event ∈ between, renews event item

theorem not_outstanding_nil : ¬Outstanding announces renews [] item := by
  rintro ⟨before, _, _, split, _⟩
  exact List.append_ne_nil_of_right_ne_nil before (List.cons_ne_nil _ _) split.symm

theorem once_nil : Once announces renews [] item := by
  intro before _ _ _ _ split
  exact absurd split.symm (List.append_ne_nil_of_right_ne_nil before (List.cons_ne_nil _ _))

theorem Outstanding.of_concat (outstanding : Outstanding announces renews (trace ++ [event]) item) :
    announces event item ∨ Outstanding announces renews trace item ∧ ¬renews event item := by
  obtain ⟨before, announcement, after, split, announced, quiet⟩ := outstanding
  rcases List.eq_nil_or_concat after with rfl | ⟨rest, last, rfl⟩
  · obtain ⟨_, same⟩ := List.append_inj' split rfl
    exact .inl (List.singleton_inj.mp same ▸ announced)
  · rw [List.concat_eq_append] at split quiet
    rw [← List.cons_append, ← List.append_assoc] at split
    obtain ⟨rfl, same⟩ := List.append_inj' split rfl
    obtain rfl := List.singleton_inj.mp same
    exact .inr ⟨⟨before, announcement, rest, rfl, announced, fun event earlier =>
      quiet event (List.mem_append_left _ earlier)⟩, quiet event (by simp)⟩

theorem Once.concat (once : Once announces renews trace item)
    (free : announces event item → ¬Outstanding announces renews trace item) :
    Once announces renews (trace ++ [event]) item := by
  intro before first between second after split early late
  rcases List.eq_nil_or_concat after with rfl | ⟨rest, last, rfl⟩
  · rw [← List.cons_append, ← List.append_assoc] at split
    obtain ⟨rfl, same⟩ := List.append_inj' split rfl
    obtain rfl := List.singleton_inj.mp same
    by_contra quiet
    exact free late ⟨before, first, between, rfl, early, fun other listed renewed =>
      quiet ⟨other, listed, renewed⟩⟩
  · have whole : trace ++ [event] =
        (before ++ first :: (between ++ second :: rest)) ++ [last] := by
      rw [split, List.concat_eq_append]
      simp only [List.cons_append, List.append_assoc]
    exact once before first between second rest (List.append_inj' whole rfl).1 early late

theorem Outstanding.of_append (silent : ∀ event ∈ added, ¬announces event item)
    (outstanding : Outstanding announces renews (trace ++ added) item) :
    Outstanding announces renews trace item ∧ ∀ event ∈ added, ¬renews event item := by
  induction added using List.reverseRecOn with
  | nil =>
      rw [List.append_nil] at outstanding
      exact ⟨outstanding, nofun⟩
  | append_singleton added event ih =>
      rw [← List.append_assoc] at outstanding
      rcases outstanding.of_concat with announced | ⟨earlier, kept⟩
      · exact absurd announced (silent event (by simp))
      · obtain ⟨outstanding, rest⟩ := ih (fun other listed =>
          silent other (List.mem_append_left _ listed)) earlier
        refine ⟨outstanding, fun other listed => ?_⟩
        rcases List.mem_append.mp listed with early | last
        · exact rest other early
        · rwa [List.mem_singleton.mp last]

theorem Once.append (once : Once announces renews trace item)
    (silent : ∀ event ∈ added, ¬announces event item) :
    Once announces renews (trace ++ added) item := by
  induction added using List.reverseRecOn with
  | nil => rwa [List.append_nil]
  | append_singleton added event ih =>
      rw [← List.append_assoc]
      refine (ih fun other listed => silent other (List.mem_append_left _ listed)).concat ?_
      intro announced
      exact absurd announced (silent event (by simp))

end Foundation
