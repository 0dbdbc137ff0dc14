import Mathlib.Data.List.Basic
import Mathlib.Data.List.Induction
import Mathlib.Order.Lattice

/-!
The scan that keeps the position of the greatest score so far. A candidate without a score
is passed over, and a later one has to be strictly better, so the scan ends at the first of
the greatest scores.
-/

namespace Foundation

theorem getElem?_concat_cases {Score : Type*} {scores : List (Option Score)}
    {offered : Option Score} {other : Nat} {rival : Score}
    (listed : (scores ++ [offered])[other]? = some (some rival)) :
    scores[other]? = some (some rival) ∨ other = scores.length ∧ offered = some rival := by
  rcases Nat.lt_or_ge other scores.length with below | above
  · left
    rwa [List.getElem?_append_left below] at listed
  · right
    rw [List.getElem?_append_right above, List.getElem?_singleton] at listed
    split at listed
    · rename_i last
      exact ⟨by omega, Option.some.inj listed⟩
    · cases listed

variable {Score : Type*} [LinearOrder Score]

structure Leader (Score : Type*) where
  position : Option Nat
  score : Score

def Leader.offer (leader : Leader Score) (position : Nat) : Option Score → Leader Score
  | none => leader
  | some score => if leader.score < score then ⟨some position, score⟩ else leader

def leaderOf (floor : Score) (scores : List (Option Score)) : Leader Score :=
  scores.zipIdx.foldl (fun leader offered => leader.offer offered.2 offered.1) ⟨none, floor⟩

def Ahead (scores : List (Option Score)) (position : Nat) (score : Score) : Prop :=
  ∀ other rival, scores[other]? = some (some rival) →
    rival < score ∨ rival = score ∧ position ≤ other

def Foremost (scores : List (Option Score)) (position : Nat) : Prop :=
  ∃ score, scores[position]? = some (some score) ∧ Ahead scores position score

theorem Foremost.unique {scores : List (Option Score)} {position other : Nat}
    (first : Foremost scores position) (second : Foremost scores other) : position = other := by
  obtain ⟨score, scored, ahead⟩ := first
  obtain ⟨rival, rated, before⟩ := second
  rcases ahead other rival rated with less | ⟨same, earlier⟩
  · rcases before position score scored with fewer | ⟨equal, _⟩
    · exact absurd less fewer.not_gt
    · exact absurd equal less.ne'
  · rcases before position score scored with fewer | ⟨_, later⟩
    · exact absurd same fewer.ne'
    · exact Nat.le_antisymm earlier later

theorem leaderOf_concat (floor : Score) (scores : List (Option Score)) (offered : Option Score) :
    leaderOf floor (scores ++ [offered]) =
      (leaderOf floor scores).offer scores.length offered := by
  simp [leaderOf, List.zipIdx_append, List.foldl_append]

inductive Leads (floor : Score) (scores : List (Option Score)) : Leader Score → Prop
  | unscored : (∀ score, some score ∉ scores) → Leads floor scores ⟨none, floor⟩
  | scored {position score} : scores[position]? = some (some score) →
      Ahead scores position score → Leads floor scores ⟨some position, score⟩

theorem Leads.pass {floor : Score} {scores : List (Option Score)} {leader : Leader Score}
    (leads : Leads floor scores leader) {offered : Option Score}
    (behind : ∀ rival, offered = some rival → leader.position ≠ none ∧ rival ≤ leader.score) :
    Leads floor (scores ++ [offered]) leader := by
  cases leads with
  | unscored unscored =>
      apply Leads.unscored
      intro score listed
      rcases List.mem_append.mp listed with seen | last
      · exact unscored score seen
      · exact (behind score (List.mem_singleton.mp last).symm).1 rfl
  | @scored position score scored ahead =>
      have bound := (List.getElem?_eq_some_iff.mp scored).1
      refine .scored (by rwa [List.getElem?_append_left bound]) ?_
      intro other rival listed
      rcases getElem?_concat_cases listed with seen | ⟨rfl, last⟩
      · exact ahead other rival seen
      · rcases (behind rival last).2.lt_or_eq with less | equal
        · exact .inl less
        · exact .inr ⟨equal, Nat.le_of_lt bound⟩

theorem Leads.take {floor : Score} {scores : List (Option Score)} {leader : Leader Score}
    (leads : Leads floor scores leader) {score : Score} (wins : leader.score < score) :
    Leads floor (scores ++ [some score]) ⟨some scores.length, score⟩ := by
  refine .scored (by simp) ?_
  intro other rival listed
  rcases getElem?_concat_cases listed with seen | ⟨rfl, last⟩
  · cases leads with
    | unscored unscored => exact absurd (List.mem_of_getElem? seen) (unscored rival)
    | scored _ ahead =>
        rcases ahead other rival seen with less | ⟨rfl, _⟩
        · exact .inl (less.trans wins)
        · exact .inl wins
  · exact .inr ⟨(Option.some.inj last).symm, Nat.le_refl _⟩

theorem leads_leaderOf {floor : Score} {scores : List (Option Score)}
    (above : ∀ score, some score ∈ scores → floor < score) :
    Leads floor scores (leaderOf floor scores) := by
  induction scores using List.reverseRecOn with
  | nil => exact .unscored fun score => List.not_mem_nil
  | append_singleton scores offered ih =>
      have leads := ih fun score listed => above score (List.mem_append_left _ listed)
      rw [leaderOf_concat]
      cases offered with
      | none => exact leads.pass nofun
      | some score =>
          simp only [Leader.offer]
          split
          · rename_i wins
            exact leads.take wins
          · rename_i loses
            apply leads.pass
            intro rival same
            obtain rfl := Option.some.inj same
            refine ⟨fun unled => ?_, not_lt.mp loses⟩
            -- Every score is above the floor, so the first one met is taken.
            generalize leaderOf floor scores = leader at leads loses unled
            cases leads with
            | unscored _ => exact loses (above score (by simp))
            | scored _ _ => cases unled

theorem leaderOf_lt {floor : Score} {scores : List (Option Score)} {position : Nat}
    (led : (leaderOf floor scores).position = some position) : position < scores.length := by
  induction scores using List.reverseRecOn with
  | nil => cases led
  | append_singleton scores offered ih =>
      rw [List.length_append, List.length_singleton]
      rw [leaderOf_concat] at led
      cases offered with
      | none => exact Nat.lt_succ_of_lt (ih led)
      | some score =>
          simp only [Leader.offer] at led
          split at led
          · obtain rfl := Option.some.inj led
            exact Nat.lt_succ_self _
          · exact Nat.lt_succ_of_lt (ih led)

theorem leaderOf_position_iff {floor : Score} {scores : List (Option Score)}
    (above : ∀ score, some score ∈ scores → floor < score) {position : Nat} :
    (leaderOf floor scores).position = some position ↔ Foremost scores position := by
  have leads := leads_leaderOf above
  generalize leaderOf floor scores = leader at leads
  cases leads with
  | unscored unscored =>
      constructor
      · nofun
      · rintro ⟨score, scored, _⟩
        exact absurd (List.mem_of_getElem? scored) (unscored score)
  | scored scored ahead =>
      constructor
      · intro same
        obtain rfl := Option.some.inj same
        exact ⟨_, scored, ahead⟩
      · intro foremost
        exact congrArg some (Foremost.unique ⟨_, scored, ahead⟩ foremost)

theorem exists_foremost {floor : Score} {scores : List (Option Score)}
    (above : ∀ score, some score ∈ scores → floor < score) {score : Score}
    (listed : some score ∈ scores) : ∃ position, Foremost scores position := by
  have leads := leads_leaderOf above
  generalize leaderOf floor scores = leader at leads
  cases leads with
  | unscored unscored => exact absurd listed (unscored score)
  | scored scored ahead => exact ⟨_, _, scored, ahead⟩

theorem le_leaderOf_score (floor : Score) (scores : List (Option Score)) :
    floor ≤ (leaderOf floor scores).score := by
  induction scores using List.reverseRecOn with
  | nil => exact le_refl floor
  | append_singleton scores offered ih =>
      rw [leaderOf_concat]
      cases offered with
      | none => exact ih
      | some score =>
          simp only [Leader.offer]
          split
          · rename_i wins
            exact ih.trans wins.le
          · exact ih

theorem leaderOf_filter (floor : Score) (scores : List (Option Score)) :
    leaderOf floor (scores.map (Option.filter fun score => floor < score)) =
      leaderOf floor scores := by
  induction scores using List.reverseRecOn with
  | nil => rfl
  | append_singleton scores offered ih =>
      rw [List.map_append, List.map_singleton, leaderOf_concat, leaderOf_concat, ih,
        List.length_map]
      cases offered with
      | none => rfl
      | some score =>
          by_cases above : floor < score
          · rw [Option.filter_some_pos (by simpa using above)]
          · have loses : ¬(leaderOf floor scores).score < score := fun wins =>
              above ((le_leaderOf_score floor scores).trans_lt wins)
            rw [Option.filter_some_neg (by simpa using above), Leader.offer, Leader.offer,
              if_neg loses]

theorem exists_foremost_of_mem {scores : List (Option Score)} {score : Score}
    (listed : some score ∈ scores) : ∃ position, Foremost scores position := by
  induction scores using List.reverseRecOn generalizing score with
  | nil => cases listed
  | append_singleton scores offered ih =>
      by_cases scored : ∃ earlier, some earlier ∈ scores
      · obtain ⟨earlier, seen⟩ := scored
        obtain ⟨position, best, found, ahead⟩ := ih seen
        have bound := (List.getElem?_eq_some_iff.mp found).1
        by_cases wins : ∃ rival, offered = some rival ∧ best < rival
        · obtain ⟨rival, rfl, greater⟩ := wins
          refine ⟨scores.length, rival, by simp, ?_⟩
          intro other value given
          rcases getElem?_concat_cases given with before | ⟨rfl, last⟩
          · rcases ahead other value before with less | ⟨rfl, _⟩
            · exact Or.inl (less.trans greater)
            · exact Or.inl greater
          · exact Or.inr ⟨(Option.some.inj last).symm, Nat.le_refl _⟩
        · refine ⟨position, best, by rwa [List.getElem?_append_left bound], ?_⟩
          intro other value given
          rcases getElem?_concat_cases given with before | ⟨rfl, last⟩
          · exact ahead other value before
          · rcases lt_or_eq_of_le (not_lt.mp fun greater => wins ⟨value, last, greater⟩) with
              less | equal
            · exact Or.inl less
            · exact Or.inr ⟨equal, Nat.le_of_lt bound⟩
      · rcases List.mem_append.mp listed with before | last
        · exact absurd ⟨score, before⟩ scored
        · obtain rfl := List.mem_singleton.mp last
          refine ⟨scores.length, score, by simp, ?_⟩
          intro other value given
          rcases getElem?_concat_cases given with before | ⟨rfl, same⟩
          · exact absurd ⟨value, List.mem_of_getElem? before⟩ scored
          · exact Or.inr ⟨(Option.some.inj same).symm, Nat.le_refl _⟩

theorem getElem?_filter_iff {floor : Score} {scores : List (Option Score)} {position : Nat}
    {score : Score} :
    (scores.map (Option.filter fun score => floor < score))[position]? = some (some score) ↔
      scores[position]? = some (some score) ∧ floor < score := by
  rw [List.getElem?_map, Option.map_eq_some_iff]
  constructor
  · rintro ⟨offered, listed, passed⟩
    obtain ⟨rfl, above⟩ := Option.filter_eq_some_iff.mp passed
    exact ⟨listed, of_decide_eq_true above⟩
  · rintro ⟨listed, above⟩
    exact ⟨some score, listed, Option.filter_some_pos (decide_eq_true above)⟩

/-- The scan ends at the first of the greatest scores if that is above the floor, and
nowhere otherwise. -/
theorem leaderOf_ahead {floor : Score} {scores : List (Option Score)} {position : Nat}
    {score : Score} (scored : scores[position]? = some (some score))
    (ahead : Ahead scores position score) :
    leaderOf floor scores = if floor < score then ⟨some position, score⟩ else ⟨none, floor⟩ := by
  have leads : Leads floor (scores.map (Option.filter fun score => floor < score))
      (leaderOf floor scores) := by
    rw [← leaderOf_filter]
    apply leads_leaderOf
    intro rival listed
    obtain ⟨other, given⟩ := List.mem_iff_getElem?.mp listed
    exact (getElem?_filter_iff.mp given).2
  generalize leaderOf floor scores = leader at leads
  cases leads with
  | unscored unscored =>
      rw [if_neg]
      intro above
      exact unscored score (List.mem_of_getElem? (getElem?_filter_iff.mpr ⟨scored, above⟩))
  | @scored other best given before =>
      obtain ⟨listed, above⟩ := getElem?_filter_iff.mp given
      have first : Foremost scores position := ⟨score, scored, ahead⟩
      have second : Foremost scores other := by
        refine ⟨best, listed, ?_⟩
        intro rival value rated
        by_cases passed : floor < value
        · exact before rival value (getElem?_filter_iff.mpr ⟨rated, passed⟩)
        · exact Or.inl ((not_lt.mp passed).trans_lt above)
      obtain rfl := first.unique second
      obtain rfl : score = best := by simpa [scored] using listed
      rw [if_pos above]

end Foundation
