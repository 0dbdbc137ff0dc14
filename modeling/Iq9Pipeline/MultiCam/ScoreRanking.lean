import Iq9Pipeline.MultiCam.ScrfdDecode

/-!
The order of the detector's scores. A raw value between zero and one is taken as it is and
every other goes through the sigmoid, so that two values may change places where one of them
is on each of the two scales.
-/

namespace Iq9Pipeline.MultiCam

open Foundation Foundation.Numerals

section

variable {K : Type*} [Field K] [LinearOrder K]

structure Exponential (exp : K → K) : Prop where
  positive : ∀ value, 0 < exp value
  rises : StrictMono exp
  zero : exp 0 = 1

def Admitted (exp : K → K) (confThresh raw : K) : Prop :=
  (0 ≤ raw ∧ raw ≤ 1) ∧ confThresh ≤ raw ∨
    (raw < 0 ∨ 1 < raw) ∧ -10 ≤ raw ∧ confThresh * (1 + exp (-raw)) ≤ 1

/-- The lower value is taken past the higher one, by the scale that one of them is on. -/
def Crossed (exp : K → K) (low high : K) : Prop :=
  low < 0 ∧ (0 ≤ high ∧ high ≤ 1) ∧ high * (1 + exp (-low)) < 1 ∨
    (0 ≤ low ∧ low ≤ 1) ∧ 1 < high ∧ 1 < low * (1 + exp (-high))

theorem inside_iff (raw : K) : (0 ≤ raw ∧ raw ≤ 1) ↔ ¬(raw < 0 ∨ 1 < raw) := by
  simp only [not_or, not_lt]

theorem decodeScore_inside {exp : K → K} {raw : K} (inside : ¬(raw < 0 ∨ 1 < raw)) :
    decodeScore exp raw = some raw :=
  if_neg (mt Or.symm inside)

theorem decodeScore_outside {exp : K → K} {raw : K} (outside : raw < 0 ∨ 1 < raw) :
    decodeScore exp raw = if raw < -10 then none else some (1 / (1 + exp (-raw))) :=
  if_pos outside.symm

variable [IsStrictOrderedRing K] {exp : K → K} (exponential : Exponential exp)

include exponential

theorem sigmoid_denominator_pos (raw : K) : 0 < 1 + exp (-raw) :=
  add_pos one_pos (exponential.positive _)

theorem sigmoid_le {low high : K} (ordered : low ≤ high) :
    1 / (1 + exp (-low)) ≤ 1 / (1 + exp (-high)) := by
  have steps : exp (-high) ≤ exp (-low) := exponential.rises.monotone (neg_le_neg ordered)
  exact one_div_le_one_div_of_le (sigmoid_denominator_pos exponential high)
    (add_le_add_right steps 1)

theorem admitted_iff (confThresh raw : K) :
    Admitted exp confThresh raw ↔
      ∃ score, decodeScore exp raw = some score ∧ confThresh ≤ score := by
  rw [Admitted, inside_iff]
  by_cases outside : raw < 0 ∨ 1 < raw
  · rw [decodeScore_outside outside]
    simp only [outside, not_true, false_and, false_or, true_and]
    split
    · next far => simp [not_le.mpr far]
    · next near =>
        simp only [not_lt.mp near, true_and, Option.some.injEq, exists_eq_left']
        exact (le_div_iff₀ (sigmoid_denominator_pos exponential raw)).symm
  · rw [decodeScore_inside outside]
    simp [outside]

omit [IsStrictOrderedRing K] exponential in
theorem decodeScore_eq_some {raw score : K} (decoded : decodeScore exp raw = some score) :
    ¬(raw < 0 ∨ 1 < raw) ∧ score = raw ∨
      (raw < 0 ∨ 1 < raw) ∧ -10 ≤ raw ∧ score = 1 / (1 + exp (-raw)) := by
  by_cases outside : raw < 0 ∨ 1 < raw
  · rw [decodeScore_outside outside] at decoded
    split at decoded
    · cases decoded
    · next near =>
        exact Or.inr ⟨outside, not_lt.mp near, (Option.some.inj decoded).symm⟩
  · rw [decodeScore_inside outside] at decoded
    exact Or.inl ⟨outside, (Option.some.inj decoded).symm⟩

/-- Two values keep their order exactly where they do not cross. -/
theorem decodeScore_le_iff {low high lower higher : K} (ordered : low ≤ high)
    (decodedLow : decodeScore exp low = some lower)
    (decodedHigh : decodeScore exp high = some higher) :
    lower ≤ higher ↔ ¬ Crossed exp low high := by
  rw [Crossed, inside_iff, inside_iff]
  rcases decodeScore_eq_some decodedLow with ⟨insideLow, rfl⟩ | ⟨outsideLow, _, rfl⟩
  · rcases decodeScore_eq_some decodedHigh with ⟨insideHigh, rfl⟩ | ⟨outsideHigh, _, rfl⟩
    · refine iff_of_true ordered ?_
      rintro (⟨below, _⟩ | ⟨_, above, _⟩)
      · exact insideLow (Or.inl below)
      · exact insideHigh (Or.inr above)
    · have inside := (inside_iff lower).mpr insideLow
      have above : 1 < high :=
        outsideHigh.resolve_left (not_lt.mpr (inside.1.trans ordered))
      rw [le_div_iff₀ (sigmoid_denominator_pos exponential high)]
      simp [inside.2, above, not_lt.mpr inside.1]
  · rcases decodeScore_eq_some decodedHigh with ⟨insideHigh, rfl⟩ | ⟨outsideHigh, _, rfl⟩
    · have below : low < 0 := by
        by_contra nonneg
        have above := outsideLow.resolve_left nonneg
        exact insideHigh (Or.inr (above.trans_le ordered))
      rw [div_le_iff₀ (sigmoid_denominator_pos exponential low)]
      simp [insideHigh, below]
    · refine iff_of_true (sigmoid_le exponential ordered) ?_
      rintro (⟨_, within, _⟩ | ⟨within, _⟩)
      · exact within outsideHigh
      · exact within outsideLow

end

section

variable {K : Type*} [Field K] [LinearOrder K]

structure Entry (K : Type*) where
  logit : K
  det : FaceDetection K

def logitAt (tensors : Tensors K) (anchor : Anchor) : K :=
  (tensors (ScrfdTensorMap.scoreIdx anchor.1)).getD anchor.2 0

def entries (exp : K → K) (settings : DecodeSettings K) (tensors : Tensors K) : List (Entry K) :=
  anchors.filterMap fun anchor =>
    (decodeAnchor exp settings tensors anchor).join.map fun det => ⟨logitAt tensors anchor, det⟩

variable {exp : K → K} {settings : DecodeSettings K} {tensors : Tensors K}

def Prefers (first second : Entry K) : Prop :=
  second.logit ≤ first.logit ∨ second.det.score = first.det.score

structure TaggedRun (exp : K → K) (byScore : FallingSort (@FaceDetection.score K))
    (settings : DecodeSettings K) (tensors : Tensors K) (order kept : List (Entry K)) : Prop where
  perm : order.Perm (entries exp settings tensors)
  sorted : order.map Entry.det = byScore.sort ((entries exp settings tensors).map Entry.det)
  suppressed : kept = Suppression.suppress
    (fun first second => exceeds settings.nmsThresh first.det second.det) order
  returned : ∃ count, scrfdDecode exp byScore settings tensors =
    some ((kept.take count).map Entry.det)

structure GoesByLogit (thresh : K) (order kept : List (Entry K)) : Prop where
  sorts : order.Pairwise Prefers
  suppresses : ∃ dropped, (kept ++ dropped).Perm order ∧ ∀ entry ∈ dropped,
    ∃ other ∈ kept, Above thresh other.det entry.det ∧ Prefers other entry
  truncates : ∀ count, ∀ first ∈ kept.take count, ∀ second ∈ kept.drop count,
    Prefers first second

theorem decodeAll_entries (sized : Sized tensors) :
    decodeAll exp settings tensors = some ((entries exp settings tensors).map Entry.det) := by
  obtain ⟨answers, asked, reads, fits⟩ := mapM_answers fun anchor listed =>
    @decodeAnchor_reaches K _ _ exp settings tensors sized anchor listed
  have same : (entries exp settings tensors).map Entry.det = answers.filterMap Prod.snd := by
    rw [entries, ← asked, List.filterMap_map, List.map_filterMap]
    apply List.filterMap_congr
    intro answer listed
    simp [(fits answer listed).1, Function.comp_def]
  rw [decodeAll, reads, same]
  exact congrArg some (reduceOption_map_snd answers)

theorem exists_taggedRun (byScore : FallingSort (@FaceDetection.score K)) (sized : Sized tensors) :
    ∃ order kept, TaggedRun exp byScore settings tensors order kept := by
  have perm := byScore.perm ((entries exp settings tensors).map Entry.det)
  obtain ⟨order, sorted, same⟩ :
      Relation.Comp (· = List.map Entry.det ·) List.Perm _ (entries exp settings tensors) :=
    (congrFun (congrFun (List.eq_map_comp_perm Entry.det) _) _).mpr perm
  have kept : nms byScore ((entries exp settings tensors).map Entry.det) settings.nmsThresh =
      (Suppression.suppress
        (fun first second => exceeds settings.nmsThresh first.det second.det) order).map
          Entry.det := by
    rw [nms, sorted, Suppression.suppress_map]
  refine ⟨order, _, same, sorted.symm, rfl, ?_⟩
  simp only [scrfdDecode, decodeAll_entries sized, Option.bind_eq_bind, Option.bind_some, kept,
    ← List.map_take]
  exact ⟨_, rfl⟩

theorem entry_decoded (sized : Sized tensors) {entry : Entry K}
    (listed : entry ∈ entries exp settings tensors) :
    (∃ anchor ∈ anchors, logitAt tensors anchor = entry.logit) ∧
      decodeScore exp entry.logit = some entry.det.score ∧
        settings.confThresh ≤ entry.det.score := by
  obtain ⟨anchor, member, made⟩ := List.mem_filterMap.mp listed
  obtain ⟨found, decoded, ⟨raw, read, scored, _⟩, _⟩ :=
    @decodeAnchor_reaches K _ _ exp settings tensors sized anchor member
  rw [decoded, Option.join_some, Option.map_eq_some_iff] at made
  obtain ⟨det, present, rfl⟩ := made
  have same : logitAt tensors anchor = raw := by
    rw [logitAt, List.getD_eq_getElem?_getD, read, Option.getD_some]
  exact ⟨⟨anchor, member, rfl⟩, by rw [same]; exact scored det present⟩

theorem exists_entry (sized : Sized tensors) {anchor : Anchor} (member : anchor ∈ anchors)
    {score : K} (decoded : decodeScore exp (logitAt tensors anchor) = some score)
    (reached : settings.confThresh ≤ score) :
    ∃ entry ∈ entries exp settings tensors,
      entry.logit = logitAt tensors anchor ∧ entry.det.score = score := by
  obtain ⟨found, read, ⟨raw, readRaw, scored, without⟩, _⟩ :=
    @decodeAnchor_reaches K _ _ exp settings tensors sized anchor member
  have same : logitAt tensors anchor = raw := by
    rw [logitAt, List.getD_eq_getElem?_getD, readRaw, Option.getD_some]
  rw [same] at decoded
  cases found with
  | none => exact absurd reached (not_le.mpr (without rfl score decoded))
  | some det =>
      have agree := (scored det rfl).1
      rw [decoded, Option.some.injEq] at agree
      refine ⟨⟨logitAt tensors anchor, det⟩, List.mem_filterMap.mpr ⟨anchor, member, ?_⟩, rfl, ?_⟩
      · rw [read]
        rfl
      · exact agree.symm

def KeepsOrder (exp : K → K) (settings : DecodeSettings K) (tensors : Tensors K) : Prop :=
  ∀ low ∈ entries exp settings tensors, ∀ high ∈ entries exp settings tensors,
    low.logit ≤ high.logit → low.det.score ≤ high.det.score

theorem KeepsOrder.goesByLogit {byScore : FallingSort (@FaceDetection.score K)}
    (keeps : KeepsOrder exp settings tensors) {order kept : List (Entry K)}
    (run : TaggedRun exp byScore settings tensors order kept) :
    GoesByLogit settings.nmsThresh order kept := by
  have falling : order.Pairwise fun first second => second.det.score ≤ first.det.score := by
    have sorted := byScore.ordered ((entries exp settings tensors).map Entry.det)
    rw [← run.sorted, List.pairwise_map] at sorted
    exact sorted
  have sorts : order.Pairwise Prefers := by
    refine List.Pairwise.imp_of_mem (fun {first second} firstListed secondListed below => ?_)
      falling
    rcases le_or_gt second.logit first.logit with lower | higher
    · exact Or.inl lower
    · have above := keeps first (run.perm.subset firstListed) second
        (run.perm.subset secondListed) higher.le
      exact Or.inr (le_antisymm below above)
  have spec := Suppression.suppress_spec
    (fun first second : Entry K => exceeds settings.nmsThresh first.det second.det) sorts
  rw [← run.suppressed] at spec
  refine ⟨sorts, ?_, fun count first before second after => ?_⟩
  · obtain ⟨dropped, perm, covered⟩ := spec.covered
    refine ⟨dropped, perm, fun entry listed => ?_⟩
    obtain ⟨other, member, overlap, prefers⟩ := covered entry listed
    exact ⟨other, member, (exceeds_iff _ _ _).mp overlap, prefers⟩
  · have pairs := sorts.sublist spec.sublist
    rw [← List.take_append_drop count kept, List.pairwise_append] at pairs
    exact pairs.2.2 first before second after

end

section

variable {K : Type*} [Field K] [LinearOrder K] [IsStrictOrderedRing K]

def RankingPreserved (exp : K → K) (byScore : FallingSort (@FaceDetection.score K))
    (settings : DecodeSettings K) (tensors : Tensors K) : Prop :=
  KeepsOrder exp settings tensors ∧
    ∀ order kept, TaggedRun exp byScore settings tensors order kept →
      GoesByLogit settings.nmsThresh order kept

theorem ranking_preserved_iff {exp : K → K} (exponential : Exponential exp)
    (byScore : FallingSort (@FaceDetection.score K)) {settings : DecodeSettings K}
    {tensors : Tensors K} (sized : Sized tensors) :
    (∃ order kept, TaggedRun exp byScore settings tensors order kept) ∧
      (RankingPreserved exp byScore settings tensors ↔
        ∀ low ∈ anchors.map (logitAt tensors), ∀ high ∈ anchors.map (logitAt tensors),
          Admitted exp settings.confThresh low → Admitted exp settings.confThresh high →
            low ≤ high → ¬ Crossed exp low high) := by
  refine ⟨exists_taggedRun byScore sized, ?_, ?_⟩
  · rintro ⟨keeps, _⟩ low lowListed high highListed lowAdmitted highAdmitted ordered
    obtain ⟨first, firstMember, rfl⟩ := List.mem_map.mp lowListed
    obtain ⟨second, secondMember, rfl⟩ := List.mem_map.mp highListed
    obtain ⟨lower, decodedLow, lowReached⟩ := (admitted_iff exponential _ _).mp lowAdmitted
    obtain ⟨higher, decodedHigh, highReached⟩ := (admitted_iff exponential _ _).mp highAdmitted
    obtain ⟨entry, listed, logit, rfl⟩ := exists_entry sized firstMember decodedLow lowReached
    obtain ⟨other, listed', logit', rfl⟩ := exists_entry sized secondMember decodedHigh highReached
    apply (decodeScore_le_iff exponential ordered decodedLow decodedHigh).mp
    exact keeps entry listed other listed' (by rw [logit, logit']; exact ordered)
  · intro uncrossed
    have keeps : KeepsOrder exp settings tensors := by
      intro low lowListed high highListed ordered
      obtain ⟨⟨first, firstMember, firstLogit⟩, decodedLow, lowReached⟩ :=
        entry_decoded sized lowListed
      obtain ⟨⟨second, secondMember, secondLogit⟩, decodedHigh, highReached⟩ :=
        entry_decoded sized highListed
      apply (decodeScore_le_iff exponential ordered decodedLow decodedHigh).mpr
      exact uncrossed _ (List.mem_map.mpr ⟨first, firstMember, firstLogit⟩)
        _ (List.mem_map.mpr ⟨second, secondMember, secondLogit⟩)
        ((admitted_iff exponential _ _).mpr ⟨_, decodedLow, lowReached⟩)
        ((admitted_iff exponential _ _).mpr ⟨_, decodedHigh, highReached⟩) ordered
    exact ⟨keeps, fun order kept run => keeps.goesByLogit run⟩

end

section

theorem exponential_exp : Exponential Real.exp :=
  ⟨Real.exp_pos, Real.exp_strictMono, Real.exp_zero⟩

theorem brightTensors_ranked :
    RankingPreserved Real.exp byInsertion smallPicture brightTensors := by
  apply (ranking_preserved_iff exponential_exp byInsertion brightTensors_sized).2.mpr
  intro low lowListed high highListed _ _ _
  have one : ∀ raw ∈ anchors.map (logitAt brightTensors), raw = 1 := by
    intro raw listed
    obtain ⟨⟨s, i⟩, member, rfl⟩ := List.mem_map.mp listed
    have inside : i < (brightTensors (ScrfdTensorMap.scoreIdx s)).length := by
      rw [brightTensors_sized.scores]
      exact (mem_anchors s i).mp member
    rw [logitAt, List.getD_eq_getElem?_getD, List.getElem?_eq_getElem inside, Option.getD_some]
    exact List.getElem_replicate _
  rw [one low lowListed, one high highListed]
  rintro (⟨below, _⟩ | ⟨_, above, _⟩)
  · exact not_lt.mpr zero_le_one below
  · exact lt_irrefl _ above

def mixedTensors : Tensors ℝ := fun tensor =>
  if tensor = 0 then 1 :: List.replicate 12799 2 else List.replicate (tensorSizes tensor) 2

theorem mixedTensors_length (tensor : Fin 9) :
    (mixedTensors tensor).length = tensorSizes tensor := by
  rw [mixedTensors]
  split
  · next first =>
      rw [first, List.length_cons, List.length_replicate]
      rfl
  · exact List.length_replicate

theorem mixedTensors_sized : Sized mixedTensors := by
  constructor
  all_goals
    intro s
    rw [mixedTensors_length]
    fin_cases s <;> rfl

/-- The value of two becomes less than one, which is left as it is. -/
theorem mixedTensors_swapped :
    ¬ RankingPreserved Real.exp byInsertion smallPicture mixedTensors := by
  rintro ⟨keeps, _⟩
  have first : logitAt mixedTensors (0, 0) = 1 := rfl
  have second : logitAt mixedTensors (0, 1) = 2 := rfl
  have small : Real.exp (-2) < 1 := by
    rw [Real.exp_lt_one_iff]
    norm_num
  have positive := Real.exp_pos (-2)
  have decodedFirst : decodeScore Real.exp (logitAt mixedTensors (0, 0)) = some 1 := by
    rw [first]
    norm_num [decodeScore]
  have decodedSecond : decodeScore Real.exp (logitAt mixedTensors (0, 1)) =
      some (1 / (1 + Real.exp (-2))) := by
    rw [second]
    norm_num [decodeScore]
  have reached : smallPicture.confThresh ≤ 1 / (1 + Real.exp (-2)) := by
    rw [le_div_iff₀ (by linarith)]
    norm_num [smallPicture]
    linarith
  have enough : smallPicture.confThresh ≤ 1 := by
    norm_num [smallPicture]
  obtain ⟨low, lowListed, lowLogit, lowScore⟩ := exists_entry mixedTensors_sized
    ((mem_anchors 0 0).mpr (by decide)) decodedFirst enough
  obtain ⟨high, highListed, highLogit, highScore⟩ := exists_entry mixedTensors_sized
    ((mem_anchors 0 1).mpr (by decide)) decodedSecond reached
  have kept := keeps low lowListed high highListed (by
    rw [lowLogit, highLogit, first, second]
    norm_num)
  rw [lowScore, highScore, le_div_iff₀ (by linarith)] at kept
  linarith

end

end Iq9Pipeline.MultiCam
