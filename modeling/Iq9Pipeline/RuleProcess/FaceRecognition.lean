import Iq9Pipeline.RuleProcess.LeftItemSteps
import Iq9Pipeline.RuleProcess.TrackGrowth
import Mathlib.Analysis.Real.Sqrt

/-!
Whom the open-trunk rule names: what its cache says of a track is what the database said of
the first embedding shown for it since its last removal, so an alert names a person that
was recognised then.
-/

namespace Iq9Pipeline.RuleProcess

/-- Numbers whose order is exact, unlike that of `float` with its NaN. -/
class ExactOrder (Number : Type) [Scalar Number] : Prop where
  le_trans {a b c : Number} : a ≤ b → b ≤ c → a ≤ c
  le_total (a b : Number) : a ≤ b ∨ b ≤ a
  lt_iff {a b : Number} : a < b ↔ ¬ b ≤ a
  lowest : (-1.0 : Number) ≤ 0.0

instance : ExactOrder ℚ where
  le_trans := le_trans
  le_total := le_total
  lt_iff := lt_iff_not_ge
  lowest := by norm_num

noncomputable scoped instance : Scalar ℝ where
  decidableLt := inferInstance
  decidableLe := inferInstance
  sqrt := Real.sqrt
  toUInt64 value := UInt64.ofNat ⌊value⌋.toNat
  ofJson := Json.getNumber (fun value => if value then 1 else 0) (fun value => value.toInt)
    (fun value => value.toNat) fun double => exactValue double.value

instance : ExactOrder ℝ where
  le_trans := le_trans
  le_total := le_total
  lt_iff := lt_iff_not_ge
  lowest := by norm_num

section

variable {Number : Type} [Scalar Number] [ExactOrder Number]

open ExactOrder

theorem le_refl_of_exact (value : Number) : value ≤ value :=
  (le_total value value).elim id id

theorem le_of_lt_exact {a b : Number} (less : a < b) : a ≤ b :=
  (le_total a b).resolve_right (lt_iff.mp less)

/-- The scan over the database: it starts from a score, and ends at the best one it met. -/
theorem bestOf_spec (score : String × List Number → Number) (entries : List (String × List Number))
    (start : String × Number) :
    let best := entries.foldl (fun best entry =>
      if best.2 < score entry then (entry.1, score entry) else best) start
    start.2 ≤ best.2 ∧ (∀ entry ∈ entries, score entry ≤ best.2) ∧
      (best = start ∨ ∃ entry ∈ entries, best = (entry.1, score entry)) := by
  induction entries generalizing start with
  | nil => exact ⟨le_refl_of_exact _, by simp, .inl rfl⟩
  | cons entry rest ih =>
      simp only [List.foldl_cons]
      by_cases better : start.2 < score entry
      · rw [if_pos better]
        obtain ⟨rises, covers, origin⟩ := ih (entry.1, score entry)
        refine ⟨le_trans (le_of_lt_exact better) rises, ?_, .inr ?_⟩
        · intro other listed
          rcases List.mem_cons.mp listed with rfl | later
          · exact rises
          · exact covers other later
        · rcases origin with same | ⟨other, later, same⟩
          · exact ⟨entry, List.mem_cons_self, same⟩
          · exact ⟨other, List.mem_cons_of_mem _ later, same⟩
      · rw [if_neg better]
        obtain ⟨rises, covers, origin⟩ := ih start
        have behind : score entry ≤ start.2 := by
          by_contra ahead
          exact better (lt_iff.mpr ahead)
        refine ⟨rises, ?_, origin.imp_right fun ⟨other, later, same⟩ =>
          ⟨other, List.mem_cons_of_mem _ later, same⟩⟩
        intro other listed
        rcases List.mem_cons.mp listed with rfl | later
        · exact le_trans behind rises
        · exact covers other later

namespace FaceDatabase

/-- The user has an entry of the score, and no entry has a better one. -/
structure BestMatch (database : FaceDatabase Number) (embedding : List Number) (user : String)
    (score : Number) : Prop where
  stored : ∃ face, database.faces[user]? = some face ∧ score = cosineSimilarity embedding face
  best : ∀ (other : String) (face : List Number), database.faces[other]? = some face →
    cosineSimilarity embedding face ≤ score

theorem compare_bestMatch {database : FaceDatabase Number} {embedding : List Number}
    {threshold : Number} (positive : ¬ threshold ≤ 0.0)
    (reached : threshold ≤ (database.compare embedding).2) :
    database.BestMatch embedding (database.compare embedding).1
      (database.compare embedding).2 := by
  rw [compare] at reached ⊢
  split at reached
  · exact absurd reached positive
  · rename_i given
    rw [if_neg given]
    split at reached
    · exact absurd reached positive
    · rename_i sized
      rw [if_neg sized]
      obtain ⟨_, covers, origin⟩ := bestOf_spec
        (fun entry => cosineSimilarity embedding entry.2) database.faces.toList ("unknown", -1.0)
      refine ⟨?_, fun other face found =>
        covers (other, face) (Std.TreeMap.mem_toList_iff_getElem?_eq_some.mpr found)⟩
      rcases origin with same | ⟨entry, listed, same⟩
      · rw [same] at reached
        exact absurd (le_trans reached lowest) positive
      · rw [same]
        exact ⟨entry.2, Std.TreeMap.mem_toList_iff_getElem?_eq_some.mp listed, rfl⟩

end FaceDatabase

end

namespace OpenTrunkFaceRule

variable {Number : Type} [Scalar Number] (rule : OpenTrunkFaceRule Number)

theorem not_threshold_le_zero {rule : OpenTrunkFaceRule Number}
    (valid : rule.validate = .ok ()) : ¬ rule.threshold ≤ 0.0 := by
  intro low
  simp only [validate, low, true_or, if_true] at valid
  repeat' split at valid
  all_goals exact nomatch valid

def shows (trackId : Int32) (det : Sighting Number) : Bool :=
  det.className = rule.targetClass && det.trackId = trackId && !det.embedding.isEmpty

def shownAt (trackId : Int32) (seen : Option (List Number)) (event : RuleEvent Number) :
    Option (List Number) :=
  (if trackId ∈ event.removedTrackIds then none else seen).or
    ((event.detections.find? (rule.shows trackId)).map Sighting.embedding)

/-- The first embedding shown for a track since its last removal. -/
def firstShown (trackId : Int32) (events : List (RuleEvent Number)) : Option (List Number) :=
  events.foldl (rule.shownAt trackId) none

theorem lookAt_lookup (cache : FaceCache) (det : Sighting Number) (trackId : Int32) :
    (rule.lookAt cache det).2[trackId]? = cache[trackId]?.or
      (if rule.shows trackId det then some (rule.recognise det.embedding) else none) := by
  rw [lookAt, shows]
  split
  · rename_i other
    simp [other]
  · rename_i target
    rw [not_not] at target
    split
    · rename_i face found
      by_cases same : det.trackId = trackId
      · simp [← same, found]
      · simp [same]
    · rename_i unseen
      by_cases same : det.trackId = trackId
      · subst same
        by_cases empty : det.embedding.isEmpty
        · simp [empty]
        · simp [empty, target, unseen]
      · by_cases empty : det.embedding.isEmpty
        · simp [empty]
        · simp [empty, same, Std.TreeMap.getElem?_insert]

theorem lookAt_face {cache : FaceCache} {det : Sighting Number} {face : FaceState}
    (seen : (rule.lookAt cache det).1 = some face) :
    (rule.lookAt cache det).2[det.trackId]? = some face := by
  rw [lookAt] at seen ⊢
  split at seen
  · simp at seen
  · rename_i target
    rw [if_neg target]
    split at seen
    · rename_i known found
      exact found.trans seen
    · rename_i unseen
      split at seen
      · simp at seen
      · rename_i given
        rw [if_neg given]
        simpa using seen

theorem knownFaces_cons (cache : FaceCache) (det : Sighting Number)
    (rest : List (Sighting Number)) :
    (rule.knownFaces cache (det :: rest)).2 =
      (rule.knownFaces (rule.lookAt cache det).2 rest).2 := by
  rw [knownFaces]
  split
  · split <;> rfl
  · rfl

theorem knownFaces_lookup (cache : FaceCache) (detections : List (Sighting Number))
    (trackId : Int32) :
    (rule.knownFaces cache detections).2[trackId]? = cache[trackId]?.or
      ((detections.find? (rule.shows trackId)).map fun det => rule.recognise det.embedding) := by
  induction detections generalizing cache with
  | nil => simp [knownFaces]
  | cons det rest ih =>
      have later := ih (rule.lookAt cache det).2
      rw [lookAt_lookup, Option.or_assoc] at later
      rw [knownFaces_cons, later, List.find?_cons]
      cases rule.shows trackId det with
      | false => simp
      | true => simp

theorem mem_knownFaces {cache : FaceCache} {detections : List (Sighting Number)}
    {trackId : Int32} {userId : String}
    (known : (trackId, userId) ∈ (rule.knownFaces cache detections).1) :
    (rule.knownFaces cache detections).2[trackId]? = some ⟨userId, true⟩ := by
  induction detections generalizing cache with
  | nil => simp [knownFaces] at known
  | cons det rest ih =>
      rw [knownFaces] at known
      rw [knownFaces_cons]
      split at known
      · rename_i face seen
        split at known
        · rename_i isKnown
          rcases List.mem_cons.mp known with same | later
          · obtain ⟨rfl, rfl⟩ := Prod.mk.inj same
            rw [knownFaces_lookup, rule.lookAt_face seen, Option.some_or, ← isKnown]
          · exact ih later
        · exact ih known
      · exact ih known

theorem apply_lookup (cache : FaceCache) (event : RuleEvent Number) (trackId : Int32) :
    (rule.apply cache event).2[trackId]? =
      (if trackId ∈ event.removedTrackIds then none else cache[trackId]?).or
        ((event.detections.find? (rule.shows trackId)).map fun det =>
          rule.recognise det.embedding) := by
  rw [apply]
  dsimp only
  rw [knownFaces_lookup, forget, erased_lookup]

/-- The cache holds, for each track, the answer to the first embedding shown for it. -/
theorem after_lookup (events : List (RuleEvent Number)) (trackId : Int32) :
    (rule.after ∅ events)[trackId]? = (rule.firstShown trackId events).map rule.recognise := by
  induction events using List.reverseRecOn with
  | nil => simp [after, firstShown]
  | append_singleton events event ih =>
      have step :
          rule.after ∅ (events ++ [event]) = (rule.apply (rule.after ∅ events) event).2 := by
        simp [after]
      have shown : rule.firstShown trackId (events ++ [event]) =
          rule.shownAt trackId (rule.firstShown trackId events) event := by
        simp [firstShown]
      rw [step, apply_lookup, ih, shown, shownAt, Option.map_or, Option.map_map]
      congr 1
      split <;> rfl

omit [Scalar Number] in
theorem exists_of_firstShown {events : List (RuleEvent Number)} {trackId : Int32}
    {embedding : List Number} (shown : rule.firstShown trackId events = some embedding) :
    ∃ before event later, events = before ++ event :: later ∧
      (∀ next ∈ later, trackId ∉ next.removedTrackIds) ∧
      ∃ det ∈ event.detections, rule.shows trackId det = true ∧ det.embedding = embedding := by
  induction events using List.reverseRecOn with
  | nil => simp [firstShown] at shown
  | append_singleton events event ih =>
      have last : rule.shownAt trackId (rule.firstShown trackId events) event =
          some embedding := by
        simpa [firstShown] using shown
      rw [shownAt, Option.or_eq_some_iff] at last
      rcases last with earlier | ⟨_, now⟩
      · split at earlier
        · simp at earlier
        · rename_i stays
          obtain ⟨before, seen, later, rfl, kept, showing⟩ := ih earlier
          refine ⟨before, seen, later ++ [event], by simp, ?_, showing⟩
          intro next member
          rcases List.mem_append.mp member with old | new
          · exact kept next old
          · rwa [List.mem_singleton.mp new]
      · obtain ⟨det, found, same⟩ := Option.map_eq_some_iff.mp now
        exact ⟨events, event, [], rfl, by simp, det, List.mem_of_find?_eq_some found,
          List.find?_some found, same⟩

theorem mem_apply {cache : FaceCache} {event : RuleEvent Number} {alert : Alert}
    (raised : alert ∈ (rule.apply cache event).1) :
    ∃ userId, alert.dedupKey = rule.name ++ "_" ++ userId ∧
      (rule.apply cache event).2[alert.trackId]? = some ⟨userId, true⟩ := by
  rw [apply] at raised ⊢
  dsimp only at raised ⊢
  obtain ⟨⟨trackId, userId⟩, known, rfl⟩ := List.mem_map.mp raised
  refine ⟨userId, ?_, rule.mem_knownFaces known⟩
  have named : (rule.name ++ "_" ++ userId).isEmpty = false := by
    simp
  simp [faceAlert, RuleConfig.buildAlert, named]

theorem recognised_of_raised {events : List (RuleEvent Number)} {event : RuleEvent Number}
    {alert : Alert} (raised : alert ∈ (rule.apply (rule.after ∅ events) event).1) {user : String}
    (named : alert.dedupKey = rule.name ++ "_" ++ user) :
    ∃ embedding, rule.firstShown alert.trackId (events ++ [event]) = some embedding ∧
      rule.recognise embedding = ⟨user, true⟩ := by
  obtain ⟨userId, key, cached⟩ := rule.mem_apply raised
  have step : (rule.apply (rule.after ∅ events) event).2 = rule.after ∅ (events ++ [event]) := by
    simp [after]
  rw [step, after_lookup, Option.map_eq_some_iff] at cached
  obtain ⟨embedding, shown, recognised⟩ := cached
  have same : userId = user := by
    rw [key] at named
    simpa using named
  exact ⟨embedding, shown, same ▸ recognised⟩

variable [ExactOrder Number]

theorem bestMatch_of_recognise {rule : OpenTrunkFaceRule Number} (valid : rule.validate = .ok ())
    {embedding : List Number} {user : String} (known : rule.recognise embedding = ⟨user, true⟩) :
    ∃ score, rule.faceDb.BestMatch embedding user score ∧ rule.threshold ≤ score := by
  obtain ⟨same, reached⟩ := FaceState.mk.inj known
  rw [decide_eq_true_eq] at reached
  refine ⟨_, ?_, reached⟩
  rw [← same]
  exact FaceDatabase.compare_bestMatch (not_threshold_le_zero valid) reached

/-- An alert names a person that the database recognised in an embedding of its track since
the last removal of that, and no alert comes from a track that began as a stranger. -/
theorem apply_names_recognised (rule : OpenTrunkFaceRule Number) (valid : rule.validate = .ok ())
    (events : List (RuleEvent Number)) (event : RuleEvent Number) (trackId : Int32) :
    (∀ alert ∈ (rule.apply (rule.after ∅ events) event).1, alert.trackId = trackId →
      ∀ user, alert.dedupKey = rule.name ++ "_" ++ user →
        ∃ before seen later, events ++ [event] = before ++ seen :: later ∧
          (∀ next ∈ later, trackId ∉ next.removedTrackIds) ∧
          ∃ det ∈ seen.detections, det.className = rule.targetClass ∧ det.trackId = trackId ∧
            det.embedding ≠ [] ∧
            ∃ score, rule.faceDb.BestMatch det.embedding user score ∧ rule.threshold ≤ score) ∧
    (∀ embedding, rule.firstShown trackId (events ++ [event]) = some embedding →
      (∀ (user : String) (face : List Number), rule.faceDb.faces[user]? = some face →
        cosineSimilarity embedding face < rule.threshold) →
      ∀ alert ∈ (rule.apply (rule.after ∅ events) event).1, alert.trackId ≠ trackId) := by
  constructor
  · rintro alert raised rfl user named
    obtain ⟨embedding, shown, known⟩ := rule.recognised_of_raised raised named
    obtain ⟨before, seen, later, split, stays, det, listed, showing, rfl⟩ :=
      rule.exists_of_firstShown shown
    simp only [shows, Bool.and_eq_true, decide_eq_true_eq, Bool.not_eq_true',
      List.isEmpty_eq_false_iff] at showing
    exact ⟨before, seen, later, split, stays, det, listed, showing.1.1, showing.1.2, showing.2,
      bestMatch_of_recognise valid known⟩
  · rintro embedding shown strange alert raised rfl
    obtain ⟨user, key, _⟩ := rule.mem_apply raised
    obtain ⟨first, found, known⟩ := rule.recognised_of_raised raised key
    obtain rfl := Option.some.inj (shown.symm.trans found)
    obtain ⟨score, match_, reached⟩ := bestMatch_of_recognise valid known
    obtain ⟨face, stored, rfl⟩ := match_.stored
    exact ExactOrder.lt_iff.mp (strange user face stored) reached

def faceEvent (timestamp : UInt64) (embedding : List ℚ) : RuleEvent ℚ :=
  ⟨"cam0", timestamp, [], [⟨"face", [], 7, 1, embedding⟩]⟩

theorem apply_names_recognised_ann :
    trunkRule.faceAlert (faceEvent 2 []) 7 "ann" ∈
        (trunkRule.apply (trunkRule.after ∅ [faceEvent 1 [3, 4]]) (faceEvent 2 [])).1 ∧
      ∃ before seen later, [faceEvent 1 [3, 4], faceEvent 2 []] = before ++ seen :: later ∧
        ∃ det ∈ seen.detections, ∃ score,
          trunkRule.faceDb.BestMatch det.embedding "ann" score ∧ trunkRule.threshold ≤ score := by
  have valid : trunkRule.validate = .ok () := by decide +kernel
  have raised : trunkRule.faceAlert (faceEvent 2 []) 7 "ann" ∈
      (trunkRule.apply (trunkRule.after ∅ [faceEvent 1 [3, 4]]) (faceEvent 2 [])).1 := by
    decide +kernel
  obtain ⟨before, seen, later, shape, _, det, listed, _, _, _, recognised⟩ :=
    (apply_names_recognised trunkRule valid [faceEvent 1 [3, 4]] (faceEvent 2 []) 7).1 _ raised rfl
      "ann" (by decide +kernel)
  exact ⟨raised, before, seen, later, shape, det, listed, recognised⟩

end OpenTrunkFaceRule

end Iq9Pipeline.RuleProcess
