import Iq9Pipeline.Foundation.Machine
import Iq9Pipeline.MultiCam.FaceLinks

/-!
Several channels on one face gallery. `Match` and `Enroll` each hold the lock of the
gallery, but a channel lets go of it between the two, and another may enrol the same
person meanwhile.
-/

namespace Iq9Pipeline.MultiCam.FaceLinks

open Foundation

section

variable {K : Type} [Field K] [LinearOrder K] {threshold : K}

omit [LinearOrder K] in
theorem cosineSimilarity_comm (a b : List K) : cosineSimilarity a b = cosineSimilarity b a := by
  rw [cosineSimilarity, cosineSimilarity, List.zipWith_comm_of_comm mul_comm]

namespace FaceGallery

variable {gallery : FaceGallery K} {embedding : List K}

omit [LinearOrder K] in
theorem similarities_eq_some {position : Nat} {score : K}
    (rated : (gallery.similarities embedding)[position]? = some (some score)) :
    ∃ entry, gallery.entries[position]? = some entry ∧
      score = cosineSimilarity embedding entry.embedding := by
  rw [similarities, List.getElem?_map] at rated
  obtain ⟨entry, listed, rates⟩ := Option.map_eq_some_iff.mp rated
  split at rates
  · cases rates
  · exact ⟨entry, listed, (Option.some.inj rates).symm⟩

omit [LinearOrder K] in
theorem mem_similarities {entry : GalleryEntry K} (listed : entry ∈ gallery.entries)
    (sized : entry.embedding.length = embeddingDim) :
    some (cosineSimilarity embedding entry.embedding) ∈ gallery.similarities embedding := by
  refine List.mem_map.mpr ⟨entry, listed, ?_⟩
  rw [if_neg (not_not.mpr sized)]

/-- The entry that is most like the embedding, if it is like it at all, is one that the scan
can report: more similar than the scan's initial score, and of an id that is not negative. -/
def Recognizable (gallery : FaceGallery K) (threshold : K) (embedding : List K) : Prop :=
  ∀ position entry, Foremost (gallery.similarities embedding) position →
    gallery.entries[position]? = some entry →
    threshold ≤ cosineSimilarity embedding entry.embedding →
    -1 < cosineSimilarity embedding entry.embedding ∧ 0 ≤ entry.faceId

theorem matchFace_foremost {position : Nat} {entry : GalleryEntry K}
    (foremost : Foremost (gallery.similarities embedding) position)
    (listed : gallery.entries[position]? = some entry)
    (similar : threshold ≤ cosineSimilarity embedding entry.embedding) :
    (gallery.matchFace embedding threshold).faceId =
      if -1 < cosineSimilarity embedding entry.embedding then entry.faceId else -1 := by
  obtain ⟨score, scored, ahead⟩ := foremost
  obtain ⟨found, listed', rfl⟩ := similarities_eq_some scored
  obtain rfl : entry = found := by simpa [listed] using listed'
  rw [matchFace, leaderOf_ahead scored ahead]
  split
  · simp [similar.not_gt, listed]
  · simp

theorem matchFace_missed {entry : GalleryEntry K} (listed : entry ∈ gallery.entries)
    (sized : entry.embedding.length = embeddingDim)
    (recognizable : gallery.Recognizable threshold embedding)
    (missed : (gallery.matchFace embedding threshold).faceId < 0) :
    cosineSimilarity embedding entry.embedding < threshold := by
  by_contra similar
  have rates : some (cosineSimilarity embedding entry.embedding) ∈
      gallery.similarities embedding := mem_similarities listed sized
  obtain ⟨position, score, scored, ahead⟩ := exists_foremost_of_mem rates
  obtain ⟨best, chosen, rfl⟩ := similarities_eq_some scored
  obtain ⟨other, rated⟩ := List.mem_iff_getElem?.mp rates
  have closest : threshold ≤ cosineSimilarity embedding best.embedding := by
    rcases ahead other _ rated with less | ⟨same, _⟩
    · exact (not_lt.mp similar).trans less.le
    · exact (not_lt.mp similar).trans same.le
  obtain ⟨above, named⟩ := recognizable position best ⟨_, scored, ahead⟩ chosen closest
  rw [matchFace_foremost ⟨_, scored, ahead⟩ chosen closest, if_pos above] at missed
  omega

theorem similar_of_not_recognizable (unrecognizable : ¬gallery.Recognizable threshold embedding) :
    ∃ entry ∈ gallery.entries, threshold ≤ cosineSimilarity embedding entry.embedding := by
  rw [Recognizable] at unrecognizable
  push Not at unrecognizable
  obtain ⟨position, entry, _, listed, similar, _⟩ := unrecognizable
  exact ⟨entry, List.mem_of_getElem? listed, similar⟩

def Separated (gallery : FaceGallery K) (threshold : K) : Prop :=
  gallery.entries.Pairwise fun first second =>
    cosineSimilarity first.embedding second.embedding < threshold

theorem separated_enroll :
    (gallery.enroll embedding).1.Separated threshold ↔
      gallery.Separated threshold ∧
        ∀ entry ∈ gallery.entries, cosineSimilarity embedding entry.embedding < threshold := by
  simp only [Separated, enroll, List.pairwise_append, List.pairwise_singleton, true_and,
    List.mem_singleton, forall_eq]
  apply and_congr_right'
  apply forall₂_congr
  intro entry _
  rw [cosineSimilarity_comm]

end FaceGallery

structure Unmatched (K : Type) where
  embedding : Vector K 512
  seen : FaceGallery K

structure SharedGallery (K : Type) where
  gallery : FaceGallery K
  unmatched : Nat → Option (Unmatched K)

/-- A call of a channel. A face is enrolled later where the quality is sufficient. -/
inductive GalleryCall (K : Type)
  | matchFace (channel : Nat) (embedding : Vector K 512) (sufficient : Bool)
  | enroll (channel : Nat)

/-- `Match` could report whom the face belongs to, and nobody like it was enrolled since. -/
def Unmatched.Current (threshold : K) (gallery : FaceGallery K) (face : Unmatched K) : Prop :=
  face.seen.Recognizable threshold face.embedding.toList ∧
    ∀ entry ∈ gallery.entries.drop face.seen.entries.length,
      cosineSimilarity face.embedding.toList entry.embedding < threshold

namespace SharedGallery

def set (shared : SharedGallery K) (channel : Nat) (face : Option (Unmatched K)) :
    SharedGallery K :=
  { shared with unmatched := fun other =>
      if other = channel then face else shared.unmatched other }

def step (threshold : K) (shared : SharedGallery K) : GalleryCall K → Option (SharedGallery K)
  | .matchFace channel embedding sufficient =>
      match shared.unmatched channel with
      | some _ => none
      | none =>
          if 0 ≤ (shared.gallery.matchFace embedding.toList threshold).faceId then some shared
          else if sufficient then some (shared.set channel (some ⟨embedding, shared.gallery⟩))
          else some shared
  | .enroll channel =>
      match shared.unmatched channel with
      | none => none
      | some face =>
          let enrolled := (shared.gallery.enroll face.embedding.toList).1
          some { shared.set channel none with gallery := enrolled }

def machine (threshold : K) : Machine (SharedGallery K) (GalleryCall K) where
  start shared :=
    (∀ entry ∈ shared.gallery.entries, entry.embedding.length = embeddingDim) ∧
      shared.gallery.Separated threshold ∧ ∀ channel, shared.unmatched channel = none
  step := step threshold

def EnrollsCurrent (threshold : K) (shared : SharedGallery K) : GalleryCall K → Prop
  | .matchFace .. => True
  | .enroll channel => ∀ face ∈ shared.unmatched channel, face.Current threshold shared.gallery

structure Kept (threshold : K) (shared : SharedGallery K) : Prop where
  sized : ∀ entry ∈ shared.gallery.entries, entry.embedding.length = embeddingDim
  seen : ∀ channel, ∀ face ∈ shared.unmatched channel,
    face.seen.entries <+: shared.gallery.entries
  missed : ∀ channel, ∀ face ∈ shared.unmatched channel,
    (face.seen.matchFace face.embedding.toList threshold).faceId < 0

variable {shared next : SharedGallery K} {call : GalleryCall K}

theorem step_cases (stepped : step threshold shared call = some next) :
    (next = shared ∧ ∃ channel embedding sufficient,
        call = .matchFace channel embedding sufficient) ∨
      (∃ channel embedding, call = .matchFace channel embedding true ∧
        (shared.gallery.matchFace embedding.toList threshold).faceId < 0 ∧
        next = shared.set channel (some ⟨embedding, shared.gallery⟩)) ∨
      ∃ channel face, call = .enroll channel ∧ shared.unmatched channel = some face ∧
        next = { shared.set channel none with
          gallery := (shared.gallery.enroll face.embedding.toList).1 } := by
  cases call with
  | matchFace channel embedding sufficient =>
      simp only [step] at stepped
      split at stepped
      · cases stepped
      · split at stepped
        · exact Or.inl ⟨(Option.some.inj stepped).symm, channel, embedding, sufficient, rfl⟩
        · rename_i negative
          split at stepped
          · rename_i enough
            rw [enough]
            exact Or.inr (Or.inl ⟨channel, embedding, rfl, not_le.mp negative,
              (Option.some.inj stepped).symm⟩)
          · exact Or.inl ⟨(Option.some.inj stepped).symm, channel, embedding, sufficient, rfl⟩
  | enroll channel =>
      simp only [step] at stepped
      split at stepped
      · cases stepped
      · rename_i face waiting
        exact Or.inr (Or.inr ⟨channel, face, rfl, waiting, (Option.some.inj stepped).symm⟩)

omit [Field K] [LinearOrder K] in
theorem mem_set {channel other : Nat} {face : Option (Unmatched K)} {waiting : Unmatched K}
    (listed : waiting ∈ (shared.set channel face).unmatched other) :
    face = some waiting ∨ waiting ∈ shared.unmatched other := by
  simp only [set] at listed
  split at listed
  · exact Or.inl listed
  · exact Or.inr listed

theorem Kept.step (kept : Kept threshold shared)
    (stepped : step threshold shared call = some next) : Kept threshold next := by
  rcases step_cases stepped with ⟨rfl, _⟩ | ⟨channel, embedding, _, missed, rfl⟩ |
    ⟨channel, face, _, waiting, rfl⟩
  · exact kept
  · refine ⟨kept.sized, ?_, ?_⟩
    · intro other waiting listed
      rcases mem_set listed with new | before
      · obtain rfl := Option.some.inj new
        exact List.prefix_refl _
      · exact kept.seen other waiting before
    · intro other waiting listed
      rcases mem_set listed with new | before
      · obtain rfl := Option.some.inj new
        exact missed
      · exact kept.missed other waiting before
  · refine ⟨?_, ?_, ?_⟩
    · intro entry listed
      rcases List.mem_append.mp listed with before | new
      · exact kept.sized entry before
      · obtain rfl := List.mem_singleton.mp new
        exact face.embedding.length_toList
    · intro other waiting' listed
      have before : waiting' ∈ shared.unmatched other := by
        rcases mem_set listed with listed | before
        · cases listed
        · exact before
      exact (kept.seen other waiting' before).trans (List.prefix_append _ _)
    · intro other waiting' listed
      have before : waiting' ∈ shared.unmatched other := by
        rcases mem_set listed with listed | before
        · cases listed
        · exact before
      exact kept.missed other waiting' before

theorem kept_run (reachable : (machine threshold).Reachable shared) : Kept threshold shared := by
  apply reachable.invariant (Kept threshold)
  · rintro shared ⟨sized, _, idle⟩
    refine ⟨sized, ?_, ?_⟩
    · intro channel face listed
      rw [idle channel] at listed
      cases listed
    · intro channel face listed
      rw [idle channel] at listed
      cases listed
  · intro shared call next kept stepped
    exact kept.step stepped

/-- Nobody in the gallery is like a face that is about to be enrolled, just if that holds
of those enrolled since it was looked up. -/
theorem Kept.current_iff (kept : Kept threshold shared) {channel : Nat} {face : Unmatched K}
    (waiting : face ∈ shared.unmatched channel) :
    face.Current threshold shared.gallery ↔ ∀ entry ∈ shared.gallery.entries,
      cosineSimilarity face.embedding.toList entry.embedding < threshold := by
  obtain ⟨since, whole⟩ := kept.seen channel face waiting
  have later : shared.gallery.entries.drop face.seen.entries.length = since := by
    rw [← whole, List.drop_left]
  rw [Unmatched.Current, later]
  constructor
  · rintro ⟨recognizable, apart⟩ entry listed
    rw [← whole] at listed
    rcases List.mem_append.mp listed with before | after
    · have sized := kept.sized entry (whole ▸ List.mem_append_left since before)
      exact FaceGallery.matchFace_missed before sized recognizable
        (kept.missed channel face waiting)
    · exact apart entry after
  · intro apart
    constructor
    · by_contra unrecognizable
      obtain ⟨entry, before, similar⟩ :=
        FaceGallery.similar_of_not_recognizable unrecognizable
      exact (apart entry (whole ▸ List.mem_append_left since before)).not_ge similar
    · intro entry after
      exact apart entry (whole ▸ List.mem_append_right _ after)

theorem Kept.separated_step (kept : Kept threshold shared)
    (separated : shared.gallery.Separated threshold)
    (stepped : SharedGallery.step threshold shared call = some next) :
    next.gallery.Separated threshold ↔ EnrollsCurrent threshold shared call := by
  rcases step_cases stepped with ⟨rfl, channel, embedding, sufficient, rfl⟩ |
    ⟨channel, embedding, rfl, _, rfl⟩ | ⟨channel, face, rfl, waiting, rfl⟩
  · exact iff_of_true separated trivial
  · exact iff_of_true separated trivial
  · simp only [EnrollsCurrent, waiting, Option.mem_some_iff, forall_eq']
    rw [kept.current_iff waiting, FaceGallery.separated_enroll, and_iff_right separated]

/-- The entries stay apart in every run that enrols no face whose like was enrolled since it
was looked up, and the first call that does so ends that. -/
theorem separated_run (threshold : K) :
    (∀ shared : SharedGallery K,
      (machine threshold).ReachableUnder (EnrollsCurrent threshold) shared →
        shared.gallery.Separated threshold) ∧
      ∀ (shared next : SharedGallery K) (call : GalleryCall K),
        (machine threshold).Reachable shared → shared.gallery.Separated threshold →
        (machine threshold).step shared call = some next →
        (next.gallery.Separated threshold ↔ EnrollsCurrent threshold shared call) := by
  constructor
  · intro shared reachable
    apply reachable.invariant fun shared => shared.gallery.Separated threshold
    · intro shared started
      exact started.2.1
    · intro shared call next earlier separated allowed stepped
      exact ((kept_run earlier.reachable).separated_step separated stepped).mpr allowed
  · intro shared next call reachable separated stepped
    exact (kept_run reachable).separated_step separated stepped

end SharedGallery

instance decidableSeparated (gallery : FaceGallery K) (threshold : K) :
    Decidable (gallery.Separated threshold) :=
  inferInstanceAs (Decidable (gallery.entries.Pairwise _))

end

namespace SharedGallery

def emptyGallery : SharedGallery ℚ :=
  ⟨⟨[], 1⟩, fun _ => none⟩

def axisFace (axis : Fin 512) : Vector ℚ 512 :=
  (Vector.replicate 512 0).setIfInBounds axis 1

theorem machine_start_emptyGallery : (machine (3 / 10)).start emptyGallery :=
  ⟨nofun, List.Pairwise.nil, fun _ => rfl⟩

/-- Two channels look up two faces before either enrols, and both enrol. -/
def twoCalls (first second : Fin 512) : List (GalleryCall ℚ) :=
  [.matchFace 0 (axisFace first) true, .matchFace 1 (axisFace second) true, .enroll 0, .enroll 1]

def afterCalls (calls : List (GalleryCall ℚ)) : Option (SharedGallery ℚ) :=
  (machine (3 / 10)).run (fun _ _ => True) emptyGallery calls

theorem exists_afterCalls (calls : List (GalleryCall ℚ)) (shown : SharedGallery ℚ → Bool)
    (ran : (afterCalls calls).any shown) :
    ∃ shared, (machine (3 / 10)).Reachable shared ∧ shown shared := by
  have begun : (machine (3 / 10)).Reachable emptyGallery := .start machine_start_emptyGallery
  obtain ⟨shared, _, reached, shows⟩ := Machine.ReachableUnder.exists_run begun calls shown ran
  exact ⟨shared, reached, shows⟩

theorem sameFaceTwice : ¬∀ shared : SharedGallery ℚ, (machine (3 / 10)).Reachable shared →
    shared.gallery.Separated (3 / 10) := by
  intro universal
  obtain ⟨shared, reachable, shown⟩ := exists_afterCalls (twoCalls 0 0)
    (fun shared => !decide (shared.gallery.Separated (3 / 10))) (by decide +kernel)
  simp only [Bool.not_eq_true', decide_eq_false_iff_not] at shown
  exact shown (universal shared reachable)

theorem recognizable_empty (nextId : Int) (embedding : List ℚ) :
    (⟨[], nextId⟩ : FaceGallery ℚ).Recognizable (3 / 10) embedding := by
  intro position entry _ listed
  simp at listed

theorem matchFace_empty (embedding : List ℚ) :
    ((⟨[], 1⟩ : FaceGallery ℚ).matchFace embedding (3 / 10)).faceId = -1 := by
  simp only [FaceGallery.matchFace]
  split
  · rfl
  · rfl

theorem step_missed {shared : SharedGallery ℚ} {channel : Nat} {embedding : Vector ℚ 512}
    (idle : shared.unmatched channel = none) (empty : shared.gallery = ⟨[], 1⟩) :
    (machine (3 / 10)).step shared (.matchFace channel embedding true) =
      some (shared.set channel (some ⟨embedding, shared.gallery⟩)) := by
  have missed : ¬0 ≤ (shared.gallery.matchFace embedding.toList (3 / 10)).faceId := by
    rw [empty, matchFace_empty]
    decide
  simp only [machine, step, idle, if_neg missed, if_true]

theorem separated_run_twoFaces : ∃ shared : SharedGallery ℚ,
    (machine (3 / 10)).ReachableUnder (EnrollsCurrent (3 / 10)) shared ∧
      shared.gallery.entries.length = 2 ∧ shared.gallery.Separated (3 / 10) := by
  have begun : (machine (3 / 10)).ReachableUnder (EnrollsCurrent (3 / 10)) emptyGallery :=
    .start machine_start_emptyGallery
  let first := emptyGallery.set 0 (some ⟨axisFace 0, emptyGallery.gallery⟩)
  have looked : (machine (3 / 10)).step emptyGallery (.matchFace 0 (axisFace 0) true) =
      some first := step_missed rfl rfl
  let second := first.set 1 (some ⟨axisFace 1, emptyGallery.gallery⟩)
  have lookedAgain : (machine (3 / 10)).step first (.matchFace 1 (axisFace 1) true) =
      some second := step_missed rfl rfl
  let third : SharedGallery ℚ :=
    ⟨⟨[⟨1, (axisFace 0).toList⟩], 2⟩, (second.set 0 none).unmatched⟩
  have enrolled : (machine (3 / 10)).step second (.enroll 0) = some third := rfl
  let fourth : SharedGallery ℚ :=
    ⟨⟨[⟨1, (axisFace 0).toList⟩, ⟨2, (axisFace 1).toList⟩], 3⟩, (third.set 1 none).unmatched⟩
  have enrolledAgain : (machine (3 / 10)).step third (.enroll 1) = some fourth := rfl
  have current : EnrollsCurrent (3 / 10) second (.enroll 0) := by
    intro face waiting
    obtain rfl := Option.some.inj waiting
    exact ⟨recognizable_empty _ _, nofun⟩
  have currentAgain : EnrollsCurrent (3 / 10) third (.enroll 1) := by
    intro face waiting
    obtain rfl := Option.some.inj waiting
    refine ⟨recognizable_empty _ _, ?_⟩
    intro entry listed
    obtain rfl := List.mem_singleton.mp listed
    decide +kernel
  have lookup (shared : SharedGallery ℚ) (channel : Nat) (embedding : Vector ℚ 512) :
      EnrollsCurrent (3 / 10) shared (.matchFace channel embedding true) := trivial
  have reached := (((begun.step (lookup ..) looked).step (lookup ..) lookedAgain).step current
    enrolled).step currentAgain enrolledAgain
  exact ⟨fourth, reached, rfl, (separated_run (3 / 10)).1 fourth reached⟩

end SharedGallery

end Iq9Pipeline.MultiCam.FaceLinks
