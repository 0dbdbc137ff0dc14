import Iq9Pipeline.MultiCam.FaceIdentity

/-!
The way of a face embedding from `FaceProcessor::ProcessFrame` through the metadata of the
buffer to the gallery and the record. An extraction that failed leaves zeros, and the flag
that the metadata carries beside them tells only whether extraction was enabled.
-/

namespace Iq9Pipeline.MultiCam.FaceLinks

open Foundation

structure FaceShot (K : Type) where
  x1 : K
  y1 : K
  x2 : K
  y2 : K
  score : K
  landmarks : Vector (K × K) 5
  runArcface : Bool
  infer : Option (Vector K 512)

structure FaceProcessor where
  initialized : Bool
  arcfaceEnabled : Bool

inductive GalleryUse (K : Type)
  | matched (embedding : List K)
  | enrolled (embedding : List K)

def GalleryUse.embedding {K : Type} : GalleryUse K → List K
  | .matched embedding | .enrolled embedding => embedding

section

variable {K : Type} [Field K] [LinearOrder K]

def zeroEmbedding : Vector K 512 :=
  Vector.replicate 512 0

def FaceShot.extractEmbedding (shot : FaceShot K) : Option (Vector K 512) :=
  if shot.runArcface then shot.infer else none

namespace FaceProcessor

variable (processor : FaceProcessor)

def embedding (shot : FaceShot K) : Vector K 512 :=
  if processor.arcfaceEnabled then shot.extractEmbedding.getD zeroEmbedding else zeroEmbedding

def processFrame (shots : List (FaceShot K)) : List (FaceResult K) :=
  if processor.initialized then
    shots.map fun shot => {
      x1 := shot.x1
      y1 := shot.y1
      x2 := shot.x2
      y2 := shot.y2
      score := shot.score
      landmarks := shot.landmarks
      embedding := processor.embedding shot
    }
  else []

def faceMetaMaxFaces : Nat := 32

def attach (added : Bool) (faces : List (FaceResult K)) : List (FaceEntry K) :=
  if added then
    (faces.take faceMetaMaxFaces).map fun face => {
      x1 := face.x1
      y1 := face.y1
      x2 := face.x2
      y2 := face.y2
      score := face.score
      landmarks := face.landmarks
      embedding := face.embedding
      hasEmbedding := processor.arcfaceEnabled
    }
  else []

def entry (shot : FaceShot K) : FaceEntry K where
  x1 := shot.x1
  y1 := shot.y1
  x2 := shot.x2
  y2 := shot.y2
  score := shot.score
  landmarks := shot.landmarks
  embedding := processor.embedding shot
  hasEmbedding := processor.arcfaceEnabled

omit [LinearOrder K] in
theorem attach_processFrame (added : Bool) (shots : List (FaceShot K)) :
    processor.attach added (processor.processFrame shots) =
      if added ∧ processor.initialized then
        (shots.take faceMetaMaxFaces).map processor.entry
      else [] := by
  cases added with
  | false => simp [attach]
  | true =>
      cases initialized : processor.initialized with
      | false => simp [attach, processFrame, initialized]
      | true =>
          simp only [attach, processFrame, initialized, if_true, and_self, ← List.map_take,
            List.map_map]
          rfl

end FaceProcessor

namespace FrameOffload

def consult (config : GalleryConfig K) (gallery : Option (FaceGallery K))
    (trackIdToFace : UInt32 → Option Int) (entry : FaceEntry K) (tid : UInt32) :
    List (GalleryUse K) :=
  match gallery, entry.hasEmbedding with
  | some known, true =>
      match trackIdToFace tid with
      | some _ => []
      | none =>
          let matched := known.matchFace entry.embedding.toList config.threshold
          if 0 ≤ matched.faceId then [.matched entry.embedding.toList]
          else
            let faceW := entry.x2 - entry.x1
            let faceH := entry.y2 - entry.y1
            let faceSize := if faceW < faceH then faceW else faceH
            if (config.minFaceSize.toNat : K) ≤ faceSize ∧ config.minScore ≤ entry.score then
              [.matched entry.embedding.toList, .enrolled entry.embedding.toList]
            else [.matched entry.embedding.toList]
  | _, _ => []

end FrameOffload

namespace ChannelWorker

def consult (config : GalleryConfig K) (hasArcface : Bool) (gallery : Option (FaceGallery K))
    (trackIdToFace : UInt32 → Option Int) (face : FaceResult K) (tid : UInt32) :
    List (GalleryUse K) :=
  match gallery, hasArcface with
  | some known, true =>
      match trackIdToFace tid with
      | some _ => [.matched face.embedding.toList]
      | none =>
          let result := known.matchFace face.embedding.toList config.threshold
          let faceW := face.x2 - face.x1
          let faceH := face.y2 - face.y1
          let minSize := (config.minFaceSize.toNat : K)
          if 0 ≤ result.faceId then [.matched face.embedding.toList]
          else if minSize ≤ faceW ∧ minSize ≤ faceH ∧ config.minScore ≤ face.score then
            [.matched face.embedding.toList, .enrolled face.embedding.toList]
          else [.matched face.embedding.toList]
  | _, _ => []

end ChannelWorker

def enrollUses (gallery : FaceGallery K) (uses : List (GalleryUse K)) : FaceGallery K :=
  uses.foldl (fun gallery use =>
    match use with
    | .matched _ => gallery
    | .enrolled embedding => (gallery.enroll embedding).1) gallery

theorem FrameOffload.identify_gallery (config : GalleryConfig K) (gallery : Option (FaceGallery K))
    (tracks : UInt32 → Option Int) (entry : FaceEntry K) (tid : UInt32) :
    (identify config gallery tracks entry tid).gallery =
      gallery.map fun known => enrollUses known (consult config gallery tracks entry tid) := by
  cases gallery with
  | none => rfl
  | some known =>
      simp only [identify, consult]
      cases entry.hasEmbedding with
      | false => rfl
      | true =>
          cases tracks tid with
          | some cached => rfl
          | none =>
              simp only []
              split
              · rfl
              · generalize (if entry.x2 - entry.x1 < entry.y2 - entry.y1 then entry.x2 - entry.x1
                    else entry.y2 - entry.y1) = faceSize
                split
                · rfl
                · rfl

theorem ChannelWorker.identify_gallery (config : GalleryConfig K) (hasArcface : Bool)
    (gallery : Option (FaceGallery K)) (tracks : UInt32 → Option Int) (face : FaceResult K)
    (tid : UInt32) :
    (identify config hasArcface gallery tracks face tid).gallery =
      gallery.map fun known =>
        enrollUses known (consult config hasArcface gallery tracks face tid) := by
  cases gallery with
  | none => rfl
  | some known =>
      simp only [identify, consult]
      cases hasArcface with
      | false => rfl
      | true =>
          cases tracks tid with
          | some cached => rfl
          | none =>
              simp only []
              split
              · rfl
              · split
                · rfl
                · rfl

structure FaceProgram (K Face : Type) where
  channel : Channel K Face
  faceOf : FaceEntry K → Face
  consult : List (FaceEntry K) → Option (FaceGallery K) → (UInt32 → Option Int) → Face →
    UInt32 → List (GalleryUse K)

def FrameOffload.program (config : GalleryConfig K) : FaceProgram K (FaceEntry K) where
  channel := FrameOffload.channel config
  faceOf := id
  consult _ := FrameOffload.consult config

def ChannelWorker.program (labelIndex : List UInt8 → Option (UInt32 × List UInt8))
    (config : GalleryConfig K) (faceEnabled : Bool) : FaceProgram K (FaceResult K) where
  channel := ChannelWorker.channel labelIndex config faceEnabled
  faceOf := ChannelWorker.faceResult
  consult entries := ChannelWorker.consult config (ChannelWorker.hasArcface entries)

structure ShotRun (K Face : Type) where
  run : FaceRun K Face
  shots : List (FaceShot K)
  consult : Option (FaceGallery K) → (UInt32 → Option Int) → Face → UInt32 → List (GalleryUse K)

inductive ShotAction (K : Type)
  | arrive (frameW frameH : UInt32) (rois : List (RegionOfInterest K)) (shots : List (FaceShot K))
      (added : Bool)
  | nextFace
  | finish (sampleTotal : UInt64)
  | enrolledElsewhere (embedding : List K)

variable {Face : Type}

def FaceProgram.step (program : FaceProgram K Face) (processor : FaceProcessor)
    (state : ShotRun K Face) : ShotAction K → Option (ShotRun K Face)
  | .arrive frameW frameH rois shots added =>
      let entries := processor.attach added (processor.processFrame shots)
      (program.channel.step state.run (.arrive frameW frameH rois entries)).map fun run =>
        ⟨run, shots.take FaceProcessor.faceMetaMaxFaces, program.consult entries⟩
  | .nextFace => (program.channel.step state.run .nextFace).map fun run =>
      { state with run, shots := state.shots.tail }
  | .finish sampleTotal => (program.channel.step state.run (.finish sampleTotal)).map fun run =>
      { state with run }
  | .enrolledElsewhere embedding =>
      (program.channel.step state.run (.enrolledElsewhere embedding)).map fun run =>
        { state with run }

def FaceProgram.machine (program : FaceProgram K Face) (processor : FaceProcessor) :
    Machine (ShotRun K Face) (ShotAction K) where
  start state := state.run.frame = none
  step := program.step processor

structure Upcoming (state : ShotRun K Face) (frame : Frame K Face) (face : Face)
    (shot : FaceShot K) : Prop where
  opened : state.run.frame = some frame
  waits : frame.waiting.head? = some face
  shown : state.shots.head? = some shot

def ShotRun.linked (state : ShotRun K Face) (frame : Frame K Face) (face : Face) : Linking K :=
  linkFace frame.path ⟨state.run.gallery, state.run.tracks.trackIdToFace, frame.detections,
    frame.links⟩ face

def ShotRun.uses (state : ShotRun K Face) (frame : Frame K Face) (face : Face) :
    List (GalleryUse K) :=
  match frame.path.bestIdx face frame.detections with
  | none => []
  | some best => state.consult state.run.gallery state.run.tracks.trackIdToFace face
      (trackIdAt frame.detections best)

structure UsesOwn (state : ShotRun K Face) (frame : Frame K Face) (face : Face)
    (shot : FaceShot K) : Prop where
  consulted : ∀ use ∈ state.uses frame face,
    ∃ embedding ∈ shot.extractEmbedding, use.embedding = embedding.toList
  written : ∀ best ∈ frame.path.bestIdx face frame.detections,
    ∀ detection ∈ (state.linked frame face).detections[best]?, ∀ info ∈ detection.face,
      info.embedding ≠ [] → ∃ embedding ∈ shot.extractEmbedding, info.embedding = embedding.toList
  remembered : (state.linked frame face).trackIdToFace ≠ state.run.tracks.trackIdToFace →
    shot.extractEmbedding.isSome
  nonzero : zeroEmbedding ∉ shot.extractEmbedding →
    .enrolled zeroEmbedding.toList ∉ state.uses frame face

structure Reads (processor : FaceProcessor) (program : FaceProgram K Face) (path : FacePath K Face)
    (consult : Option (FaceGallery K) → (UInt32 → Option Int) → Face → UInt32 →
      List (GalleryUse K)) : Prop where
  carries : ∀ shot tid faceId similarity,
    (path.faceInfo (program.faceOf (processor.entry shot)) tid faceId similarity).embedding =
      if processor.arcfaceEnabled then (processor.embedding shot).toList else []
  consults : ∀ gallery tracks shot tid,
    ∀ use ∈ consult gallery tracks (program.faceOf (processor.entry shot)) tid,
      processor.arcfaceEnabled ∧ use.embedding = (processor.embedding shot).toList
  remembers : processor.arcfaceEnabled = false → ∀ gallery tracks shot tid,
    (path.identify gallery tracks (program.faceOf (processor.entry shot)) tid).trackIdToFace =
      tracks

section Programs

variable (processor : FaceProcessor)

theorem FrameOffload.consult_uses {config : GalleryConfig K} {gallery : Option (FaceGallery K)}
    {tracks : UInt32 → Option Int} {entry : FaceEntry K} {tid : UInt32} {use : GalleryUse K}
    (used : use ∈ consult config gallery tracks entry tid) :
    entry.hasEmbedding = true ∧ use.embedding = entry.embedding.toList := by
  simp only [consult] at used
  split at used
  · rename_i enabled
    refine ⟨enabled, ?_⟩
    split at used
    · cases used
    · generalize (if entry.x2 - entry.x1 < entry.y2 - entry.y1 then entry.x2 - entry.x1
        else entry.y2 - entry.y1) = faceSize at used
      split at used
      · obtain rfl := List.mem_singleton.mp used
        rfl
      · split at used
        · rcases List.mem_pair.mp used with rfl | rfl
          · rfl
          · rfl
        · obtain rfl := List.mem_singleton.mp used
          rfl
  · cases used

theorem ChannelWorker.consult_uses {config : GalleryConfig K} {hasArcface : Bool}
    {gallery : Option (FaceGallery K)} {tracks : UInt32 → Option Int} {face : FaceResult K}
    {tid : UInt32} {use : GalleryUse K}
    (used : use ∈ consult config hasArcface gallery tracks face tid) :
    hasArcface = true ∧ use.embedding = face.embedding.toList := by
  simp only [consult] at used
  split at used
  · refine ⟨rfl, ?_⟩
    split at used
    · obtain rfl := List.mem_singleton.mp used
      rfl
    · split at used
      · obtain rfl := List.mem_singleton.mp used
        rfl
      · split at used
        · rcases List.mem_pair.mp used with rfl | rfl
          · rfl
          · rfl
        · obtain rfl := List.mem_singleton.mp used
          rfl
  · cases used

theorem reads_offload (config : GalleryConfig K) (frameW frameH : UInt32) :
    Reads processor (FrameOffload.program config) (FrameOffload.path config frameW frameH)
      (FrameOffload.consult config) where
  carries _ _ _ _ := rfl
  consults _ _ _ _ _ used := FrameOffload.consult_uses used
  remembers disabled gallery tracks shot tid := by
    have unset : (processor.entry shot).hasEmbedding = false := disabled
    cases gallery with
    | none => rfl
    | some known => simp only [FrameOffload.path, FrameOffload.program, FrameOffload.identify, id,
        unset]

omit [LinearOrder K] in
theorem faceResult_embedding (shot : FaceShot K) :
    (ChannelWorker.faceResult (processor.entry shot)).embedding = processor.embedding shot := by
  simp only [ChannelWorker.faceResult, FaceProcessor.entry, FaceProcessor.embedding]
  split
  · rfl
  · rfl

theorem reads_worker (labelIndex : List UInt8 → Option (UInt32 × List UInt8))
    (config : GalleryConfig K) (faceEnabled : Bool) (frameW frameH : UInt32) :
    Reads processor (ChannelWorker.program labelIndex config faceEnabled)
      (ChannelWorker.path config frameW frameH processor.arcfaceEnabled)
      (ChannelWorker.consult config processor.arcfaceEnabled) where
  carries shot _ _ _ := by
    rw [← faceResult_embedding processor shot]
    rfl
  consults _ _ shot _ _ used := by
    rw [← faceResult_embedding processor shot]
    exact ChannelWorker.consult_uses used
  remembers disabled gallery tracks shot tid := by
    rw [disabled]
    cases gallery with
    | none => rfl
    | some known => rfl

def Waits (program : FaceProgram K Face) (shots : List (FaceShot K))
    (consult : Option (FaceGallery K) → (UInt32 → Option Int) → Face → UInt32 →
      List (GalleryUse K)) (frame : Frame K Face) : Prop :=
  frame.waiting = [] ∨
    frame.waiting = shots.map (fun shot => program.faceOf (processor.entry shot)) ∧
      Reads processor program frame.path consult

def Opens (program : FaceProgram K Face) : Prop :=
  ∀ frameW frameH rois (shots : List (FaceShot K)) frame,
    program.channel.arrive frameW frameH rois (shots.map processor.entry) = some frame →
    Waits processor program shots (program.consult (shots.map processor.entry)) frame

theorem opens_offload (config : GalleryConfig K) :
    Opens processor (FrameOffload.program config) := by
  intro frameW frameH rois shots frame arrived
  obtain rfl := Option.some.inj arrived
  exact Or.inr ⟨rfl, reads_offload processor config frameW frameH⟩

theorem opens_worker (labelIndex : List UInt8 → Option (UInt32 × List UInt8))
    (config : GalleryConfig K) (faceEnabled : Bool) :
    Opens processor (ChannelWorker.program labelIndex config faceEnabled) := by
  intro frameW frameH rois shots frame arrived
  simp only [ChannelWorker.program, ChannelWorker.channel] at arrived
  split at arrived
  · cases arrived
  · obtain rfl := Option.some.inj arrived
    cases faceEnabled with
    | false => exact Or.inl rfl
    | true =>
        cases shots with
        | nil => exact Or.inl rfl
        | cons shot shots =>
            refine Or.inr ⟨?_, reads_worker processor labelIndex config true frameW frameH⟩
            simp only [if_true, List.map_map]
            rfl

def Aligned (program : FaceProgram K Face) (state : ShotRun K Face) : Prop :=
  ∀ frame ∈ state.run.frame, Waits processor program state.shots state.consult frame

variable {processor} {program : FaceProgram K Face} {state next : ShotRun K Face}
  {action : ShotAction K}

omit [LinearOrder K] in
theorem Aligned.step (opens : Opens processor program) (aligned : Aligned processor program state)
    (stepped : program.step processor state action = some next) :
    Aligned processor program next := by
  cases action with
  | arrive frameW frameH rois shots added =>
      obtain ⟨run, ran, rfl⟩ := Option.map_eq_some_iff.mp stepped
      obtain ⟨_, rfl⟩ := of_step_arrive ran
      intro frame arrived
      rw [FaceProcessor.attach_processFrame] at arrived ⊢
      split at arrived
      · rename_i attached
        rw [if_pos attached]
        exact opens frameW frameH rois _ frame arrived
      · rcases opens frameW frameH rois [] frame arrived with closed | ⟨closed, _⟩
        · exact Or.inl closed
        · exact Or.inl closed
  | nextFace =>
      obtain ⟨run, ran, rfl⟩ := Option.map_eq_some_iff.mp stepped
      obtain ⟨frame, face, waiting, opened, waits, rfl⟩ := of_step_nextFace ran
      intro later same
      obtain rfl := Option.some.inj same
      rcases aligned frame opened with nothing | ⟨faces, reads⟩
      · rw [waits] at nothing
        cases nothing
      · refine Or.inr ⟨?_, reads⟩
        rw [waits] at faces
        rw [List.map_tail, ← faces]
        rfl
  | finish sampleTotal =>
      obtain ⟨run, ran, rfl⟩ := Option.map_eq_some_iff.mp stepped
      obtain ⟨_, _, rfl⟩ := of_step_finish ran
      intro frame opened
      cases opened
  | enrolledElsewhere embedding =>
      simp only [FaceProgram.step, Channel.step, Option.map_some, Option.some.injEq] at stepped
      rw [← stepped]
      exact aligned

omit [LinearOrder K] in
theorem aligned_run (opens : Opens processor program)
    (reachable : (program.machine processor).Reachable state) :
    Aligned processor program state := by
  apply reachable.invariant (Aligned processor program)
  · intro state idle frame opened
    rw [show state.run.frame = none from idle] at opened
    cases opened
  · intro state action next aligned stepped
    exact aligned.step opens stepped

omit [LinearOrder K] in
theorem Aligned.upcoming (aligned : Aligned processor program state) {frame : Frame K Face}
    {face : Face} {shot : FaceShot K} (upcoming : Upcoming state frame face shot) :
    face = program.faceOf (processor.entry shot) ∧
      Reads processor program frame.path state.consult := by
  rcases aligned frame upcoming.opened with empty | ⟨faces, reads⟩
  · have waits := upcoming.waits
    rw [empty] at waits
    cases waits
  · have waits := upcoming.waits
    rw [faces, List.head?_map, upcoming.shown] at waits
    exact ⟨(Option.some.inj waits).symm, reads⟩

/-- Extraction is enabled, it failed for the face, and the face belongs to a detection. -/
def FailedButLinked (processor : FaceProcessor) (frame : Frame K Face) (face : Face)
    (shot : FaceShot K) : Prop :=
  processor.arcfaceEnabled = true ∧ shot.extractEmbedding = none ∧
    (frame.path.bestIdx face frame.detections).isSome

omit [Field K] [LinearOrder K] in
theorem linked_detection (state : ShotRun K Face) {frame : Frame K Face} {face : Face} {best : Nat}
    (chosen : frame.path.bestIdx face frame.detections = some best) :
    ∃ detection, (state.linked frame face).detections[best]? = some detection ∧
      ∃ tid faceId similarity,
        detection.face = some (frame.path.faceInfo face tid faceId similarity) := by
  have bound := frame.path.bestIdx_lt chosen
  simp only [ShotRun.linked, linkFace, chosen]
  rw [List.getElem?_modify_eq, List.getElem?_eq_getElem bound]
  exact ⟨_, rfl, _, _, _, rfl⟩

omit [LinearOrder K] in
theorem embedding_of_extracted {shot : FaceShot K} {embedding : Vector K 512}
    (enabled : processor.arcfaceEnabled = true)
    (extracted : shot.extractEmbedding = some embedding) :
    processor.embedding shot = embedding := by
  rw [FaceProcessor.embedding, if_pos enabled, extracted, Option.getD_some]

omit [LinearOrder K] in
theorem extracted_of_linked {frame : Frame K Face} {face : Face} {shot : FaceShot K} {best : Nat}
    (harmless : ¬FailedButLinked processor frame face shot)
    (enabled : processor.arcfaceEnabled = true)
    (chosen : frame.path.bestIdx face frame.detections = some best) :
    ∃ embedding ∈ shot.extractEmbedding, processor.embedding shot = embedding := by
  cases extracted : shot.extractEmbedding with
  | none => exact absurd ⟨enabled, extracted, Option.isSome_iff_exists.mpr ⟨best, chosen⟩⟩ harmless
  | some embedding => exact ⟨embedding, rfl, embedding_of_extracted enabled extracted⟩

omit [LinearOrder K] in
theorem Reads.uses_own {frame : Frame K Face} {shot : FaceShot K}
    (reads : Reads processor program frame.path state.consult)
    (harmless : ¬FailedButLinked processor frame (program.faceOf (processor.entry shot)) shot) :
    ∀ use ∈ state.uses frame (program.faceOf (processor.entry shot)),
      ∃ embedding ∈ shot.extractEmbedding, use.embedding = embedding.toList := by
  intro use used
  simp only [ShotRun.uses] at used
  split at used
  · cases used
  · rename_i best chosen
    obtain ⟨enabled, passed⟩ := reads.consults _ _ shot _ use used
    obtain ⟨embedding, extracted, same⟩ := extracted_of_linked harmless enabled chosen
    exact ⟨embedding, extracted, by rw [passed, same]⟩

omit [LinearOrder K] in
theorem Reads.own_of_harmless {frame : Frame K Face} {shot : FaceShot K}
    (reads : Reads processor program frame.path state.consult)
    (harmless : ¬FailedButLinked processor frame (program.faceOf (processor.entry shot)) shot) :
    UsesOwn state frame (program.faceOf (processor.entry shot)) shot := by
  have consulted := reads.uses_own harmless
  refine ⟨consulted, ?_, ?_, ?_⟩
  · intro best chosen detection listed info linked filled
    obtain ⟨same, found, tid, faceId, similarity, written⟩ := linked_detection state chosen
    obtain rfl := Option.some.inj (found.symm.trans listed)
    obtain rfl := Option.some.inj (written.symm.trans linked)
    rw [reads.carries] at filled ⊢
    split
    · rename_i enabled
      obtain ⟨embedding, extracted, equal⟩ := extracted_of_linked harmless enabled chosen
      exact ⟨embedding, extracted, by rw [equal]⟩
    · rename_i disabled
      rw [if_neg disabled] at filled
      exact absurd rfl filled
  · intro changed
    simp only [ShotRun.linked, linkFace] at changed
    split at changed
    · exact absurd rfl changed
    · rename_i best chosen
      by_cases enabled : processor.arcfaceEnabled = true
      · obtain ⟨embedding, extracted, _⟩ := extracted_of_linked harmless enabled chosen
        exact Option.isSome_iff_exists.mpr ⟨embedding, extracted⟩
      · exact absurd (reads.remembers (Bool.not_eq_true _ ▸ enabled) _ _ shot _) changed
  · intro someEmbedding enrolled
    obtain ⟨embedding, extracted, same⟩ := consulted _ enrolled
    obtain rfl := Vector.toList_inj.mp same
    exact someEmbedding extracted

omit [LinearOrder K] in
theorem Aligned.own_iff (aligned : Aligned processor program state) {frame : Frame K Face}
    {face : Face} {shot : FaceShot K} (upcoming : Upcoming state frame face shot) :
    UsesOwn state frame face shot ↔ ¬FailedButLinked processor frame face shot := by
  obtain ⟨rfl, reads⟩ := aligned.upcoming upcoming
  constructor
  · rintro uses ⟨enabled, failed, found⟩
    obtain ⟨best, chosen⟩ := Option.isSome_iff_exists.mp found
    obtain ⟨detection, listed, tid, faceId, similarity, written⟩ := linked_detection state chosen
    have carried := reads.carries shot tid faceId similarity
    rw [if_pos enabled] at carried
    obtain ⟨embedding, extracted, _⟩ := uses.written best chosen detection listed _ written
      (by rw [carried]; exact toList_ne_nil _)
    rw [failed] at extracted
    cases extracted
  · exact reads.own_of_harmless

/-- In both programs and in every run, a round uses no embedding but the one extracted for
its face, unless that extraction failed and the face belongs to a detection. -/
theorem usesOwn_iff (processor : FaceProcessor) (config config' : GalleryConfig K)
    (labelIndex : List UInt8 → Option (UInt32 × List UInt8)) (faceEnabled : Bool) :
    (∀ state, ((FrameOffload.program config).machine processor).Reachable state →
      ∀ frame face shot, Upcoming state frame face shot →
        (UsesOwn state frame face shot ↔ ¬FailedButLinked processor frame face shot)) ∧
    ∀ state,
      ((ChannelWorker.program labelIndex config' faceEnabled).machine processor).Reachable state →
      ∀ frame face shot, Upcoming state frame face shot →
        (UsesOwn state frame face shot ↔ ¬FailedButLinked processor frame face shot) := by
  constructor
  · intro state reachable frame face shot upcoming
    exact (aligned_run (opens_offload processor config) reachable).own_iff upcoming
  · intro state reachable frame face shot upcoming
    exact (aligned_run (opens_worker processor labelIndex config' faceEnabled)
      reachable).own_iff upcoming

end Programs

end

def shotOf (infer : Option (Vector ℚ 512)) : FaceShot ℚ :=
  ⟨380, 180, 420, 220, 9 / 10, Vector.replicate 5 (400, 200), true, infer⟩

def bothModels : FaceProcessor := ⟨true, true⟩

def shotsIdle : ShotRun ℚ (FaceEntry ℚ) :=
  ⟨idle, [], fun _ _ _ _ => []⟩

def shotArrived (infer : Option (Vector ℚ 512)) : ShotRun ℚ (FaceEntry ℚ) where
  run := { (idle : FaceRun ℚ (FaceEntry ℚ)) with
    frame := (FrameOffload.channel ruled).arrive 1920 1080 [untrackedPerson]
      [bothModels.entry (shotOf infer)] }
  shots := [shotOf infer]
  consult := FrameOffload.consult ruled

def shotFrame (infer : Option (Vector ℚ 512)) : Frame ℚ (FaceEntry ℚ) :=
  ⟨FrameOffload.path ruled 1920 1080, FrameOffload.readDetections 1920 1080 [untrackedPerson], [],
    [bothModels.entry (shotOf infer)]⟩

theorem reachable_shotArrived (infer : Option (Vector ℚ 512)) :
    ((FrameOffload.program ruled).machine bothModels).Reachable (shotArrived infer) := by
  have begun : ((FrameOffload.program ruled).machine bothModels).Reachable shotsIdle :=
    .start rfl
  have stepped : ((FrameOffload.program ruled).machine bothModels).step shotsIdle
      (.arrive 1920 1080 [untrackedPerson] [shotOf infer] true) = some (shotArrived infer) := rfl
  exact begun.next stepped

theorem upcoming_shot (infer : Option (Vector ℚ 512)) :
    Upcoming (shotArrived infer) (shotFrame infer) (bothModels.entry (shotOf infer))
      (shotOf infer) :=
  ⟨rfl, rfl, rfl⟩

theorem usesOwn_iff_extracted : UsesOwn (shotArrived (some (faceOf 0).embedding))
    (shotFrame (some (faceOf 0).embedding))
    (bothModels.entry (shotOf (some (faceOf 0).embedding)))
    (shotOf (some (faceOf 0).embedding)) :=
  ((usesOwn_iff bothModels ruled ruled personIndex true).1 _ (reachable_shotArrived _) _ _ _
    (upcoming_shot _)).mpr fun failed => nomatch failed.2.1

def enrollsZeros (state : ShotRun ℚ (FaceEntry ℚ)) (frame : Frame ℚ (FaceEntry ℚ))
    (face : FaceEntry ℚ) : Bool :=
  (state.uses frame face).any fun use =>
    match use with
    | .matched _ => false
    | .enrolled embedding => embedding = zeroEmbedding.toList

/-- An extraction that fails, and 512 zeros are enrolled as a person. -/
theorem zerosEnrolled :
    (shotOf none).extractEmbedding = none ∧
      enrollsZeros (shotArrived none) (shotFrame none) (bothModels.entry (shotOf none)) = true ∧
      ¬∀ (state : ShotRun ℚ (FaceEntry ℚ)) (frame : Frame ℚ (FaceEntry ℚ)) (face : FaceEntry ℚ)
        (shot : FaceShot ℚ), ((FrameOffload.program ruled).machine bothModels).Reachable state →
          Upcoming state frame face shot → UsesOwn state frame face shot := by
  refine ⟨rfl, by decide +kernel, ?_⟩
  intro universal
  have uses := universal _ _ _ _ (reachable_shotArrived none) (upcoming_shot none)
  have enrolls : enrollsZeros (shotArrived none) (shotFrame none)
      (bothModels.entry (shotOf none)) = true := by
    decide +kernel
  obtain ⟨use, used, _⟩ := List.any_eq_true.mp enrolls
  obtain ⟨embedding, extracted, _⟩ := uses.consulted use used
  cases extracted

end Iq9Pipeline.MultiCam.FaceLinks
