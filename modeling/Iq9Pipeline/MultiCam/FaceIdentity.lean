import Iq9Pipeline.Foundation.Machine
import Iq9Pipeline.MultiCam.FaceLinks

/-!
The identities that one channel reports, frame after frame. The table from track ids to
identities outlives the frames, the gallery is shared with the other channels.
-/

namespace Iq9Pipeline.MultiCam.FaceLinks

open Foundation

structure RoiParam (K : Type) where
  trackingId : Option UInt32
  confidence : Option K

structure RegionOfInterest (K : Type) where
  roiType : Option (List UInt8)
  id : UInt32
  x : UInt32
  y : UInt32
  w : UInt32
  h : UInt32
  params : List (RoiParam K)

structure Tracks where
  framesProcessed : UInt64
  trackIdToFace : UInt32 → Option Int
  trackIdLastSeen : UInt32 → Option UInt64

structure Frame (K Face : Type) where
  path : FacePath K Face
  detections : List (DetectionRecord K)
  links : List (Option Nat)
  waiting : List Face

structure Channel (K Face : Type) where
  arrive : UInt32 → UInt32 → List (RegionOfInterest K) → List (FaceEntry K) →
    Option (Frame K Face)
  maintain : UInt64 → List (DetectionRecord K) → Tracks → Tracks

theorem toList_ne_nil {K : Type} (embedding : Vector K 512) : embedding.toList ≠ [] :=
  fun empty => by
    have length := embedding.length_toList
    simp [empty] at length

section

variable {K : Type} [Field K] [LinearOrder K]

def detectionOf (frameW frameH : UInt32) (roi : RegionOfInterest K) (classId : UInt32)
    (label : List UInt8) : DetectionRecord K where
  classId := classId
  trackId := roi.params.foldl (fun id param => param.trackingId.getD id) 0
  label := label
  score := roi.params.foldl (fun score param => param.confidence.getD score) 0
  left := (roi.x.toNat : K) / (frameW.toNat : K)
  top := (roi.y.toNat : K) / (frameH.toNat : K)
  right := ((roi.x + roi.w).toNat : K) / (frameW.toNat : K)
  bottom := ((roi.y + roi.h).toNat : K) / (frameH.toNat : K)
  face := none

namespace FrameOffload

def readDetections (frameW frameH : UInt32) (rois : List (RegionOfInterest K)) :
    List (DetectionRecord K) :=
  if 0 < frameW ∧ 0 < frameH then
    rois.map fun roi => detectionOf frameW frameH roi roi.id (roi.roiType.getD [])
  else []

def maintain (detections : List (DetectionRecord K)) (tracks : Tracks) : Tracks :=
  let processed := tracks.framesProcessed + 1
  let lastSeen := fun id =>
    if id ∈ detections.map DetectionRecord.trackId then some processed
    else tracks.trackIdLastSeen id
  if processed % 100 = 0 then
    let unseen := fun id => (lastSeen id).any fun seen => 300 < processed - seen
    ⟨processed, fun id => if unseen id then none else tracks.trackIdToFace id,
      fun id => if unseen id then none else lastSeen id⟩
  else ⟨processed, tracks.trackIdToFace, lastSeen⟩

def extract (config : GalleryConfig K) (gallery : Option (FaceGallery K)) (tracks : Tracks)
    (frameW frameH : UInt32) (rois : List (RegionOfInterest K)) (faces : List (FaceEntry K)) :
    Linking K × Tracks :=
  let detections := readDetections frameW frameH rois
  let linked := linkFaces config frameW frameH
    ⟨gallery, tracks.trackIdToFace, detections, []⟩ faces
  (linked, maintain linked.detections { tracks with trackIdToFace := linked.trackIdToFace })

def channel (config : GalleryConfig K) : Channel K (FaceEntry K) where
  arrive frameW frameH rois faces :=
    some ⟨path config frameW frameH, readDetections frameW frameH rois, [], faces⟩
  maintain _ := maintain

end FrameOffload

namespace ChannelWorker

variable (labelIndex : List UInt8 → Option (UInt32 × List UInt8))

def resolveDetectionClass (rawLabel : List UInt8) : Option (UInt32 × List UInt8) :=
  if rawLabel.isEmpty then none
  else
    match labelIndex rawLabel with
    | some known => some known
    | none => labelIndex (rawLabel.map fun byte => if byte = 0x2e then 0x20 else byte)

def readDetections (frameW frameH : UInt32) (rois : List (RegionOfInterest K)) :
    List (DetectionRecord K) :=
  rois.filterMap fun roi =>
    (resolveDetectionClass labelIndex (roi.roiType.getD [])).map fun known =>
      detectionOf frameW frameH roi known.1 known.2

def maintain (faceEnabled : Bool) (frameNum : UInt64) (detections : List (DetectionRecord K))
    (tracks : Tracks) : Tracks :=
  if faceEnabled then
    let lastSeen := fun id =>
      if id ∈ detections.map DetectionRecord.trackId ∧ (tracks.trackIdToFace id).isSome then
        some frameNum
      else tracks.trackIdLastSeen id
    if frameNum % 100 = 0 then
      let unseen := fun id => (tracks.trackIdToFace id).isSome &&
        (lastSeen id).all fun seen => 300 < frameNum - seen
      ⟨tracks.framesProcessed, fun id => if unseen id then none else tracks.trackIdToFace id,
        fun id => if unseen id then none else lastSeen id⟩
    else ⟨tracks.framesProcessed, tracks.trackIdToFace, lastSeen⟩
  else tracks

def hasArcface (faces : List (FaceEntry K)) : Bool :=
  faces.head?.any FaceEntry.hasEmbedding

def handleCombinedSample (config : GalleryConfig K) (faceEnabled : Bool)
    (gallery : Option (FaceGallery K)) (tracks : Tracks) (frameW frameH : UInt32)
    (rois : List (RegionOfInterest K)) (faces : List (FaceEntry K)) (sampleTotal : UInt64) :
    Option (Linking K × Tracks) :=
  if frameW = 0 ∨ frameH = 0 then none
  else
    let detections := readDetections labelIndex frameW frameH rois
    let start : Linking K := ⟨gallery, tracks.trackIdToFace, detections, []⟩
    let linked :=
      if faceEnabled ∧ faces ≠ [] then
        matchFacesToPersons config frameW frameH (hasArcface faces) start (faces.map faceResult)
      else start
    some (linked, maintain faceEnabled sampleTotal linked.detections
      { tracks with trackIdToFace := linked.trackIdToFace })

def channel (config : GalleryConfig K) (faceEnabled : Bool) : Channel K (FaceResult K) where
  arrive frameW frameH rois faces :=
    if frameW = 0 ∨ frameH = 0 then none
    else some ⟨path config frameW frameH (hasArcface faces),
      readDetections labelIndex frameW frameH rois, [],
      if faceEnabled then faces.map faceResult else []⟩
  maintain := maintain faceEnabled

end ChannelWorker

structure Report (K : Type) where
  face : FaceInfo K
  gallery : Option (FaceGallery K)

structure FaceRun (K Face : Type) where
  gallery : Option (FaceGallery K)
  tracks : Tracks
  frame : Option (Frame K Face)
  reports : List (Report K)

inductive FaceAction (K : Type) where
  | arrive (frameW frameH : UInt32) (rois : List (RegionOfInterest K)) (faces : List (FaceEntry K))
  | nextFace
  | finish (sampleTotal : UInt64)
  | enrolledElsewhere (embedding : List K)

variable {Face : Type}

def reportOf (gallery : Option (FaceGallery K)) (linked : Linking K) (link : Option Nat) :
    Option (Report K) :=
  (link.bind fun best => (linked.detections[best]?).bind DetectionRecord.face).map
    fun face => ⟨face, gallery⟩

def Channel.step (channel : Channel K Face) (run : FaceRun K Face) :
    FaceAction K → Option (FaceRun K Face)
  | .arrive frameW frameH rois faces =>
      match run.frame with
      | some _ => none
      | none => some { run with frame := channel.arrive frameW frameH rois faces }
  | .nextFace =>
      match run.frame with
      | none => none
      | some frame =>
          match frame.waiting with
          | [] => none
          | face :: waiting =>
              let linked := linkFace frame.path
                ⟨run.gallery, run.tracks.trackIdToFace, frame.detections, frame.links⟩ face
              some {
                gallery := linked.gallery
                tracks := { run.tracks with trackIdToFace := linked.trackIdToFace }
                frame := some { frame with
                  detections := linked.detections, links := linked.links, waiting := waiting }
                reports := run.reports ++ (reportOf run.gallery linked
                  (frame.path.bestIdx face frame.detections)).toList }
  | .finish sampleTotal =>
      match run.frame with
      | none => none
      | some frame =>
          if frame.waiting.isEmpty then
            some { run with
              tracks := channel.maintain sampleTotal frame.detections run.tracks
              frame := none }
          else none
  | .enrolledElsewhere embedding =>
      some { run with gallery := run.gallery.map fun known => (known.enroll embedding).1 }

def Channel.machine (channel : Channel K Face) : Machine (FaceRun K Face) (FaceAction K) where
  start run := run.tracks.trackIdToFace = (fun _ => none) ∧ run.frame = none ∧ run.reports = []
  step := channel.step

/-- The identity is what the gallery says of the embedding of the face itself: the entry it
matches, a new entry, or none. -/
def Own (threshold : K) (report : Report K) : Prop :=
  report.face.faceId = -1 ∨ ∃ known ∈ report.gallery,
    report.face.faceId = (known.matchFace report.face.embedding threshold).faceId ∨
      report.face.faceId = (known.enroll report.face.embedding).2

instance (threshold : K) (report : Report K) : Decidable (Own threshold report) :=
  inferInstanceAs (Decidable (_ ∨ ∃ known ∈ report.gallery, _))

/-- A face that goes to an untracked detection finds nothing remembered under id 0. -/
def Fresh (run : FaceRun K Face) : FaceAction K → Prop
  | .nextFace =>
      ∀ frame ∈ run.frame, ∀ face ∈ frame.waiting.head?,
        ∀ best ∈ frame.path.bestIdx face frame.detections,
          trackIdAt frame.detections best = 0 → run.gallery.isSome →
            frame.path.embedding face ≠ [] → run.tracks.trackIdToFace 0 = none
  | _ => True

/-- What a face may get: nothing, what the table says of the track, or what the gallery says
of its embedding, which the table may keep for the track. -/
inductive Identifies (threshold : K) (embedding : List K) (gallery : Option (FaceGallery K))
    (tracks : UInt32 → Option Int) (tid : UInt32) : Identified K → Prop
  | unknown {similarity} :
      Identifies threshold embedding gallery tracks tid ⟨gallery, tracks, -1, similarity⟩
  | recalled {faceId similarity} : gallery.isSome → embedding ≠ [] → tracks tid = some faceId →
      Identifies threshold embedding gallery tracks tid ⟨gallery, tracks, faceId, similarity⟩
  | asked {known after kept faceId similarity} : gallery = some known →
      faceId = (known.matchFace embedding threshold).faceId ∨
        faceId = (known.enroll embedding).2 →
      kept = tracks ∨ kept = remember tracks tid faceId →
      Identifies threshold embedding gallery tracks tid ⟨after, kept, faceId, similarity⟩

structure Honest (threshold : K) (path : FacePath K Face) : Prop where
  info : ∀ face tid faceId similarity, (path.faceInfo face tid faceId similarity).faceId = faceId ∧
    (path.faceInfo face tid faceId similarity).linkedTrackId = tid ∧
    (path.faceInfo face tid faceId similarity).embedding = path.embedding face
  identifies : ∀ gallery tracks face tid, Identifies threshold (path.embedding face) gallery
    tracks tid (path.identify gallery tracks face tid)

theorem honest_offload (config : GalleryConfig K) (frameW frameH : UInt32) :
    Honest config.threshold (FrameOffload.path config frameW frameH) where
  info _ _ _ _ := ⟨rfl, rfl, rfl⟩
  identifies gallery tracks face tid := by
    simp only [FrameOffload.path, FrameOffload.identify]
    cases gallery with
    | none => exact .unknown
    | some known =>
        cases face.hasEmbedding with
        | false => exact .unknown
        | true =>
            cases cached : tracks tid with
            | some faceId => exact .recalled rfl (toList_ne_nil _) cached
            | none =>
                simp only [↓reduceIte]
                split
                · exact .asked rfl (.inl rfl) (.inr rfl)
                · generalize (if face.x2 - face.x1 < face.y2 - face.y1 then face.x2 - face.x1
                    else face.y2 - face.y1) = faceSize
                  split
                  · exact .asked rfl (.inr rfl) (.inr rfl)
                  · exact .unknown

theorem honest_worker (config : GalleryConfig K) (frameW frameH : UInt32) (hasArcface : Bool) :
    Honest config.threshold (ChannelWorker.path config frameW frameH hasArcface) where
  info _ _ _ _ := ⟨rfl, rfl, rfl⟩
  identifies gallery tracks face tid := by
    simp only [ChannelWorker.path, ChannelWorker.identify]
    cases gallery with
    | none => exact .unknown
    | some known =>
        cases hasArcface with
        | false => exact .unknown
        | true =>
            cases cached : tracks tid with
            | some faceId => exact .recalled rfl (toList_ne_nil _) cached
            | none =>
                simp only [↓reduceIte]
                split
                · exact .asked rfl (.inl rfl) (.inr rfl)
                · split
                  · exact .asked rfl (.inr rfl) (ite_eq_or_eq ..).symm
                  · have negative : ¬ (0 : Int) ≤ -1 := by decide
                    rw [if_neg negative]
                    exact .unknown

theorem Identifies.own_or_recalled {threshold : K} {embedding : List K}
    {gallery : Option (FaceGallery K)} {tracks : UInt32 → Option Int} {tid : UInt32}
    {identified : Identified K}
    (identifies : Identifies threshold embedding gallery tracks tid identified)
    {face : FaceInfo K} (faceId : face.faceId = identified.faceId)
    (carried : face.embedding = embedding) :
    Own threshold ⟨face, gallery⟩ ∨
      gallery.isSome ∧ embedding ≠ [] ∧ tracks tid = some face.faceId := by
  cases identifies with
  | unknown => exact .inl (.inl faceId)
  | recalled known embedded cached => exact .inr ⟨known, embedded, faceId ▸ cached⟩
  | asked known answered _ =>
      refine .inl (.inr ⟨_, known, ?_⟩)
      rw [faceId, carried]
      exact answered

theorem Identifies.remembered {threshold : K} {embedding : List K}
    {gallery : Option (FaceGallery K)} {tracks : UInt32 → Option Int} {tid : UInt32}
    {identified : Identified K}
    (identifies : Identifies threshold embedding gallery tracks tid identified)
    {other : UInt32} {faceId : Int} (cached : identified.trackIdToFace other = some faceId) :
    tracks other = some faceId ∨ tid = other ∧ identified.faceId = faceId := by
  cases identifies with
  | unknown => exact .inl cached
  | recalled _ _ _ => exact .inl cached
  | asked _ _ kept =>
      rcases kept with rfl | rfl
      · exact .inl cached
      · simp only [remember] at cached
        split at cached
        · rename_i same
          exact .inr ⟨same.symm, Option.some.inj cached⟩
        · exact .inl cached

structure Linked (threshold : K) (path : FacePath K Face) (linking : Linking K) (face : Face)
    (best : Nat) (identified : Identified K) (info : FaceInfo K) : Prop where
  chosen : path.bestIdx face linking.detections = some best
  report : reportOf linking.gallery (linkFace path linking face)
    (path.bestIdx face linking.detections) = some ⟨info, linking.gallery⟩
  trackId : info.linkedTrackId = trackIdAt linking.detections best
  faceId : info.faceId = identified.faceId
  embedding : info.embedding = path.embedding face
  tracks : (linkFace path linking face).trackIdToFace = identified.trackIdToFace
  identifies : Identifies threshold (path.embedding face) linking.gallery linking.trackIdToFace
    (trackIdAt linking.detections best) identified

theorem linkFace_cases {threshold : K} {path : FacePath K Face} (honest : Honest threshold path)
    (linking : Linking K) (face : Face) :
    (reportOf linking.gallery (linkFace path linking face)
        (path.bestIdx face linking.detections) = none ∧
      (linkFace path linking face).trackIdToFace = linking.trackIdToFace) ∨
    ∃ best identified info, Linked threshold path linking face best identified info := by
  cases chosen : path.bestIdx face linking.detections with
  | none => exact .inl ⟨rfl, by rw [linkFace, chosen]⟩
  | some best =>
      have listed := List.getElem?_eq_getElem (path.bestIdx_lt chosen)
      have identifies := honest.identifies linking.gallery linking.trackIdToFace face
        (trackIdAt linking.detections best)
      generalize named : path.identify linking.gallery linking.trackIdToFace face
        (trackIdAt linking.detections best) = identified at identifies
      obtain ⟨faceId, trackId, embedding⟩ := honest.info face (trackIdAt linking.detections best)
        identified.faceId identified.faceSimilarity
      refine .inr ⟨best, identified, _, ⟨chosen, ?_, trackId, faceId, embedding, ?_, identifies⟩⟩
      · simp [reportOf, linkFace, chosen, listed, named]
      · simp only [linkFace, chosen, named]

structure HonestChannel (threshold : K) (channel : Channel K Face) : Prop where
  arrive : ∀ {frameW frameH rois faces frame},
    channel.arrive frameW frameH rois faces = some frame → Honest threshold frame.path
  maintain : ∀ {sampleTotal detections tracks tid faceId},
    (channel.maintain sampleTotal detections tracks).trackIdToFace tid = some faceId →
      tracks.trackIdToFace tid = some faceId

theorem honestChannel_offload (config : GalleryConfig K) :
    HonestChannel config.threshold (FrameOffload.channel config) where
  arrive arrived := by
    obtain rfl := Option.some.inj arrived
    exact honest_offload config _ _
  maintain {sampleTotal detections tracks tid faceId} kept := by
    simp only [FrameOffload.channel, FrameOffload.maintain] at kept
    split at kept
    · exact (Option.ite_none_left_eq_some.mp kept).2
    · exact kept

theorem honestChannel_worker (config : GalleryConfig K)
    (labelIndex : List UInt8 → Option (UInt32 × List UInt8)) (faceEnabled : Bool) :
    HonestChannel config.threshold (ChannelWorker.channel labelIndex config faceEnabled) where
  arrive arrived := by
    simp only [ChannelWorker.channel] at arrived
    split at arrived
    · cases arrived
    · obtain rfl := Option.some.inj arrived
      exact honest_worker config _ _ _
  maintain {sampleTotal detections tracks tid faceId} kept := by
    simp only [ChannelWorker.channel, ChannelWorker.maintain] at kept
    split at kept
    · split at kept
      · exact (Option.ite_none_left_eq_some.mp kept).2
      · exact kept
    · exact kept

section Inversion

variable {channel : Channel K Face} {run next : FaceRun K Face}

omit [Field K] [LinearOrder K]

theorem of_step_arrive {frameW frameH : UInt32} {rois : List (RegionOfInterest K)}
    {faces : List (FaceEntry K)}
    (stepped : channel.step run (.arrive frameW frameH rois faces) = some next) :
    run.frame = none ∧ next = { run with frame := channel.arrive frameW frameH rois faces } := by
  simp only [Channel.step] at stepped
  split at stepped
  · cases stepped
  · rename_i idle
    exact ⟨idle, (Option.some.inj stepped).symm⟩

theorem of_step_nextFace (stepped : channel.step run .nextFace = some next) :
    ∃ frame face waiting, run.frame = some frame ∧ frame.waiting = face :: waiting ∧
      let linked := linkFace frame.path
        ⟨run.gallery, run.tracks.trackIdToFace, frame.detections, frame.links⟩ face
      next = {
        gallery := linked.gallery
        tracks := { run.tracks with trackIdToFace := linked.trackIdToFace }
        frame := some { frame with
          detections := linked.detections, links := linked.links, waiting := waiting }
        reports := run.reports ++ (reportOf run.gallery linked
          (frame.path.bestIdx face frame.detections)).toList } := by
  simp only [Channel.step] at stepped
  split at stepped
  · cases stepped
  · rename_i frame held
    split at stepped
    · cases stepped
    · rename_i face waiting queued
      exact ⟨frame, face, waiting, held, queued, (Option.some.inj stepped).symm⟩

theorem of_step_finish {sampleTotal : UInt64}
    (stepped : channel.step run (.finish sampleTotal) = some next) :
    ∃ frame, run.frame = some frame ∧
      next = { run with
        tracks := channel.maintain sampleTotal frame.detections run.tracks, frame := none } := by
  simp only [Channel.step] at stepped
  split at stepped
  · cases stepped
  · rename_i frame held
    split at stepped
    · exact ⟨frame, held, (Option.some.inj stepped).symm⟩
    · cases stepped

end Inversion

omit [Field K] [LinearOrder K] in
theorem step_cases {channel : Channel K Face} {run next : FaceRun K Face} {action : FaceAction K}
    (stepped : channel.step run action = some next) :
    (∃ frame face waiting, action = .nextFace ∧ run.frame = some frame ∧
      frame.waiting = face :: waiting ∧
      let linking : Linking K :=
        ⟨run.gallery, run.tracks.trackIdToFace, frame.detections, frame.links⟩
      let linked := linkFace frame.path linking face
      next.tracks.trackIdToFace = linked.trackIdToFace ∧
        next.reports = run.reports ++
          (reportOf run.gallery linked (frame.path.bestIdx face linking.detections)).toList ∧
        next.frame.map Frame.path = some frame.path) ∨
    next.reports = run.reports ∧
      ((∃ sampleTotal detections,
          next.tracks = channel.maintain sampleTotal detections run.tracks) ∨
        next.tracks = run.tracks) ∧
      (next.frame = run.frame ∨ next.frame = none ∨
        ∃ frameW frameH rois faces, next.frame = channel.arrive frameW frameH rois faces) := by
  cases action with
  | arrive frameW frameH rois faces =>
      obtain ⟨_, rfl⟩ := of_step_arrive stepped
      exact .inr ⟨rfl, .inr rfl, .inr (.inr ⟨frameW, frameH, rois, faces, rfl⟩)⟩
  | nextFace =>
      obtain ⟨frame, face, waiting, held, queued, rfl⟩ := of_step_nextFace stepped
      exact .inl ⟨frame, face, waiting, rfl, held, queued, rfl, rfl, rfl⟩
  | finish sampleTotal =>
      obtain ⟨frame, _, rfl⟩ := of_step_finish stepped
      exact .inr ⟨rfl, .inl ⟨sampleTotal, frame.detections, rfl⟩, .inr (.inl rfl)⟩
  | enrolledElsewhere embedding =>
      obtain rfl := Option.some.inj stepped
      exact .inr ⟨rfl, .inr rfl, .inl rfl⟩

variable {threshold : K} {channel : Channel K Face}

theorem honest_step (honest : HonestChannel threshold channel) {run next : FaceRun K Face}
    {action : FaceAction K} (held : ∀ frame ∈ run.frame, Honest threshold frame.path)
    (stepped : channel.step run action = some next) :
    ∀ frame ∈ next.frame, Honest threshold frame.path := by
  intro frame taken
  rcases step_cases stepped with ⟨old, face, waiting, _, there, _, _, _, same⟩ | ⟨_, _, moved⟩
  · rw [Option.mem_def.mp taken] at same
    have path : frame.path = old.path := Option.some.inj same
    rw [path]
    exact held old there
  · rcases moved with same | gone | ⟨frameW, frameH, rois, faces, arrived⟩
    · exact held frame (same ▸ taken)
    · rw [gone] at taken
      cases taken
    · exact honest.arrive (arrived ▸ taken)

theorem honest_run (honest : HonestChannel threshold channel) {run : FaceRun K Face}
    (reachable : channel.machine.Reachable run) :
    ∀ frame ∈ run.frame, Honest threshold frame.path := by
  apply reachable.invariant fun run : FaceRun K Face =>
    ∀ frame ∈ run.frame, Honest threshold frame.path
  · intro run begun frame held
    rw [begun.2.1] at held
    cases held
  · intro run action next held stepped
    exact honest_step honest held stepped

/-- As long as nothing is remembered under id 0 when a face goes to an untracked detection,
every such face gets its own identity. -/
theorem own_run (honest : HonestChannel threshold channel) {run : FaceRun K Face}
    (reachable : channel.machine.ReachableUnder Fresh run) :
    ∀ report ∈ run.reports, report.face.linkedTrackId = 0 → Own threshold report := by
  apply reachable.invariant fun run : FaceRun K Face =>
    ∀ report ∈ run.reports, report.face.linkedTrackId = 0 → Own threshold report
  · intro run begun report listed
    rw [begun.2.2] at listed
    cases listed
  · intro run action next earlier held fresh stepped report listed untracked
    rcases step_cases stepped with
      ⟨frame, face, waiting, rfl, there, queued, _, reports, _⟩ | ⟨reports, _⟩
    · have path := honest_run honest earlier.reachable frame there
      have left := linkFace_cases path
        ⟨run.gallery, run.tracks.trackIdToFace, frame.detections, frame.links⟩ face
      rw [reports] at listed
      rcases List.mem_append.mp listed with old | new
      · exact held report old untracked
      · rcases left with ⟨nothing, _⟩ | ⟨best, identified, info, linked⟩
        · simp [nothing] at new
        · simp only [linked.report, Option.toList_some, List.mem_singleton] at new
          subst new
          have tid := linked.trackId.symm.trans untracked
          rcases linked.identifies.own_or_recalled linked.faceId linked.embedding with
            own | ⟨known, embedded, cached⟩
          · exact own
          · have missed := fresh frame there face (by simp [queued]) best linked.chosen tid known
              embedded
            rw [tid] at cached
            cases missed.symm.trans cached
    · exact held report (reports ▸ listed) untracked

structure Sourced (threshold : K) (run : FaceRun K Face) : Prop where
  cached : ∀ tid faceId, run.tracks.trackIdToFace tid = some faceId →
    ∃ report ∈ run.reports, report.face.linkedTrackId = tid ∧ report.face.faceId = faceId
  reported : ∀ earlier report later, run.reports = earlier ++ report :: later →
    Own threshold report ∨ ∃ old ∈ earlier,
      old.face.linkedTrackId = report.face.linkedTrackId ∧ old.face.faceId = report.face.faceId

theorem Sourced.keep {run next : FaceRun K Face} (sourced : Sourced threshold run)
    (reports : next.reports = run.reports)
    (tracks : ∀ tid faceId, next.tracks.trackIdToFace tid = some faceId →
      run.tracks.trackIdToFace tid = some faceId) : Sourced threshold next where
  cached tid faceId kept := reports ▸ sourced.cached tid faceId (tracks tid faceId kept)
  reported earlier report later split := sourced.reported earlier report later (reports ▸ split)

theorem Sourced.nextFace {path : FacePath K Face} (honest : Honest threshold path)
    {run next : FaceRun K Face} {detections : List (DetectionRecord K)}
    {links : List (Option Nat)} {face : Face} (sourced : Sourced threshold run)
    (tracks : next.tracks.trackIdToFace = (linkFace path
      ⟨run.gallery, run.tracks.trackIdToFace, detections, links⟩ face).trackIdToFace)
    (reports : next.reports = run.reports ++ (reportOf run.gallery (linkFace path
      ⟨run.gallery, run.tracks.trackIdToFace, detections, links⟩ face)
        (path.bestIdx face detections)).toList) : Sourced threshold next := by
  rcases linkFace_cases honest ⟨run.gallery, run.tracks.trackIdToFace, detections, links⟩ face with
    ⟨nothing, same⟩ | ⟨best, identified, info, linked⟩
  · refine sourced.keep (by simp [reports, nothing]) fun tid faceId kept => ?_
    rw [tracks, same] at kept
    exact kept
  · have appended : next.reports = run.reports ++ [⟨info, run.gallery⟩] := by
      rw [reports, linked.report]
      rfl
    constructor
    · intro tid faceId kept
      rw [tracks, linked.tracks] at kept
      rw [appended]
      rcases linked.identifies.remembered kept with older | ⟨same, newest⟩
      · obtain ⟨report, listed, facts⟩ := sourced.cached tid faceId older
        exact ⟨report, List.mem_append_left _ listed, facts⟩
      · exact ⟨⟨info, run.gallery⟩, by simp, linked.trackId.trans same,
          linked.faceId.trans newest⟩
    · intro earlier report later split
      rw [appended] at split
      rcases List.eq_nil_or_concat later with rfl | ⟨rest, last, rfl⟩
      · obtain ⟨rfl, same⟩ := List.append_inj' split rfl
        obtain rfl := List.singleton_inj.mp same
        rcases linked.identifies.own_or_recalled linked.faceId linked.embedding with
          own | ⟨_, _, cached⟩
        · exact .inl own
        · obtain ⟨old, listed, tid, faceId⟩ := sourced.cached _ _ cached
          exact .inr ⟨old, listed, tid.trans linked.trackId.symm, faceId⟩
      · rw [List.concat_eq_append, ← List.cons_append, ← List.append_assoc] at split
        exact sourced.reported earlier report rest (List.append_inj' split rfl).1

theorem sourced_run (honest : HonestChannel threshold channel) {run : FaceRun K Face}
    (reachable : channel.machine.Reachable run) : Sourced threshold run := by
  apply Machine.ReachableUnder.invariant (Sourced threshold) _ _ reachable
  · intro run begun
    constructor
    · intro tid faceId kept
      rw [begun.1] at kept
      cases kept
    · intro earlier report later split
      rw [begun.2.2] at split
      simp at split
  · intro run action next earlier sourced _ stepped
    rcases step_cases stepped with
      ⟨frame, face, waiting, rfl, there, _, tracks, reports, _⟩ | ⟨reports, moved, _⟩
    · exact sourced.nextFace (honest_run honest earlier frame there) tracks reports
    · refine sourced.keep reports fun tid faceId kept => ?_
      rcases moved with ⟨sampleTotal, detections, maintained⟩ | same
      · rw [maintained] at kept
        exact honest.maintain kept
      · rwa [same] at kept

omit [Field K] [LinearOrder K] in
theorem step_arrive (channel : Channel K Face) {run : FaceRun K Face} (idle : run.frame = none)
    (frameW frameH : UInt32) (rois : List (RegionOfInterest K)) (faces : List (FaceEntry K)) :
    channel.machine.step run (.arrive frameW frameH rois faces) =
      some { run with frame := channel.arrive frameW frameH rois faces } := by
  simp only [Channel.machine, Channel.step, idle]

omit [Field K] [LinearOrder K] in
theorem step_nextFace (channel : Channel K Face) {run : FaceRun K Face} {frame : Frame K Face}
    {face : Face} {waiting : List Face} (held : run.frame = some frame)
    (queued : frame.waiting = face :: waiting) :
    let linked := linkFace frame.path
      ⟨run.gallery, run.tracks.trackIdToFace, frame.detections, frame.links⟩ face
    ∃ reports, channel.machine.step run .nextFace = some ⟨linked.gallery,
      { run.tracks with trackIdToFace := linked.trackIdToFace },
      some { frame with
        detections := linked.detections, links := linked.links, waiting := waiting }, reports⟩ :=
  ⟨_, by simp only [Channel.machine, Channel.step, held, queued]; rfl⟩

omit [Field K] [LinearOrder K] in
theorem run_frame (channel : Channel K Face) (sampleTotal : UInt64) (faces : List Face)
    (run : FaceRun K Face) (frame : Frame K Face) (held : run.frame = some frame)
    (queued : frame.waiting = faces) :
    let linked := faces.foldl (linkFace frame.path)
      ⟨run.gallery, run.tracks.trackIdToFace, frame.detections, frame.links⟩
    ∃ reports, channel.machine.run (fun _ _ => True) run
      (List.replicate faces.length .nextFace ++ [.finish sampleTotal]) =
        some ⟨linked.gallery, channel.maintain sampleTotal linked.detections
          { run.tracks with trackIdToFace := linked.trackIdToFace }, none, reports⟩ := by
  induction faces generalizing run frame with
  | nil =>
      exact ⟨run.reports, by simp [Machine.run, Channel.machine, Channel.step, held, queued]⟩
  | cons face waiting ih =>
      obtain ⟨earlier, stepped⟩ := step_nextFace channel held queued
      obtain ⟨reports, ran⟩ := ih ⟨_, _, some _, earlier⟩ { frame with
        detections := _, links := _, waiting := waiting } rfl rfl
      refine ⟨reports, ?_⟩
      rw [List.length_cons, List.replicate_succ, List.cons_append, Machine.run, if_pos trivial,
        stepped]
      exact ran

theorem extract_run (config : GalleryConfig K) {run : FaceRun K (FaceEntry K)}
    (idle : run.frame = none) (frameW frameH : UInt32) (rois : List (RegionOfInterest K))
    (faces : List (FaceEntry K)) (sampleTotal : UInt64) :
    let done := FrameOffload.extract config run.gallery run.tracks frameW frameH rois faces
    ∃ reports, (FrameOffload.channel config).machine.run (fun _ _ => True) run
      (.arrive frameW frameH rois faces ::
        (List.replicate faces.length .nextFace ++ [.finish sampleTotal])) =
      some ⟨done.1.gallery, done.2, none, reports⟩ := by
  obtain ⟨reports, ran⟩ := run_frame (FrameOffload.channel config) sampleTotal faces
    { run with frame := (FrameOffload.channel config).arrive frameW frameH rois faces } _ rfl rfl
  refine ⟨reports, ?_⟩
  rw [Machine.run, if_pos trivial, step_arrive _ idle]
  exact ran

theorem matched_eq {config : GalleryConfig K} {faceEnabled : Bool} {frameW frameH : UInt32}
    (sized : ¬ (frameW = 0 ∨ frameH = 0)) {faces : List (FaceEntry K)} {start : Linking K} :
    (if faceEnabled ∧ faces ≠ [] then
        ChannelWorker.matchFacesToPersons config frameW frameH (ChannelWorker.hasArcface faces)
          start (faces.map ChannelWorker.faceResult)
      else start) =
      (if faceEnabled then faces.map ChannelWorker.faceResult else []).foldl
        (linkFace (ChannelWorker.path config frameW frameH (ChannelWorker.hasArcface faces)))
        start := by
  have sizes : frameW ≠ 0 ∧ frameH ≠ 0 := not_or.mp sized
  rw [ChannelWorker.matchFacesToPersons_of_pos (UInt32.pos_iff_ne_zero.mpr sizes.1)
    (UInt32.pos_iff_ne_zero.mpr sizes.2)]
  cases faceEnabled with
  | false => rfl
  | true => cases faces <;> rfl

theorem handleCombinedSample_run (config : GalleryConfig K)
    (labelIndex : List UInt8 → Option (UInt32 × List UInt8)) (faceEnabled : Bool)
    {run : FaceRun K (FaceResult K)} (idle : run.frame = none) {frameW frameH : UInt32}
    {rois : List (RegionOfInterest K)} {faces : List (FaceEntry K)} {sampleTotal : UInt64}
    {done : Linking K × Tracks}
    (handled : ChannelWorker.handleCombinedSample labelIndex config faceEnabled run.gallery
      run.tracks frameW frameH rois faces sampleTotal = some done) :
    ∃ rounds reports, (ChannelWorker.channel labelIndex config faceEnabled).machine.run
      (fun _ _ => True) run (.arrive frameW frameH rois faces ::
        (List.replicate rounds .nextFace ++ [.finish sampleTotal])) =
      some ⟨done.1.gallery, done.2, none, reports⟩ := by
  by_cases sized : frameW = 0 ∨ frameH = 0
  · rw [ChannelWorker.handleCombinedSample, if_pos sized] at handled
    cases handled
  · simp only [ChannelWorker.handleCombinedSample, if_neg sized, matched_eq sized] at handled
    obtain rfl := Option.some.inj handled
    have arrived : (ChannelWorker.channel labelIndex config faceEnabled).arrive frameW frameH rois
        faces = some ⟨ChannelWorker.path config frameW frameH (ChannelWorker.hasArcface faces),
          ChannelWorker.readDetections labelIndex frameW frameH rois, [],
          if faceEnabled then faces.map ChannelWorker.faceResult else []⟩ := if_neg sized
    obtain ⟨reports, ran⟩ := run_frame (ChannelWorker.channel labelIndex config faceEnabled)
      sampleTotal _ { run with
        frame := (ChannelWorker.channel labelIndex config faceEnabled).arrive frameW frameH
          rois faces } _ arrived rfl
    refine ⟨(if faceEnabled then faces.map ChannelWorker.faceResult else []).length, reports, ?_⟩
    rw [Machine.run, if_pos trivial, step_arrive _ idle]
    exact ran

theorem untracked_own (config config' : GalleryConfig K)
    (labelIndex : List UInt8 → Option (UInt32 × List UInt8)) (faceEnabled : Bool) :
    (∀ run, (FrameOffload.channel config).machine.ReachableUnder Fresh run →
      ∀ report ∈ run.reports, report.face.linkedTrackId = 0 → Own config.threshold report) ∧
    ∀ run, (ChannelWorker.channel labelIndex config' faceEnabled).machine.ReachableUnder Fresh run →
      ∀ report ∈ run.reports, report.face.linkedTrackId = 0 → Own config'.threshold report :=
  ⟨fun _ => own_run (honestChannel_offload config),
    fun _ => own_run (honestChannel_worker config' labelIndex faceEnabled)⟩

end

def untrackedPerson : RegionOfInterest ℚ :=
  ⟨some ChannelWorker.person, 0, 0, 0, 960, 1080, [⟨none, some (9 / 10)⟩]⟩

def faceOf (axis : Fin 512) : FaceEntry ℚ :=
  ⟨380, 180, 420, 220, 9 / 10, Vector.replicate 5 (400, 200),
    (Vector.replicate 512 0).set axis 1, true⟩

def ruled : GalleryConfig ℚ := ⟨3 / 10, 40, 6 / 10⟩

def personIndex (rawLabel : List UInt8) : Option (UInt32 × List UInt8) :=
  if rawLabel = ChannelWorker.person then some (0, ChannelWorker.person) else none

def idle {Face : Type} : FaceRun ℚ Face :=
  ⟨some ⟨[], 1⟩, ⟨0, fun _ => none, fun _ => none⟩, none, []⟩

def twoFrames : List (FaceAction ℚ) :=
  [.arrive 1920 1080 [untrackedPerson] [faceOf 0], .nextFace, .finish 1,
    .arrive 1920 1080 [untrackedPerson] [faceOf 1], .nextFace]

def borrowed (reports : List (Report ℚ)) : Bool :=
  reports.any fun report => report.face.linkedTrackId = 0 ∧ ¬ Own ruled.threshold report

instance {K Face : Type} [Field K] [LinearOrder K] (run : FaceRun K Face) (action : FaceAction K) :
    Decidable (Fresh run action) := by
  cases action <;> unfold Fresh <;> infer_instance

theorem exists_of_run {Face : Type} (channel : Channel ℚ Face)
    (allowed : FaceRun ℚ Face → FaceAction ℚ → Prop)
    [∀ run action, Decidable (allowed run action)] (actions : List (FaceAction ℚ))
    (shown : List (Report ℚ) → Bool)
    (ran : (channel.machine.run allowed idle actions).any fun run => shown run.reports) :
    ∃ run, channel.machine.run allowed idle actions = some run ∧
      channel.machine.ReachableUnder allowed run ∧ shown run.reports := by
  have begun : channel.machine.ReachableUnder allowed idle := .start ⟨rfl, rfl, rfl⟩
  exact begun.exists_run actions (fun run => shown run.reports) ran

def enrolledOnce (reports : List (Report ℚ)) : Bool :=
  reports.map (fun report => report.face.faceId) = [1]

theorem untracked_own_onePerson :
    (∃ run, (FrameOffload.channel ruled).machine.ReachableUnder Fresh run ∧
      enrolledOnce run.reports ∧
      ∀ report ∈ run.reports, report.face.linkedTrackId = 0 → Own ruled.threshold report) ∧
    ∃ run, (ChannelWorker.channel personIndex ruled true).machine.ReachableUnder Fresh run ∧
      enrolledOnce run.reports ∧
      ∀ report ∈ run.reports, report.face.linkedTrackId = 0 → Own ruled.threshold report := by
  have own := untracked_own ruled ruled personIndex true
  obtain ⟨run, _, reached, shown⟩ := exists_of_run (FrameOffload.channel ruled) Fresh
    (twoFrames.take 3) enrolledOnce (by decide +kernel)
  obtain ⟨other, _, arrived, told⟩ := exists_of_run
    (ChannelWorker.channel personIndex ruled true) Fresh (twoFrames.take 3) enrolledOnce
    (by decide +kernel)
  exact ⟨⟨run, reached, shown, own.1 run reached⟩, other, arrived, told, own.2 other arrived⟩

theorem exists_of_borrowed {reports : List (Report ℚ)} (shown : borrowed reports) :
    ∃ report ∈ reports, report.face.linkedTrackId = 0 ∧ ¬ Own ruled.threshold report := by
  obtain ⟨report, listed, facts⟩ := List.any_eq_true.mp shown
  exact ⟨report, listed, of_decide_eq_true facts⟩

theorem identityBorrowed :
    (∃ run, (FrameOffload.channel ruled).machine.run (fun _ _ => True) idle twoFrames = some run ∧
      (FrameOffload.channel ruled).machine.Reachable run ∧
      ∃ report ∈ run.reports, report.face.linkedTrackId = 0 ∧ ¬ Own ruled.threshold report) ∧
    ∃ run, (ChannelWorker.channel personIndex ruled true).machine.run (fun _ _ => True) idle
        twoFrames = some run ∧
      (ChannelWorker.channel personIndex ruled true).machine.Reachable run ∧
      ∃ report ∈ run.reports, report.face.linkedTrackId = 0 ∧ ¬ Own ruled.threshold report := by
  obtain ⟨run, ran, reached, shown⟩ := exists_of_run (FrameOffload.channel ruled)
    (fun _ _ => True) twoFrames borrowed (by decide +kernel)
  obtain ⟨other, went, arrived, told⟩ := exists_of_run
    (ChannelWorker.channel personIndex ruled true) (fun _ _ => True) twoFrames borrowed
    (by decide +kernel)
  exact ⟨⟨run, ran, reached, exists_of_borrowed shown⟩,
    other, went, arrived, exists_of_borrowed told⟩

end Iq9Pipeline.MultiCam.FaceLinks
