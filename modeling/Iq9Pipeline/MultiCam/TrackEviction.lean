import Iq9Pipeline.Foundation.Sightings
import Iq9Pipeline.MultiCam.FaceIdentity

/-!
Which identities a channel forgets. Every hundredth frame it drops those of the tracks that
have not been in a frame for long; both programs keep when a track was last seen, but neither
for the same tracks nor at the same places.
-/

namespace Iq9Pipeline.MultiCam.FaceLinks

open Foundation

structure Watched (K Face : Type) where
  run : FaceRun K Face
  log : List (Sighting UInt32)

section

variable {K Face : Type}

def trackIds (detections : List (DetectionRecord K)) : List UInt32 :=
  detections.map DetectionRecord.trackId

def Watched.logged (numberOf : List (Sighting UInt32) → UInt64 → Nat) (state : Watched K Face) :
    FaceAction K → List (Sighting UInt32)
  | .finish sampleTotal =>
      (state.run.frame.map fun frame =>
        ⟨numberOf state.log sampleTotal, trackIds frame.detections⟩).toList ++ state.log
  | _ => state.log

def Channel.watched [Field K] [LinearOrder K] (channel : Channel K Face)
    (numberOf : List (Sighting UInt32) → UInt64 → Nat) :
    Machine (Watched K Face) (FaceAction K) where
  start state :=
    state.run.tracks = ⟨0, fun _ => none, fun _ => none⟩ ∧ state.run.frame = none ∧ state.log = []
  step state action := (channel.step state.run action).map (⟨·, state.logged numberOf action⟩)

def FrameOffload.numberOf (log : List (Sighting UInt32)) (_ : UInt64) : Nat :=
  log.length + 1

def ChannelWorker.numberOf (_ : List (Sighting UInt32)) (sampleTotal : UInt64) : Nat :=
  sampleTotal.toNat

def Increasing (state : Watched K Face) : FaceAction K → Prop
  | .finish sampleTotal => ∀ sighting ∈ state.log, sighting.number < sampleTotal.toNat
  | _ => True

def Sweeps (number : Nat) : Prop :=
  UInt64.ofNat number % 100 = 0

instance (number : Nat) : Decidable (Sweeps number) :=
  inferInstanceAs (Decidable (_ = _))

end

section Paths

variable {K Face : Type} [Field K] [LinearOrder K]

structure Steady (path : FacePath K Face) : Prop where
  retains : ∀ {gallery tracks face tid id faceId}, tracks id = some faceId →
    (path.identify gallery tracks face tid).trackIdToFace id = some faceId
  adds : ∀ {gallery tracks face tid id faceId},
    (path.identify gallery tracks face tid).trackIdToFace id = some faceId →
      tracks id = some faceId ∨ tid = id

theorem remember_retains {tracks : UInt32 → Option Int} {tid id : UInt32} {faceId other : Int}
    (vacant : tracks tid = none) (kept : tracks id = some faceId) :
    remember tracks tid other id = some faceId := by
  have apart : id ≠ tid := by
    rintro rfl
    rw [vacant] at kept
    cases kept
  rw [remember, if_neg apart, kept]

theorem steady_offload (config : GalleryConfig K) (frameW frameH : UInt32) :
    Steady (FrameOffload.path config frameW frameH) where
  retains {gallery tracks face tid id faceId} kept := by
    simp only [FrameOffload.path, FrameOffload.identify]
    cases gallery with
    | none => exact kept
    | some known =>
        cases face.hasEmbedding with
        | false => exact kept
        | true =>
            cases cached : tracks tid with
            | some other => exact kept
            | none =>
                simp only
                split
                · exact remember_retains cached kept
                · generalize (if face.x2 - face.x1 < face.y2 - face.y1 then face.x2 - face.x1
                    else face.y2 - face.y1) = faceSize
                  split
                  · exact remember_retains cached kept
                  · exact kept
  adds {_ _ _ _ _ _} cached :=
    (((honest_offload config frameW frameH).identifies _ _ _ _).remembered cached).imp_right
      And.left

theorem steady_worker (config : GalleryConfig K) (frameW frameH : UInt32) (hasArcface : Bool) :
    Steady (ChannelWorker.path config frameW frameH hasArcface) where
  retains {gallery tracks face tid id faceId} kept := by
    simp only [ChannelWorker.path, ChannelWorker.identify]
    cases gallery with
    | none => exact kept
    | some known =>
        cases hasArcface with
        | false => exact kept
        | true =>
            cases cached : tracks tid with
            | some other => exact kept
            | none =>
                have either (known : Prop) [Decidable known] (found : Int) :
                    (if known then remember tracks tid found else tracks) id = some faceId := by
                  split
                  · exact remember_retains cached kept
                  · exact kept
                exact either _ _
  adds {_ _ _ _ _ _} cached :=
    (((honest_worker config frameW frameH hasArcface).identifies _ _ _ _).remembered
      cached).imp_right And.left

variable {path : FacePath K Face} (linking : Linking K) (face : Face)

omit [Field K] [LinearOrder K]

theorem trackIds_linkFace : trackIds (linkFace path linking face).detections =
    trackIds linking.detections := by
  rw [linkFace]
  split
  · rfl
  · apply List.ext_getElem?
    intro index
    simp only [trackIds, List.getElem?_map, List.getElem?_modify, Option.map_eq_map]
    cases linking.detections[index]? with
    | none => rfl
    | some detection =>
        simp only [Option.map_some]
        split <;> rfl

theorem Steady.linkFace_retains (steady : Steady path) {id : UInt32} {faceId : Int}
    (kept : linking.trackIdToFace id = some faceId) :
    (linkFace path linking face).trackIdToFace id = some faceId := by
  rw [linkFace]
  split
  · exact kept
  · exact steady.retains kept

theorem Steady.linkFace_adds (steady : Steady path) {id : UInt32} {faceId : Int}
    (cached : (linkFace path linking face).trackIdToFace id = some faceId) :
    linking.trackIdToFace id = some faceId ∨ id ∈ trackIds linking.detections := by
  rw [linkFace] at cached
  split at cached
  · exact .inl cached
  · rename_i best chosen
    refine (steady.adds cached).imp_right fun same => ?_
    have listed := List.getElem?_eq_getElem (path.bestIdx_lt chosen)
    rw [← same, trackIdAt, listed]
    exact List.mem_map_of_mem (List.getElem_mem _)

end Paths

section Maintenance

structure Maintains (number : Nat) (ids : List UInt32) (before after : Tracks) : Prop where
  vacant : ∀ id, before.trackIdToFace id = none → after.trackIdToFace id = none
  swept : ∀ id faceId seen, before.trackIdToFace id = some faceId →
    (if id ∈ ids then some (UInt64.ofNat number) else before.trackIdLastSeen id) = some seen →
    Sweeps number ∧ 300 < UInt64.ofNat number - seen → after.trackIdToFace id = none
  kept : ∀ id faceId seen, before.trackIdToFace id = some faceId →
    (if id ∈ ids then some (UInt64.ofNat number) else before.trackIdLastSeen id) = some seen →
    ¬(Sweeps number ∧ 300 < UInt64.ofNat number - seen) →
    after.trackIdToFace id = some faceId ∧ after.trackIdLastSeen id = some seen

variable {K : Type} {number : Nat} {detections : List (DetectionRecord K)} {tracks : Tracks}

theorem maintains_offload (counted : tracks.framesProcessed + 1 = UInt64.ofNat number) :
    Maintains number (trackIds detections) tracks (FrameOffload.maintain detections tracks) := by
  unfold trackIds
  constructor
  · intro id vacant
    simp only [FrameOffload.maintain]
    split
    · simp only [vacant, ite_self]
    · exact vacant
  · rintro id faceId seen cached last ⟨sweeps, far⟩
    simp only [FrameOffload.maintain, counted]
    rw [if_pos (show UInt64.ofNat number % 100 = 0 from sweeps)]
    simp only [last, Option.any_some, far, decide_true, if_true]
  · intro id faceId seen cached last stays
    simp only [FrameOffload.maintain, counted]
    split
    · rename_i sweeps
      have close : ¬300 < UInt64.ofNat number - seen := fun far => stays ⟨sweeps, far⟩
      simp only [last, Option.any_some, close, decide_false]
      exact ⟨cached, rfl⟩
    · exact ⟨cached, last⟩

theorem maintains_worker {frameNum : UInt64} (counted : frameNum = UInt64.ofNat number) :
    Maintains number (trackIds detections) tracks
      (ChannelWorker.maintain true frameNum detections tracks) := by
  unfold trackIds
  constructor
  · intro id vacant
    simp only [ChannelWorker.maintain, if_true]
    split
    · simp only [vacant, ite_self]
    · exact vacant
  · rintro id faceId seen cached last ⟨sweeps, far⟩
    simp only [ChannelWorker.maintain, if_true, counted]
    rw [if_pos (show UInt64.ofNat number % 100 = 0 from sweeps)]
    simp only [cached, Option.isSome_some, and_true, last, Option.all_some, far, decide_true,
      Bool.and_self, if_true]
  · intro id faceId seen cached last stays
    simp only [ChannelWorker.maintain, if_true, counted]
    split
    · rename_i sweeps
      have close : ¬300 < UInt64.ofNat number - seen := fun far => stays ⟨sweeps, far⟩
      simp only [cached, Option.isSome_some, and_true, last, Option.all_some, close, decide_false,
        Bool.and_false]
      exact ⟨rfl, rfl⟩
    · simp only [cached, Option.isSome_some, and_true, last]

end Maintenance

section Invariant

variable {K Face : Type} {slack : Nat → Nat}

/-- What is kept of a cached track tells when it was last in a frame, and that was not longer
ago than the sweeps let it be. -/
def Seen (slack : Nat → Nat) (log : List (Sighting UInt32)) (tracks : Tracks) (id : UInt32) :
    Prop :=
  ∃ number, LastSeen log id number ∧
    tracks.trackIdLastSeen id = some (UInt64.ofNat number) ∧ number ≤ newest log ∧
    newest log ≤ number + 300 + slack (newest log)

structure Tracked (slack : Nat → Nat) (state : Watched K Face) : Prop where
  steady : ∀ frame ∈ state.run.frame, Steady frame.path
  numbers : ∀ sighting ∈ state.log, sighting.number ≤ newest state.log
  cached : ∀ id faceId, state.run.tracks.trackIdToFace id = some faceId →
    Seen slack state.log state.run.tracks id ∨
      ∃ frame ∈ state.run.frame, id ∈ trackIds frame.detections

structure Follows (slack : Nat → Nat) (previous number : Nat) : Prop where
  ordered : previous ≤ number
  close : ∀ seen ≤ previous, previous ≤ seen + 300 + slack previous → number < seen + 2 ^ 64
  between : ¬Sweeps number → ∀ seen ≤ previous, previous ≤ seen + 300 + slack previous →
    number ≤ seen + 300 + slack number

variable {state : Watched K Face} {frame : Frame K Face} {number : Nat} {id : UInt32}
  {faceId : Int}

/-- At the end of a frame the maintenance finds out when a cached track was last seen. -/
theorem Tracked.upcoming (tracked : Tracked slack state) (held : state.run.frame = some frame)
    (follows : Follows slack (newest state.log) number)
    (cached : state.run.tracks.trackIdToFace id = some faceId) :
    let ids := trackIds frame.detections
    ∃ seen, LastSeen (⟨number, ids⟩ :: state.log) id seen ∧
      (if id ∈ ids then some (UInt64.ofNat number) else state.run.tracks.trackIdLastSeen id) =
        some (UInt64.ofNat seen) ∧
      seen ≤ number ∧ number < seen + 2 ^ 64 ∧
      (¬Sweeps number → number ≤ seen + 300 + slack number) := by
  intro ids
  by_cases present : id ∈ ids
  · have older (sighting) (earlier : sighting ∈ state.log) : sighting.number ≤ number :=
      (tracked.numbers sighting earlier).trans follows.ordered
    exact ⟨number, .here present older, if_pos present, le_rfl, by omega, fun _ => by omega⟩
  · rcases tracked.cached id faceId cached with
      ⟨seen, lastSeen, kept, before, near⟩ | ⟨other, there, listed⟩
    · exact ⟨seen, lastSeen.there present, (if_neg present).trans kept,
        before.trans follows.ordered, follows.close seen before near,
        fun steady => follows.between steady seen before near⟩
    · obtain rfl := Option.some.inj (held.symm.trans there)
      exact absurd listed present

theorem far_iff {seen : Nat} (before : seen ≤ number) (close : number < seen + 2 ^ 64) :
    300 < UInt64.ofNat number - UInt64.ofNat seen ↔ seen + 300 < number := by
  rw [UInt64.lt_iff_toNat_lt, toNat_counter_sub before close]
  have span : (300 : UInt64).toNat = 300 := rfl
  omega

theorem Tracked.finish (tracked : Tracked slack state) (held : state.run.frame = some frame)
    (follows : Follows slack (newest state.log) number) {after : Tracks}
    (maintains : Maintains number (trackIds frame.detections) state.run.tracks after) :
    Tracked slack (⟨{ state.run with tracks := after, frame := none },
      ⟨number, trackIds frame.detections⟩ :: state.log⟩ : Watched K Face) := by
  refine ⟨nofun, ?_, ?_⟩
  · intro sighting listed
    rcases List.mem_cons.mp listed with rfl | earlier
    · exact le_rfl
    · exact (tracked.numbers sighting earlier).trans follows.ordered
  · intro id faceId kept
    cases cached : state.run.tracks.trackIdToFace id with
    | none =>
        rw [maintains.vacant id cached] at kept
        cases kept
    | some old =>
        obtain ⟨seen, lastSeen, last, before, close, between⟩ :=
          tracked.upcoming held follows cached
        by_cases expired : Sweeps number ∧ 300 < UInt64.ofNat number - UInt64.ofNat seen
        · rw [maintains.swept id old _ cached last expired] at kept
          cases kept
        · have stored := (maintains.kept id old _ cached last expired).2
          rw [far_iff before close] at expired
          refine .inl ⟨seen, lastSeen, stored, before, ?_⟩
          by_cases sweeps : Sweeps number
          · have near : ¬seen + 300 < number := fun far => expired ⟨sweeps, far⟩
            simp only [newest_cons]
            omega
          · exact between sweeps

/-- The maintenance keeps the identities of the tracks that were in a frame lately. -/
theorem Tracked.finish_kept (tracked : Tracked slack state)
    (held : state.run.frame = some frame) (follows : Follows slack (newest state.log) number)
    {after : Tracks}
    (maintains : Maintains number (trackIds frame.detections) state.run.tracks after)
    (cached : state.run.tracks.trackIdToFace id = some faceId)
    (recent : Recent 300 (⟨number, trackIds frame.detections⟩ :: state.log) id) :
    after.trackIdToFace id = some faceId := by
  obtain ⟨seen, lastSeen, last, before, close, _⟩ := tracked.upcoming held follows cached
  simp only [lastSeen.recent_iff, newest_cons] at recent
  refine (maintains.kept id faceId _ cached last ?_).1
  rw [far_iff before close]
  omega

end Invariant

section Steps

variable {K Face : Type} [Field K] [LinearOrder K] {channel : Channel K Face}
  {numberOf : List (Sighting UInt32) → UInt64 → Nat} {state next : Watched K Face}
  {action : FaceAction K}

/-- The three ways in which a step touches the tracks. -/
theorem watched_cases
    (stepped : (channel.watched numberOf).step state action = some next) :
    (∃ frame face, state.run.frame = some frame ∧ next.log = state.log ∧
      let linked := linkFace frame.path
        ⟨state.run.gallery, state.run.tracks.trackIdToFace, frame.detections, frame.links⟩ face
      next.run.tracks = { state.run.tracks with trackIdToFace := linked.trackIdToFace } ∧
        ∃ waiting, next.run.frame = some { frame with
          detections := linked.detections, links := linked.links, waiting := waiting }) ∨
    (∃ sampleTotal frame, action = .finish sampleTotal ∧ state.run.frame = some frame ∧
      next = ⟨{ state.run with
          tracks := channel.maintain sampleTotal frame.detections state.run.tracks
          frame := none },
        ⟨numberOf state.log sampleTotal, trackIds frame.detections⟩ :: state.log⟩) ∨
    next.log = state.log ∧ next.run.tracks = state.run.tracks ∧
      (next.run.frame = state.run.frame ∨ state.run.frame = none ∧
        ∃ frameW frameH rois faces, next.run.frame = channel.arrive frameW frameH rois faces) := by
  obtain ⟨run, went, rfl⟩ := Option.map_eq_some_iff.mp stepped
  cases action with
  | arrive frameW frameH rois faces =>
      obtain ⟨idle, rfl⟩ := of_step_arrive went
      exact .inr (.inr ⟨rfl, rfl, .inr ⟨idle, frameW, frameH, rois, faces, rfl⟩⟩)
  | nextFace =>
      obtain ⟨frame, face, waiting, held, _, rfl⟩ := of_step_nextFace went
      exact .inl ⟨frame, face, held, rfl, rfl, waiting, rfl⟩
  | finish sampleTotal =>
      obtain ⟨frame, held, rfl⟩ := of_step_finish went
      refine .inr (.inl ⟨sampleTotal, frame, rfl, held, ?_⟩)
      simp only [Watched.logged, held, Option.map_some, Option.toList_some,
        List.singleton_append]
  | enrolledElsewhere embedding =>
      obtain rfl := Option.some.inj went
      exact .inr (.inr ⟨rfl, rfl, .inl rfl⟩)

structure Sound (channel : Channel K Face) (numberOf : List (Sighting UInt32) → UInt64 → Nat)
    (slack : Nat → Nat) (allowed : Watched K Face → FaceAction K → Prop) : Prop where
  arrive : ∀ {frameW frameH rois faces frame},
    channel.arrive frameW frameH rois faces = some frame → Steady frame.path
  finish : ∀ {state sampleTotal frame},
    (channel.watched numberOf).ReachableUnder allowed state →
    allowed state (.finish sampleTotal) → state.run.frame = some frame →
      Follows slack (newest state.log) (numberOf state.log sampleTotal) ∧
        Maintains (numberOf state.log sampleTotal) (trackIds frame.detections) state.run.tracks
          (channel.maintain sampleTotal frame.detections state.run.tracks)

variable {slack : Nat → Nat} {allowed : Watched K Face → FaceAction K → Prop}

omit [Field K] [LinearOrder K] in
theorem Tracked.link (tracked : Tracked slack state) {frame : Frame K Face} {face : Face}
    {waiting : List Face} (held : state.run.frame = some frame) (log : next.log = state.log)
    (linked :
      let linked := linkFace frame.path
        ⟨state.run.gallery, state.run.tracks.trackIdToFace, frame.detections, frame.links⟩ face
      next.run.tracks = { state.run.tracks with trackIdToFace := linked.trackIdToFace } ∧
        next.run.frame = some { frame with
          detections := linked.detections, links := linked.links, waiting := waiting }) :
    Tracked slack next := by
  obtain ⟨tracks, moved⟩ := linked
  have steady := tracked.steady frame held
  let linking : Linking K :=
    ⟨state.run.gallery, state.run.tracks.trackIdToFace, frame.detections, frame.links⟩
  have same :
      trackIds (linkFace frame.path linking face).detections = trackIds frame.detections :=
    trackIds_linkFace linking face
  refine ⟨?_, log ▸ tracked.numbers, ?_⟩
  · intro other there
    rw [moved] at there
    obtain rfl := Option.some.inj there
    exact steady
  · intro id faceId cached
    rw [tracks] at cached
    rw [Seen, log, tracks, moved]
    rcases steady.linkFace_adds _ face cached with older | listed
    · refine (tracked.cached id faceId older).imp_right ?_
      rintro ⟨other, there, listed⟩
      obtain rfl := Option.some.inj (held.symm.trans there)
      exact ⟨_, rfl, same ▸ listed⟩
    · exact .inr ⟨_, rfl, same ▸ listed⟩

omit [Field K] [LinearOrder K] in
theorem Tracked.untouched (tracked : Tracked slack state) (log : next.log = state.log)
    (tracks : next.run.tracks = state.run.tracks)
    (moved : next.run.frame = state.run.frame ∨
      state.run.frame = none ∧ ∀ frame ∈ next.run.frame, Steady frame.path) :
    Tracked slack next := by
  refine ⟨?_, log ▸ tracked.numbers, ?_⟩
  · rcases moved with same | ⟨_, steady⟩
    · exact same ▸ tracked.steady
    · exact steady
  · intro id faceId cached
    rw [tracks] at cached
    rw [Seen, log, tracks]
    refine (tracked.cached id faceId cached).imp_right ?_
    rintro ⟨frame, there, listed⟩
    rcases moved with same | ⟨idle, _⟩
    · exact ⟨frame, same ▸ there, listed⟩
    · rw [idle] at there
      cases there

theorem Tracked.step (tracked : Tracked slack state) (sound : Sound channel numberOf slack allowed)
    (reachable : (channel.watched numberOf).ReachableUnder allowed state)
    (permitted : allowed state action)
    (stepped : (channel.watched numberOf).step state action = some next) :
    Tracked slack next := by
  rcases watched_cases stepped with
    ⟨frame, face, held, log, tracks, waiting, moved⟩ | ⟨sampleTotal, frame, rfl, held, rfl⟩ |
      ⟨log, tracks, moved⟩
  · exact tracked.link held log ⟨tracks, moved⟩
  · obtain ⟨follows, maintains⟩ := sound.finish reachable permitted held
    exact tracked.finish held follows maintains
  · refine tracked.untouched log tracks (moved.imp_right ?_)
    rintro ⟨idle, frameW, frameH, rois, faces, arrived⟩
    exact ⟨idle, fun frame there => sound.arrive (arrived ▸ there)⟩

theorem tracked_run (sound : Sound channel numberOf slack allowed)
    (reachable : (channel.watched numberOf).ReachableUnder allowed state) :
    Tracked slack state := by
  apply Machine.ReachableUnder.invariant (Tracked slack) _ _ reachable
  · rintro state ⟨tracks, idle, log⟩
    refine ⟨by rw [idle]; nofun, by rw [log]; nofun, ?_⟩
    intro id faceId cached
    rw [tracks] at cached
    cases cached
  · intro state action next reachable tracked permitted stepped
    exact tracked.step sound reachable permitted stepped

/-- The identities that are kept are those of known age; a young one stays, and after a sweep
no other is left. -/
structure Evicts (machine : Machine (Watched K Face) (FaceAction K))
    (allowed : Watched K Face → FaceAction K → Prop) : Prop where
  keys : ∀ state, machine.ReachableUnder allowed state → state.run.frame = none →
    ∀ id, (state.run.tracks.trackIdToFace id).isSome →
      (state.run.tracks.trackIdLastSeen id).isSome
  kept : ∀ state action next, machine.ReachableUnder allowed state → allowed state action →
    machine.step state action = some next →
      ∀ id faceId, state.run.tracks.trackIdToFace id = some faceId → Recent 300 next.log id →
        next.run.tracks.trackIdToFace id = some faceId
  swept : ∀ state, machine.ReachableUnder allowed state → state.run.frame = none →
    Sweeps (newest state.log) →
      ∀ id, (state.run.tracks.trackIdToFace id).isSome → Recent 300 state.log id

omit [Field K] [LinearOrder K] in
theorem Tracked.seen (tracked : Tracked slack state) (idle : state.run.frame = none)
    {id : UInt32} (cached : (state.run.tracks.trackIdToFace id).isSome) :
    Seen slack state.log state.run.tracks id := by
  obtain ⟨faceId, cached⟩ := Option.isSome_iff_exists.mp cached
  rcases tracked.cached id faceId cached with seen | ⟨frame, there, _⟩
  · exact seen
  · rw [idle] at there
    cases there

theorem Sound.evicts (sound : Sound channel numberOf slack allowed)
    (still : ∀ number, Sweeps number → slack number = 0) :
    Evicts (channel.watched numberOf) allowed where
  keys state reachable idle id cached := by
    obtain ⟨number, _, kept, _⟩ := (tracked_run sound reachable).seen idle cached
    rw [kept, Option.isSome_some]
  kept state action next reachable permitted stepped id faceId cached recent := by
    have tracked := tracked_run sound reachable
    rcases watched_cases stepped with
      ⟨frame, face, held, _, tracks, _⟩ | ⟨sampleTotal, frame, rfl, held, rfl⟩ | ⟨_, tracks, _⟩
    · rw [tracks]
      exact (tracked.steady frame held).linkFace_retains _ face cached
    · obtain ⟨follows, maintains⟩ := sound.finish reachable permitted held
      exact tracked.finish_kept held follows maintains cached recent
    · rw [tracks, cached]
  swept state reachable idle sweeps id cached := by
    obtain ⟨number, lastSeen, _, _, near⟩ := (tracked_run sound reachable).seen idle cached
    rw [still _ sweeps] at near
    exact lastSeen.recent_iff.mpr near

end Steps

section Programs

variable {K : Type} [Field K] [LinearOrder K] (config : GalleryConfig K)

structure Counted {Face : Type} (state : Watched K Face) : Prop where
  processed : state.run.tracks.framesProcessed = UInt64.ofNat state.log.length
  newest : newest state.log = state.log.length

theorem counter_succ (count : Nat) : UInt64.ofNat (count + 1) = UInt64.ofNat count + 1 :=
  UInt64.ofNat_add count 1

theorem counted_run {state : Watched K (FaceEntry K)}
    (reachable : ((FrameOffload.channel config).watched FrameOffload.numberOf).Reachable state) :
    Counted state := by
  apply reachable.invariant Counted
  · rintro state ⟨tracks, _, log⟩
    exact ⟨by rw [tracks, log]; rfl, by rw [log]; rfl⟩
  · intro state action next counted stepped
    rcases watched_cases stepped with
      ⟨frame, face, _, log, tracks, _⟩ | ⟨sampleTotal, frame, _, _, rfl⟩ | ⟨log, tracks, _⟩
    · exact ⟨by rw [tracks, log]; exact counted.processed, by rw [log]; exact counted.newest⟩
    · refine ⟨?_, rfl⟩
      rw [List.length_cons, counter_succ, ← counted.processed]
      simp only [FrameOffload.channel, FrameOffload.maintain]
      split <;> rfl
    · exact ⟨by rw [tracks, log]; exact counted.processed, by rw [log]; exact counted.newest⟩

def FrameOffload.slack (number : Nat) : Nat :=
  number % 2 ^ 64 % 100

theorem sweeps_iff {number : Nat} : Sweeps number ↔ number % 2 ^ 64 % 100 = 0 := by
  rw [Sweeps, ← UInt64.toNat_inj, UInt64.toNat_mod, UInt64.toNat_ofNat']
  rfl

theorem follows_offload (previous : Nat) : Follows FrameOffload.slack previous (previous + 1) := by
  constructor
  · exact Nat.le_succ previous
  · intro seen before near
    rw [FrameOffload.slack] at near
    omega
  · intro steady seen before near
    rw [sweeps_iff] at steady
    simp only [FrameOffload.slack] at near ⊢
    have wrapped : (previous + 1) % 2 ^ 64 = 0 ∨
        (previous + 1) % 2 ^ 64 = previous % 2 ^ 64 + 1 := by
      omega
    generalize previous % 2 ^ 64 = rest at near wrapped
    rcases wrapped with zero | next
    · exact absurd (congrArg (· % 100) zero) steady
    · rw [next] at steady ⊢
      omega

theorem sound_offload :
    Sound (FrameOffload.channel config) FrameOffload.numberOf FrameOffload.slack
      fun _ _ => True where
  arrive arrived := by
    obtain rfl := Option.some.inj arrived
    exact steady_offload config _ _
  finish {state sampleTotal frame} reachable _ _ := by
    have counted := counted_run config reachable
    rw [FrameOffload.numberOf, ← counted.newest]
    refine ⟨follows_offload _, maintains_offload ?_⟩
    rw [counted.processed, counted.newest, counter_succ]

def ChannelWorker.slack (number : Nat) : Nat :=
  if Sweeps number then 0 else number

theorem sound_worker (labelIndex : List UInt8 → Option (UInt32 × List UInt8)) :
    Sound (ChannelWorker.channel labelIndex config true) ChannelWorker.numberOf
      ChannelWorker.slack Increasing where
  arrive arrived := by
    simp only [ChannelWorker.channel] at arrived
    split at arrived
    · cases arrived
    · obtain rfl := Option.some.inj arrived
      exact steady_worker config _ _ _
  finish {state sampleTotal frame} reachable increasing _ := by
    have total := sampleTotal.toNat_lt
    refine ⟨⟨?_, ?_, ?_⟩, maintains_worker UInt64.ofNat_toNat.symm⟩
    · exact newest_le fun sighting earlier => (increasing sighting earlier).le
    · intro seen _ _
      rw [ChannelWorker.numberOf]
      omega
    · intro steady seen _ _
      rw [ChannelWorker.slack, if_neg steady]
      omega

/-- In both programs every cached identity has an age, the identities of the last 300 frames are
kept, and a sweep leaves no other. -/
theorem identities_evicted (config' : GalleryConfig K)
    (labelIndex : List UInt8 → Option (UInt32 × List UInt8)) :
    Evicts ((FrameOffload.channel config).watched FrameOffload.numberOf) (fun _ _ => True) ∧
      Evicts ((ChannelWorker.channel labelIndex config' true).watched ChannelWorker.numberOf)
        Increasing :=
  ⟨(sound_offload config).evicts fun _ sweeps => sweeps_iff.mp sweeps,
    (sound_worker config' labelIndex).evicts fun _ sweeps => if_pos sweeps⟩

end Programs

end Iq9Pipeline.MultiCam.FaceLinks
