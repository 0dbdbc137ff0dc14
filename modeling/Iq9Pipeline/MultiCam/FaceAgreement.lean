import Iq9Pipeline.MultiCam.FaceLinks
import Mathlib.Algebra.Order.Field.Basic
import Mathlib.Tactic.Positivity

/-!
The links of the two loops compared. One takes the first box of any label with the best
score in pixels, the other the first free box of a person with the best score in parts of
the frame.
-/

namespace Iq9Pipeline.MultiCam.FaceLinks

open Foundation

section Rounds

variable {K Face : Type} {path : FacePath K Face} {linking : Linking K} {face : Face}

def Once (links : List (Option Nat)) : Prop :=
  ∀ first second best : Nat, links[first]? = some (some best) → links[second]? = some (some best) →
    first = second

structure Kept (path : FacePath K Face) (detections : List (DetectionRecord K))
    (faces : List Face) (linked : Linking K) : Prop where
  length : linked.links.length = faces.length
  free : ∀ index : Nat, some index ∉ linked.links → linked.detections[index]? = detections[index]?
  taken : ∀ index : Nat, some index ∈ linked.links →
    ∃ (det : DetectionRecord K) (info : FaceInfo K), detections[index]? = some det ∧
      linked.detections[index]? = some { det with face := some info }
  written : Once linked.links → ∀ (position best : Nat) (face : Face),
    linked.links[position]? = some (some best) → faces[position]? = some face →
    ∃ (det : DetectionRecord K) (faceId : Int) (similarity : K), detections[best]? = some det ∧
      linked.detections[best]? =
        some { det with face := some (path.faceInfo face det.trackId faceId similarity) }

theorem linkFace_links (path : FacePath K Face) (linking : Linking K) (face : Face) :
    (linkFace path linking face).links =
      linking.links ++ [path.bestIdx face linking.detections] := by
  rw [linkFace]
  split
  · rename_i unchosen
    rw [unchosen]
  · rename_i best chosen
    rw [chosen]

theorem linkFace_other {index : Nat}
    (other : path.bestIdx face linking.detections ≠ some index) :
    (linkFace path linking face).detections[index]? = linking.detections[index]? := by
  rw [linkFace]
  split
  · rfl
  · rename_i best chosen
    have apart : best ≠ index := fun same => other (same ▸ chosen)
    simp [apart]

theorem linkFace_chosen {best : Nat} (chosen : path.bestIdx face linking.detections = some best)
    {det : DetectionRecord K} (listed : linking.detections[best]? = some det) :
    ∃ faceId similarity, (linkFace path linking face).detections[best]? =
      some { det with face := some (path.faceInfo face det.trackId faceId similarity) } := by
  have tid : trackIdAt linking.detections best = det.trackId := by simp [trackIdAt, listed]
  rw [linkFace, chosen]
  exact ⟨_, _, by simp only [List.getElem?_modify_eq, listed, tid]; rfl⟩

theorem Once.of_append {links : List (Option Nat)} {link : Option Nat}
    (once : Once (links ++ [link])) : Once links := by
  intro first second best one two
  refine once first second best ?_ ?_
  · rwa [List.getElem?_append_left (List.getElem?_eq_some_iff.mp one).1]
  · rwa [List.getElem?_append_left (List.getElem?_eq_some_iff.mp two).1]

theorem Once.concat {links : List (Option Nat)} {link : Option Nat} (once : Once links)
    (vacant : ∀ best, link = some best → some best ∉ links) : Once (links ++ [link]) := by
  intro first second best one two
  rcases getElem?_concat_cases one with older | ⟨rfl, newest⟩
  · rcases getElem?_concat_cases two with other | ⟨rfl, newest⟩
    · exact once first second best older other
    · exact absurd (List.mem_of_getElem? older) (vacant best newest)
  · rcases getElem?_concat_cases two with other | ⟨rfl, _⟩
    · exact absurd (List.mem_of_getElem? other) (vacant best newest)
    · rfl

theorem Once.last_ne {links : List (Option Nat)} {link : Option Nat}
    (once : Once (links ++ [link])) {position best : Nat}
    (linked : links[position]? = some (some best)) : link ≠ some best := by
  rintro rfl
  have bound := (List.getElem?_eq_some_iff.mp linked).1
  have same := once position links.length best
    (by rwa [List.getElem?_append_left bound]) (by simp)
  exact absurd bound (by omega)

variable {detections : List (DetectionRecord K)} {faces : List Face} {linked : Linking K}

theorem Kept.last (kept : Kept path detections faces linked) {best : Nat}
    (chosen : path.bestIdx face linked.detections = some best) :
    ∃ (det : DetectionRecord K) (faceId : Int) (similarity : K), detections[best]? = some det ∧
      (linkFace path linked face).detections[best]? =
        some { det with face := some (path.faceInfo face det.trackId faceId similarity) } := by
  by_cases linking : some best ∈ linked.links
  · obtain ⟨det, info, listed, stored⟩ := kept.taken best linking
    obtain ⟨faceId, similarity, written⟩ := linkFace_chosen chosen stored
    exact ⟨det, faceId, similarity, listed, written⟩
  · have stored := List.getElem?_eq_getElem (path.bestIdx_lt chosen)
    obtain ⟨faceId, similarity, written⟩ := linkFace_chosen chosen stored
    exact ⟨_, faceId, similarity, kept.free best linking ▸ stored, written⟩

theorem Kept.next (kept : Kept path detections faces linked) (face : Face) :
    Kept path detections (faces ++ [face]) (linkFace path linked face) := by
  have links := linkFace_links path linked face
  constructor
  · simp [links, kept.length]
  · intro index unlinked
    rw [links] at unlinked
    rw [linkFace_other fun same => unlinked (by simp [same])]
    exact kept.free index fun listed => unlinked (by simp [listed])
  · intro index linking
    by_cases newest : path.bestIdx face linked.detections = some index
    · obtain ⟨det, _, _, listed, stored⟩ := kept.last newest
      exact ⟨det, _, listed, stored⟩
    · rw [linkFace_other newest]
      have older : some index ∈ linked.links := by
        rw [links] at linking
        simpa [Ne.symm newest] using linking
      exact kept.taken index older
  · intro once position best owner linking owned
    rw [links] at once linking
    rcases getElem?_concat_cases linking with older | ⟨rfl, newest⟩
    · have below := (List.getElem?_eq_some_iff.mp older).1
      rw [List.getElem?_append_left (kept.length ▸ below)] at owned
      rw [linkFace_other (once.last_ne older)]
      exact kept.written once.of_append position best owner older owned
    · obtain rfl : face = owner := by simpa [kept.length] using owned
      exact kept.last newest

theorem kept_foldl (path : FacePath K Face) (start : Linking K) (unlinked : start.links = [])
    (faces : List Face) :
    Kept path start.detections faces (faces.foldl (linkFace path) start) := by
  induction faces using List.reverseRecOn with
  | nil =>
      constructor
      · simp [unlinked]
      · intro index _
        rfl
      · intro index linking
        simp [unlinked] at linking
      · intro _ position best face linking
        simp [unlinked] at linking
  | append_singleton faces face ih =>
      rw [List.foldl_concat]
      exact ih.next face

end Rounds

section Scores

variable {K : Type} [Field K] [LinearOrder K]
  {frameW frameH : UInt32} {entry : FaceEntry K} {det : DetectionRecord K}
  {detections : List (DetectionRecord K)} {score : K}

theorem offloadScore_isSome_iff :
    (FrameOffload.score frameW frameH entry det).isSome ↔ Holds frameW frameH entry det := by
  simp only [FrameOffload.score]
  split
  · rename_i inside
    exact ⟨fun _ => inside, fun _ => rfl⟩
  · rename_i outside
    exact ⟨fun scored => absurd scored (by simp), fun inside => absurd inside outside⟩

variable [IsStrictOrderedRing K]

theorem offloadScore_pos (scored : FrameOffload.score frameW frameH entry det = some score) :
    -1 < score := by
  simp only [FrameOffload.score] at scored
  split at scored
  · obtain rfl := Option.some.inj scored
    have bonus : ∀ upper : Prop, [Decidable upper] → (0 : K) ≤ if upper then 1000000 else 0 :=
      fun upper _ => by split <;> norm_num
    have share : ∀ pixels : K, 0 ≤ 1 / (if pixels < 1 then 1 else pixels) := fun pixels => by
      split
      · norm_num
      · rename_i large
        exact one_div_nonneg.mpr (zero_le_one.trans (not_lt.mp large))
    exact neg_one_lt_zero.trans_le (add_nonneg (bonus _) (share _))
  · cases scored

theorem toNat_pos {size : UInt32} (positive : 0 < size) : (0 : K) < (size.toNat : K) :=
  Nat.cast_pos.mpr (UInt32.lt_iff_toNat_lt.mp positive)

theorem holds_iff_parts (wide : 0 < frameW) (high : 0 < frameH) :
    Holds frameW frameH entry det ↔ HoldsParts frameW frameH entry det := by
  have width : (0 : K) < frameW.toNat := toNat_pos wide
  have height : (0 : K) < frameH.toNat := toNat_pos high
  rw [Holds, HoldsParts, le_div_iff₀ width, div_le_iff₀ width, le_div_iff₀ height,
    div_le_iff₀ height]
  simp only [mul_one_div]

theorem personScore_isSome_iff (wide : 0 < frameW) (high : 0 < frameH) :
    (personScore frameW frameH entry det).isSome ↔
      det.label = ChannelWorker.person ∧ det.face = none ∧ Holds frameW frameH entry det ∧
        0 < area det := by
  rw [holds_iff_parts wide high, personScore_eq]
  split_ifs with other occupied inside flat
  · simp [other]
  · simp [Option.isSome_iff_ne_none.mp occupied]
  · simp [flat.not_gt]
  · exact ⟨fun _ => ⟨not_not.mp other, by simpa using occupied, inside, not_le.mp flat⟩,
      fun _ => rfl⟩
  · simp [inside]

theorem personScore_pos (scored : personScore frameW frameH entry det = some score) :
    -1 < score := by
  rw [personScore_eq] at scored
  split_ifs at scored with other occupied inside flat
  obtain rfl := Option.some.inj scored
  have bonus : (0 : K) ≤ partsBonus frameH entry det := by
    rw [partsBonus]
    split <;> norm_num
  have share : 0 ≤ 1 / area det := one_div_nonneg.mpr (not_le.mp flat).le
  exact neg_one_lt_zero.trans_le (add_nonneg bonus share)

end Scores

section Links

variable {K : Type} [Field K] [LinearOrder K]

def FirstChoice (frameW frameH : UInt32) (detections : List (DetectionRecord K))
    (entry : FaceEntry K) (best : Nat) : Prop :=
  Foremost (detections.map (FrameOffload.score frameW frameH entry)) best

def Free (frameW frameH : UInt32) (detections : List (DetectionRecord K))
    (earlier : List (FaceEntry K)) (index : Nat) : Prop :=
  ∀ face ∈ earlier, ¬ FirstChoice frameW frameH detections face index

/-- The first box of a face is a person's, is nobody else's yet, and is ahead of the other
free persons by the score in parts of the frame as well. -/
def PersonFirst (frameW frameH : UInt32) (detections : List (DetectionRecord K))
    (earlier : List (FaceEntry K)) (entry : FaceEntry K) : Prop :=
  ∀ best det, FirstChoice frameW frameH detections entry best → detections[best]? = some det →
    det.label = ChannelWorker.person ∧ 0 < area det ∧
      Free frameW frameH detections earlier best ∧
      ∀ score, personScore frameW frameH entry det = some score →
        ∀ (other : Nat) box rival, detections[other]? = some box →
          Free frameW frameH detections earlier other →
          personScore frameW frameH entry box = some rival →
          rival < score ∨ rival = score ∧ best ≤ other

def PersonsFirst (frameW frameH : UInt32) (detections : List (DetectionRecord K))
    (faces : List (FaceEntry K)) : Prop :=
  ∀ earlier entry later, faces = earlier ++ entry :: later →
    PersonFirst frameW frameH detections earlier entry

variable {frameW frameH : UInt32} {detections : List (DetectionRecord K)}
  {faces : List (FaceEntry K)} {linked : Linking K}

theorem offloadIdx_linked {config : GalleryConfig K}
    (kept : Kept (FrameOffload.path config frameW frameH) detections faces linked)
    (entry : FaceEntry K) :
    FrameOffload.bestIdx frameW frameH entry linked.detections =
      FrameOffload.bestIdx frameW frameH entry detections := by
  have scores : linked.detections.map (FrameOffload.score frameW frameH entry) =
      detections.map (FrameOffload.score frameW frameH entry) := by
    refine List.ext_getElem? fun index => ?_
    rw [List.getElem?_map, List.getElem?_map]
    by_cases linking : some index ∈ linked.links
    · obtain ⟨det, info, listed, stored⟩ := kept.taken index linking
      rw [listed, stored]
      rfl
    · rw [kept.free index linking]
  rw [FrameOffload.bestIdx, FrameOffload.bestIdx, scores]

theorem offload_links {config : GalleryConfig K} (start : Linking K)
    (unlinked : start.links = []) (faces : List (FaceEntry K)) :
    (FrameOffload.linkFaces config frameW frameH start faces).links =
      faces.map fun entry => FrameOffload.bestIdx frameW frameH entry start.detections := by
  induction faces using List.reverseRecOn with
  | nil => simp [FrameOffload.linkFaces, unlinked]
  | append_singleton faces entry ih =>
      have kept := kept_foldl (FrameOffload.path config frameW frameH) start unlinked faces
      rw [FrameOffload.linkFaces, List.foldl_concat, linkFace_links, List.map_append,
        List.map_singleton]
      exact congrArg₂ (fun links link => links ++ [link]) ih (offloadIdx_linked kept entry)

theorem workerScore_iff {config : GalleryConfig K} {hasArcface : Bool}
    {results : List (FaceResult K)}
    (kept : Kept (ChannelWorker.path config frameW frameH hasArcface) detections results linked)
    (entry : FaceEntry K) (index : Nat) (score : K) :
    (linked.detections.map (personScore frameW frameH entry))[index]? = some (some score) ↔
      some index ∉ linked.links ∧
        ∃ det, detections[index]? = some det ∧
          personScore frameW frameH entry det = some score := by
  rw [List.getElem?_map, Option.map_eq_some_iff]
  by_cases linking : some index ∈ linked.links
  · obtain ⟨det, info, _, stored⟩ := kept.taken index linking
    have occupied : personScore frameW frameH entry { det with face := some info } = none := by
      simp [personScore, ChannelWorker.score]
    simp [stored, occupied, linking]
  · simp [kept.free index linking, linking]

theorem personsFirst_concat {earlier : List (FaceEntry K)} {entry : FaceEntry K} :
    PersonsFirst frameW frameH detections (earlier ++ [entry]) ↔
      PersonsFirst frameW frameH detections earlier ∧
        PersonFirst frameW frameH detections earlier entry := by
  constructor
  · intro persons
    constructor
    · intro before face after split
      exact persons before face (after ++ [entry]) (by simp [split])
    · exact persons earlier entry [] rfl
  · rintro ⟨persons, person⟩ before face after split
    rcases List.eq_nil_or_concat after with rfl | ⟨rest, last, rfl⟩
    · obtain ⟨rfl, same⟩ := List.append_inj' split rfl
      obtain rfl := List.singleton_inj.mp same
      exact person
    · rw [List.concat_eq_append, ← List.cons_append, ← List.append_assoc] at split
      obtain ⟨same, _⟩ := List.append_inj' split rfl
      exact persons before face rest same

theorem exists_of_firstChoice {best : Nat} {entry : FaceEntry K}
    (first : FirstChoice frameW frameH detections entry best) :
    ∃ det, detections[best]? = some det ∧ Holds frameW frameH entry det := by
  obtain ⟨score, scored, _⟩ := first
  rw [List.getElem?_map] at scored
  obtain ⟨det, listed, rated⟩ := Option.map_eq_some_iff.mp scored
  exact ⟨det, listed, offloadScore_isSome_iff.mp (rated ▸ rfl)⟩

variable [IsStrictOrderedRing K]

theorem offloadIdx_iff (frameW frameH : UInt32) (entry : FaceEntry K)
    (detections : List (DetectionRecord K)) (best : Nat) :
    FrameOffload.bestIdx frameW frameH entry detections = some best ↔
      Foremost (detections.map (FrameOffload.score frameW frameH entry)) best := by
  apply leaderOf_position_iff
  intro score listed
  obtain ⟨det, _, scored⟩ := List.mem_map.mp listed
  exact offloadScore_pos scored

theorem workerIdx_iff (frameW frameH : UInt32) (entry : FaceEntry K)
    (detections : List (DetectionRecord K)) (best : Nat) :
    ChannelWorker.bestIdx frameW frameH (ChannelWorker.faceResult entry) detections = some best ↔
      Foremost (detections.map (personScore frameW frameH entry)) best := by
  apply leaderOf_position_iff
  intro score listed
  obtain ⟨det, _, scored⟩ := List.mem_map.mp listed
  exact personScore_pos scored

theorem not_free_iff (index : Nat) :
    some index ∈ faces.map (fun entry => FrameOffload.bestIdx frameW frameH entry detections) ↔
      ¬ Free frameW frameH detections faces index := by
  simp only [List.mem_map, Free, FirstChoice, not_forall, not_not, offloadIdx_iff, exists_prop]

theorem exists_firstChoice {index : Nat} {det : DetectionRecord K} {entry : FaceEntry K}
    (listed : detections[index]? = some det) (inside : Holds frameW frameH entry det) :
    ∃ best, FrameOffload.bestIdx frameW frameH entry detections = some best := by
  obtain ⟨score, scored⟩ := Option.isSome_iff_exists.mp (offloadScore_isSome_iff.mpr inside)
  have offered : some score ∈ detections.map (FrameOffload.score frameW frameH entry) :=
    List.mem_map.mpr ⟨det, List.mem_of_getElem? listed, scored⟩
  have above : ∀ score, some score ∈ detections.map (FrameOffload.score frameW frameH entry) →
      -1 < score := fun score listed => by
    obtain ⟨_, _, rated⟩ := List.mem_map.mp listed
    exact offloadScore_pos rated
  obtain ⟨best, foremost⟩ := exists_foremost above offered
  exact ⟨best, (offloadIdx_iff ..).mpr foremost⟩

theorem workerIdx_person (wide : 0 < frameW) (high : 0 < frameH) {config : GalleryConfig K}
    {hasArcface : Bool} {results : List (FaceResult K)} {entry : FaceEntry K} {best : Nat}
    (kept : Kept (ChannelWorker.path config frameW frameH hasArcface) detections results linked)
    (chosen : ChannelWorker.bestIdx frameW frameH (ChannelWorker.faceResult entry)
      linked.detections = some best) :
    some best ∉ linked.links ∧ ∃ det, detections[best]? = some det ∧
      det.label = ChannelWorker.person ∧ Holds frameW frameH entry det := by
  obtain ⟨score, scored, _⟩ := (workerIdx_iff ..).mp chosen
  obtain ⟨vacant, det, listed, rated⟩ := (workerScore_iff kept ..).mp scored
  obtain ⟨label, _, inside, _⟩ := (personScore_isSome_iff wide high).mp
    (Option.isSome_of_eq_some rated)
  exact ⟨vacant, det, listed, label, inside⟩

theorem choice_iff (wide : 0 < frameW) (high : 0 < frameH)
    (fresh : ∀ det ∈ detections, det.face = none) {config : GalleryConfig K} {hasArcface : Bool}
    {results : List (FaceResult K)} {earlier : List (FaceEntry K)}
    (kept : Kept (ChannelWorker.path config frameW frameH hasArcface) detections results linked)
    (linkedIff : ∀ index : Nat,
      some index ∈ linked.links ↔ ¬ Free frameW frameH detections earlier index)
    (entry : FaceEntry K) :
    FrameOffload.bestIdx frameW frameH entry detections =
        ChannelWorker.bestIdx frameW frameH (ChannelWorker.faceResult entry) linked.detections ↔
      PersonFirst frameW frameH detections earlier entry := by
  constructor
  · intro same best det first listed
    have chosen := same ▸ (offloadIdx_iff ..).mpr first
    obtain ⟨score, scored, ahead⟩ := (workerIdx_iff ..).mp chosen
    obtain ⟨unlinked, box, found, rated⟩ := (workerScore_iff kept ..).mp scored
    obtain rfl := Option.some.inj (listed.symm.trans found)
    obtain ⟨label, _, _, positive⟩ := (personScore_isSome_iff wide high).mp
      (Option.isSome_of_eq_some rated)
    refine ⟨label, positive, not_not.mp (mt (linkedIff best).mpr unlinked),
      fun own owned other box rival there free against => ?_⟩
    obtain rfl := Option.some.inj (rated.symm.trans owned)
    have unlinked : some other ∉ linked.links := fun linking => (linkedIff other).mp linking free
    exact ahead other rival ((workerScore_iff kept ..).mpr ⟨unlinked, box, there, against⟩)
  · intro persons
    cases chosen : FrameOffload.bestIdx frameW frameH entry detections with
    | some best =>
        have first := (offloadIdx_iff ..).mp chosen
        obtain ⟨det, listed, inside⟩ := exists_of_firstChoice first
        obtain ⟨label, positive, free, ahead⟩ := persons best det first listed
        have vacant := fresh det (List.mem_of_getElem? listed)
        obtain ⟨score, rated⟩ := Option.isSome_iff_exists.mp
          ((personScore_isSome_iff wide high).mpr ⟨label, vacant, inside, positive⟩)
        refine ((workerIdx_iff ..).mpr ⟨score, ?_, fun other rival scored => ?_⟩).symm
        · have unlinked : some best ∉ linked.links := fun linking =>
            (linkedIff best).mp linking free
          exact (workerScore_iff kept ..).mpr ⟨unlinked, det, listed, rated⟩
        · obtain ⟨unlinked, box, there, against⟩ := (workerScore_iff kept ..).mp scored
          exact ahead score rated other box rival there
            (not_not.mp (mt (linkedIff other).mpr unlinked)) against
    | none =>
        refine (Option.eq_none_iff_forall_ne_some.mpr fun best taken => ?_).symm
        obtain ⟨_, box, there, _, inside⟩ := workerIdx_person wide high kept taken
        obtain ⟨other, first⟩ := exists_firstChoice there inside
        rw [chosen] at first
        cases first

/-- The faces go to the same boxes exactly if the first box of every face is the box of the
person that the other path would take. -/
theorem links_eq_iff (wide : 0 < frameW) (high : 0 < frameH)
    (config config' : GalleryConfig K) (hasArcface : Bool) (start start' : Linking K)
    (unlinked : start.links = []) (unlinked' : start'.links = [])
    (records : start.detections = detections) (records' : start'.detections = detections)
    (fresh : ∀ det ∈ detections, det.face = none) (faces : List (FaceEntry K)) :
    (FrameOffload.linkFaces config frameW frameH start faces).links =
        (ChannelWorker.matchFacesToPersons config' frameW frameH hasArcface start'
          (faces.map ChannelWorker.faceResult)).links ↔
      PersonsFirst frameW frameH detections faces := by
  rw [ChannelWorker.matchFacesToPersons_of_pos wide high]
  induction faces using List.reverseRecOn with
  | nil =>
      constructor
      · intro _ before face after split
        simp at split
      · intro _
        simp [FrameOffload.linkFaces, unlinked, unlinked']
  | append_singleton faces entry ih =>
      have kept := kept_foldl (ChannelWorker.path config' frameW frameH hasArcface) start'
        unlinked' (faces.map ChannelWorker.faceResult)
      have linkedIff : ∀ worker : List (Option Nat),
          (FrameOffload.linkFaces config frameW frameH start faces).links = worker →
          ∀ index : Nat, some index ∈ worker ↔ ¬ Free frameW frameH detections faces index := by
        rintro worker rfl index
        rw [offload_links start unlinked, records, not_free_iff]
      have last : ∀ {first second : List (Option Nat)} {link other : Option Nat},
          first ++ [link] = second ++ [other] ↔ first = second ∧ link = other := by simp
      rw [offload_links start unlinked] at ih linkedIff ⊢
      rw [List.map_append, List.map_append, List.foldl_append, List.map_singleton,
        List.map_singleton, List.foldl_cons, List.foldl_nil, linkFace_links, last, records,
        personsFirst_concat]
      rw [records] at ih linkedIff
      rw [records'] at kept
      constructor
      · rintro ⟨same, agree⟩
        have choice := choice_iff wide high fresh kept (linkedIff _ same) entry
        exact ⟨ih.mp same, choice.mp agree⟩
      · rintro ⟨persons, person⟩
        have choice := choice_iff wide high fresh kept (linkedIff _ (ih.mpr persons)) entry
        exact ⟨ih.mpr persons, choice.mpr person⟩

theorem worker_links (wide : 0 < frameW) (high : 0 < frameH) (config : GalleryConfig K)
    (hasArcface : Bool) (start : Linking K) (unlinked : start.links = [])
    (records : start.detections = detections) (faces : List (FaceEntry K)) :
    let links := (ChannelWorker.matchFacesToPersons config frameW frameH hasArcface start
      (faces.map ChannelWorker.faceResult)).links
    Once links ∧ ∀ (position best : Nat) entry, links[position]? = some (some best) →
      faces[position]? = some entry → ∃ det, detections[best]? = some det ∧
        det.label = ChannelWorker.person ∧ Holds frameW frameH entry det := by
  rw [ChannelWorker.matchFacesToPersons_of_pos wide high]
  induction faces using List.reverseRecOn with
  | nil => exact ⟨fun _ _ _ absurdity => by simp [unlinked] at absurdity, by simp⟩
  | append_singleton faces entry ih =>
      have kept := kept_foldl (ChannelWorker.path config frameW frameH hasArcface) start
        unlinked (faces.map ChannelWorker.faceResult)
      rw [records] at kept
      obtain ⟨once, persons⟩ := ih
      rw [List.map_append, List.foldl_append, List.map_singleton, List.foldl_cons, List.foldl_nil,
        linkFace_links]
      constructor
      · apply once.concat
        intro best chosen
        exact (workerIdx_person wide high kept chosen).1
      · intro position best owner linking owned
        rcases getElem?_concat_cases linking with older | ⟨rfl, newest⟩
        · have below := (List.getElem?_eq_some_iff.mp older).1
          rw [kept.length, List.length_map] at below
          rw [List.getElem?_append_left below] at owned
          exact persons position best owner older owned
        · obtain rfl : entry = owner := by simpa [kept.length] using owned
          exact (workerIdx_person wide high kept newest).2

structure Assigned (frameW frameH : UInt32) (info : FaceEntry K → UInt32 → Int → K → FaceInfo K)
    (detections : List (DetectionRecord K)) (faces : List (FaceEntry K)) (linked : Linking K) :
    Prop where
  length : linked.links.length = faces.length
  toPerson : ∀ (position best : Nat) entry, linked.links[position]? = some (some best) →
    faces[position]? = some entry → ∃ det, detections[best]? = some det ∧
      det.label = ChannelWorker.person ∧ Holds frameW frameH entry det
  once : Once linked.links
  kept : ∀ (position best : Nat) entry, linked.links[position]? = some (some best) →
    faces[position]? = some entry → ∃ (det : DetectionRecord K) (faceId : Int) (similarity : K),
      detections[best]? = some det ∧ linked.detections[best]? =
        some { det with face := some (info entry det.trackId faceId similarity) }

structure FacesAgree (frameW frameH : UInt32) (hasArcface : Bool)
    (detections : List (DetectionRecord K)) (faces : List (FaceEntry K))
    (offloaded matched : Linking K) : Prop where
  same : offloaded.links = matched.links
  offloaded : Assigned frameW frameH (FrameOffload.faceInfo frameW frameH) detections faces
    offloaded
  matched : Assigned frameW frameH
    (fun entry => ChannelWorker.faceInfo frameW frameH hasArcface (ChannelWorker.faceResult entry))
    detections faces matched

theorem facesAgree_iff (wide : 0 < frameW) (high : 0 < frameH) (config config' : GalleryConfig K)
    (hasArcface : Bool) (gallery : Option (FaceGallery K)) (tracks tracks' : UInt32 → Option Int)
    (detections : List (DetectionRecord K)) (fresh : ∀ det ∈ detections, det.face = none)
    (faces : List (FaceEntry K)) :
    FacesAgree frameW frameH hasArcface detections faces
        (FrameOffload.linkFaces config frameW frameH ⟨none, tracks, detections, []⟩ faces)
        (ChannelWorker.matchFacesToPersons config' frameW frameH hasArcface
          ⟨gallery, tracks', detections, []⟩ (faces.map ChannelWorker.faceResult)) ↔
      PersonsFirst frameW frameH detections faces := by
  have same := links_eq_iff wide high config config' hasArcface ⟨none, tracks, detections, []⟩
    ⟨gallery, tracks', detections, []⟩ rfl rfl rfl rfl fresh faces
  constructor
  · intro agree
    exact same.mp agree.same
  intro persons
  have links := same.mpr persons
  obtain ⟨once, toPerson⟩ := worker_links wide high config' hasArcface
    ⟨gallery, tracks', detections, []⟩ rfl rfl faces
  have offloaded := kept_foldl (FrameOffload.path config frameW frameH)
    ⟨none, tracks, detections, []⟩ rfl faces
  have matched := kept_foldl (ChannelWorker.path config' frameW frameH hasArcface)
    ⟨gallery, tracks', detections, []⟩ rfl (faces.map ChannelWorker.faceResult)
  rw [← ChannelWorker.matchFacesToPersons_of_pos wide high] at matched
  refine ⟨links, ⟨offloaded.length, ?_, ?_, ?_⟩, ⟨?_, toPerson, once, ?_⟩⟩
  · rw [links]
    exact toPerson
  · rw [links]
    exact once
  · intro position best entry linking owned
    exact offloaded.written (links ▸ once) position best entry linking owned
  · simpa using matched.length
  · intro position best entry linking owned
    exact matched.written once position best (ChannelWorker.faceResult entry) linking
      (by simp [owned])

end Links

def labelled (label : String) (trackId : UInt32) (left top right bottom : ℚ) :
    DetectionRecord ℚ :=
  ⟨0, trackId, JsonText.utf8 label, 9 / 10, left, top, right, bottom, none⟩

def faceAt (x y : ℚ) : FaceEntry ℚ :=
  ⟨x - 20, y - 20, x + 20, y + 20, 9 / 10, Vector.replicate 5 (x, y), Vector.replicate 512 0, false⟩

def alone : List (DetectionRecord ℚ) :=
  [labelled "person" 7 0 0 (1 / 2) 1]

def besideCar : List (DetectionRecord ℚ) :=
  [labelled "person" 7 0 0 (1 / 2) 1, labelled "car" 8 0 0 (1 / 4) 1]

theorem facesAgree_onePerson :
    FacesAgree 1920 1080 false alone [faceAt 400 200]
      (FrameOffload.linkFaces ⟨3 / 10, 40, 6 / 10⟩ 1920 1080 ⟨none, fun _ => none, alone, []⟩
        [faceAt 400 200])
      (ChannelWorker.matchFacesToPersons ⟨3 / 10, 40, 6 / 10⟩ 1920 1080 false
        ⟨none, fun _ => none, alone, []⟩ ([faceAt 400 200].map ChannelWorker.faceResult)) := by
  refine (facesAgree_iff (by decide) (by decide) _ _ _ _ _ _ _ (by simp [alone, labelled]) _).mpr ?_
  intro earlier entry later split best det first listed
  obtain ⟨rfl, rfl⟩ : earlier = [] ∧ entry = faceAt 400 200 := by
    cases earlier with
    | nil => exact ⟨rfl, (List.cons.inj split).1.symm⟩
    | cons => simp at split
  obtain ⟨rfl, rfl⟩ : best = 0 ∧ det = labelled "person" 7 0 0 (1 / 2) 1 := by
    simpa [alone, List.getElem?_singleton, eq_comm] using listed
  refine ⟨by decide +kernel, by decide +kernel, nofun,
    fun score scored other box rival there _ against => ?_⟩
  obtain ⟨rfl, rfl⟩ : other = 0 ∧ box = labelled "person" 7 0 0 (1 / 2) 1 := by
    simpa [alone, List.getElem?_singleton, eq_comm] using there
  exact .inr ⟨Option.some.inj (against.symm.trans scored), Nat.le_refl 0⟩

theorem faceGoesToTheCar :
    ¬ FacesAgree 1920 1080 false besideCar [faceAt 400 200]
      (FrameOffload.linkFaces ⟨3 / 10, 40, 6 / 10⟩ 1920 1080 ⟨none, fun _ => none, besideCar, []⟩
        [faceAt 400 200])
      (ChannelWorker.matchFacesToPersons ⟨3 / 10, 40, 6 / 10⟩ 1920 1080 false
        ⟨none, fun _ => none, besideCar, []⟩ ([faceAt 400 200].map ChannelWorker.faceResult)) := by
  intro agree
  have same := agree.same
  revert same
  decide +kernel

end Iq9Pipeline.MultiCam.FaceLinks
