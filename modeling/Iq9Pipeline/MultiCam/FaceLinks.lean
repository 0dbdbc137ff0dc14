import Iq9Pipeline.Foundation.Leader
import Iq9Pipeline.MultiCam.JsonlWriter
import Mathlib.Algebra.Order.Field.Basic
import Mathlib.Data.Nat.Cast.Order.Ring

/-!
The two loops that give a face to a detection, `FrameOffload::ExtractAndSerialize` and
`MatchFacesToPersons`, with the face gallery (`utils/FaceGallery.cpp`) that both of them ask
for an identity. Coordinates, scores and similarities are exact.
-/

namespace Iq9Pipeline.MultiCam.FaceLinks

open Foundation Foundation.JsonText

structure FaceInfo (K : Type) where
  confidence : K
  bboxX1 : K
  bboxY1 : K
  bboxX2 : K
  bboxY2 : K
  landmarks : List K
  embedding : List K
  linkedTrackId : UInt32
  faceId : Int
  faceSimilarity : K

structure DetectionRecord (K : Type) where
  classId : UInt32
  trackId : UInt32
  label : List UInt8
  score : K
  left : K
  top : K
  right : K
  bottom : K
  face : Option (FaceInfo K)

structure FaceEntry (K : Type) where
  x1 : K
  y1 : K
  x2 : K
  y2 : K
  score : K
  landmarks : Vector (K × K) 5
  embedding : Vector K 512
  hasEmbedding : Bool

structure FaceResult (K : Type) where
  x1 : K
  y1 : K
  x2 : K
  y2 : K
  score : K
  landmarks : Vector (K × K) 5
  embedding : Vector K 512

structure GalleryEntry (K : Type) where
  faceId : Int
  embedding : List K

structure MatchResult (K : Type) where
  faceId : Int
  similarity : K

structure FaceGallery (K : Type) where
  entries : List (GalleryEntry K)
  nextId : Int

def embeddingDim : Nat := 512

section

variable {K : Type} [Field K] [LinearOrder K]

def cosineSimilarity (a b : List K) : K :=
  (List.zipWith (· * ·) a b).sum

namespace FaceGallery

variable (gallery : FaceGallery K)

def similarities (embedding : List K) : List (Option K) :=
  gallery.entries.map fun entry =>
    if entry.embedding.length ≠ embeddingDim then none
    else some (cosineSimilarity embedding entry.embedding)

def matchFace (embedding : List K) (threshold : K) : MatchResult K :=
  let best := leaderOf (-1) (gallery.similarities embedding)
  let entry := best.position.bind (gallery.entries[·]?)
  if best.score < threshold then ⟨-1, best.score⟩
  else ⟨(entry.map GalleryEntry.faceId).getD (-1), best.score⟩

def enroll (embedding : List K) : FaceGallery K × Int :=
  (⟨gallery.entries ++ [⟨gallery.nextId, embedding⟩], gallery.nextId + 1⟩, gallery.nextId)

end FaceGallery

structure GalleryConfig (K : Type) where
  threshold : K
  minFaceSize : UInt32
  minScore : K

structure Linking (K : Type) where
  gallery : Option (FaceGallery K)
  trackIdToFace : UInt32 → Option Int
  detections : List (DetectionRecord K)
  links : List (Option Nat)

def trackIdAt (detections : List (DetectionRecord K)) (index : Nat) : UInt32 :=
  (detections[index]?.map DetectionRecord.trackId).getD 0

structure Identified (K : Type) where
  gallery : Option (FaceGallery K)
  trackIdToFace : UInt32 → Option Int
  faceId : Int
  faceSimilarity : K

def remember (trackIdToFace : UInt32 → Option Int) (tid : UInt32) (faceId : Int) :
    UInt32 → Option Int :=
  fun other => if other = tid then some faceId else trackIdToFace other

/-- What the two loops over the faces do differently. -/
structure FacePath (K Face : Type) where
  bestIdx : Face → List (DetectionRecord K) → Option Nat
  identify : Option (FaceGallery K) → (UInt32 → Option Int) → Face → UInt32 → Identified K
  faceInfo : Face → UInt32 → Int → K → FaceInfo K
  embedding : Face → List K
  bestIdx_lt : ∀ {face detections best}, bestIdx face detections = some best →
    best < detections.length

def linkFace {Face : Type} (path : FacePath K Face) (linking : Linking K) (face : Face) :
    Linking K :=
  match path.bestIdx face linking.detections with
  | none => { linking with links := linking.links ++ [none] }
  | some best =>
      let tid := trackIdAt linking.detections best
      let identified := path.identify linking.gallery linking.trackIdToFace face tid
      let info := path.faceInfo face tid identified.faceId identified.faceSimilarity
      { gallery := identified.gallery
        trackIdToFace := identified.trackIdToFace
        detections := linking.detections.modify best fun d => { d with face := some info }
        links := linking.links ++ [some best] }

namespace FrameOffload

variable (config : GalleryConfig K) (frameW frameH : UInt32)

def score (entry : FaceEntry K) (d : DetectionRecord K) : Option K :=
  let faceCx := (entry.x1 + entry.x2) * (1 / 2)
  let faceCy := (entry.y1 + entry.y2) * (1 / 2)
  let absLeft := d.left * (frameW.toNat : K)
  let absTop := d.top * (frameH.toNat : K)
  let absRight := d.right * (frameW.toNat : K)
  let absBottom := d.bottom * (frameH.toNat : K)
  if absLeft ≤ faceCx ∧ faceCx ≤ absRight ∧ absTop ≤ faceCy ∧ faceCy ≤ absBottom then
    let midY := (absTop + absBottom) * (1 / 2)
    let area := (absRight - absLeft) * (absBottom - absTop)
    some ((if faceCy ≤ midY then 1000000 else 0) + 1 / (if area < 1 then 1 else area))
  else none

def bestIdx (entry : FaceEntry K) (detections : List (DetectionRecord K)) : Option Nat :=
  (leaderOf (-1) (detections.map (score frameW frameH entry))).position

def identify (gallery : Option (FaceGallery K)) (trackIdToFace : UInt32 → Option Int)
    (entry : FaceEntry K) (tid : UInt32) : Identified K :=
  match gallery, entry.hasEmbedding with
  | some known, true =>
      match trackIdToFace tid with
      | some cached => ⟨gallery, trackIdToFace, cached, 1⟩
      | none =>
          let matched := known.matchFace entry.embedding.toList config.threshold
          if 0 ≤ matched.faceId then
            ⟨gallery, remember trackIdToFace tid matched.faceId, matched.faceId,
              matched.similarity⟩
          else
            let faceW := entry.x2 - entry.x1
            let faceH := entry.y2 - entry.y1
            let faceSize := if faceW < faceH then faceW else faceH
            if (config.minFaceSize.toNat : K) ≤ faceSize ∧ config.minScore ≤ entry.score then
              let (enrolled, newFaceId) := known.enroll entry.embedding.toList
              ⟨some enrolled, remember trackIdToFace tid newFaceId, newFaceId, 0⟩
            else ⟨gallery, trackIdToFace, -1, 0⟩
  | _, _ => ⟨gallery, trackIdToFace, -1, 0⟩

def faceInfo (entry : FaceEntry K) (tid : UInt32) (faceId : Int) (faceSimilarity : K) :
    FaceInfo K where
  confidence := entry.score
  bboxX1 := if 0 < frameW then entry.x1 / (frameW.toNat : K) else 0
  bboxY1 := if 0 < frameH then entry.y1 / (frameH.toNat : K) else 0
  bboxX2 := if 0 < frameW then entry.x2 / (frameW.toNat : K) else 0
  bboxY2 := if 0 < frameH then entry.y2 / (frameH.toNat : K) else 0
  landmarks := entry.landmarks.toList.flatMap fun point =>
    [if 0 < frameW then point.1 / (frameW.toNat : K) else 0,
      if 0 < frameH then point.2 / (frameH.toNat : K) else 0]
  embedding := if entry.hasEmbedding then entry.embedding.toList else []
  linkedTrackId := tid
  faceId := faceId
  faceSimilarity := faceSimilarity

def path : FacePath K (FaceEntry K) where
  bestIdx := bestIdx frameW frameH
  identify := identify config
  faceInfo := faceInfo frameW frameH
  embedding entry := if entry.hasEmbedding then entry.embedding.toList else []
  bestIdx_lt chosen := by simpa using leaderOf_lt chosen

def linkFaces (linking : Linking K) (entries : List (FaceEntry K)) : Linking K :=
  entries.foldl (linkFace (path config frameW frameH)) linking

end FrameOffload

namespace ChannelWorker

variable (config : GalleryConfig K) (frameW frameH : UInt32) (hasArcface : Bool)

def person : List UInt8 := utf8 "person"

def score (face : FaceResult K) (det : DetectionRecord K) : Option K :=
  let cx := (face.x1 + face.x2) / 2 / (frameW.toNat : K)
  let cy := (face.y1 + face.y2) / 2 / (frameH.toNat : K)
  if det.label ≠ person then none
  else if det.face.isSome then none
  else if det.left ≤ cx ∧ cx ≤ det.right ∧ det.top ≤ cy ∧ cy ≤ det.bottom then
    let area := (det.right - det.left) * (det.bottom - det.top)
    if area ≤ 0 then none
    else
      let midY := (det.top + det.bottom) / 2
      some ((if cy ≤ midY then 1000000 else 0) + 1 / area)
  else none

def bestIdx (face : FaceResult K) (detections : List (DetectionRecord K)) : Option Nat :=
  (leaderOf (-1) (detections.map (score frameW frameH face))).position

def identify (gallery : Option (FaceGallery K)) (trackIdToFace : UInt32 → Option Int)
    (face : FaceResult K) (tid : UInt32) : Identified K :=
  match gallery, hasArcface with
  | some known, true =>
      match trackIdToFace tid with
      | some cached =>
          ⟨gallery, trackIdToFace, cached, (known.matchFace face.embedding.toList 0).similarity⟩
      | none =>
          let result := known.matchFace face.embedding.toList config.threshold
          let faceW := face.x2 - face.x1
          let faceH := face.y2 - face.y1
          let minSize := (config.minFaceSize.toNat : K)
          let (gallery, faceId, faceSimilarity) :=
            if 0 ≤ result.faceId then (known, result.faceId, result.similarity)
            else if minSize ≤ faceW ∧ minSize ≤ faceH ∧ config.minScore ≤ face.score then
              let (enrolled, newFaceId) := known.enroll face.embedding.toList
              (enrolled, newFaceId, 0)
            else (known, -1, 0)
          ⟨some gallery,
            if 0 ≤ faceId then remember trackIdToFace tid faceId else trackIdToFace,
            faceId, faceSimilarity⟩
  | _, _ => ⟨gallery, trackIdToFace, -1, 0⟩

def faceInfo (face : FaceResult K) (tid : UInt32) (faceId : Int) (faceSimilarity : K) :
    FaceInfo K where
  confidence := face.score
  bboxX1 := face.x1 / (frameW.toNat : K)
  bboxY1 := face.y1 / (frameH.toNat : K)
  bboxX2 := face.x2 / (frameW.toNat : K)
  bboxY2 := face.y2 / (frameH.toNat : K)
  landmarks := face.landmarks.toList.flatMap fun point =>
    [point.1 / (frameW.toNat : K), point.2 / (frameH.toNat : K)]
  embedding := if hasArcface then face.embedding.toList else []
  linkedTrackId := tid
  faceId := faceId
  faceSimilarity := faceSimilarity

def path : FacePath K (FaceResult K) where
  bestIdx := bestIdx frameW frameH
  identify := identify config hasArcface
  faceInfo := faceInfo frameW frameH hasArcface
  embedding face := if hasArcface then face.embedding.toList else []
  bestIdx_lt chosen := by simpa using leaderOf_lt chosen

def matchFacesToPersons (linking : Linking K) (faces : List (FaceResult K)) : Linking K :=
  if frameW < 1 ∨ frameH < 1 then linking
  else faces.foldl (linkFace (path config frameW frameH hasArcface)) linking

theorem not_small {size : UInt32} (positive : 0 < size) : ¬ size < 1 := by
  rw [UInt32.lt_iff_toNat_lt] at positive ⊢
  simp at positive ⊢
  omega

theorem matchFacesToPersons_of_pos {frameW frameH : UInt32} (wide : 0 < frameW)
    (high : 0 < frameH) (config : GalleryConfig K) (hasArcface : Bool) (start : Linking K)
    (results : List (FaceResult K)) :
    matchFacesToPersons config frameW frameH hasArcface start results =
      results.foldl (linkFace (path config frameW frameH hasArcface)) start :=
  if_neg (not_or.mpr ⟨not_small wide, not_small high⟩)

def faceResult (entry : FaceEntry K) : FaceResult K where
  x1 := entry.x1
  y1 := entry.y1
  x2 := entry.x2
  y2 := entry.y2
  score := entry.score
  landmarks := entry.landmarks
  embedding := if entry.hasEmbedding then entry.embedding else Vector.replicate 512 0

end ChannelWorker

def Holds (frameW frameH : UInt32) (entry : FaceEntry K) (det : DetectionRecord K) : Prop :=
  det.left * (frameW.toNat : K) ≤ (entry.x1 + entry.x2) * (1 / 2) ∧
    (entry.x1 + entry.x2) * (1 / 2) ≤ det.right * (frameW.toNat : K) ∧
    det.top * (frameH.toNat : K) ≤ (entry.y1 + entry.y2) * (1 / 2) ∧
    (entry.y1 + entry.y2) * (1 / 2) ≤ det.bottom * (frameH.toNat : K)

def area (det : DetectionRecord K) : K :=
  (det.right - det.left) * (det.bottom - det.top)

def personScore (frameW frameH : UInt32) (entry : FaceEntry K) (det : DetectionRecord K) :
    Option K :=
  ChannelWorker.score frameW frameH (ChannelWorker.faceResult entry) det

def HoldsParts (frameW frameH : UInt32) (entry : FaceEntry K) (det : DetectionRecord K) : Prop :=
  det.left ≤ (entry.x1 + entry.x2) / 2 / (frameW.toNat : K) ∧
    (entry.x1 + entry.x2) / 2 / (frameW.toNat : K) ≤ det.right ∧
    det.top ≤ (entry.y1 + entry.y2) / 2 / (frameH.toNat : K) ∧
    (entry.y1 + entry.y2) / 2 / (frameH.toNat : K) ≤ det.bottom

instance (frameW frameH : UInt32) (entry : FaceEntry K) (det : DetectionRecord K) :
    Decidable (HoldsParts frameW frameH entry det) :=
  inferInstanceAs (Decidable (_ ∧ _ ∧ _ ∧ _))

def partsBonus (frameH : UInt32) (entry : FaceEntry K) (det : DetectionRecord K) : K :=
  if (entry.y1 + entry.y2) / 2 / (frameH.toNat : K) ≤ (det.top + det.bottom) / 2 then 1000000
  else 0

theorem personScore_eq (frameW frameH : UInt32) (entry : FaceEntry K) (det : DetectionRecord K) :
    personScore frameW frameH entry det =
      if det.label ≠ ChannelWorker.person then none
      else if det.face.isSome then none
      else if HoldsParts frameW frameH entry det then
        if area det ≤ 0 then none else some (partsBonus frameH entry det + 1 / area det)
      else none := rfl

end

end Iq9Pipeline.MultiCam.FaceLinks
