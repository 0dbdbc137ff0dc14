import Iq9Pipeline.MultiCam.FaceLinks
import Iq9Pipeline.MultiCam.MsgAgg

/-!
The gallery file (`FaceGallery::Load`) and the identities that `Enroll` gives out. The file
names the next identity beside the entries, and nothing compares the two.
-/

namespace Iq9Pipeline.MultiCam

open Foundation.JsonText

structure StoredEntry (Single : Type) where
  faceId : Int32
  embedding : List Single

structure StoredGallery (Single : Type) where
  entries : List (StoredEntry Single)
  nextId : Int32

/-- How json-glib reads the number of a file as an integer, and an element of an array as a
number that is then rounded to a `float`. -/
structure GlibNumbers (Single : Type) where
  integer : List UInt8 → Int64
  single : Value → Single

variable {Single : Type} (glib : JsonGlib) (numbers : GlibNumbers Single)

/-- `json_object_get_int_member`: what is no number reads as 0. -/
def GlibNumbers.intMember : Value → Int64
  | .number word => numbers.integer word
  | .boolean value => if value then 1 else 0
  | _ => 0

def memberOf (members : List (String × Value)) (name : String) : Option Value :=
  (members.find? fun member => member.1 = name).map Prod.snd

def intOf (members : List (String × Value)) (name : String) (default : Int32) : Int32 :=
  ((memberOf members name).map fun value => (numbers.intMember value).toInt32).getD default

def embeddingOf (members : List (String × Value)) : List Single :=
  match memberOf members "embedding" with
  | some (.array elements) => elements.map numbers.single
  | _ => []

def loadEntry : Value → Option (StoredEntry Single)
  | .object members =>
      let entry := ⟨intOf numbers members "face_id" 0, embeddingOf numbers members⟩
      if entry.embedding.isEmpty then none else some entry
  | _ => none

def loadEntries (root : List (String × Value)) : List (StoredEntry Single) :=
  match memberOf root "entries" with
  | some (.array elements) => elements.filterMap (loadEntry numbers)
  | _ => []

/-- `Load`, `none` where it returns false. Without a file the gallery is empty, and `saved`
tells whether it could be written. -/
def load (saved : Bool) : Option (List UInt8) → Option (StoredGallery Single)
  | none => if saved then some ⟨[], 1⟩ else none
  | some text =>
      match glib.parse text with
      | some (.object root) => some ⟨loadEntries numbers root, intOf numbers root "next_id" 1⟩
      | _ => none

namespace StoredGallery

/-- `Enroll`, of which `none` is the null pointer. -/
def enroll (gallery : StoredGallery Single) : Option (List Single) →
    StoredGallery Single × Int32
  | none => (gallery, -1)
  | some embedding =>
      (⟨gallery.entries ++ [⟨gallery.nextId, embedding⟩], gallery.nextId + 1⟩, gallery.nextId)

def ids (gallery : StoredGallery Single) : List Int32 :=
  gallery.entries.map StoredEntry.faceId

def enrollAll (gallery : StoredGallery Single) (embeddings : List (List Single)) :
    StoredGallery Single :=
  embeddings.foldl (fun gallery embedding => (gallery.enroll (some embedding)).1) gallery

structure UniqueIds (gallery : StoredGallery Single) : Prop where
  distinct : gallery.ids.Nodup
  below : ∀ id ∈ gallery.ids, id < gallery.nextId

def GivesUniqueIds (gallery : StoredGallery Single) (embeddings : List (List Single)) : Prop :=
  ∀ enrolled rest, embeddings = enrolled ++ rest →
    (gallery.enrollAll enrolled).UniqueIds ∧
      ∀ embedding ∈ rest.head?,
        0 ≤ ((gallery.enrollAll enrolled).enroll (some embedding)).2 ∧
          ((gallery.enrollAll enrolled).enroll (some embedding)).2 ∉
            (gallery.enrollAll enrolled).ids

structure Admits (ids : List Int32) (nextId : Int32) (count : Nat) : Prop where
  distinct : ids.Nodup
  below : ∀ id ∈ ids, id < nextId
  nonnegative : 0 < count → 0 ≤ nextId
  room : nextId.toInt + count < 2 ^ 31

variable {gallery : StoredGallery Single}

theorem toInt_succ {id : Int32} (small : id.toInt + 1 < 2 ^ 31) :
    (id + 1).toInt = id.toInt + 1 := by
  have least := id.le_toInt
  rw [Int32.toInt_add, show (1 : Int32).toInt = 1 from rfl]
  exact Int.bmod_eq_of_le (by omega) (by omega)

theorem lt_succ_iff (id : Int32) : id < id + 1 ↔ id.toInt + 1 < 2 ^ 31 := by
  rw [Int32.lt_iff_toInt_lt]
  constructor
  · intro less
    by_contra large
    have most := id.toInt_lt
    have last : id = Int32.maxValue := by
      rw [← Int32.toInt_inj, show Int32.maxValue.toInt = 2 ^ 31 - 1 from rfl]
      omega
    rw [last] at less
    exact absurd less (by decide)
  · intro small
    rw [toInt_succ small]
    omega

theorem ids_enroll (embedding : List Single) :
    (gallery.enroll (some embedding)).1.ids = gallery.ids ++ [gallery.nextId] := by
  simp [ids, enroll]

theorem givesUniqueIds_nil : gallery.GivesUniqueIds [] ↔ gallery.UniqueIds := by
  constructor
  · intro gives
    exact (gives [] [] rfl).1
  · intro unique enrolled rest whole
    obtain ⟨rfl, rfl⟩ := List.append_eq_nil_iff.mp whole.symm
    exact ⟨unique, nofun⟩

theorem givesUniqueIds_cons {embedding : List Single} {rest : List (List Single)} :
    gallery.GivesUniqueIds (embedding :: rest) ↔
      gallery.UniqueIds ∧ 0 ≤ gallery.nextId ∧ gallery.nextId ∉ gallery.ids ∧
        (gallery.enroll (some embedding)).1.GivesUniqueIds rest := by
  constructor
  · intro gives
    obtain ⟨unique, fresh⟩ := gives [] (embedding :: rest) rfl
    obtain ⟨nonnegative, new⟩ := fresh embedding rfl
    refine ⟨unique, nonnegative, new, ?_⟩
    intro enrolled later whole
    exact gives (embedding :: enrolled) later (by rw [whole, List.cons_append])
  · rintro ⟨unique, nonnegative, new, gives⟩ enrolled later whole
    rcases List.cons_eq_append_iff.mp whole with ⟨rfl, rfl⟩ | ⟨more, rfl, parted⟩
    · refine ⟨unique, ?_⟩
      intro first head
      exact ⟨nonnegative, new⟩
    · exact gives more later parted

theorem uniqueIds_iff_admits : gallery.UniqueIds ↔ Admits gallery.ids gallery.nextId 0 := by
  constructor
  · intro unique
    exact ⟨unique.distinct, unique.below, nofun, by simpa using gallery.nextId.toInt_lt⟩
  · intro admits
    exact ⟨admits.distinct, admits.below⟩

theorem admits_succ {ids : List Int32} {nextId : Int32} {count : Nat} :
    Admits ids nextId (count + 1) ↔
      Admits ids nextId 0 ∧ 0 ≤ nextId ∧ Admits (ids ++ [nextId]) (nextId + 1) count := by
  constructor
  · intro admits
    have room := admits.room
    have nonnegative := admits.nonnegative (Nat.succ_pos _)
    have next : (nextId + 1).toInt = nextId.toInt + 1 := toInt_succ (by omega)
    have greater : nextId < nextId + 1 := (lt_succ_iff nextId).mpr (by omega)
    refine ⟨⟨admits.distinct, admits.below, nofun, by omega⟩, nonnegative, ?_, ?_, ?_, by omega⟩
    · rw [List.nodup_append]
      refine ⟨admits.distinct, List.nodup_singleton nextId, ?_⟩
      intro id listed other last
      rw [List.mem_singleton.mp last]
      exact Int32.ne_of_lt (admits.below id listed)
    · intro id listed
      rcases List.mem_append.mp listed with before | last
      · exact Int32.lt_trans (admits.below id before) greater
      · rwa [List.mem_singleton.mp last]
    · intro _
      rw [Int32.le_iff_toInt_le] at nonnegative ⊢
      rw [next]
      exact Int.le_trans nonnegative (by omega)
  · rintro ⟨before, nonnegative, after⟩
    have small := (lt_succ_iff nextId).mp (after.below nextId (by simp))
    have room := after.room
    rw [toInt_succ small] at room
    exact ⟨before.distinct, before.below, fun _ => nonnegative, by omega⟩

theorem givesUniqueIds_iff_admits (embeddings : List (List Single)) :
    gallery.GivesUniqueIds embeddings ↔
      Admits gallery.ids gallery.nextId embeddings.length := by
  induction embeddings generalizing gallery with
  | nil => rw [givesUniqueIds_nil, uniqueIds_iff_admits, List.length_nil]
  | cons embedding rest ih =>
      rw [givesUniqueIds_cons, uniqueIds_iff_admits, ih, ids_enroll, List.length_cons, admits_succ]
      constructor
      · rintro ⟨unique, nonnegative, _, admits⟩
        exact ⟨unique, nonnegative, admits⟩
      · rintro ⟨unique, nonnegative, admits⟩
        refine ⟨unique, nonnegative, ?_, admits⟩
        intro listed
        exact Int32.lt_irrefl (unique.below _ listed)

def widen (gallery : StoredGallery Single) : FaceLinks.FaceGallery Single where
  entries := gallery.entries.map fun entry => ⟨entry.faceId.toInt, entry.embedding⟩
  nextId := gallery.nextId.toInt

theorem widen_enroll (gallery : StoredGallery Single) (embedding : List Single)
    (room : gallery.nextId.toInt + 1 < 2 ^ 31) :
    (gallery.enroll (some embedding)).1.widen = (gallery.widen.enroll embedding).1 ∧
      (gallery.enroll (some embedding)).2.toInt = (gallery.widen.enroll embedding).2 := by
  constructor
  · simp [widen, enroll, FaceLinks.FaceGallery.enroll, toInt_succ room]
  · rfl

end StoredGallery

def fileIds (file : Option (List UInt8)) : List Int32 :=
  match file.bind glib.parse with
  | some (.object root) =>
      match memberOf root "entries" with
      | some (.array elements) => elements.filterMap fun element =>
          match element with
          | .object members =>
              if (embeddingOf numbers members).isEmpty then none
              else some (intOf numbers members "face_id" 0)
          | _ => none
      | _ => []
  | _ => []

def fileNextId (file : Option (List UInt8)) : Int32 :=
  match file.bind glib.parse with
  | some (.object root) => intOf numbers root "next_id" 1
  | _ => 1

variable {glib numbers}

theorem loadEntries_ids (root : List (String × Value)) :
    (loadEntries numbers root).map StoredEntry.faceId =
      match memberOf root "entries" with
      | some (.array elements) => elements.filterMap fun element =>
          match element with
          | .object members =>
              if (embeddingOf numbers members).isEmpty then none
              else some (intOf numbers members "face_id" 0)
          | _ => none
      | _ => [] := by
  rw [loadEntries]
  split
  · rw [List.map_filterMap]
    congr 1
    funext element
    cases element with
    | object members =>
        simp only [loadEntry]
        split
        · rfl
        · rfl
    | _ => rfl
  · rfl

theorem load_ids {saved : Bool} {file : Option (List UInt8)} {gallery : StoredGallery Single}
    (loaded : load glib numbers saved file = some gallery) :
    gallery.ids = fileIds glib numbers file ∧ gallery.nextId = fileNextId glib numbers file := by
  cases file with
  | none =>
      simp only [load] at loaded
      split at loaded
      · obtain rfl := Option.some.inj loaded
        exact ⟨rfl, rfl⟩
      · cases loaded
  | some text =>
      simp only [load] at loaded
      split at loaded
      · rename_i root parsed
        obtain rfl := Option.some.inj loaded
        simp only [fileIds, fileNextId, Option.bind_some, parsed]
        exact ⟨loadEntries_ids root, trivial⟩
      · cases loaded

theorem load_givesUniqueIds_iff {saved : Bool} {file : Option (List UInt8)}
    {gallery : StoredGallery Single} (loaded : load glib numbers saved file = some gallery)
    (embeddings : List (List Single)) :
    gallery.GivesUniqueIds embeddings ↔
      StoredGallery.Admits (fileIds glib numbers file) (fileNextId glib numbers file)
        embeddings.length := by
  obtain ⟨ids, nextId⟩ := load_ids loaded
  rw [StoredGallery.givesUniqueIds_iff_admits, ids, nextId]

def decimalNumbers : GlibNumbers Value where
  integer word := Int64.ofNat (ofDecimal word)
  single := id

def galleryFile (nextId : String) : List UInt8 :=
  utf8 ("\x7b" ++ nextId ++ "\"entries\":[\x7b\"face_id\":1,\"embedding\":[1]\x7d]\x7d")

def loadFile (text : List UInt8) : Option (StoredGallery Value) :=
  load JsonGlib.verbatim decimalNumbers true (some text)

def unitFace : List Value := [.number (decimal 1)]

theorem load_givesUniqueIds_named : ∃ gallery,
    loadFile (galleryFile "\"next_id\":2,") = some gallery ∧
      gallery.GivesUniqueIds [unitFace, unitFace] := by
  have named : (loadFile (galleryFile "\"next_id\":2,")).any fun gallery =>
      gallery.ids = [1] ∧ gallery.nextId = 2 := by
    decide +kernel
  obtain ⟨gallery, loaded, facts⟩ := (Option.any_eq_true _ _).mp named
  obtain ⟨ids, nextId⟩ := of_decide_eq_true facts
  refine ⟨gallery, loaded, (load_givesUniqueIds_iff loaded _).mpr ?_⟩
  obtain ⟨fromIds, fromNext⟩ := load_ids loaded
  rw [← fromIds, ← fromNext, ids, nextId]
  have below : ∀ id ∈ ([1] : List Int32), id < 2 := List.forall_mem_singleton.mpr (by decide)
  exact ⟨by decide, below, fun _ => by decide, by decide⟩

/-- A file that does not name the next identity, and the first face enrolled gets that of
the face it holds. -/
theorem idGivenTwice : ¬∀ gallery, loadFile (galleryFile "") = some gallery →
    gallery.GivesUniqueIds [unitFace] := by
  intro universal
  have unnamed : (loadFile (galleryFile "")).any fun gallery =>
      gallery.ids = [1] ∧ gallery.nextId = 1 := by
    decide +kernel
  obtain ⟨gallery, loaded, facts⟩ := (Option.any_eq_true _ _).mp unnamed
  obtain ⟨ids, nextId⟩ := of_decide_eq_true facts
  have fresh := ((universal gallery loaded) [] [unitFace] rfl).2 unitFace rfl
  apply fresh.2
  change gallery.nextId ∈ gallery.ids
  rw [ids, nextId]
  decide

end Iq9Pipeline.MultiCam
