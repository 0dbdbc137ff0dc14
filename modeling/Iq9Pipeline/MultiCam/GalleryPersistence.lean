import Iq9Pipeline.Foundation.Durable
import Iq9Pipeline.Foundation.JsonDump
import Iq9Pipeline.Foundation.JsonLayout
import Iq9Pipeline.MultiCam.GalleryFile

/-!
What a face gallery keeps over restarts (`FaceGallery::Save`, `Load`): every enrolment writes
the whole file, a failure to write goes unnoticed, and the program may end at any time. The
file is replaced as a whole or not at all.
-/

namespace Iq9Pipeline.MultiCam

open Foundation Foundation.JsonText

inductive GalleryNumber (Single : Type)
  | integer (value : Int32)
  | single (value : Single)

/-- The generator of json-glib: how it spells a `float` that it is given as a `double`, and how
it lays out a document, between whose words it only adds blanks. What it spells is read as
the number that it was. -/
structure GlibGenerator {Single : Type} (numbers : GlibNumbers Single) where
  isFinite : Single → Bool
  single : Single → List UInt8
  toFile : Draft → List UInt8
  layout : ∀ draft, draft.Proper → lex (toFile draft) = lex draft.text
  isNumber_single : ∀ value, isFinite value = true → isNumber (single value) = true
  integer_spelled : ∀ value : Int32, numbers.integer (integer value.toInt) = value.toInt64
  single_spelled : ∀ value, isFinite value = true → numbers.single (.number (single value)) = value

variable {Single : Type}

def entryTree (entry : StoredEntry Single) : Tree (GalleryNumber Single) String :=
  .object [("face_id", .number (.integer entry.faceId)),
    ("embedding", .array (entry.embedding.map fun value => .number (.single value)))]

def galleryTree (gallery : StoredGallery Single) : Tree (GalleryNumber Single) String :=
  .object [("next_id", .number (.integer gallery.nextId)),
    ("entries", .array (gallery.entries.map entryTree))]

variable {glib : JsonGlib} {numbers : GlibNumbers Single} (generator : GlibGenerator numbers)

namespace GlibGenerator

def spell : GalleryNumber Single → List UInt8
  | .integer value => integer value.toInt
  | .single value => generator.single value

def save (glib : JsonGlib) (gallery : StoredGallery Single) : List UInt8 :=
  generator.toFile ((galleryTree gallery).map generator.spell glib.quote)

structure Finite (gallery : StoredGallery Single) : Prop where
  finite : ∀ entry ∈ gallery.entries, ∀ value ∈ entry.embedding, generator.isFinite value = true
  filled : ∀ entry ∈ gallery.entries, entry.embedding ≠ []

def entryValue (entry : StoredEntry Single) : Value :=
  .object [("face_id", .number (generator.spell (.integer entry.faceId))),
    ("embedding", .array (entry.embedding.map fun value => .number (generator.single value)))]

def galleryValue (gallery : StoredGallery Single) : Value :=
  .object [("next_id", .number (generator.spell (.integer gallery.nextId))),
    ("entries", .array (gallery.entries.map generator.entryValue))]

variable {generator}

theorem map_galleryTree (quote : String → List UInt8) (gallery : StoredGallery Single) :
    (galleryTree gallery).map generator.spell quote =
      (generator.galleryValue gallery).map id quote := by
  simp [galleryTree, galleryValue, entryTree, entryValue, spell, Function.comp_def]

def orZero (word : List UInt8) : List UInt8 :=
  if isNumber word then word else [0x30]

theorem isNumber_orZero (word : List UInt8) : isNumber (orZero word) = true := by
  rw [orZero]
  split
  · assumption
  · rfl

theorem map_orZero_entry {Text : Type} {entry : StoredEntry Single}
    (finite : ∀ value ∈ entry.embedding, generator.isFinite value = true)
    (onText : String → Text) :
    (generator.entryValue entry).map orZero onText =
      (generator.entryValue entry).map id onText := by
  have integers (value : Int32) : orZero (generator.spell (.integer value)) =
      generator.spell (.integer value) := if_pos (isNumber_integer value.toInt)
  have singles : (entry.embedding.map fun value =>
      (.number (orZero (generator.single value)) : Tree (List UInt8) Text)) =
        entry.embedding.map fun value => .number (generator.single value) :=
    List.map_congr_left fun value listed => congrArg Tree.number <|
      if_pos (generator.isNumber_single value (finite value listed))
  simp only [entryValue, Tree.map_object, Tree.map_array, Tree.map_number, List.map_cons,
    List.map_nil, List.map_map, Function.comp_def, integers, id, singles]

theorem map_orZero {Text : Type} {gallery : StoredGallery Single}
    (finite : generator.Finite gallery) (onText : String → Text) :
    (generator.galleryValue gallery).map orZero onText =
      (generator.galleryValue gallery).map id onText := by
  have integers (value : Int32) : orZero (generator.spell (.integer value)) =
      generator.spell (.integer value) := if_pos (isNumber_integer value.toInt)
  have entries : (gallery.entries.map fun entry => (generator.entryValue entry).map orZero onText) =
      gallery.entries.map fun entry => (generator.entryValue entry).map id onText :=
    List.map_congr_left fun entry listed =>
      map_orZero_entry (finite.finite entry listed) onText
  simp only [galleryValue, Tree.map_object, Tree.map_array, Tree.map_number, List.map_cons,
    List.map_nil, List.map_map, Function.comp_def, integers, entries, id]

theorem map_id_galleryValue (gallery : StoredGallery Single) :
    (generator.galleryValue gallery).map id id = generator.galleryValue gallery := by
  simp [galleryValue, entryValue, Function.comp_def]

theorem denotes_save {gallery : StoredGallery Single} (finite : generator.Finite gallery) :
    Denotes (generator.save glib gallery) (generator.galleryValue gallery) := by
  have written := Tree.denotes_write isNumber_orZero glib.decodeText_quote
    (generator.galleryValue gallery)
  have proper : Tree.Proper ((generator.galleryValue gallery).map orZero glib.quote) :=
    Tree.proper_map (fun word => proper_of_isNumber (isNumber_orZero word))
      (fun text => isContained_of_decodeText (glib.decodeText_quote text)) _
  rw [Denotes, Tree.write, map_orZero finite, map_orZero finite, map_id_galleryValue] at written
  rw [map_orZero finite] at proper
  rw [Denotes, save, map_galleryTree, generator.layout _ proper, written]

theorem distinct_galleryValue (gallery : StoredGallery Single) :
    (generator.galleryValue gallery).Distinct := by
  simp [galleryValue, entryValue, Tree.Distinct, Tree.DistinctMembers,
    Tree.distinctElements_iff]

theorem parse_save {gallery : StoredGallery Single} (finite : generator.Finite gallery) :
    glib.parse (generator.save glib gallery) = some (generator.galleryValue gallery) :=
  glib.decodes _ _ (denotes_save finite) (distinct_galleryValue gallery)

theorem intMember_spell (value : Int32) :
    (numbers.intMember (.number (generator.spell (.integer value)))).toInt32 = value := by
  rw [GlibNumbers.intMember, spell, generator.integer_spelled, Int32.toInt32_toInt64]

theorem loadEntry_entryValue {entry : StoredEntry Single}
    (finite : ∀ value ∈ entry.embedding, generator.isFinite value = true)
    (filled : entry.embedding ≠ []) :
    loadEntry numbers (generator.entryValue entry) = some entry := by
  have singles : (entry.embedding.map fun value => numbers.single (.number
      (generator.single value))) = entry.embedding := by
    conv_rhs => rw [← List.map_id entry.embedding]
    exact List.map_congr_left fun value listed =>
      generator.single_spelled value (finite value listed)
  simp [loadEntry, entryValue, intOf, embeddingOf, memberOf, intMember_spell, Function.comp_def,
    singles, filled]

/-- What is saved is what the next start reads. -/
theorem load_save {gallery : StoredGallery Single} (finite : generator.Finite gallery)
    (saved : Bool) :
    load glib numbers saved (some (generator.save glib gallery)) = some gallery := by
  have entries : gallery.entries.filterMap
      (fun entry => loadEntry numbers (generator.entryValue entry)) = gallery.entries := by
    conv_rhs => rw [← List.filterMap_some (l := gallery.entries)]
    apply List.filterMap_congr
    intro entry listed
    exact loadEntry_entryValue (finite.finite entry listed) (finite.filled entry listed)
  rw [load, parse_save finite]
  simp [galleryValue, loadEntries, intOf, memberOf, intMember_spell, entries]

end GlibGenerator

namespace StoredGallery

structure Numbered (gallery : StoredGallery Single) : Prop where
  ids : gallery.ids.map Int32.toInt =
    (List.range gallery.entries.length).map fun position : Nat => (position : Int) + 1
  nextId : gallery.nextId.toInt = gallery.entries.length + 1

theorem numbered_empty : (⟨[], 1⟩ : StoredGallery Single).Numbered :=
  ⟨rfl, rfl⟩

theorem Numbered.enroll {gallery : StoredGallery Single} (numbered : gallery.Numbered)
    (embedding : List Single) (room : gallery.nextId.toInt + 1 < 2 ^ 31) :
    (gallery.enroll (some embedding)).1.Numbered := by
  have length : (gallery.enroll (some embedding)).1.entries.length =
      gallery.entries.length + 1 := by simp [StoredGallery.enroll]
  constructor
  · rw [ids_enroll, List.map_append, numbered.ids, length, List.range_succ, List.map_append,
      List.map_singleton, List.map_singleton, numbered.nextId]
  · rw [length, StoredGallery.enroll, toInt_succ room, numbered.nextId]
    rfl

theorem Numbered.mem_ids {gallery : StoredGallery Single} (numbered : gallery.Numbered)
    (id : Int32) : id ∈ gallery.ids ↔ 1 ≤ id.toInt ∧ id.toInt ≤ gallery.entries.length := by
  have listed : id ∈ gallery.ids ↔ id.toInt ∈ gallery.ids.map Int32.toInt := by
    rw [List.mem_map]
    constructor
    · exact fun member => ⟨id, member, rfl⟩
    · rintro ⟨other, member, same⟩
      rwa [← Int32.toInt_inj.mp same]
  rw [listed, numbered.ids, List.mem_map]
  constructor
  · rintro ⟨position, inside, same⟩
    rw [List.mem_range] at inside
    omega
  · rintro ⟨low, high⟩
    refine ⟨(id.toInt - 1).toNat, ?_, ?_⟩
    · rw [List.mem_range]
      omega
    · omega

end StoredGallery

namespace GlibGenerator

open Durable

/-- A gallery over restarts. The callers of `Enroll` pass an embedding. -/
def store (glib : JsonGlib) : Store (StoredGallery Single) (List UInt8) (Vector Single 512) where
  first := ⟨[], 1⟩
  save := generator.save glib
  load text := load glib numbers true (some text)
  apply gallery embedding := (gallery.enroll (some embedding.toList)).1

/-- An embedding of finite numbers, and an identity that is left for it. -/
structure Enrollable (gallery : StoredGallery Single) (embedding : Vector Single 512) : Prop where
  finite : ∀ value ∈ embedding.toList, generator.isFinite value = true
  room : gallery.nextId.toInt + 1 < 2 ^ 31

structure Sound (gallery : StoredGallery Single) : Prop where
  finite : generator.Finite gallery
  numbered : gallery.Numbered

def Extends (gallery later : StoredGallery Single) : Prop :=
  gallery.entries <+: later.entries

variable {generator}

theorem Sound.enroll {gallery : StoredGallery Single} {embedding : Vector Single 512}
    (sound : generator.Sound gallery) (enrollable : generator.Enrollable gallery embedding) :
    generator.Sound (gallery.enroll (some embedding.toList)).1 := by
  refine ⟨⟨?_, ?_⟩, sound.numbered.enroll _ enrollable.room⟩
  · intro entry listed
    rcases List.mem_append.mp listed with before | last
    · exact sound.finite.finite entry before
    · obtain rfl := List.mem_singleton.mp last
      exact enrollable.finite
  · intro entry listed
    rcases List.mem_append.mp listed with before | last
    · exact sound.finite.filled entry before
    · obtain rfl := List.mem_singleton.mp last
      intro empty
      have length := congrArg List.length empty
      simp at length

theorem lawful (glib : JsonGlib) :
    (generator.store glib).Lawful generator.Sound generator.Enrollable Extends where
  first := ⟨⟨nofun, nofun⟩, StoredGallery.numbered_empty⟩
  loads _ sound := load_save sound.finite true
  apply _ _ sound enrollable := sound.enroll enrollable
  refl _ := List.prefix_rfl
  trans _ _ _ := List.IsPrefix.trans
  grows _ _ _ _ := List.prefix_append _ _

/-- Once an enrolment is saved, every later start, in whatever order starts, enrolments, failed
writes and crashes come, finds the same faces under the same identities, and others are only
ever added behind them. -/
theorem savedIdentitiesStay {host later : Host (StoredGallery Single) (List UInt8)}
    (reached : ((generator.store glib).machine ⟨none, none⟩).ReachableUnder
      (Store.Asked generator.Enrollable) host)
    (continued : ((generator.store glib).machine host).ReachableUnder
      (Store.Asked generator.Enrollable) later) :
    (∀ text ∈ later.file, ∃ gallery, load glib numbers true (some text) = some gallery ∧
      gallery.Numbered ∧ ∀ running ∈ later.running, running.Numbered ∧
        gallery.entries <+: running.entries) ∧
    ∀ text ∈ host.file, ∀ gallery, load glib numbers true (some text) = some gallery →
      ∃ text' gallery', later.file = some text' ∧
        load glib numbers true (some text') = some gallery' ∧
        gallery.entries <+: gallery'.entries := by
  have law := generator.lawful glib
  have kept := law.kept_run (Store.kept_nothing _) reached
  have kept' := law.kept_run kept continued
  constructor
  · intro text present
    obtain ⟨gallery, sound, rfl⟩ := kept'.written text present
    have loaded : load glib numbers true (some (generator.save glib gallery)) = some gallery :=
      load_save sound.finite true
    refine ⟨gallery, loaded, sound.numbered, ?_⟩
    intro running runs
    obtain ⟨sound', before, saved, extended⟩ := kept'.running running runs
    rw [Store.saved, present] at saved
    obtain rfl : gallery = before := Option.some.inj (loaded.symm.trans saved)
    exact ⟨sound'.numbered, extended⟩
  · intro text present gallery loaded
    have saved : (generator.store glib).saved host = some gallery := by
      rw [Store.saved, present]
      exact loaded
    obtain ⟨gallery', saved', extended⟩ := law.saved_run kept continued saved
    obtain ⟨text', present', loaded'⟩ := Option.bind_eq_some_iff.mp saved'
    exact ⟨text', gallery', present', loaded', extended⟩

theorem applyAll_length (glib : JsonGlib) (gallery : StoredGallery Single)
    (events : List (Vector Single 512 × Bool)) :
    ((generator.store glib).applyAll gallery events).entries.length =
      gallery.entries.length + events.length := by
  induction events generalizing gallery with
  | nil => rfl
  | cons event rest ih =>
      have applied := ih (gallery.enroll (some event.1.toList)).1
      simp only [StoredGallery.enroll, List.length_append, List.length_singleton] at applied
      rw [List.length_cons, Nat.add_comm rest.length, ← Nat.add_assoc]
      exact applied

/-- After a crash the gallery is what the enrolments up to the last one that was saved make of
the one that the session began with: an identity of the session is still there exactly if it
or a later one was saved. -/
theorem survivesCrash {gallery : StoredGallery Single} {file : Option (List UInt8)}
    (sound : generator.Sound gallery)
    (begun : file.bind (fun text => load glib numbers true (some text)) = some gallery)
    (events : List (Vector Single 512 × Bool))
    (enrollable : (generator.store glib).AllowedAll generator.Enrollable gallery events)
    (written : Bool) :
    ∃ crashed restored, (generator.store glib).session ⟨file, some gallery⟩ events = some crashed ∧
      load glib numbers written crashed.file = some restored ∧
      (∀ position < events.length,
        (((generator.store glib).applyAll gallery (events.take position)).nextId ∈ restored.ids ↔
          ∃ later embedding, position ≤ later ∧ events[later]? = some (embedding, true))) ∧
      ∃ lost ≤ events.length,
        restored = (generator.store glib).applyAll gallery (events.take lost) := by
  have law := generator.lawful glib
  obtain ⟨crashed, ran, _, saved⟩ := law.session_saved sound begun enrollable
  obtain ⟨text, present, loaded⟩ := Option.bind_eq_some_iff.mp saved
  have survived := Store.survivors_prefix events
  refine ⟨crashed, _, ran, by rw [present]; exact loaded, ?_, (Store.survivors events).length,
    survived.length_le, by rw [← List.prefix_iff_eq_take.mp survived]⟩
  intro position inside
  have before := enrollable.before (List.take_prefix position events)
  have given := (law.valid_applyAll sound before).numbered.nextId
  have restored := (law.valid_applyAll sound (enrollable.before survived)).numbered
  rw [restored.mem_ids, given, applyAll_length, applyAll_length, List.length_take,
    ← Store.lt_length_survivors]
  omega

end GlibGenerator

section

open Durable

def signedDecimal : List UInt8 → Int
  | 0x2d :: digits => -(ofDecimal digits : Int)
  | word => ofDecimal word

theorem signedDecimal_integer (value : Int) : signedDecimal (integer value) = value := by
  rw [integer]
  split
  · rw [signedDecimal, ofDecimal_decimal]
    omega
  · have unsigned : ∀ digits, decimal value.natAbs ≠ 0x2d :: digits := by
      intro digits signed
      have member : 0x2d ∈ decimal value.natAbs := signed ▸ List.mem_cons_self
      exact absurd (isDigit_of_mem_decimal member) (by decide)
    rw [signedDecimal, ofDecimal_decimal]
    · omega
    · exact unsigned

def unitNumbers : GlibNumbers Bool where
  integer word := Int64.ofInt (signedDecimal word)
  single
    | .number word => decide (word = utf8 "1.0")
    | _ => false

def unitGenerator : GlibGenerator unitNumbers where
  isFinite _ := true
  single value := utf8 (if value then "1.0" else "0.0")
  toFile := Tree.pretty
  layout _ := Tree.lex_pretty
  isNumber_single value _ := by cases value <;> decide
  integer_spelled value := by
    change Int64.ofInt (signedDecimal (integer value.toInt)) = value.toInt64
    rw [signedDecimal_integer, Int64.ofInt_int32ToInt]
  single_spelled value _ := by cases value <;> decide

def unitStore : Store (StoredGallery Bool) (List UInt8) (Vector Bool 512) :=
  unitGenerator.store JsonGlib.verbatim

def someFace : Vector Bool 512 :=
  Vector.ofFn fun position => position.val == 0

def noFaces : StoredGallery Bool :=
  ⟨[], 1⟩

def oneFace : StoredGallery Bool :=
  (noFaces.enroll (some someFace.toList)).1

theorem enrollable_someFace {gallery : StoredGallery Bool}
    (room : gallery.nextId.toInt + 1 < 2 ^ 31) : unitGenerator.Enrollable gallery someFace :=
  ⟨fun _ _ => rfl, room⟩

/-- Two faces are enrolled, the second of which could not be saved, and the program starts
again. -/
theorem savedIdentitiesStay_restarted : ∃ host later : Host (StoredGallery Bool) (List UInt8),
    later.running = load JsonGlib.verbatim unitNumbers true host.file ∧
    (∀ text ∈ later.file, ∃ gallery,
      load JsonGlib.verbatim unitNumbers true (some text) = some gallery ∧ gallery.Numbered ∧
        ∀ running ∈ later.running, running.Numbered ∧ gallery.entries <+: running.entries) ∧
    ∀ text ∈ host.file, ∀ gallery,
      load JsonGlib.verbatim unitNumbers true (some text) = some gallery →
        ∃ text' gallery', later.file = some text' ∧
          load JsonGlib.verbatim unitNumbers true (some text') = some gallery' ∧
          gallery.entries <+: gallery'.entries := by
  have first : unitGenerator.Enrollable noFaces someFace := enrollable_someFace (by decide)
  have second : unitGenerator.Enrollable oneFace someFace := enrollable_someFace (by decide)
  have started := unitStore.reachable_first unitGenerator.Enrollable
  have crowded := Store.reachable_apply (Store.reachable_apply started first true) second false
  have restarted := unitStore.reachable_restart unitGenerator.Enrollable
    (unitStore.save (unitStore.apply unitStore.first someFace))
    (some (unitStore.apply (unitStore.apply unitStore.first someFace) someFace))
  have loads (text : List UInt8) :
      unitStore.load text = load JsonGlib.verbatim unitNumbers true (some text) := rfl
  refine ⟨_, _, ?_, GlibGenerator.savedIdentitiesStay crowded restarted⟩
  simp only [Bool.false_eq_true, if_true, if_false, loads]

theorem survivesCrash_unsaved : ∃ crashed restored,
    unitStore.session ⟨some (unitGenerator.save JsonGlib.verbatim noFaces), some noFaces⟩
      [(someFace, true), (someFace, false)] = some crashed ∧
    load JsonGlib.verbatim unitNumbers true crashed.file = some restored ∧
    (∀ position < 2,
      ((unitStore.applyAll noFaces
        ([(someFace, true), (someFace, false)].take position)).nextId ∈ restored.ids ↔
          ∃ later embedding, position ≤ later ∧
            [(someFace, true), (someFace, false)][later]? = some (embedding, true))) ∧
    ∃ lost ≤ 2, restored = unitStore.applyAll noFaces
      ([(someFace, true), (someFace, false)].take lost) := by
  have sound : unitGenerator.Sound noFaces :=
    ⟨⟨nofun, nofun⟩, StoredGallery.numbered_empty⟩
  have loads : (some (unitGenerator.save JsonGlib.verbatim noFaces)).bind
      (fun text => load JsonGlib.verbatim unitNumbers true (some text)) = some noFaces := by
    rw [Option.bind_some]
    exact GlibGenerator.load_save sound.finite true
  have enrollable : unitStore.AllowedAll unitGenerator.Enrollable noFaces
      [(someFace, true), (someFace, false)] :=
    ⟨enrollable_someFace (by decide), enrollable_someFace (by decide), trivial⟩
  exact GlibGenerator.survivesCrash sound loads _ enrollable true

end

end Iq9Pipeline.MultiCam
