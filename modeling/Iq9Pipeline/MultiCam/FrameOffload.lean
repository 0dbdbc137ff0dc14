import Iq9Pipeline.MultiCam.JsonlWriter

/-!
The frame-offload element (`gstframeoffload.cpp`): each buffer is handed to the producer,
and where that gave it a slot, replaced by the text of its scene record.
-/

namespace Iq9Pipeline.MultiCam

open Foundation.JsonText

variable {Double Single : Type}

/-- What the properties of the element set; no directory is a null pointer. -/
structure OffloadConfig where
  channelId : UInt32
  producer : Bool
  sceneUpdateMqtt : Bool
  metaWidth : UInt32
  metaHeight : UInt32
  jsonlOutDir : Option (List UInt8)
  frameW : UInt32
  frameH : UInt32

/-- A buffer with what its calls answer: `gst_buffer_map`, `SubmitFrame`, the two loops over
its metadata, and the clock. -/
structure OffloadBuffer (Double Single : Type) where
  mapped : Bool
  submitted : Option UInt32
  detections : List (DetectionRecord Double Single)
  now : UInt64

structure OffloadElement (Double Single : Type) where
  localFrameCounter : UInt64
  lastTimestampNs : UInt64
  jsonlFile : List UInt8
  pushed : List (List UInt8)
  records : List (FrameRecord Double Single)

def serialize (detectionText : DetectionRecord Double Single → List UInt8)
    (record : FrameRecord Double Single) : List UInt8 :=
  utf8 "\x7b\"channel_id\":" ++ decimal record.channelId.toNat ++
    utf8 ",\"image_path\":" ++ utf8 (toString record.imagePath.toInt) ++
    utf8 ",\"frame_id\":" ++ decimal record.frameId.toNat ++
    utf8 ",\"timestamp_ns\":" ++ decimal record.timestampNs.toNat ++
    utf8 ",\"detections\":[" ++ Tree.separated (record.detections.map detectionText) ++
    utf8 "]\x7d"

namespace OffloadElement

variable (os : Ostream Double Single) (detectionText : DetectionRecord Double Single → List UInt8)
  (config : OffloadConfig) (opened : Bool)

def created : OffloadElement Double Single :=
  ⟨0, 0, [], [], []⟩

def nextRecord (element : OffloadElement Double Single) (imagePath : Int32)
    (buffer : OffloadBuffer Double Single) :
    FrameRecord Double Single × OffloadElement Double Single :=
  let timestampNs :=
    if buffer.now ≤ element.lastTimestampNs then element.lastTimestampNs + 1 else buffer.now
  ({ channelId := config.channelId
     imagePath := imagePath
     frameId := element.localFrameCounter
     timestampNs := timestampNs
     detections := buffer.detections },
    { element with
      localFrameCounter := element.localFrameCounter + 1
      lastTimestampNs := timestampNs })

def sceneText (record : FrameRecord Double Single) : List UInt8 :=
  if config.sceneUpdateMqtt then
    serializeSceneSource os record config.metaWidth config.metaHeight
  else serialize detectionText record

/-- `opened` tells whether the file was opened when the element was created, which is tried
for a directory that is not empty. -/
def writeSceneJsonl (element : OffloadElement Double Single) (json : List UInt8) :
    OffloadElement Double Single :=
  if (config.jsonlOutDir.getD []) ≠ [] ∧ opened then
    { element with jsonlFile := element.jsonlFile ++ json ++ [0x0a] }
  else element

def imagePath (buffer : OffloadBuffer Double Single) : Int32 :=
  if config.producer ∧ 0 < config.frameW ∧ 0 < config.frameH ∧ buffer.mapped then
    match buffer.submitted with
    | some slotIndex => slotIndex.toInt32
    | none => -1
  else -1

def chain (element : OffloadElement Double Single) (buffer : OffloadBuffer Double Single) :
    OffloadElement Double Single :=
  let imagePath := imagePath config buffer
  if imagePath < 0 then element
  else
    let (record, element) := element.nextRecord config imagePath buffer
    let json := sceneText os detectionText config record
    let element :=
      if config.jsonlOutDir.isSome ∧ json ≠ [] then element.writeSceneJsonl config opened json
      else element
    -- The same block stands here a second time.
    let element :=
      if config.jsonlOutDir.isSome ∧ json ≠ [] then element.writeSceneJsonl config opened json
      else element
    { element with pushed := element.pushed ++ [json], records := element.records ++ [record] }

def run (buffers : List (OffloadBuffer Double Single)) : OffloadElement Double Single :=
  buffers.foldl (chain os detectionText config opened) created

def stampsFrom (last : UInt64) : List UInt64 → List UInt64
  | [] => []
  | now :: rest =>
      let timestampNs := if now ≤ last then last + 1 else now
      timestampNs :: stampsFrom timestampNs rest

/-- No timestamp comes so late that the ones after it have no room. -/
def Room (last : UInt64) (clock : List UInt64) : Prop :=
  last.toNat + clock.length < 2 ^ 64 ∧
    ∀ index now, clock[index]? = some now → now.toNat + clock.length < 2 ^ 64 + index + 1

theorem room_cons {last now : UInt64} {rest : List UInt64} :
    Room last (now :: rest) ↔
      last.toNat + rest.length + 1 < 2 ^ 64 ∧ now.toNat + rest.length < 2 ^ 64 ∧
        ∀ index later, rest[index]? = some later →
          later.toNat + rest.length < 2 ^ 64 + index + 1 := by
  simp only [Room, List.length_cons, ← Nat.add_assoc]
  apply and_congr_right
  intro _
  constructor
  · intro room
    have first := room 0 now rfl
    refine ⟨by omega, ?_⟩
    intro index later given
    have next := room (index + 1) later (by simpa using given)
    omega
  · rintro ⟨first, room⟩ index later given
    cases index with
    | zero =>
        obtain rfl := Option.some.inj given
        omega
    | succ index =>
        have next := room index later (by simpa using given)
        omega

theorem toNat_succ {value : UInt64} (small : value.toNat + 1 < 2 ^ 64) :
    (value + 1).toNat = value.toNat + 1 := by
  rw [UInt64.toNat_add]
  exact Nat.mod_eq_of_lt small

theorem lt_succ_iff {last : UInt64} : last < last + 1 ↔ last.toNat + 1 < 2 ^ 64 := by
  have bound := last.toNat_lt
  rw [UInt64.lt_iff_toNat_lt, UInt64.toNat_add, show (1 : UInt64).toNat = 1 from rfl]
  omega

theorem stampsFrom_increasing (last : UInt64) (clock : List UInt64) :
    (last :: stampsFrom last clock).IsChain (· < ·) ↔ Room last clock := by
  induction clock generalizing last with
  | nil =>
      have bound := last.toNat_lt
      simp [stampsFrom, Room, bound]
  | cons now rest ih =>
      rw [stampsFrom, List.isChain_cons_cons, ih, room_cons]
      split
      · rename_i behind
        rw [UInt64.le_iff_toNat_le] at behind
        rw [lt_succ_iff]
        constructor
        · rintro ⟨small, room, later⟩
          rw [toNat_succ small] at room
          exact ⟨by omega, by omega, later⟩
        · rintro ⟨room, _, later⟩
          have small : last.toNat + 1 < 2 ^ 64 := by omega
          refine ⟨small, ?_, later⟩
          rw [toNat_succ small]
          omega
      · rename_i ahead
        rw [UInt64.not_le] at ahead
        have less := UInt64.lt_iff_toNat_lt.mp ahead
        constructor
        · rintro ⟨_, room, later⟩
          exact ⟨by omega, room, later⟩
        · rintro ⟨_, room, later⟩
          exact ⟨ahead, room, later⟩

def recordsFrom (counter last : UInt64) :
    List (OffloadBuffer Double Single) → List (FrameRecord Double Single)
  | [] => []
  | buffer :: rest =>
      let timestampNs := if buffer.now ≤ last then last + 1 else buffer.now
      { channelId := config.channelId
        imagePath := imagePath config buffer
        frameId := counter
        timestampNs := timestampNs
        detections := buffer.detections } :: recordsFrom (counter + 1) timestampNs rest

def offloaded (buffers : List (OffloadBuffer Double Single)) : List (OffloadBuffer Double Single) :=
  buffers.filter fun buffer => 0 ≤ imagePath config buffer

def logged (json : List UInt8) : List UInt8 :=
  if config.jsonlOutDir.getD [] ≠ [] ∧ opened then json ++ [0x0a] ++ (json ++ [0x0a]) else []

theorem serializeSceneSource_head (record : FrameRecord Double Single)
    (metaWidth metaHeight : UInt32) :
    (serializeSceneSource os record metaWidth metaHeight).take 3 = utf8 "\x7b\"s" := by
  simp only [serializeSceneSource, List.append_assoc]
  rw [List.take_append_of_le_length (by decide)]
  decide

theorem serialize_head (record : FrameRecord Double Single) :
    (serialize detectionText record).take 3 = utf8 "\x7b\"c" := by
  simp only [serialize, List.append_assoc]
  rw [List.take_append_of_le_length (by decide)]
  decide

theorem sceneText_ne_nil (record : FrameRecord Double Single) :
    sceneText os detectionText config record ≠ [] := by
  intro empty
  rw [sceneText] at empty
  split at empty
  · have head := serializeSceneSource_head os record config.metaWidth config.metaHeight
    rw [empty] at head
    exact absurd head (by decide)
  · have head := serialize_head detectionText record
    rw [empty] at head
    exact absurd head (by decide)

theorem chain_dropped {element : OffloadElement Double Single}
    {buffer : OffloadBuffer Double Single} (dropped : ¬0 ≤ imagePath config buffer) :
    chain os detectionText config opened element buffer = element := by
  simp only [chain]
  rw [if_pos (Int32.not_le.mp dropped)]

theorem writeSceneJsonl_eq (element : OffloadElement Double Single) {json : List UInt8}
    (some_text : json ≠ []) :
    (if config.jsonlOutDir.isSome ∧ json ≠ [] then element.writeSceneJsonl config opened json
      else element) =
      { element with jsonlFile := element.jsonlFile ++
          if config.jsonlOutDir.getD [] ≠ [] ∧ opened then json ++ [0x0a] else [] } := by
  cases directory : config.jsonlOutDir with
  | none => simp
  | some path =>
      simp only [Option.isSome_some, writeSceneJsonl, directory, Option.getD_some]
      split
      · split
        · simp
        · simp
      · rename_i unset
        exact absurd ⟨trivial, some_text⟩ unset

theorem chain_offloaded {element : OffloadElement Double Single}
    {buffer : OffloadBuffer Double Single} (kept : 0 ≤ imagePath config buffer) :
    let next := element.nextRecord config (imagePath config buffer) buffer
    let json := sceneText os detectionText config next.1
    chain os detectionText config opened element buffer =
      { next.2 with
        jsonlFile := element.jsonlFile ++ logged config opened json
        pushed := element.pushed ++ [json]
        records := element.records ++ [next.1] } := by
  intro next json
  have some_text : json ≠ [] := sceneText_ne_nil os detectionText config next.1
  simp only [chain]
  rw [if_neg (Int32.not_lt.mpr kept), writeSceneJsonl_eq config opened _ some_text,
    writeSceneJsonl_eq config opened _ some_text, List.append_assoc]
  have whole : (if config.jsonlOutDir.getD [] ≠ [] ∧ opened then json ++ [0x0a] else []) ++
      (if config.jsonlOutDir.getD [] ≠ [] ∧ opened then json ++ [0x0a] else []) =
        logged config opened json := by
    rw [logged]
    split
    · rfl
    · rfl
  rw [whole]
  rfl

theorem foldl_chain (buffers : List (OffloadBuffer Double Single))
    (element : OffloadElement Double Single) :
    let added := recordsFrom config element.localFrameCounter element.lastTimestampNs
      (offloaded config buffers)
    let final := buffers.foldl (chain os detectionText config opened) element
    final.records = element.records ++ added ∧
      final.pushed = element.pushed ++ added.map (sceneText os detectionText config) ∧
      final.jsonlFile = element.jsonlFile ++ (added.map (sceneText os detectionText config)).flatMap
        (logged config opened) := by
  induction buffers generalizing element with
  | nil => simp [offloaded, recordsFrom]
  | cons buffer buffers ih =>
      simp only [List.foldl_cons]
      by_cases kept : 0 ≤ imagePath config buffer
      · have later : offloaded config (buffer :: buffers) =
            buffer :: offloaded config buffers := by
          rw [offloaded, List.filter_cons_of_pos (by simpa using kept), offloaded]
        obtain ⟨records, pushed, file⟩ :=
          ih (chain os detectionText config opened element buffer)
        rw [chain_offloaded os detectionText config opened kept] at records pushed file ⊢
        rw [later, records, pushed, file]
        simp [recordsFrom, nextRecord]
      · have later : offloaded config (buffer :: buffers) = offloaded config buffers := by
          rw [offloaded, List.filter_cons_of_neg (by simpa using kept), offloaded]
        rw [chain_dropped os detectionText config opened kept, later]
        exact ih element

section Records

variable {config}

theorem recordsFrom_imagePath (counter last : UInt64)
    (buffers : List (OffloadBuffer Double Single)) :
    (recordsFrom config counter last buffers).map FrameRecord.imagePath =
      buffers.map (imagePath config) := by
  induction buffers generalizing counter last with
  | nil => rfl
  | cons buffer buffers ih => rw [recordsFrom, List.map_cons, List.map_cons, ih]

theorem recordsFrom_timestampNs (counter last : UInt64)
    (buffers : List (OffloadBuffer Double Single)) :
    (recordsFrom config counter last buffers).map FrameRecord.timestampNs =
      stampsFrom last (buffers.map OffloadBuffer.now) := by
  induction buffers generalizing counter last with
  | nil => rfl
  | cons buffer buffers ih => rw [recordsFrom, List.map_cons, List.map_cons, ih, stampsFrom]

theorem recordsFrom_length (counter last : UInt64)
    (buffers : List (OffloadBuffer Double Single)) :
    (recordsFrom config counter last buffers).length = buffers.length := by
  have paths : ((recordsFrom config counter last buffers).map FrameRecord.imagePath).length =
      (buffers.map (imagePath config)).length := by rw [recordsFrom_imagePath]
  simpa using paths

theorem recordsFrom_frameId {counter : UInt64} (last : UInt64)
    {buffers : List (OffloadBuffer Double Single)}
    (room : counter.toNat + buffers.length < 2 ^ 64) :
    (recordsFrom config counter last buffers).map (fun record => record.frameId.toNat) =
      List.range' counter.toNat buffers.length := by
  induction buffers generalizing counter last with
  | nil => rfl
  | cons buffer buffers ih =>
      rw [List.length_cons] at room ⊢
      have next : (counter + 1).toNat = counter.toNat + 1 := toNat_succ (by omega)
      rw [recordsFrom, List.map_cons, ih _ (by omega), next, List.range'_succ]

end Records

def submission (buffer : OffloadBuffer Double Single) : Option UInt32 :=
  if buffer.mapped then buffer.submitted else none

def accepted (buffers : List (OffloadBuffer Double Single)) : List (OffloadBuffer Double Single) :=
  buffers.filter fun buffer => (submission buffer).isSome

structure Ready : Prop where
  producer : config.producer = true
  wide : 0 < config.frameW
  high : 0 < config.frameH

section Slots

variable {config} {buffer : OffloadBuffer Double Single}

theorem imagePath_eq (ready : Ready config) :
    imagePath config buffer = ((submission buffer).map UInt32.toInt32).getD (-1) := by
  simp only [imagePath, submission, ready.producer, ready.wide, ready.high, true_and]
  split
  · cases buffer.submitted with
    | none => rfl
    | some slot => rfl
  · rfl

theorem toInt32_nonneg {slot : UInt32} : 0 ≤ slot.toInt32 ↔ slot.toNat < 2 ^ 31 := by
  have bound := slot.toNat_lt
  have whole : slot.toInt32.toInt = slot.toBitVec.toInt := rfl
  have digits : slot.toBitVec.toNat = slot.toNat := rfl
  rw [Int32.le_iff_toInt_le, show (0 : Int32).toInt = 0 from rfl, whole,
    BitVec.toInt_eq_toNat_cond, digits]
  split
  · omega
  · omega

theorem imagePath_nonneg (ready : Ready config) :
    0 ≤ imagePath config buffer ↔ ∃ slot ∈ submission buffer, slot.toNat < 2 ^ 31 := by
  rw [imagePath_eq ready]
  cases submission buffer with
  | none => simp
  | some slot => simp [toInt32_nonneg]

theorem offloaded_eq_accepted (ready : Ready config)
    {buffers : List (OffloadBuffer Double Single)}
    (small : ∀ slot ∈ buffers.filterMap submission, slot.toNat < 2 ^ 31) :
    offloaded config buffers = accepted buffers := by
  apply List.filter_congr
  intro buffer listed
  rw [Bool.eq_iff_iff, decide_eq_true_eq, imagePath_nonneg ready, Option.isSome_iff_exists]
  constructor
  · rintro ⟨slot, submitted, _⟩
    exact ⟨slot, submitted⟩
  · rintro ⟨slot, submitted⟩
    exact ⟨slot, submitted, small slot (List.mem_filterMap.mpr ⟨buffer, listed, submitted⟩)⟩

theorem offloaded_slots (ready : Ready config) (buffers : List (OffloadBuffer Double Single)) :
    (offloaded config buffers).map (fun buffer => (imagePath config buffer).toUInt32) =
      (buffers.filterMap submission).filter fun slot => slot.toNat < 2 ^ 31 := by
  induction buffers with
  | nil => rfl
  | cons buffer buffers ih =>
      by_cases kept : 0 ≤ imagePath config buffer
      · obtain ⟨slot, submitted, small⟩ := (imagePath_nonneg ready).mp kept
        rw [offloaded, List.filter_cons_of_pos (by simpa using kept), List.map_cons,
          ← offloaded, ih, List.filterMap_cons_some submitted,
          List.filter_cons_of_pos (by simpa using small), imagePath_eq ready, submitted]
        rfl
      · rw [offloaded, List.filter_cons_of_neg (by simpa using kept), ← offloaded, ih]
        cases submitted : submission buffer with
        | none => rw [List.filterMap_cons_none submitted]
        | some slot =>
            have large : ¬slot.toNat < 2 ^ 31 := fun small =>
              kept ((imagePath_nonneg ready).mpr ⟨slot, submitted, small⟩)
            rw [List.filterMap_cons_some submitted,
              List.filter_cons_of_neg (by simpa using large)]

theorem length_accepted (buffers : List (OffloadBuffer Double Single)) :
    (accepted buffers).length = (buffers.filterMap submission).length := by
  rw [accepted, ← List.countP_eq_length_filter, List.length_filterMap_eq_countP]

end Slots

structure InStep (buffers : List (OffloadBuffer Double Single))
    (element : OffloadElement Double Single) : Prop where
  texts : element.pushed = element.records.map fun record =>
    serializeSceneSource os record config.metaWidth config.metaHeight
  slots : element.records.map (fun record => record.imagePath.toUInt32) =
    buffers.filterMap submission
  named : ∀ record ∈ element.records, 0 ≤ record.imagePath
  frameIds : element.records.map (fun record => record.frameId.toNat) =
    List.range element.records.length
  increasing : (element.records.map FrameRecord.timestampNs).Pairwise (· < ·)
  log : config.jsonlOutDir.getD [] ≠ [] →
    element.jsonlFile = element.pushed.flatMap fun text => text ++ [0x0a]

structure Agreeing (buffers : List (OffloadBuffer Double Single)) : Prop where
  slots : ∀ slot ∈ buffers.filterMap submission, slot.toNat < 2 ^ 31
  scene : buffers.filterMap submission ≠ [] → config.sceneUpdateMqtt = true
  silent : config.jsonlOutDir.getD [] ≠ [] → buffers.filterMap submission = []
  room : Room 0 ((accepted buffers).map OffloadBuffer.now)

theorem run_eq (buffers : List (OffloadBuffer Double Single)) :
    let records := recordsFrom config 0 0 (offloaded config buffers)
    (run os detectionText config opened buffers).records = records ∧
      (run os detectionText config opened buffers).pushed =
        records.map (sceneText os detectionText config) ∧
      (run os detectionText config opened buffers).jsonlFile =
        (records.map (sceneText os detectionText config)).flatMap (logged config opened) :=
  foldl_chain os detectionText config opened buffers created

section Agreement

variable {os detectionText config opened}

theorem head_stampsFrom (clock : List UInt64) :
    ∀ stamp ∈ (stampsFrom 0 clock).head?, 0 < stamp := by
  intro stamp first
  cases clock with
  | nil => cases first
  | cons now rest =>
      obtain rfl := Option.some.inj first
      split
      · decide
      · rename_i ahead
        exact UInt64.not_le.mp ahead

theorem stampsFrom_pairwise (clock : List UInt64) :
    (stampsFrom 0 clock).Pairwise (· < ·) ↔ Room 0 clock := by
  rw [← stampsFrom_increasing, List.isChain_cons, ← List.isChain_iff_pairwise]
  exact (and_iff_right (head_stampsFrom clock)).symm

theorem length_flatMap_logged (texts : List (List UInt8)) :
    (texts.flatMap (logged config opened)).length =
      if config.jsonlOutDir.getD [] ≠ [] ∧ opened then
        2 * (texts.flatMap fun text => text ++ [0x0a]).length
      else 0 := by
  induction texts with
  | nil => simp
  | cons text texts ih =>
      rw [List.flatMap_cons, List.length_append, ih, List.flatMap_cons, List.length_append, logged]
      split
      · simp only [List.length_append]
        omega
      · rfl

/-- The log has every text twice, or none of them. -/
theorem logged_twice {texts : List (List UInt8)}
    (same : texts.flatMap (logged config opened) = texts.flatMap fun text => text ++ [0x0a]) :
    texts = [] := by
  have lengths := congrArg List.length same
  rw [length_flatMap_logged] at lengths
  cases texts with
  | nil => rfl
  | cons text texts =>
      have positive : 0 < ((text :: texts).flatMap fun text => text ++ [0x0a]).length := by
        simp
      split at lengths
      · omega
      · omega

theorem sceneText_scene (scene : config.sceneUpdateMqtt = true)
    (record : FrameRecord Double Single) :
    sceneText os detectionText config record =
      serializeSceneSource os record config.metaWidth config.metaHeight :=
  if_pos scene

theorem scene_of_sceneText {record : FrameRecord Double Single}
    (same : sceneText os detectionText config record =
      serializeSceneSource os record config.metaWidth config.metaHeight) :
    config.sceneUpdateMqtt = true := by
  by_contra plain
  rw [sceneText, if_neg plain] at same
  have heads := congrArg (List.take 3) same
  rw [serialize_head, serializeSceneSource_head] at heads
  exact absurd heads (by decide)

theorem recordsFrom_slots (ready : Ready config) (buffers : List (OffloadBuffer Double Single)) :
    (recordsFrom config 0 0 (offloaded config buffers)).map
        (fun record => record.imagePath.toUInt32) =
      (buffers.filterMap submission).filter fun slot => slot.toNat < 2 ^ 31 := by
  rw [← offloaded_slots ready, ← Function.comp_def Int32.toUInt32 FrameRecord.imagePath,
    ← List.map_map, recordsFrom_imagePath, List.map_map]
  rfl

theorem agreeing_of_inStep (ready : Ready config) {buffers : List (OffloadBuffer Double Single)}
    (inStep : InStep os config buffers (run os detectionText config opened buffers)) :
    Agreeing config buffers := by
  obtain ⟨records, pushed, file⟩ := run_eq os detectionText config opened buffers
  obtain ⟨texts, slots, _, _, increasing, log⟩ := inStep
  rw [records] at texts slots increasing
  rw [pushed] at texts log
  rw [recordsFrom_slots ready] at slots
  have small : ∀ slot ∈ buffers.filterMap submission, slot.toNat < 2 ^ 31 := by
    intro slot listed
    exact of_decide_eq_true (List.filter_eq_self.mp slots slot listed)
  have whole := offloaded_eq_accepted ready small
  have lengths : (recordsFrom config 0 0 (offloaded config buffers)).length =
      (buffers.filterMap submission).length := by
    rw [recordsFrom_length, whole, length_accepted]
  refine ⟨small, ?_, ?_, ?_⟩
  · intro submitted
    have some_record : recordsFrom config 0 0 (offloaded config buffers) ≠ [] := by
      rw [← List.length_pos_iff, lengths, List.length_pos_iff]
      exact submitted
    obtain ⟨record, listed⟩ := List.exists_mem_of_ne_nil _ some_record
    exact scene_of_sceneText (List.map_inj_left.mp texts record listed)
  · intro set
    have nothing := logged_twice (file.symm.trans (log set))
    rw [List.map_eq_nil_iff, ← List.length_eq_zero_iff, lengths, List.length_eq_zero_iff] at nothing
    exact nothing
  · rw [recordsFrom_timestampNs, stampsFrom_pairwise, whole] at increasing
    exact increasing

theorem inStep_of_agreeing (ready : Ready config) {buffers : List (OffloadBuffer Double Single)}
    (agreeing : Agreeing config buffers) :
    InStep os config buffers (run os detectionText config opened buffers) := by
  obtain ⟨records, pushed, file⟩ := run_eq os detectionText config opened buffers
  obtain ⟨small, scene, silent, room⟩ := agreeing
  have whole := offloaded_eq_accepted ready small
  have lengths : (recordsFrom config 0 0 (offloaded config buffers)).length =
      (buffers.filterMap submission).length := by
    rw [recordsFrom_length, whole, length_accepted]
  have sceneText_each : ∀ record ∈ recordsFrom config 0 0 (offloaded config buffers),
      sceneText os detectionText config record =
        serializeSceneSource os record config.metaWidth config.metaHeight := by
    intro record listed
    apply sceneText_scene
    apply scene
    rw [← List.length_pos_iff, ← lengths]
    exact List.length_pos_of_mem listed
  refine ⟨?_, ?_, ?_, ?_, ?_, ?_⟩
  · rw [pushed, records]
    exact List.map_congr_left sceneText_each
  · rw [records, recordsFrom_slots ready]
    exact List.filter_eq_self.mpr fun slot listed => decide_eq_true (small slot listed)
  · rw [records]
    intro record listed
    have path := List.mem_map_of_mem (f := FrameRecord.imagePath) listed
    rw [recordsFrom_imagePath] at path
    obtain ⟨buffer, kept, same⟩ := List.mem_map.mp path
    rw [← same]
    exact of_decide_eq_true (List.mem_filter.mp kept).2
  · have most : ((accepted buffers).map OffloadBuffer.now).length < 2 ^ 64 := by
      have first := room.1
      rw [show (0 : UInt64).toNat = 0 from rfl] at first
      omega
    rw [List.length_map] at most
    rw [records, recordsFrom_frameId, recordsFrom_length, List.range_eq_range']
    · rfl
    · rw [show (0 : UInt64).toNat = 0 from rfl, whole]
      omega
  · rw [records, recordsFrom_timestampNs, stampsFrom_pairwise, whole]
    exact room
  · intro set
    have nothing := silent set
    rw [← List.length_eq_zero_iff, ← lengths, List.length_eq_zero_iff] at nothing
    rw [file, pushed, nothing]
    rfl

/-- The outputs stay in step just if no directory is set or no frame is offloaded, the texts
are scene records, slots are positive as `int32_t`, and the clock leaves room. -/
theorem inStep_iff (ready : Ready config) (buffers : List (OffloadBuffer Double Single)) :
    InStep os config buffers (run os detectionText config opened buffers) ↔
      Agreeing config buffers :=
  ⟨agreeing_of_inStep ready, inStep_of_agreeing ready⟩

end Agreement

def sceneConfig (jsonlOutDir : Option (List UInt8)) : OffloadConfig :=
  ⟨1, true, true, 1920, 1080, jsonlOutDir, 1920, 1080⟩

def emptyFrame (submitted : Option UInt32) (now : UInt64) : OffloadBuffer Nat Nat :=
  ⟨true, submitted, [], now⟩

def noDetection (_ : DetectionRecord Nat Nat) : List UInt8 :=
  []

/-- The second frame finds no slot, and before the third the clock is set back. -/
theorem inStep_iff_unlogged :
    InStep Ostream.whole (sceneConfig none) [emptyFrame (some 1) 5, emptyFrame none 6,
      emptyFrame (some 0) 3] (run Ostream.whole noDetection (sceneConfig none) true
        [emptyFrame (some 1) 5, emptyFrame none 6, emptyFrame (some 0) 3]) := by
  refine (inStep_iff ⟨rfl, by decide, by decide⟩ _).mpr ⟨?_, fun _ => rfl, ?_, ?_⟩
  · exact List.forall_mem_cons.mpr ⟨by decide, List.forall_mem_singleton.mpr (by decide)⟩
  · exact fun set => absurd rfl set
  · exact (stampsFrom_pairwise _).mp (by decide)

def logDir : Option (List UInt8) :=
  some (utf8 "/tmp")

/-- One frame, one text, and the log has it twice. -/
theorem loggedTwice :
    (run Ostream.whole noDetection (sceneConfig logDir) true [emptyFrame (some 0) 1]).jsonlFile =
        ((run Ostream.whole noDetection (sceneConfig logDir) true
          [emptyFrame (some 0) 1]).pushed ++
        (run Ostream.whole noDetection (sceneConfig logDir) true
          [emptyFrame (some 0) 1]).pushed).flatMap (fun text => text ++ [0x0a]) ∧
      ¬InStep Ostream.whole (sceneConfig logDir) [emptyFrame (some 0) 1]
        (run Ostream.whole noDetection (sceneConfig logDir) true [emptyFrame (some 0) 1]) := by
  constructor
  · decide +kernel
  · intro inStep
    have agreeing := agreeing_of_inStep ⟨rfl, by decide, by decide⟩ inStep
    exact absurd (agreeing.silent (by decide)) (by decide)

end OffloadElement

end Iq9Pipeline.MultiCam
