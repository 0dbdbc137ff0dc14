import Iq9Pipeline.Foundation.JsonLexeme
import Iq9Pipeline.Foundation.Replacement

/-!
The configuration of the face module (`FaceConfigLoader.hpp`), which is read line by line without
a JSON parser. Where each line holds one member, the file is read as what it says: the last
member of a key counts, and a key without one keeps its value.
-/

namespace Iq9Pipeline.MultiCam

open Foundation Foundation.JsonText Foundation.Replacement

/-- How numbers are read and stored. `strtod` is `none` where it converts nothing. -/
structure FaceNumbers (Double Single : Type) where
  strtod : List UInt8 → Option Double
  single : Double → Single
  int : Double → Int32

structure FaceProcessorConfig (Single : Type) [OfScientific Single] where
  qnnBackend : List UInt8 := utf8 "/usr/lib/libQnnHtp.so"
  qnnSystem : List UInt8 := utf8 "/usr/lib/libQnnSystem.so"
  scrfdModel : List UInt8 := []
  arcfaceModel : List UInt8 := []
  openclKernelPath : List UInt8 := []
  confThreshold : Single := 0.5
  nmsThreshold : Single := 0.4
  maxFaces : Int32 := 32
deriving DecidableEq

inductive FaceConfigFault
  | cannotOpen (jsonPath : List UInt8)
  | scrfdModel
  | openclKernelPath
deriving DecidableEq

/-- What it prints. -/
def FaceConfigFault.message : FaceConfigFault → List UInt8
  | .cannotOpen jsonPath => utf8 "[FaceConfig] Cannot open: " ++ jsonPath
  | .scrfdModel => utf8 "[FaceConfig] 'scrfd_model' is required"
  | .openclKernelPath => utf8 "[FaceConfig] 'opencl_kernel_path' is required"

theorem FaceConfigFault.message_inj : Function.Injective FaceConfigFault.message := by
  have opened (jsonPath : List UInt8) :
      (FaceConfigFault.cannotOpen jsonPath).message.take 14 = utf8 "[FaceConfig] C" := by
    rw [message, List.take_append_of_le_length (by decide +kernel)]
    decide +kernel
  have scrfd : FaceConfigFault.scrfdModel.message.take 14 ≠ utf8 "[FaceConfig] C" := by
    decide +kernel
  have kernel : FaceConfigFault.openclKernelPath.message.take 14 ≠ utf8 "[FaceConfig] C" := by
    decide +kernel
  have apart : FaceConfigFault.scrfdModel.message ≠ FaceConfigFault.openclKernelPath.message := by
    decide +kernel
  intro first second same
  cases first <;> cases second
  case cannotOpen.cannotOpen => exact congrArg _ (List.append_cancel_left same)
  case scrfdModel.scrfdModel | openclKernelPath.openclKernelPath => rfl
  case scrfdModel.openclKernelPath => exact absurd same apart
  case openclKernelPath.scrfdModel => exact absurd same.symm apart
  case cannotOpen.scrfdModel jsonPath => exact absurd (same ▸ opened jsonPath) scrfd
  case cannotOpen.openclKernelPath jsonPath => exact absurd (same ▸ opened jsonPath) kernel
  case scrfdModel.cannotOpen jsonPath => exact absurd (same ▸ opened jsonPath) scrfd
  case openclKernelPath.cannotOpen jsonPath => exact absurd (same ▸ opened jsonPath) kernel

/-- The keys with a text, in the order in which a line is asked for them. -/
inductive TextKey
  | scrfdModel
  | arcfaceModel
  | openclKernelPath
  | qnnBackend
  | qnnSystem
deriving DecidableEq

inductive NumberKey
  | confThreshold
  | nmsThreshold
  | maxFaces
deriving DecidableEq

namespace TextKey

def all : List TextKey :=
  [scrfdModel, arcfaceModel, openclKernelPath, qnnBackend, qnnSystem]

def name : TextKey → List UInt8
  | scrfdModel => utf8 "scrfd_model"
  | arcfaceModel => utf8 "arcface_model"
  | openclKernelPath => utf8 "opencl_kernel_path"
  | qnnBackend => utf8 "qnn_backend"
  | qnnSystem => utf8 "qnn_system"

end TextKey

namespace NumberKey

def all : List NumberKey :=
  [confThreshold, nmsThreshold, maxFaces]

def name : NumberKey → List UInt8
  | confThreshold => utf8 "conf_threshold"
  | nmsThreshold => utf8 "nms_threshold"
  | maxFaces => utf8 "max_faces"

end NumberKey

namespace FaceConfigLoader

def isBlank (byte : UInt8) : Bool :=
  byte = 0x20 || byte = 0x09

def behindKey (line name : List UInt8) : Option (List UInt8) := do
  let (_, rest) ← line.dropInfix? (quoted 0x22 name)
  let (_, rest) ← rest.dropInfix? [0x3a]
  some rest

def parseJsonString (line name : List UInt8) : Option (List UInt8) := do
  let (_, rest) ← (← behindKey line name).dropInfix? [0x22]
  let (value, _) ← rest.dropInfix? [0x22]
  some value

variable {Double Single : Type} (numbers : FaceNumbers Double Single)

def parseJsonNumber (line name : List UInt8) : Option Double := do
  numbers.strtod ((← behindKey line name).dropWhile isBlank)

def resolvePath (configDir path : List UInt8) : List UInt8 :=
  if path = [] ∨ path.head? = some 0x2f then path else configDir ++ 0x2f :: path

def dirOf (path : List UInt8) : List UInt8 :=
  match path.reverse.dropWhile (· ≠ 0x2f) with
  | [] => utf8 "."
  | _ :: dir => dir.reverse

def getLines : List UInt8 → List (List UInt8)
  | [] => []
  | byte :: rest =>
      if byte = 0x0a then [] :: getLines rest
      else match getLines rest with
        | [] => [[byte]]
        | line :: lines => (byte :: line) :: lines

def storedText (configDir : List UInt8) : TextKey → List UInt8 → List UInt8
  | .scrfdModel, value | .arcfaceModel, value | .openclKernelPath, value =>
      resolvePath configDir value
  | .qnnBackend, value | .qnnSystem, value => value

variable [OfScientific Single]

def setText (configDir : List UInt8) (config : FaceProcessorConfig Single) (key : TextKey)
    (value : List UInt8) : FaceProcessorConfig Single :=
  let stored := storedText configDir key value
  match key with
  | .scrfdModel => { config with scrfdModel := stored }
  | .arcfaceModel => { config with arcfaceModel := stored }
  | .openclKernelPath => { config with openclKernelPath := stored }
  | .qnnBackend => { config with qnnBackend := stored }
  | .qnnSystem => { config with qnnSystem := stored }

def setNumber (config : FaceProcessorConfig Single) (key : NumberKey) (num : Double) :
    FaceProcessorConfig Single :=
  match key with
  | .confThreshold => { config with confThreshold := numbers.single num }
  | .nmsThreshold => { config with nmsThreshold := numbers.single num }
  | .maxFaces => { config with maxFaces := numbers.int num }

def readLine (configDir : List UInt8) (config : FaceProcessorConfig Single)
    (line : List UInt8) : FaceProcessorConfig Single :=
  let text := TextKey.all.findSome? fun key =>
    (parseJsonString line key.name).map (setText configDir config key)
  let number := NumberKey.all.findSome? fun key =>
    (parseJsonNumber numbers line key.name).map (setNumber numbers config key)
  (text.or number).getD config

/-- `LoadFaceConfig`. `file` is what the file holds, `none` where it cannot be opened. What has
been read stays in the configuration where a required key is missing. -/
def loadFaceConfig (jsonPath : List UInt8) (file : Option (List UInt8))
    (config : FaceProcessorConfig Single) : Option FaceConfigFault × FaceProcessorConfig Single :=
  match file with
  | none => (some (.cannotOpen jsonPath), config)
  | some text =>
      let config := (getLines text).foldl (readLine numbers (dirOf jsonPath)) config
      if config.scrfdModel.isEmpty then (some .scrfdModel, config)
      else if config.openclKernelPath.isEmpty then (some .openclKernelPath, config)
      else (none, config)

end FaceConfigLoader

inductive FaceMember (Double : Type)
  | text (key : TextKey) (value : List UInt8)
  | number (key : NumberKey) (num : Double)
deriving DecidableEq

section

variable {Double Single : Type} [OfScientific Single]

def FaceMember.textOf (key : TextKey) : FaceMember Double → Option (List UInt8)
  | .text other value => if other = key then some value else none
  | .number _ _ => none

def FaceMember.numberOf (key : NumberKey) : FaceMember Double → Option Double
  | .number other num => if other = key then some num else none
  | .text _ _ => none

def FaceProcessorConfig.text (config : FaceProcessorConfig Single) : TextKey → List UInt8
  | .scrfdModel => config.scrfdModel
  | .arcfaceModel => config.arcfaceModel
  | .openclKernelPath => config.openclKernelPath
  | .qnnBackend => config.qnnBackend
  | .qnnSystem => config.qnnSystem

def FaceProcessorConfig.number (config : FaceProcessorConfig Single) : NumberKey → Single ⊕ Int32
  | .confThreshold => .inl config.confThreshold
  | .nmsThreshold => .inl config.nmsThreshold
  | .maxFaces => .inr config.maxFaces

end

namespace FaceConfigLoader

variable {Double Single : Type} (numbers : FaceNumbers Double Single)

def storedNumber (key : NumberKey) (num : Double) : Single ⊕ Int32 :=
  match key with
  | .confThreshold | .nmsThreshold => .inl (numbers.single num)
  | .maxFaces => .inr (numbers.int num)

def names : List (List UInt8) :=
  TextKey.all.map TextKey.name ++ NumberKey.all.map NumberKey.name

def memberLine (indent name gap rest : List UInt8) : List UInt8 :=
  indent ++ 0x22 :: (name ++ 0x22 :: (gap ++ 0x3a :: rest))

/-- What a line says: a member, with nothing else in quotes, or nothing. A text that is a key would
be read as one. -/
inductive LineSays : List UInt8 → Option (FaceMember Double) → Prop
  | text (indent : List UInt8) (key : TextKey) (gap between value rest : List UInt8) :
      0x22 ∉ indent → 0x22 ∉ gap → 0x3a ∉ gap → 0x22 ∉ between → 0x22 ∉ value → value ∉ names →
      0x22 ∉ rest →
      LineSays (memberLine indent key.name gap (between ++ 0x22 :: (value ++ 0x22 :: rest)))
        (some (.text key value))
  | number (indent : List UInt8) (key : NumberKey) (gap word : List UInt8) (num : Double) :
      0x22 ∉ indent → 0x22 ∉ gap → 0x3a ∉ gap → 0x22 ∉ word →
      numbers.strtod (word.dropWhile isBlank) = some num →
      LineSays (memberLine indent key.name gap word) (some (.number key num))
  | silent (line : List UInt8) : (∀ name ∈ names, ¬ quoted 0x22 name <:+: line) →
      LineSays line none

variable [OfScientific Single]

/-- The last member of each key counts. -/
structure Reads (configDir : List UInt8) (members : List (FaceMember Double))
    (before after : FaceProcessorConfig Single) : Prop where
  text : ∀ key, after.text key = ((members.filterMap (FaceMember.textOf key)).getLast?.map
    (storedText configDir key)).getD (before.text key)
  number : ∀ key, after.number key = ((members.filterMap (FaceMember.numberOf key)).getLast?.map
    (storedNumber numbers key)).getD (before.number key)

theorem plain_name : ∀ name ∈ names, 0x22 ∉ name ∧ 0x3a ∉ name := by
  decide +kernel

theorem TextKey.mem_names (key : TextKey) : key.name ∈ names := by
  cases key <;> decide +kernel

theorem NumberKey.mem_names (key : NumberKey) : key.name ∈ names := by
  cases key <;> decide +kernel

theorem TextKey.mem_all (key : TextKey) : key ∈ TextKey.all := by
  cases key <;> decide

theorem NumberKey.mem_all (key : NumberKey) : key ∈ NumberKey.all := by
  cases key <;> decide

theorem TextKey.name_inj : ∀ key ∈ TextKey.all, ∀ other ∈ TextKey.all,
    key.name = other.name → key = other := by
  decide +kernel

theorem NumberKey.name_inj : ∀ key ∈ NumberKey.all, ∀ other ∈ NumberKey.all,
    key.name = other.name → key = other := by
  decide +kernel

theorem name_apart : ∀ key ∈ TextKey.all, ∀ other ∈ NumberKey.all, key.name ≠ other.name := by
  decide +kernel

section Lines

variable {indent gap between value rest word name line : List UInt8}

theorem behindKey_memberLine (listed : name ∈ names) (before : 0x22 ∉ indent)
    (colon : 0x3a ∉ gap) : behindKey (memberLine indent name gap rest) name = some rest := by
  rw [behindKey, memberLine, dropInfix?_quoted (plain_name name listed).1 before]
  simp [dropInfix?_symbol colon]

theorem behindKey_none (absent : ¬ quoted 0x22 name <:+: line) : behindKey line name = none := by
  rw [behindKey, dropInfix?_eq_none_iff.mpr absent]
  rfl

theorem quoted_infix_numberLine (listed : name ∈ names) {other : List UInt8}
    (key : other ∈ names) (before : 0x22 ∉ indent) (behind : 0x22 ∉ gap) (plain : 0x22 ∉ word) :
    quoted 0x22 name <:+: memberLine indent other gap word ↔ name = other := by
  have free : 0x22 ∉ gap ++ 0x3a :: word := by simpa [not_or] using ⟨behind, plain⟩
  have unquoted : ¬ quoted 0x22 name <:+: gap ++ 0x3a :: word := not_quoted_infix free
  have ended : ¬ name ++ [0x22] <+: gap ++ 0x3a :: word := fun here =>
    free (here.subset (List.mem_append_right _ List.mem_cons_self))
  rw [memberLine, quoted_infix_iff before,
    word_prefix_iff (plain_name name listed).1 (plain_name other key).1,
    quoted_infix_iff (plain_name other key).1]
  simp only [unquoted, ended, or_false]

theorem quoted_infix_textLine (listed : name ∈ names) {other : List UInt8}
    (key : other ∈ names) (before : 0x22 ∉ indent) (behind : 0x22 ∉ gap)
    (parted : 0x22 ∉ between) (plain : 0x22 ∉ value) (after : 0x22 ∉ rest) :
    quoted 0x22 name <:+:
        memberLine indent other gap (between ++ 0x22 :: (value ++ 0x22 :: rest)) ↔
      name = other ∨ name = value := by
  have free : 0x22 ∉ gap ++ 0x3a :: between := by simpa [not_or] using ⟨behind, parted⟩
  have unquoted : ¬ quoted 0x22 name <:+: rest := not_quoted_infix after
  have ended : ¬ name ++ [0x22] <+: rest := fun here =>
    after (here.subset (List.mem_append_right _ List.mem_cons_self))
  have word : name ≠ gap ++ 0x3a :: between := fun same =>
    (plain_name name listed).2 (same ▸ List.mem_append_right _ List.mem_cons_self)
  have whole : gap ++ 0x3a :: (between ++ 0x22 :: (value ++ 0x22 :: rest)) =
      (gap ++ 0x3a :: between) ++ 0x22 :: (value ++ 0x22 :: rest) := by simp
  have self := (plain_name name listed).1
  rw [memberLine, whole, quoted_infix_iff before, word_prefix_iff self (plain_name other key).1,
    quoted_infix_iff (plain_name other key).1, word_prefix_iff self free, quoted_infix_iff free,
    word_prefix_iff self plain, quoted_infix_iff plain]
  simp only [unquoted, ended, word, or_false, false_or]

theorem parseJsonString_textLine (listed : name ∈ names) (before : 0x22 ∉ indent)
    (colon : 0x3a ∉ gap) (parted : 0x22 ∉ between) (plain : 0x22 ∉ value) :
    parseJsonString (memberLine indent name gap (between ++ 0x22 :: (value ++ 0x22 :: rest)))
      name = some value := by
  rw [parseJsonString, behindKey_memberLine listed before colon]
  simp [dropInfix?_symbol parted, dropInfix?_symbol plain]

theorem findSome?_of_unique {Item Result : Type} {items : List Item}
    {find : Item → Option Result} {item : Item} {result : Result} (listed : item ∈ items)
    (self : find item = some result) (others : ∀ other ∈ items, other ≠ item → find other = none) :
    items.findSome? find = some result := by
  induction items with
  | nil => cases listed
  | cons first more ih =>
      by_cases here : first = item
      · rw [List.findSome?_cons, here, self]
      · rw [List.findSome?_cons, others first List.mem_cons_self here]
        exact ih ((List.mem_cons.mp listed).resolve_left (Ne.symm here))
          fun other inside => others other (List.mem_cons_of_mem _ inside)

theorem parseJsonString_none (absent : ¬ quoted 0x22 name <:+: line) :
    parseJsonString line name = none := by
  rw [parseJsonString, behindKey_none absent]
  rfl

omit [OfScientific Single] in
theorem parseJsonNumber_none (absent : ¬ quoted 0x22 name <:+: line) :
    parseJsonNumber numbers line name = none := by
  rw [parseJsonNumber, behindKey_none absent]
  rfl

theorem findSome?_text_none {Result : Type} {set : TextKey → List UInt8 → Result}
    (absent : ∀ key : TextKey, ¬ quoted 0x22 key.name <:+: line) :
    TextKey.all.findSome? (fun key => (parseJsonString line key.name).map (set key)) = none := by
  rw [List.findSome?_eq_none_iff]
  intro key _
  rw [parseJsonString_none (absent key)]
  rfl

omit [OfScientific Single] in
theorem findSome?_number_none {Result : Type} {set : NumberKey → Double → Result}
    (absent : ∀ key : NumberKey, ¬ quoted 0x22 key.name <:+: line) :
    NumberKey.all.findSome? (fun key => (parseJsonNumber numbers line key.name).map (set key)) =
      none := by
  rw [List.findSome?_eq_none_iff]
  intro key _
  rw [parseJsonNumber_none numbers (absent key)]
  rfl

def applied (configDir : List UInt8) (config : FaceProcessorConfig Single) : FaceMember Double →
    FaceProcessorConfig Single
  | .text key value => setText configDir config key value
  | .number key num => setNumber numbers config key num

variable {numbers} {configDir : List UInt8} {config : FaceProcessorConfig Single}

theorem readLine_says {said : Option (FaceMember Double)} (saying : LineSays numbers line said) :
    readLine numbers configDir config line =
      said.elim config (applied numbers configDir config) := by
  cases saying with
  | text indent key gap between value rest before behind colon parted plain apart after =>
      have only (other : TextKey) (different : other ≠ key) := (quoted_infix_textLine
        (TextKey.mem_names other) (TextKey.mem_names key) before behind parted plain
          after).not.mpr (not_or.mpr ⟨fun same => different (TextKey.name_inj other
            (TextKey.mem_all other) key (TextKey.mem_all key) same),
              fun same => apart (same ▸ TextKey.mem_names other)⟩)
      have found : TextKey.all.findSome? (fun other => (parseJsonString (memberLine indent
          key.name gap (between ++ 0x22 :: (value ++ 0x22 :: rest))) other.name).map
            (setText configDir config other)) = some (setText configDir config key value) := by
        refine findSome?_of_unique (TextKey.mem_all key) ?_ fun other _ different => ?_
        · rw [parseJsonString_textLine (TextKey.mem_names key) before colon parted plain]
          rfl
        · rw [parseJsonString_none (only other different)]
          rfl
      rw [readLine, found]
      rfl
  | number indent key gap word num before behind colon plain converts =>
      have no_text (other : TextKey) := (quoted_infix_numberLine (TextKey.mem_names other)
        (NumberKey.mem_names key) before behind plain).not.mpr (name_apart other
          (TextKey.mem_all other) key (NumberKey.mem_all key))
      have only (other : NumberKey) (different : other ≠ key) := (quoted_infix_numberLine
        (NumberKey.mem_names other) (NumberKey.mem_names key) before behind plain).not.mpr
          fun same => different (NumberKey.name_inj other (NumberKey.mem_all other) key
            (NumberKey.mem_all key) same)
      have found : NumberKey.all.findSome? (fun other => (parseJsonNumber numbers
          (memberLine indent key.name gap word) other.name).map (setNumber numbers config other)) =
            some (setNumber numbers config key num) := by
        refine findSome?_of_unique (NumberKey.mem_all key) ?_ fun other _ different => ?_
        · rw [parseJsonNumber, behindKey_memberLine (NumberKey.mem_names key) before colon]
          simp [converts]
        · rw [parseJsonNumber_none numbers (only other different)]
          rfl
      rw [readLine, findSome?_text_none no_text, found]
      rfl
  | silent line silence =>
      have no_text (key : TextKey) := silence key.name (TextKey.mem_names key)
      have no_number (key : NumberKey) := silence key.name (NumberKey.mem_names key)
      rw [readLine, findSome?_text_none no_text, findSome?_number_none numbers no_number]
      rfl

theorem foldl_readLine {lines : List (List UInt8)} {said : List (Option (FaceMember Double))}
    (saying : List.Forall₂ (LineSays numbers) lines said) (config : FaceProcessorConfig Single) :
    lines.foldl (readLine numbers configDir) config =
      said.reduceOption.foldl (applied numbers configDir) config := by
  induction saying generalizing config with
  | nil => rfl
  | @cons line member lines said first later ih =>
      rw [List.foldl_cons, ih, readLine_says first]
      cases member <;> rfl

end Lines

section Members

variable {numbers} {configDir : List UInt8}

theorem text_applied (config : FaceProcessorConfig Single) (member : FaceMember Double)
    (key : TextKey) : (applied numbers configDir config member).text key =
      ((member.textOf key).map (storedText configDir key)).getD (config.text key) := by
  cases member with
  | number other num => cases other <;> cases key <;> rfl
  | text other value =>
      by_cases same : other = key
      · subst same
        rw [FaceMember.textOf, if_pos rfl]
        cases other <;> rfl
      · rw [FaceMember.textOf, if_neg same]
        cases other <;> cases key <;> first | exact absurd rfl same | rfl

theorem number_applied (config : FaceProcessorConfig Single) (member : FaceMember Double)
    (key : NumberKey) : (applied numbers configDir config member).number key =
      ((member.numberOf key).map (storedNumber numbers key)).getD (config.number key) := by
  cases member with
  | text other value => cases other <;> cases key <;> rfl
  | number other num =>
      by_cases same : other = key
      · subst same
        rw [FaceMember.numberOf, if_pos rfl]
        cases other <;> rfl
      · rw [FaceMember.numberOf, if_neg same]
        cases other <;> cases key <;> first | exact absurd rfl same | rfl

end Members

theorem reads_foldl (configDir : List UInt8) (members : List (FaceMember Double))
    (config : FaceProcessorConfig Single) :
    Reads numbers configDir members config (members.foldl (applied numbers configDir) config) := by
  induction members using List.reverseRecOn with
  | nil => exact ⟨fun _ => rfl, fun _ => rfl⟩
  | append_singleton before last ih =>
      rw [List.foldl_append, List.foldl_cons, List.foldl_nil]
      constructor
      · intro key
        rw [List.filterMap_append, List.getLast?_append, text_applied, ih.text key]
        cases said : last.textOf key <;> simp [said]
      · intro key
        rw [List.filterMap_append, List.getLast?_append, number_applied, ih.number key]
        cases said : last.numberOf key <;> simp [said]

/-- A file whose lines say one member each, or nothing, is read as what it says, and is accepted
if the two keys that have to be there are set. -/
theorem loadFaceConfig_reads {text : List UInt8} {said : List (Option (FaceMember Double))}
    (saying : List.Forall₂ (LineSays numbers) (getLines text) said) (jsonPath : List UInt8)
    (config : FaceProcessorConfig Single) :
    let answer := loadFaceConfig numbers jsonPath (some text) config
    Reads numbers (dirOf jsonPath) said.reduceOption config answer.2 ∧
      (answer.1 = none ↔ answer.2.scrfdModel ≠ [] ∧ answer.2.openclKernelPath ≠ []) ∧
      (answer.1 = some .scrfdModel ↔ answer.2.scrfdModel = []) := by
  have read : (getLines text).foldl (readLine numbers (dirOf jsonPath)) config =
      said.reduceOption.foldl (applied numbers (dirOf jsonPath)) config :=
    foldl_readLine saying config
  have reads := reads_foldl numbers (dirOf jsonPath) said.reduceOption config
  rw [← read] at reads
  simp only [loadFaceConfig]
  generalize (getLines text).foldl (readLine numbers (dirOf jsonPath)) config = final at reads
  split
  · rename_i empty
    have missing : final.scrfdModel = [] := List.isEmpty_iff.mp empty
    exact ⟨reads, by simp [missing], by simp [missing]⟩
  · rename_i filled
    have present : final.scrfdModel ≠ [] := mt List.isEmpty_iff.mpr filled
    split
    · rename_i empty
      have missing : final.openclKernelPath = [] := List.isEmpty_iff.mp empty
      exact ⟨reads, by simp [missing], by simp [present]⟩
    · rename_i path
      exact ⟨reads, by simpa [present] using path, by simp [present]⟩

section Missing

variable {numbers} {configDir : List UInt8}

def unset (value : List UInt8) : Nat :=
  if value.isEmpty then 1 else 0

def missing (config : FaceProcessorConfig Single) : Nat :=
  unset config.scrfdModel + unset config.openclKernelPath

theorem unset_le_one (value : List UInt8) : unset value ≤ 1 := by
  rw [unset]
  split <;> decide

theorem readLine_cases (config : FaceProcessorConfig Single) (line : List UInt8) :
    readLine numbers configDir config line = config ∨ ∃ member,
      readLine numbers configDir config line = applied numbers configDir config member := by
  rw [readLine]
  cases text : TextKey.all.findSome? fun key =>
      (parseJsonString line key.name).map (setText configDir config key) with
  | some result =>
      obtain ⟨key, _, found⟩ := List.exists_of_findSome?_eq_some text
      obtain ⟨value, _, rfl⟩ := Option.map_eq_some_iff.mp found
      exact .inr ⟨.text key value, rfl⟩
  | none =>
      cases number : NumberKey.all.findSome? fun key =>
          (parseJsonNumber numbers line key.name).map (setNumber numbers config key) with
      | some result =>
          obtain ⟨key, _, found⟩ := List.exists_of_findSome?_eq_some number
          obtain ⟨num, _, rfl⟩ := Option.map_eq_some_iff.mp found
          exact .inr ⟨.number key num, rfl⟩
      | none => exact .inl rfl

theorem missing_readLine (config : FaceProcessorConfig Single) (line : List UInt8) :
    missing config ≤ missing (readLine numbers configDir config line) + 1 := by
  rcases @readLine_cases _ _ numbers _ configDir config line with same | ⟨member, set⟩
  · rw [same]
    exact Nat.le_succ _
  · rw [set]
    have model := unset_le_one config.scrfdModel
    have path := unset_le_one config.openclKernelPath
    cases member with
    | number key num => cases key <;> exact Nat.le_succ _
    | text key value => cases key <;> simp only [applied, setText, missing] <;> omega

theorem missing_foldl (lines : List (List UInt8)) (config : FaceProcessorConfig Single) :
    missing config ≤ missing (lines.foldl (readLine numbers configDir) config) + lines.length := by
  induction lines generalizing config with
  | nil => exact Nat.le_refl _
  | cons line lines ih =>
      have first := @missing_readLine _ _ numbers _ configDir config line
      have others := ih (readLine numbers configDir config line)
      rw [List.foldl_cons, List.length_cons]
      omega

end Missing

/-- A line gives one key its value at most, so that a file on one line, though it may be JSON, is
never accepted where both keys that have to be there are without a value. -/
theorem missing_le_lines {jsonPath text : List UInt8} {config : FaceProcessorConfig Single}
    (accepted : (loadFaceConfig numbers jsonPath (some text) config).1 = none) :
    missing config ≤ (getLines text).length := by
  have bound := @missing_foldl _ _ numbers _ (dirOf jsonPath) (getLines text) config
  rw [loadFaceConfig] at accepted
  generalize (getLines text).foldl (readLine numbers (dirOf jsonPath)) config = final at *
  have none_missing : missing final = 0 := by
    rw [missing]
    split at accepted
    · cases accepted
    · split at accepted
      · cases accepted
      · rename_i model path
        rw [unset, unset, if_neg model, if_neg path]
  omega

def wholeNumbers : FaceNumbers Rat Rat where
  strtod := fun word =>
    let digits := word.takeWhile isDigit
    if digits = [] then none else some (ofDecimal digits : Nat)
  single := id
  int := fun num => Int32.ofInt num.floor

def faceFile : List UInt8 :=
  utf8 "\x7b\n  \"scrfd_model\": \"det.bin\",\n  \"opencl_kernel_path\" : \"/k\",\n" ++
    utf8 "  \"max_faces\": 8\n\x7d\n"

theorem getLines_faceFile : getLines faceFile = [utf8 "\x7b",
    memberLine (utf8 "  ") TextKey.scrfdModel.name []
      (utf8 " " ++ 0x22 :: (utf8 "det.bin" ++ 0x22 :: utf8 ",")),
    memberLine (utf8 "  ") TextKey.openclKernelPath.name (utf8 " ")
      (utf8 " " ++ 0x22 :: (utf8 "/k" ++ 0x22 :: utf8 ",")),
    memberLine (utf8 "  ") NumberKey.maxFaces.name [] (utf8 " 8"), utf8 "\x7d"] := by
  decide +kernel

theorem loadFaceConfig_reads_file :
    let answer := loadFaceConfig wholeNumbers (utf8 "/etc/face.json") (some faceFile) {}
    Reads wholeNumbers (dirOf (utf8 "/etc/face.json")) [.text .scrfdModel (utf8 "det.bin"),
        .text .openclKernelPath (utf8 "/k"), .number .maxFaces 8] {} answer.2 ∧
      (answer.1 = none ↔ answer.2.scrfdModel ≠ [] ∧ answer.2.openclKernelPath ≠ []) ∧
      (answer.1 = some .scrfdModel ↔ answer.2.scrfdModel = []) := by
  have saying : List.Forall₂ (LineSays wholeNumbers) (getLines faceFile) [none,
      some (.text .scrfdModel (utf8 "det.bin")), some (.text .openclKernelPath (utf8 "/k")),
      some (.number .maxFaces 8), none] := by
    rw [getLines_faceFile]
    refine .cons (.silent _ ?_) (.cons (.text _ _ _ _ _ _ ?_ ?_ ?_ ?_ ?_ ?_ ?_)
      (.cons (.text _ _ _ _ _ _ ?_ ?_ ?_ ?_ ?_ ?_ ?_) (.cons (.number _ _ _ _ _ ?_ ?_ ?_ ?_ ?_)
        (.cons (.silent _ ?_) .nil)))) <;> decide +kernel
  exact loadFaceConfig_reads wholeNumbers saying (utf8 "/etc/face.json") {}

theorem missing_le_lines_file :
    missing ({} : FaceProcessorConfig Rat) ≤ (getLines faceFile).length :=
  missing_le_lines wholeNumbers (show (loadFaceConfig wholeNumbers (utf8 "/etc/face.json")
    (some faceFile) {}).1 = none by decide +kernel)

end FaceConfigLoader

end Iq9Pipeline.MultiCam
