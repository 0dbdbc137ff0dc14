import Iq9Pipeline.Foundation.Handles
import Iq9Pipeline.Vision.InputTensors
import Mathlib.Algebra.BigOperators.Group.List.Basic
import Mathlib.Data.Multiset.OrderedMonoid
import Mathlib.Tactic.Abel

/-!
The memory of a request to the vision server (`veg_server_combined.cpp`): the copies of the
graph's tensors, their buffers, and what is given back on each way out. The server runs for
long, so what a request does not give back adds up. The allocator is free in its answers.
-/

namespace Iq9Pipeline.Vision.TensorMemory

open Foundation HandleCall InputTensors

/-- A tensor of the graph, with the number of its scales for a quantization along an axis. A
tensor without dimensions has the rank zero. -/
structure GraphTensor where
  tensor : QnnTensor
  numScaleOffsets : UInt32

structure GraphInfo where
  inputTensors : List GraphTensor
  outputTensors : List GraphTensor

structure TensorCopy where
  name : Option Nat := none
  scaleOffset : Option Nat := none
  dimensions : Option Nat := none
  clientBuf : Option Nat := none

/-- What the allocator answers for a tensor; `none` is a null pointer. -/
structure CopyAnswers where
  name : Option Nat
  scaleOffset : Option Nat
  dimensions : Option Nat
  data : Option Nat

structure TensorArray where
  array : Option Nat := none
  tensors : List TensorCopy := []

structure Locals where
  inputs : TensorArray := {}
  outputs : TensorArray := {}

inductive Ending
  | failed
  | extracted
  /-- The vector of the embeddings does not get its memory. -/
  | thrown
deriving DecidableEq

structure Request where
  preprocessed : Option PreprocessedData
  inputArray : Option Nat
  mapped : Bool
  inputs : Nat → CopyAnswers
  outputArray : Option Nat
  outputs : Nat → CopyAnswers
  ending : Ending

namespace GraphTensor

def hasScales (info : GraphTensor) : Bool :=
  match info.tensor.quantizeParams with
  | .scaleOffset _ _ => false
  | .other => 0 < info.numScaleOffsets

def hasRank (info : GraphTensor) : Bool :=
  info.tensor.dimensions.any fun dims => !dims.isEmpty

end GraphTensor

namespace TensorCopy

def allocate (wanted : Bool) (answer : Option Nat) (set : Nat → TensorCopy) (copy : TensorCopy) :
    Staged TensorCopy Nat :=
  if wanted then (Staged.obtain answer id set copy).tolerate else Staged.check true copy

def deepCopy (info : GraphTensor) (answers : CopyAnswers) : Staged TensorCopy Nat :=
  (allocate info.tensor.name.isSome answers.name (fun block => { name := some block })
    {}).andThen fun copy =>
  (allocate info.hasScales answers.scaleOffset
    (fun block => { copy with scaleOffset := some block }) copy).andThen fun copy =>
  allocate info.hasRank answers.dimensions
    (fun block => { copy with dimensions := some block }) copy

def freeData (copy : TensorCopy) : Staged TensorCopy Nat where
  object := { copy with clientBuf := none }
  calls := Staged.giveBack copy.clientBuf id
  ok := true

def takeData (answers : CopyAnswers) (copy : TensorCopy) : Staged TensorCopy Nat :=
  Staged.obtain answers.data id (fun block => { copy with clientBuf := some block }) copy

def prepareInput (preprocessed : PreprocessedData) (info : GraphTensor) (answers : CopyAnswers) :
    Staged TensorCopy Nat :=
  (deepCopy info answers).andThen fun copy =>
  (Staged.check (calculateTensorSize info.tensor != 0) copy).andThen fun copy =>
  (Staged.check (info.tensor.name.any fun name => ((dataMap preprocessed).lookup name).isSome)
    copy).andThen fun copy =>
  (takeData answers copy).andThen fun copy =>
  (Staged.check (conversion info.tensor).isSome copy).orElse freeData

def prepareOutput (info : GraphTensor) (answers : CopyAnswers) : Staged TensorCopy Nat :=
  (deepCopy info answers).andThen fun copy =>
  (Staged.check (calculateTensorSize info.tensor != 0) copy).andThen fun copy =>
  takeData answers copy

/-- `tearDownTensors` passes over the scales of an axis. -/
def tornDown (copy : TensorCopy) : TensorCopy where
  scaleOffset := copy.scaleOffset

def tearDown (copy : TensorCopy) : List (HandleCall Nat) :=
  Staged.giveBack copy.name id ++
    (Staged.giveBack copy.dimensions id ++ Staged.giveBack copy.clientBuf id)

def owned (copy : TensorCopy) : Multiset Nat :=
  Staged.holding copy.name id + (Staged.holding copy.dimensions id +
    (Staged.holding copy.clientBuf id + Staged.holding copy.scaleOffset id))

end TensorCopy

namespace TensorArray

def prepareEach (round : GraphTensor × Nat → Staged TensorCopy Nat) :
    List (GraphTensor × Nat) → TensorArray → Staged TensorArray Nat
  | [], held => Staged.check true held
  | item :: rest, held =>
      ((round item).inside fun copy => { held with tensors := held.tensors ++ [copy] }).andThen
        (prepareEach round rest)

def prepare (array : Option Nat) (mapped : Bool) (infos : List GraphTensor)
    (round : GraphTensor × Nat → Staged TensorCopy Nat) : Staged TensorArray Nat :=
  (Staged.obtain array id (fun block => { array := some block }) {}).andThen fun held =>
  (Staged.check mapped held).andThen (prepareEach round infos.zipIdx)

def tearDownTensors (held : TensorArray) : Staged TensorArray Nat where
  object := { tensors := held.tensors.map TensorCopy.tornDown }
  calls := held.tensors.flatMap TensorCopy.tearDown ++ Staged.giveBack held.array id
  ok := true

def owned (held : TensorArray) : Multiset Nat :=
  (held.tensors.map TensorCopy.owned).sum + Staged.holding held.array id

end TensorArray

namespace Locals

def setInputs (locals : Locals) (inputs : TensorArray) : Locals :=
  { locals with inputs := inputs }

def setOutputs (locals : Locals) (outputs : TensorArray) : Locals :=
  { locals with outputs := outputs }

def tearDownInputs (locals : Locals) : Staged Locals Nat :=
  locals.inputs.tearDownTensors.inside locals.setInputs

def tearDownOutputs (locals : Locals) : Staged Locals Nat :=
  locals.outputs.tearDownTensors.inside locals.setOutputs

def owned (locals : Locals) : Multiset Nat :=
  locals.inputs.owned + locals.outputs.owned

end Locals

def prepareInputTensors (graph : GraphInfo) (request : Request) (preprocessed : PreprocessedData) :
    Staged TensorArray Nat :=
  TensorArray.prepare request.inputArray request.mapped graph.inputTensors fun (info, i) =>
    TensorCopy.prepareInput preprocessed info (request.inputs i)

def prepareOutputTensors (graph : GraphInfo) (request : Request) : Staged TensorArray Nat :=
  TensorArray.prepare request.outputArray true graph.outputTensors fun (info, i) =>
    TensorCopy.prepareOutput info (request.outputs i)

def finish (ending : Ending) (locals : Locals) : Staged Locals Nat :=
  match ending with
  | .thrown => Staged.check false locals
  | .failed =>
      (locals.tearDownInputs.andThen Locals.tearDownOutputs).andThen (Staged.check false)
  | .extracted => locals.tearDownInputs.andThen Locals.tearDownOutputs

def processImage (graphs : List GraphInfo) (request : Request) : Staged Locals Nat :=
  match request.preprocessed, graphs with
  | some preprocessed, graph :: _ =>
      ((prepareInputTensors graph request preprocessed).inside
        ({} : Locals).setInputs).andThen fun locals =>
      (((prepareOutputTensors graph request).inside locals.setOutputs).orElse
        Locals.tearDownInputs).andThen (finish request.ending)
  | _, _ => Staged.check false {}

section Copies

def taken (wanted : Bool) (answer : Option Nat) : Option Nat :=
  if wanted then answer else none

def takes (held : Option Nat) : List (HandleCall Nat) :=
  (held.map .acquire).toList

theorem transfers_takes (held : Option Nat) (rest : Multiset Nat) :
    Transfers (takes held) rest (Staged.holding held id + rest) := by
  cases held with
  | none => exact (Multiset.zero_add rest).symm ▸ Transfers.nil rest
  | some block => exact Transfers.acquire block rest

namespace TensorCopy

theorem allocate_eq (wanted : Bool) (answer : Option Nat) (set : Nat → TensorCopy)
    (copy : TensorCopy) : allocate wanted answer set copy =
      ⟨(taken wanted answer).elim copy set, takes (taken wanted answer), true⟩ := by
  cases wanted with
  | false => rfl
  | true => cases answer <;> rfl

theorem deepCopy_eq (info : GraphTensor) (answers : CopyAnswers) :
    deepCopy info answers =
      ⟨⟨taken info.tensor.name.isSome answers.name, taken info.hasScales answers.scaleOffset,
        taken info.hasRank answers.dimensions, none⟩,
        takes (taken info.tensor.name.isSome answers.name) ++
          (takes (taken info.hasScales answers.scaleOffset) ++
            takes (taken info.hasRank answers.dimensions)), true⟩ := by
  simp only [deepCopy, allocate_eq, Staged.andThen, if_true]
  generalize taken info.tensor.name.isSome answers.name = name
  generalize taken info.hasScales answers.scaleOffset = scaleOffset
  generalize taken info.hasRank answers.dimensions = dimensions
  cases name <;> cases scaleOffset <;> cases dimensions <;> rfl

theorem keeps_deepCopy (info : GraphTensor) (answers : CopyAnswers) :
    (deepCopy info answers).Keeps owned 0 := by
  rw [deepCopy_eq, Staged.Keeps, owned]
  generalize taken info.tensor.name.isSome answers.name = name
  generalize taken info.hasScales answers.scaleOffset = scaleOffset
  generalize taken info.hasRank answers.dimensions = dimensions
  have copied := (transfers_takes name 0).append ((transfers_takes scaleOffset _).append
    (transfers_takes dimensions _))
  convert copied using 1
  simp only [Staged.holding, Option.elim_none]
  abel

theorem keeps_takeData {copy : TensorCopy} (unset : copy.clientBuf = none)
    (answers : CopyAnswers) : (takeData answers copy).Keeps owned copy.owned := by
  apply Staged.keeps_obtain
  intro block
  simp only [owned, unset, Staged.holding, Option.elim_none, Option.elim_some, id_eq,
    ← Multiset.singleton_add]
  abel

theorem keeps_freeData (copy : TensorCopy) : copy.freeData.Keeps owned copy.owned := by
  have freed := Staged.transfers_giveBack copy.clientBuf id
    (Staged.holding copy.name id + (Staged.holding copy.dimensions id +
      Staged.holding copy.scaleOffset id))
  rw [Staged.Keeps]
  convert freed using 1
  · rfl
  · rw [owned]
    abel
  · simp [owned, freeData, Staged.holding]

theorem keeps_prepareInput (preprocessed : PreprocessedData) (info : GraphTensor)
    (answers : CopyAnswers) : (prepareInput preprocessed info answers).Keeps owned 0 := by
  have unset : (deepCopy info answers).object.clientBuf = none := by rw [deepCopy_eq]
  refine (keeps_deepCopy info answers).andThen fun _ => ?_
  apply Staged.keeps_checkThen
  apply Staged.keeps_checkThen
  refine (keeps_takeData unset answers).andThen fun _ => ?_
  exact (Staged.keeps_check _).orElse (keeps_freeData _)

theorem keeps_prepareOutput (info : GraphTensor) (answers : CopyAnswers) :
    (prepareOutput info answers).Keeps owned 0 := by
  have unset : (deepCopy info answers).object.clientBuf = none := by rw [deepCopy_eq]
  refine (keeps_deepCopy info answers).andThen fun _ => ?_
  apply Staged.keeps_checkThen
  exact keeps_takeData unset answers

theorem transfers_tearDown (copy : TensorCopy) :
    Transfers copy.tearDown copy.owned copy.tornDown.owned := by
  have left : copy.tornDown.owned = Staged.holding copy.scaleOffset id := by
    simp [owned, tornDown, Staged.holding]
  rw [left]
  refine (Staged.transfers_giveBack copy.name id _).append ?_
  exact (Staged.transfers_giveBack copy.dimensions id _).append
    (Staged.transfers_giveBack copy.clientBuf id _)

end TensorCopy

end Copies

namespace TensorArray

variable {round : GraphTensor × Nat → Staged TensorCopy Nat}

theorem owned_append (held : TensorArray) (copy : TensorCopy) :
    owned { held with tensors := held.tensors ++ [copy] } = copy.owned + held.owned := by
  simp only [owned, List.map_append, List.sum_append, List.map_cons, List.map_nil, List.sum_cons,
    List.sum_nil]
  abel

theorem keeps_prepareEach (keeps : ∀ item, (round item).Keeps TensorCopy.owned 0)
    (items : List (GraphTensor × Nat)) (held : TensorArray) :
    (prepareEach round items held).Keeps owned held.owned := by
  induction items generalizing held with
  | nil => exact Staged.keeps_check true
  | cons item rest ih =>
      have begun : TensorCopy.owned {} = 0 := rfl
      have prepared := (begun.symm ▸ keeps item : (round item).Keeps _ _).inside
        (owned_append held)
      rw [owned_append, begun, zero_add] at prepared
      exact prepared.andThen fun _ => ih _

theorem keeps_prepare (keeps : ∀ item, (round item).Keeps TensorCopy.owned 0)
    (array : Option Nat) (mapped : Bool) (infos : List GraphTensor) :
    (prepare array mapped infos round).Keeps owned 0 := by
  have begun : owned {} = 0 := rfl
  rw [← begun]
  refine Staged.keeps_obtainThen (fun block => rfl) fun block => ?_
  apply Staged.keeps_checkThen
  exact keeps_prepareEach keeps _ _

theorem keeps_tearDownTensors (held : TensorArray) :
    held.tearDownTensors.Keeps owned held.owned := by
  have copies : Transfers (held.tensors.flatMap TensorCopy.tearDown)
      (held.tensors.map TensorCopy.owned).sum
      ((held.tensors.map TensorCopy.tornDown).map TensorCopy.owned).sum := by
    induction held.tensors with
    | nil => exact Transfers.nil 0
    | cons copy rest ih => exact (TensorCopy.transfers_tearDown copy).both ih
  exact copies.both (Staged.clears_giveBack held.array id)

end TensorArray

namespace Locals

theorem keeps_tearDownInputs (locals : Locals) :
    locals.tearDownInputs.Keeps owned locals.owned := by
  have splits (inputs : TensorArray) :
      owned (locals.setInputs inputs) = inputs.owned + locals.outputs.owned := rfl
  exact locals.inputs.keeps_tearDownTensors.inside splits

theorem keeps_tearDownOutputs (locals : Locals) :
    locals.tearDownOutputs.Keeps owned locals.owned := by
  have splits (outputs : TensorArray) :
      owned (locals.setOutputs outputs) = outputs.owned + locals.inputs.owned :=
    add_comm _ _
  exact locals.outputs.keeps_tearDownTensors.inside splits

end Locals

theorem keeps_finish (ending : Ending) (locals : Locals) :
    (finish ending locals).Keeps Locals.owned locals.owned := by
  have both : (locals.tearDownInputs.andThen Locals.tearDownOutputs).Keeps Locals.owned
      locals.owned :=
    locals.keeps_tearDownInputs.andThen fun _ => Locals.keeps_tearDownOutputs _
  cases ending with
  | failed => exact both.andThen fun _ => Staged.keeps_check false
  | extracted => exact both
  | thrown => exact Staged.keeps_check false

theorem keeps_processImage (graphs : List GraphInfo) (request : Request) :
    (processImage graphs request).Keeps Locals.owned 0 := by
  unfold processImage
  split
  case h_1 preprocessed graph _ _ =>
    have inputs : (prepareInputTensors graph request preprocessed).Keeps TensorArray.owned
        ({} : Locals).inputs.owned :=
      TensorArray.keeps_prepare (fun _ => TensorCopy.keeps_prepareInput _ _ _) _ _ _
    have first (inputs : TensorArray) : Locals.owned (({} : Locals).setInputs inputs) =
        inputs.owned + TensorArray.owned {} := rfl
    refine (inputs.inside first).andThen fun _ => ?_
    have second (locals : Locals) (outputs : TensorArray) :
        Locals.owned (locals.setOutputs outputs) = outputs.owned + locals.inputs.owned :=
      add_comm _ _
    generalize prepareInputTensors graph request preprocessed = prepared
    have outputs : (prepareOutputTensors graph request).Keeps TensorArray.owned
        (({} : Locals).setInputs prepared.object).outputs.owned :=
      TensorArray.keeps_prepare (fun _ => TensorCopy.keeps_prepareOutput _ _) _ _ _
    refine Staged.Keeps.andThen ?_ fun _ => keeps_finish _ _
    exact (outputs.inside (second _)).orElse (Locals.keeps_tearDownInputs _)
  case h_2 => exact Transfers.nil 0

section Clean

structure InputReady (preprocessed : PreprocessedData) (info : GraphTensor)
    (answers : CopyAnswers) : Prop where
  size : calculateTensorSize info.tensor ≠ 0
  name : ∃ name, info.tensor.name = some name ∧ ((dataMap preprocessed).lookup name).isSome
  data : answers.data.isSome
  conversion : (conversion info.tensor).isSome

structure OutputReady (info : GraphTensor) (answers : CopyAnswers) : Prop where
  size : calculateTensorSize info.tensor ≠ 0
  data : answers.data.isSome

def Unscaled (info : GraphTensor) (answers : CopyAnswers) : Prop :=
  info.hasScales = true → answers.scaleOffset = none

namespace TensorCopy

variable {preprocessed : PreprocessedData} {info : GraphTensor} {answers : CopyAnswers}

theorem prepareInput_ok :
    (prepareInput preprocessed info answers).ok = true ↔
      InputReady preprocessed info answers := by
  simp only [prepareInput, deepCopy_eq, Staged.andThen_ok, Staged.check_ok, takeData,
    Staged.obtain_ok, Staged.orElse_ok, Bool.and_eq_true, bne_iff_ne, Option.any_eq_true,
    true_and]
  constructor
  · rintro ⟨size, name, data, converts⟩
    exact ⟨size, name, data, converts⟩
  · exact fun ready => ⟨ready.size, ready.name, ready.data, ready.conversion⟩

theorem prepareOutput_ok :
    (prepareOutput info answers).ok = true ↔ OutputReady info answers := by
  simp only [prepareOutput, deepCopy_eq, Staged.andThen_ok, Staged.check_ok, takeData,
    Staged.obtain_ok, Bool.and_eq_true, bne_iff_ne, true_and]
  constructor
  · rintro ⟨size, data⟩
    exact ⟨size, data⟩
  · exact fun ready => ⟨ready.size, ready.data⟩

theorem prepareInput_scaleOffset (ready : InputReady preprocessed info answers) :
    (prepareInput preprocessed info answers).object.scaleOffset =
      taken info.hasScales answers.scaleOffset := by
  obtain ⟨size, ⟨name, named, known⟩, data, converts⟩ := ready
  obtain ⟨block, given⟩ := Option.isSome_iff_exists.mp data
  simp [prepareInput, deepCopy_eq, Staged.andThen, Staged.check, takeData, Staged.obtain,
    Staged.orElse, size, named, known, given, converts]

theorem prepareOutput_scaleOffset (ready : OutputReady info answers) :
    (prepareOutput info answers).object.scaleOffset =
      taken info.hasScales answers.scaleOffset := by
  obtain ⟨block, given⟩ := Option.isSome_iff_exists.mp ready.data
  simp [prepareOutput, deepCopy_eq, Staged.andThen, Staged.check, takeData, Staged.obtain,
    ready.size, given]

theorem taken_eq_none_iff :
    taken info.hasScales answers.scaleOffset = none ↔ Unscaled info answers := by
  cases scales : info.hasScales <;> simp [taken, Unscaled, scales]

end TensorCopy

namespace TensorArray

variable {round : GraphTensor × Nat → Staged TensorCopy Nat}

theorem prepareEach_ok (items : List (GraphTensor × Nat)) (held : TensorArray) :
    (prepareEach round items held).ok = true ↔ ∀ item ∈ items, (round item).ok = true := by
  induction items generalizing held with
  | nil => simp [prepareEach]
  | cons item rest ih => simp [prepareEach, ih]

theorem prepareEach_array (items : List (GraphTensor × Nat)) (held : TensorArray) :
    (prepareEach round items held).object.array = held.array := by
  induction items generalizing held with
  | nil => rfl
  | cons item rest ih =>
      rw [prepareEach]
      cases succeeded : (round item).ok with
      | true =>
          rw [Staged.andThen_object, ih]
          · rfl
          · exact succeeded
      | false => simp [Staged.andThen, Staged.inside, succeeded]

theorem prepareEach_tensors {items : List (GraphTensor × Nat)} {held : TensorArray}
    (succeeded : ∀ item ∈ items, (round item).ok = true) :
    (prepareEach round items held).object.tensors =
      held.tensors ++ items.map fun item => (round item).object := by
  induction items generalizing held with
  | nil => simp [prepareEach]
  | cons item rest ih =>
      rw [List.forall_mem_cons] at succeeded
      rw [prepareEach, Staged.andThen_object, ih succeeded.2]
      · simp [Staged.inside]
      · exact succeeded.1

theorem owned_ne_zero {held : TensorArray} {block : Nat} (array : held.array = some block) :
    held.owned ≠ 0 := by
  rw [owned, array]
  exact fun empty => Multiset.singleton_ne_zero block (add_eq_zero.mp empty).2

theorem tearDownTensors_clean_iff (held : TensorArray) :
    held.tearDownTensors.object.owned = 0 ↔
      ∀ copy ∈ held.tensors, copy.scaleOffset = none := by
  have copies : ((held.tensors.map TensorCopy.tornDown).map TensorCopy.owned).sum = 0 ↔
      ∀ copy ∈ held.tensors, copy.scaleOffset = none := by
    induction held.tensors with
    | nil => simp
    | cons copy rest ih =>
        have own : copy.tornDown.owned = 0 ↔ copy.scaleOffset = none := by
          cases held : copy.scaleOffset <;>
            simp [TensorCopy.owned, TensorCopy.tornDown, Staged.holding, held]
        rw [List.map_cons, List.map_cons, List.sum_cons, add_eq_zero, own, ih,
          List.forall_mem_cons]
  rw [← copies, owned]
  simp [tearDownTensors, Staged.holding]

theorem prepare_of_none (mapped : Bool) (infos : List GraphTensor) :
    prepare none mapped infos round = ⟨{}, [], false⟩ := rfl

theorem prepare_ok {array : Option Nat} {mapped : Bool} {infos : List GraphTensor} :
    (prepare array mapped infos round).ok = true ↔
      array.isSome ∧ mapped = true ∧ ∀ item ∈ infos.zipIdx, (round item).ok = true := by
  simp [prepare, prepareEach_ok]

theorem prepare_object (block : Nat) (infos : List GraphTensor) :
    (prepare (some block) true infos round).object =
      (prepareEach round infos.zipIdx { array := some block }).object := rfl

theorem prepare_owned_ne_zero (block : Nat) (mapped : Bool) (infos : List GraphTensor) :
    (prepare (some block) mapped infos round).object.owned ≠ 0 := by
  cases mapped with
  | false =>
      have begun : owned { array := some block } ≠ 0 := owned_ne_zero rfl
      exact begun
  | true => exact owned_ne_zero (prepareEach_array _ _)

/-- A finished array leaves what its tensors hold of scales. -/
theorem tearDown_prepare_iff {block : Nat} {infos : List GraphTensor}
    (ready : ∀ item ∈ infos.zipIdx, (round item).ok = true) :
    (prepare (some block) true infos round).object.tearDownTensors.object.owned = 0 ↔
      ∀ item ∈ infos.zipIdx, (round item).object.scaleOffset = none := by
  rw [prepare_object, tearDownTensors_clean_iff, prepareEach_tensors ready]
  exact List.forall_mem_map

end TensorArray

/-- What `processImage` leaves, at each of its ways out. -/
theorem processImage_owned {graph : GraphInfo} {request : Request}
    {preprocessed : PreprocessedData} (image : request.preprocessed = some preprocessed)
    (others : List GraphInfo) :
    let inputs := prepareInputTensors graph request preprocessed
    let outputs := prepareOutputTensors graph request
    (processImage (graph :: others) request).object.owned =
      if inputs.ok = false then inputs.object.owned
      else if outputs.ok = false then
        inputs.object.tearDownTensors.object.owned + outputs.object.owned
      else if request.ending = .thrown then inputs.object.owned + outputs.object.owned
      else inputs.object.tearDownTensors.object.owned +
        outputs.object.tearDownTensors.object.owned := by
  intro inputs outputs
  simp only [processImage, image]
  rw [show prepareInputTensors graph request preprocessed = inputs from rfl,
    show prepareOutputTensors graph request = outputs from rfl]
  obtain ⟨held, calls, prepared⟩ := inputs
  obtain ⟨others, later, also⟩ := outputs
  cases prepared with
  | false => exact add_zero _
  | true =>
      cases also with
      | false => rfl
      | true => cases request.ending <;> rfl

/-- Nothing of the request is left: either its first array is not there, or all copies of the
inputs are made, none of them with scales, and the same holds for the outputs, behind which
nothing is thrown. -/
def Clean (graph : GraphInfo) (preprocessed : PreprocessedData) (request : Request) : Prop :=
  request.inputArray = none ∨
    (request.mapped = true ∧
      (∀ item ∈ graph.inputTensors.zipIdx,
        InputReady preprocessed item.1 (request.inputs item.2) ∧
          Unscaled item.1 (request.inputs item.2)) ∧
      (request.outputArray = none ∨
        (request.ending ≠ .thrown ∧ ∀ item ∈ graph.outputTensors.zipIdx,
          OutputReady item.1 (request.outputs item.2) ∧
            Unscaled item.1 (request.outputs item.2))))

theorem inputs_torn_iff {graph : GraphInfo} {request : Request} {preprocessed : PreprocessedData}
    (ready : (prepareInputTensors graph request preprocessed).ok = true) :
    (prepareInputTensors graph request preprocessed).object.tearDownTensors.object.owned = 0 ↔
      ∀ item ∈ graph.inputTensors.zipIdx, Unscaled item.1 (request.inputs item.2) := by
  obtain ⟨array, mapped, rounds⟩ := TensorArray.prepare_ok.mp ready
  obtain ⟨block, given⟩ := Option.isSome_iff_exists.mp array
  rw [prepareInputTensors, given, mapped, TensorArray.tearDown_prepare_iff rounds]
  refine forall₂_congr fun item listed => ?_
  rw [TensorCopy.prepareInput_scaleOffset (TensorCopy.prepareInput_ok.mp (rounds item listed)),
    TensorCopy.taken_eq_none_iff]

theorem outputs_torn_iff {graph : GraphInfo} {request : Request}
    (ready : (prepareOutputTensors graph request).ok = true) :
    (prepareOutputTensors graph request).object.tearDownTensors.object.owned = 0 ↔
      ∀ item ∈ graph.outputTensors.zipIdx, Unscaled item.1 (request.outputs item.2) := by
  obtain ⟨array, _, rounds⟩ := TensorArray.prepare_ok.mp ready
  obtain ⟨block, given⟩ := Option.isSome_iff_exists.mp array
  rw [prepareOutputTensors, given, TensorArray.tearDown_prepare_iff rounds]
  refine forall₂_congr fun item listed => ?_
  rw [TensorCopy.prepareOutput_scaleOffset (TensorCopy.prepareOutput_ok.mp (rounds item listed)),
    TensorCopy.taken_eq_none_iff]

theorem prepareInputTensors_ok {graph : GraphInfo} {request : Request}
    {preprocessed : PreprocessedData} :
    (prepareInputTensors graph request preprocessed).ok = true ↔
      request.inputArray.isSome ∧ request.mapped = true ∧
        ∀ item ∈ graph.inputTensors.zipIdx,
          InputReady preprocessed item.1 (request.inputs item.2) := by
  simp only [prepareInputTensors, TensorArray.prepare_ok, TensorCopy.prepareInput_ok]

theorem prepareOutputTensors_ok {graph : GraphInfo} {request : Request} :
    (prepareOutputTensors graph request).ok = true ↔
      request.outputArray.isSome ∧ ∀ item ∈ graph.outputTensors.zipIdx,
        OutputReady item.1 (request.outputs item.2) := by
  simp only [prepareOutputTensors, TensorArray.prepare_ok, TensorCopy.prepareOutput_ok, true_and]

theorem prepareInputTensors_left {graph : GraphInfo} {request : Request} {block : Nat}
    (array : request.inputArray = some block) (preprocessed : PreprocessedData) :
    (prepareInputTensors graph request preprocessed).object.owned ≠ 0 := by
  rw [prepareInputTensors, array]
  exact TensorArray.prepare_owned_ne_zero block _ _

theorem prepareOutputTensors_left {graph : GraphInfo} {request : Request} {block : Nat}
    (array : request.outputArray = some block) :
    (prepareOutputTensors graph request).object.owned ≠ 0 := by
  rw [prepareOutputTensors, array]
  exact TensorArray.prepare_owned_ne_zero block _ _

theorem outputs_clean_iff {graph : GraphInfo} {request : Request} {inputs torn : Multiset Nat}
    (nonzero : inputs ≠ 0) :
    (if (prepareOutputTensors graph request).ok = false then
        torn + (prepareOutputTensors graph request).object.owned
      else if request.ending = .thrown then
        inputs + (prepareOutputTensors graph request).object.owned
      else torn + (prepareOutputTensors graph request).object.tearDownTensors.object.owned) = 0 ↔
      torn = 0 ∧ (request.outputArray = none ∨
        (request.ending ≠ .thrown ∧ ∀ item ∈ graph.outputTensors.zipIdx,
          OutputReady item.1 (request.outputs item.2) ∧
            Unscaled item.1 (request.outputs item.2))) := by
  cases array : request.outputArray with
  | none =>
      have unmade : prepareOutputTensors graph request = ⟨{}, [], false⟩ := by
        rw [prepareOutputTensors, array, TensorArray.prepare_of_none]
      rw [unmade, if_pos rfl, add_eq_zero]
      exact and_congr_right fun _ => iff_of_true rfl (.inl rfl)
  | some block =>
      have left : (prepareOutputTensors graph request).object.owned ≠ 0 :=
        prepareOutputTensors_left array
      cases outputs : (prepareOutputTensors graph request).ok with
      | false =>
          rw [if_pos rfl, add_eq_zero]
          refine and_congr_right fun _ => iff_of_false left ?_
          rintro (absent | ⟨_, ready⟩)
          · cases absent
          · have done := prepareOutputTensors_ok.mpr
              ⟨by rw [array]; rfl, fun item listed => (ready item listed).1⟩
            rw [outputs] at done
            cases done
      | true =>
          obtain ⟨_, ready⟩ := prepareOutputTensors_ok.mp outputs
          rw [if_neg (Bool.true_eq_false.mp ·)]
          by_cases thrown : request.ending = .thrown
          · rw [if_pos thrown, add_eq_zero]
            refine iff_of_false (fun both => nonzero both.1) fun both => ?_
            rcases both.2 with absent | ⟨returned, _⟩
            · cases absent
            · exact returned thrown
          · rw [if_neg thrown, add_eq_zero, outputs_torn_iff outputs]
            refine and_congr_right fun _ => ⟨fun unscaled => .inr ⟨thrown, fun item listed =>
              ⟨ready item listed, unscaled item listed⟩⟩, ?_⟩
            rintro (absent | ⟨_, both⟩)
            · cases absent
            · exact fun item listed => (both item listed).2

theorem processImage_clean_iff {graph : GraphInfo} {request : Request}
    {preprocessed : PreprocessedData} (image : request.preprocessed = some preprocessed)
    (others : List GraphInfo) :
    (processImage (graph :: others) request).object.owned = 0 ↔
      Clean graph preprocessed request := by
  rw [processImage_owned image]
  cases array : request.inputArray with
  | none =>
      have unmade : prepareInputTensors graph request preprocessed = ⟨{}, [], false⟩ := by
        rw [prepareInputTensors, array, TensorArray.prepare_of_none]
      rw [unmade, if_pos rfl]
      exact iff_of_true rfl (.inl array)
  | some block =>
      have left : (prepareInputTensors graph request preprocessed).object.owned ≠ 0 :=
        prepareInputTensors_left array preprocessed
      cases inputs : (prepareInputTensors graph request preprocessed).ok with
      | false =>
          rw [if_pos rfl]
          refine iff_of_false left ?_
          rintro (absent | ⟨mapped, ready, _⟩)
          · rw [array] at absent
            cases absent
          · have done := prepareInputTensors_ok.mpr
              ⟨by rw [array]; rfl, mapped, fun item listed => (ready item listed).1⟩
            rw [inputs] at done
            cases done
      | true =>
          obtain ⟨_, mapped, ready⟩ := prepareInputTensors_ok.mp inputs
          rw [if_neg (Bool.true_eq_false.mp ·), outputs_clean_iff left, inputs_torn_iff inputs,
            Clean, array]
          constructor
          · exact fun ⟨unscaled, rest⟩ => .inr ⟨mapped, fun item listed =>
              ⟨ready item listed, unscaled item listed⟩, rest⟩
          · rintro (absent | ⟨_, both, rest⟩)
            · cases absent
            · exact ⟨fun item listed => (both item listed).2, rest⟩

end Clean

structure Serving where
  calls : List (HandleCall Nat)
  lost : Multiset Nat

def Serving.serve (graphs : List GraphInfo) (serving : Serving) (request : Request) : Serving :=
  let left := processImage graphs request
  ⟨serving.calls ++ left.calls, left.object.owned + serving.lost⟩

def server (graphs : List GraphInfo) : Machine Serving Request where
  start serving := serving = ⟨[], 0⟩
  step serving request := some (serving.serve graphs request)

theorem accounts_serve (graphs : List GraphInfo) (serving : Serving) (request : Request) :
    Accounts Serving.calls Serving.lost serving (serving.serve graphs request) := by
  have left := (keeps_processImage graphs request).beside serving.lost
  rw [zero_add] at left
  exact ⟨_, rfl, left⟩

theorem processImage_idle {graphs : List GraphInfo} {request : Request}
    (idle : request.preprocessed = none ∨ graphs = []) :
    (processImage graphs request).object.owned = 0 := by
  unfold processImage
  split
  case h_1 image => simp [image] at idle
  case h_2 => rfl

/-- In every run of requests each block is freed while it is there, and there are the blocks
that the requests have not given back. A request gives back all exactly if it is clean. -/
theorem memory_of_requests {graphs : List GraphInfo} {serving : Serving}
    (reachable : (server graphs).Reachable serving) :
    Proper 0 serving.calls ∧ liveAfter 0 serving.calls = serving.lost ∧
      ∀ request, (serving.serve graphs request).lost = serving.lost ↔
        ∀ graph ∈ graphs.head?, ∀ preprocessed ∈ request.preprocessed,
          Clean graph preprocessed request := by
  have whole : Transfers serving.calls 0 serving.lost := by
    have accounts : ∀ serving request next, (server graphs).step serving request = some next →
        Accounts Serving.calls Serving.lost serving next := by
      rintro serving request _ ⟨⟩
      exact accounts_serve graphs serving request
    exact reachable.transfers (by rintro _ rfl; exact ⟨rfl, rfl⟩) accounts
  obtain ⟨proper, live⟩ := whole.whole
  refine ⟨proper, live, fun request => ?_⟩
  have kept : (serving.serve graphs request).lost = serving.lost ↔
      (processImage graphs request).object.owned = 0 :=
    add_eq_right
  rw [kept]
  cases image : request.preprocessed with
  | none => exact iff_of_true (processImage_idle (.inl image)) fun _ _ _ absent => by cases absent
  | some preprocessed =>
      cases graphs with
      | nil => exact iff_of_true (processImage_idle (.inr rfl)) fun _ absent => by cases absent
      | cons graph others => simp [processImage_clean_iff image]

def pixels : GraphTensor :=
  ⟨⟨some [1], .float32, some "pixel_values", .other⟩, 0⟩

/-- The buffer of the output is not there, and nobody gives back the copy that it is for. -/
def refused : Request where
  preprocessed := some ⟨[0], [], []⟩
  inputArray := some 1
  mapped := true
  inputs := fun _ => ⟨some 2, none, some 3, some 4⟩
  outputArray := some 5
  outputs := fun _ => ⟨some 6, none, some 7, none⟩
  ending := .extracted

theorem memory_of_requests_refused :
    let graphs : List GraphInfo := [⟨[pixels], [pixels]⟩]
    let serving := Serving.serve graphs ⟨[], 0⟩ refused
    Proper 0 serving.calls ∧ liveAfter 0 serving.calls = {5, 6, 7} := by
  intro graphs serving
  have begun : (server graphs).Reachable ⟨[], 0⟩ := .start rfl
  have served : (server graphs).Reachable serving := begun.next rfl
  obtain ⟨proper, live, _⟩ := memory_of_requests served
  refine ⟨proper, live.trans ?_⟩
  decide +kernel

end Iq9Pipeline.Vision.TensorMemory
