import Iq9Pipeline.Foundation.LittleEndian
import Iq9Pipeline.Vision.HalfFloat

/-!
How the vision server fills the input tensors of its network (`veg_server_combined.cpp`). The
size of a buffer comes from the network, and what is stored in it from the image.
-/

namespace Iq9Pipeline.Vision.InputTensors

open Foundation

inductive QnnDataType
  | int8 | int16 | int32 | int64
  | uint8 | uint16 | uint32 | uint64
  | float16 | float32 | float64
  | sfixedPoint8 | sfixedPoint16 | sfixedPoint32
  | ufixedPoint8 | ufixedPoint16 | ufixedPoint32
  | bool8
  | other (code : UInt32)
deriving DecidableEq

inductive QuantizeParams
  | scaleOffset (scale : UInt32) (offset : Int32)
  | other

structure QnnTensor where
  /-- As many dimensions as the rank says; `none` is a null pointer. -/
  dimensions : Option (List UInt32)
  dataType : QnnDataType
  name : Option String
  quantizeParams : QuantizeParams

structure PreprocessedData where
  pixelValues : List UInt32
  positionIdsCos : List UInt32
  positionIdsSin : List UInt32

structure Host where
  calloc : Nat → Bool
  /-- Whether the buffer of an input is there, by its place and its size. -/
  malloc : Nat → UInt64 → Bool
  quantizeToUint16 : UInt32 → UInt32 → Int32 → UInt16

def elementSize : QnnDataType → UInt64
  | .int8 | .uint8 | .sfixedPoint8 | .ufixedPoint8 | .bool8 => 1
  | .int16 | .uint16 | .sfixedPoint16 | .ufixedPoint16 | .float16 => 2
  | .int32 | .uint32 | .float32 | .sfixedPoint32 | .ufixedPoint32 => 4
  | .int64 | .uint64 | .float64 => 8
  | .other _ => 1

def calculateTensorSize (tensor : QnnTensor) : UInt64 :=
  match tensor.dimensions with
  | none => 0
  | some [] => 0
  | some dims =>
      let elementCount := dims.foldl (fun count dim => count * dim.toUInt64) 1
      elementCount * elementSize tensor.dataType

def dataMap (preprocessed : PreprocessedData) : List (String × List UInt32) :=
  [("hidden_states", preprocessed.pixelValues),
    ("position_embeddings_cos", preprocessed.positionIdsCos),
    ("position_embeddings_sin", preprocessed.positionIdsSin),
    ("pixel_values", preprocessed.pixelValues),
    ("position_ids_cos", preprocessed.positionIdsCos),
    ("position_ids_sin", preprocessed.positionIdsSin)]

inductive Conversion
  | quantized (scale : UInt32) (offset : Int32)
  | half
  | copied

def conversion (tensor : QnnTensor) : Option Conversion :=
  match tensor.dataType with
  | .ufixedPoint16 | .sfixedPoint16 =>
      match tensor.quantizeParams with
      | .scaleOffset scale offset => some (.quantized scale offset)
      | .other => some (.quantized 0x3F800000 0)
  | .float16 => some .half
  | .float32 => some .copied
  | _ => none

def Conversion.width : Conversion → Nat
  | .quantized _ _ => 2
  | .half => 2
  | .copied => 4

def Conversion.encode (host : Host) : Conversion → UInt32 → List UInt8
  | .quantized scale offset, value => leBytes 2 (host.quantizeToUint16 value scale offset).toNat
  | .half, value => leBytes 2 (float32ToFloat16 value).toNat
  | .copied, value => word32 value

structure Store where
  offset : Nat
  bytes : List UInt8
deriving DecidableEq

/-- The loop of a branch; `memcpy` stores the elements behind each other as the loops do. -/
def fill (width : Nat) (encode : UInt32 → List UInt8) (srcData : List UInt32) : List Store :=
  srcData.zipIdx.map fun (value, j) => ⟨j * width, encode value⟩

structure Buffer where
  dataSize : UInt64
  stores : List Store
deriving DecidableEq

/-- One round of the loop over the inputs; `none` is a round that returns false, and leaves
nothing stored. -/
def prepareInput (host : Host) (preprocessed : PreprocessedData) (i : Nat) (tensor : QnnTensor) :
    Option Buffer := do
  let tensorSize := calculateTensorSize tensor
  if tensorSize = 0 then none
  else
    let tensorName ← tensor.name
    let srcData ← (dataMap preprocessed).lookup tensorName
    if host.malloc i tensorSize = false then none
    else
      let branch ← conversion tensor
      some ⟨tensorSize, fill branch.width (branch.encode host) srcData⟩

def prepareInputs (host : Host) (preprocessed : PreprocessedData) :
    List (QnnTensor × Nat) → Bool × List Buffer
  | [] => (true, [])
  | (tensor, i) :: rest =>
      match prepareInput host preprocessed i tensor with
      | none => (false, [])
      | some buffer =>
          let others := prepareInputs host preprocessed rest
          (others.1, buffer :: others.2)

def prepareInputTensors (host : Host) (graphs : List (List QnnTensor)) (graphIdx : Nat)
    (preprocessed : PreprocessedData) : Bool × List Buffer :=
  match graphs[graphIdx]? with
  | none => (false, [])
  | some inputTensors =>
      if host.calloc inputTensors.length = false then (false, [])
      else prepareInputs host preprocessed inputTensors.zipIdx

@[simp] theorem encode_length (host : Host) (branch : Conversion) (value : UInt32) :
    (branch.encode host value).length = branch.width := by
  cases branch <;> simp [Conversion.encode, Conversion.width]

theorem Conversion.width_pos (branch : Conversion) : 0 < branch.width := by
  cases branch <;> simp [Conversion.width]

section

variable {width : Nat} {encode : UInt32 → List UInt8} {srcData : List UInt32}

theorem mem_fill {store : Store} :
    store ∈ fill width encode srcData ↔
      ∃ j value, srcData[j]? = some value ∧ store = ⟨j * width, encode value⟩ := by
  simp only [fill, List.mem_map, Prod.exists, List.mem_zipIdx_iff_getElem?]
  constructor
  · rintro ⟨value, j, listed, rfl⟩
    exact ⟨j, value, listed, rfl⟩
  · rintro ⟨j, value, listed, rfl⟩
    exact ⟨value, j, listed, rfl⟩

variable (sized : ∀ value, (encode value).length = width)

include sized

theorem fill_within_iff {size : Nat} :
    (∀ store ∈ fill width encode srcData, store.offset + store.bytes.length ≤ size) ↔
      srcData.length * width ≤ size := by
  constructor
  · intro within
    rcases Nat.eq_zero_or_pos srcData.length with empty | positive
    · rw [empty, Nat.zero_mul]
      exact Nat.zero_le _
    · have last : srcData.length - 1 < srcData.length := by omega
      have stored := within _ (mem_fill.mpr
        ⟨srcData.length - 1, _, List.getElem?_eq_getElem last, rfl⟩)
      rwa [sized, ← Nat.succ_mul, Nat.succ_eq_add_one, Nat.sub_add_cancel positive] at stored
  · intro fits store listed
    obtain ⟨j, value, present, rfl⟩ := mem_fill.mp listed
    have inside := (List.getElem?_eq_some_iff.mp present).1
    rw [sized, ← Nat.succ_mul]
    exact (Nat.mul_le_mul_right width inside).trans fits

/-- The elements cover so many bytes as they are, and no more. -/
theorem fill_covers_iff (positive : 0 < width) {size : Nat} :
    (∀ address < size, ∃ store ∈ fill width encode srcData,
      store.offset ≤ address ∧ address < store.offset + store.bytes.length) ↔
        size ≤ srcData.length * width := by
  constructor
  · intro covers
    by_contra short
    obtain ⟨store, listed, _, above⟩ := covers (srcData.length * width) (by omega)
    obtain ⟨j, value, present, rfl⟩ := mem_fill.mp listed
    have inside := (List.getElem?_eq_some_iff.mp present).1
    rw [sized, ← Nat.succ_mul] at above
    have least := Nat.mul_le_mul_right width inside
    omega
  · intro enough address below
    have inside : address / width < srcData.length := by
      rw [Nat.div_lt_iff_lt_mul positive]
      exact below.trans_le enough
    refine ⟨_, mem_fill.mpr ⟨address / width, _, List.getElem?_eq_getElem inside, rfl⟩, ?_, ?_⟩
    · exact Nat.div_mul_le_self _ _
    · rw [sized, ← Nat.succ_mul]
      exact Nat.lt_mul_of_div_lt (Nat.lt_succ_self _) positive

end

section

variable (host : Host) (preprocessed : PreprocessedData)

def source (tensor : QnnTensor) : Option (List UInt32) :=
  tensor.name.bind fun tensorName => (dataMap preprocessed).lookup tensorName

structure Ready (entry : QnnTensor × Nat) : Prop where
  sized : calculateTensorSize entry.1 ≠ 0
  named : (source preprocessed entry.1).isSome
  allocated : host.malloc entry.2 (calculateTensorSize entry.1) = true
  supported : (conversion entry.1).isSome

def sourceBytes (tensor : QnnTensor) : Nat :=
  match source preprocessed tensor, conversion tensor with
  | some srcData, some branch => srcData.length * branch.width
  | _, _ => 0

structure Complete (tensor : QnnTensor) (buffer : Buffer) : Prop where
  size : buffer.dataSize = calculateTensorSize tensor
  elements : ∃ srcData branch, source preprocessed tensor = some srcData ∧
    conversion tensor = some branch ∧ ∀ store ∈ buffer.stores, ∃ j value,
      srcData[j]? = some value ∧ store = ⟨j * branch.width, branch.encode host value⟩
  covered : ∀ address < buffer.dataSize.toNat, ∃ store ∈ buffer.stores,
    store.offset ≤ address ∧ address < store.offset + store.bytes.length

def Within (buffer : Buffer) : Prop :=
  ∀ store ∈ buffer.stores, store.offset + store.bytes.length ≤ buffer.dataSize.toNat

variable {host preprocessed}

theorem prepareInput_of_not_ready {entry : QnnTensor × Nat}
    (busy : ¬Ready host preprocessed entry) :
    prepareInput host preprocessed entry.2 entry.1 = none := by
  cases made : prepareInput host preprocessed entry.2 entry.1 with
  | none => rfl
  | some buffer =>
      refine absurd ?_ busy
      simp only [prepareInput, Option.bind_eq_bind, Option.ite_none_left_eq_some,
        Option.bind_eq_some_iff] at made
      obtain ⟨sized, tensorName, named, srcData, found, allocated, branch, supported, _⟩ := made
      refine ⟨sized, ?_, by simpa using allocated, by rw [supported]; rfl⟩
      rw [source, named, Option.bind_some, found]
      rfl

theorem prepareInput_of_ready {entry : QnnTensor × Nat} (ready : Ready host preprocessed entry) :
    ∃ buffer, prepareInput host preprocessed entry.2 entry.1 = some buffer ∧
      (Within buffer ↔
        sourceBytes preprocessed entry.1 ≤ (calculateTensorSize entry.1).toNat) ∧
      (Complete host preprocessed entry.1 buffer ↔
        (calculateTensorSize entry.1).toNat ≤ sourceBytes preprocessed entry.1) := by
  obtain ⟨srcData, taken⟩ := Option.isSome_iff_exists.mp ready.named
  obtain ⟨branch, supported⟩ := Option.isSome_iff_exists.mp ready.supported
  obtain ⟨tensorName, named, found⟩ := Option.bind_eq_some_iff.mp taken
  have bytes : sourceBytes preprocessed entry.1 = srcData.length * branch.width := by
    rw [sourceBytes, taken, supported]
  refine ⟨⟨calculateTensorSize entry.1, fill branch.width (branch.encode host) srcData⟩,
    ?_, ?_, ?_⟩
  · simp [prepareInput, ready.sized, named, found, ready.allocated, supported]
  · rw [bytes]
    exact fill_within_iff (encode_length host branch)
  · rw [bytes, ← fill_covers_iff (encode_length host branch) branch.width_pos]
    constructor
    · exact fun complete => complete.covered
    · exact fun covered => ⟨rfl, ⟨srcData, branch, taken, supported, fun _ => mem_fill.mp⟩, covered⟩

theorem prepareInputs_returned (entries : List (QnnTensor × Nat)) :
    (prepareInputs host preprocessed entries).1 = true ↔
      ∀ entry ∈ entries, Ready host preprocessed entry := by
  induction entries with
  | nil => simp [prepareInputs]
  | cons entry rest ih =>
      rw [List.forall_mem_cons]
      by_cases ready : Ready host preprocessed entry
      · obtain ⟨buffer, made, _⟩ := prepareInput_of_ready ready
        simp only [prepareInputs, made, ih, ready, true_and]
      · simp [prepareInputs, prepareInput_of_not_ready ready, ready]

theorem prepareInputs_complete {entries : List (QnnTensor × Nat)}
    (ready : ∀ entry ∈ entries, Ready host preprocessed entry) :
    List.Forall₂ (Complete host preprocessed) (entries.map Prod.fst)
        (prepareInputs host preprocessed entries).2 ↔
      ∀ entry ∈ entries,
        (calculateTensorSize entry.1).toNat ≤ sourceBytes preprocessed entry.1 := by
  induction entries with
  | nil => simp [prepareInputs]
  | cons entry rest ih =>
      rw [List.forall_mem_cons] at ready ⊢
      obtain ⟨buffer, made, _, complete⟩ := prepareInput_of_ready ready.1
      simp only [prepareInputs, made, List.map_cons, List.forall₂_cons, complete, ih ready.2]

variable (host preprocessed) in
def HasRoom (entries : List (QnnTensor × Nat)) : Prop :=
  ∀ front entry, front ++ [entry] <+: entries →
    (∀ reached ∈ front ++ [entry], Ready host preprocessed reached) →
      sourceBytes preprocessed entry.1 ≤ (calculateTensorSize entry.1).toNat

theorem hasRoom_cons (entry : QnnTensor × Nat) (rest : List (QnnTensor × Nat)) :
    HasRoom host preprocessed (entry :: rest) ↔ (Ready host preprocessed entry →
      sourceBytes preprocessed entry.1 ≤ (calculateTensorSize entry.1).toNat ∧
        HasRoom host preprocessed rest) := by
  constructor
  · intro room ready
    refine ⟨room [] entry (List.prefix_append _ _) (by simpa using ready), ?_⟩
    intro front last begins reached
    apply room (entry :: front) last
    · exact List.cons_prefix_cons.mpr ⟨rfl, begins⟩
    · exact List.forall_mem_cons.mpr ⟨ready, reached⟩
  · intro room front last begins reached
    cases front with
    | nil =>
        have same := (List.cons_prefix_cons.mp begins).1
        subst same
        exact (room (reached last (by simp))).1
    | cons first front =>
        obtain ⟨same, follows⟩ := List.cons_prefix_cons.mp begins
        subst same
        rw [List.cons_append, List.forall_mem_cons] at reached
        exact (room reached.1).2 front last follows reached.2

theorem prepareInputs_within_iff (entries : List (QnnTensor × Nat)) :
    (∀ buffer ∈ (prepareInputs host preprocessed entries).2, Within buffer) ↔
      HasRoom host preprocessed entries := by
  induction entries with
  | nil => exact iff_of_true (by simp [prepareInputs]) fun front entry begins => by simp at begins
  | cons entry rest ih =>
      rw [hasRoom_cons, ← ih]
      by_cases ready : Ready host preprocessed entry
      · obtain ⟨buffer, made, within, _⟩ := prepareInput_of_ready ready
        simp only [prepareInputs, made, List.forall_mem_cons, within, ready, true_implies]
      · simp [prepareInputs, prepareInput_of_not_ready ready, ready]

end

/-- The buffers are never overrun, and they are complete where the call returns true. -/
structure FilledExactly (host : Host) (graphs : List (List QnnTensor)) (graphIdx : Nat)
    (preprocessed : PreprocessedData) : Prop where
  within : ∀ buffer ∈ (prepareInputTensors host graphs graphIdx preprocessed).2, Within buffer
  complete : (prepareInputTensors host graphs graphIdx preprocessed).1 = true →
    ∃ inputTensors, graphs[graphIdx]? = some inputTensors ∧
      List.Forall₂ (Complete host preprocessed) inputTensors
        (prepareInputTensors host graphs graphIdx preprocessed).2

structure Agrees (host : Host) (preprocessed : PreprocessedData)
    (entries : List (QnnTensor × Nat)) : Prop where
  room : HasRoom host preprocessed entries
  exact : (∀ entry ∈ entries, Ready host preprocessed entry) → ∀ entry ∈ entries,
    sourceBytes preprocessed entry.1 = (calculateTensorSize entry.1).toNat

theorem HasRoom.le {host : Host} {preprocessed : PreprocessedData}
    {entries : List (QnnTensor × Nat)} (room : HasRoom host preprocessed entries)
    (ready : ∀ entry ∈ entries, Ready host preprocessed entry) :
    ∀ entry ∈ entries,
      sourceBytes preprocessed entry.1 ≤ (calculateTensorSize entry.1).toNat := by
  induction entries with
  | nil => simp
  | cons entry rest ih =>
      rw [List.forall_mem_cons] at ready ⊢
      obtain ⟨fits, room⟩ := (hasRoom_cons entry rest).mp room ready.1
      exact ⟨fits, ih room ready.2⟩

/-- The loop over the inputs never overruns a buffer and completes them all exactly where the
sizes agree. -/
theorem agrees_iff {host : Host} {preprocessed : PreprocessedData}
    (entries : List (QnnTensor × Nat)) :
    Agrees host preprocessed entries ↔
      (∀ buffer ∈ (prepareInputs host preprocessed entries).2, Within buffer) ∧
        ((prepareInputs host preprocessed entries).1 = true →
          List.Forall₂ (Complete host preprocessed) (entries.map Prod.fst)
            (prepareInputs host preprocessed entries).2) := by
  constructor
  · rintro ⟨room, same⟩
    refine ⟨(prepareInputs_within_iff _).mpr room, fun returned => ?_⟩
    have ready := (prepareInputs_returned _).mp returned
    exact (prepareInputs_complete ready).mpr fun entry member => (same ready entry member).ge
  · rintro ⟨within, complete⟩
    have room := (prepareInputs_within_iff _).mp within
    refine ⟨room, fun ready entry member => ?_⟩
    have filled := complete ((prepareInputs_returned _).mpr ready)
    exact Nat.le_antisymm (room.le ready entry member)
      ((prepareInputs_complete ready).mp filled entry member)

theorem filledExactly_iff (host : Host) (graphs : List (List QnnTensor)) (graphIdx : Nat)
    (preprocessed : PreprocessedData) :
    FilledExactly host graphs graphIdx preprocessed ↔
      ∀ inputTensors, graphs[graphIdx]? = some inputTensors →
        host.calloc inputTensors.length = true → Agrees host preprocessed inputTensors.zipIdx := by
  cases listed : graphs[graphIdx]? with
  | none =>
      refine iff_of_true ⟨?_, ?_⟩ nofun
      · simp [prepareInputTensors, listed]
      · simp [prepareInputTensors, listed]
  | some inputTensors =>
      by_cases array : host.calloc inputTensors.length = true
      · have run : prepareInputTensors host graphs graphIdx preprocessed =
            prepareInputs host preprocessed inputTensors.zipIdx := by
          simp [prepareInputTensors, listed, array]
        have agrees := @agrees_iff host preprocessed inputTensors.zipIdx
        rw [List.zipIdx_map_fst 0 inputTensors, ← run] at agrees
        constructor
        · rintro ⟨within, complete⟩ _ ⟨⟩ _
          refine agrees.mpr ⟨within, fun returned => ?_⟩
          obtain ⟨_, present, filled⟩ := complete returned
          rw [listed, Option.some.injEq] at present
          rwa [present]
        · intro agreement
          obtain ⟨within, complete⟩ := agrees.mp (agreement inputTensors rfl array)
          exact ⟨within, fun returned => ⟨inputTensors, listed, complete returned⟩⟩
      · refine iff_of_true ⟨?_, ?_⟩ ?_
        · simp [prepareInputTensors, listed, array]
        · simp [prepareInputTensors, listed, array]
        · rintro _ ⟨⟩ present
          exact absurd present array

def roomyHost : Host := ⟨fun _ => true, fun _ _ => true, fun _ _ _ => 0⟩

def pairTensor : QnnTensor := ⟨some [1, 2], .float16, some "pixel_values", .other⟩

/-- The image has a third value, which is stored behind the buffer. -/
theorem pairTensor_overrun :
    ¬FilledExactly roomyHost [[pairTensor]] 0 ⟨[0, 0, 0], [], []⟩ ∧
      (prepareInputTensors roomyHost [[pairTensor]] 0 ⟨[0, 0, 0], [], []⟩).1 = true := by
  refine ⟨fun filled => ?_, by decide⟩
  have within := filled.within ⟨4, [⟨0, [0, 0]⟩, ⟨2, [0, 0]⟩, ⟨4, [0, 0]⟩]⟩ (by decide)
  exact absurd (within ⟨4, [0, 0]⟩ (by decide)) (by decide)

end Iq9Pipeline.Vision.InputTensors
