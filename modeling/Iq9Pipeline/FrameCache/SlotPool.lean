import Iq9Pipeline.Packets
import Mathlib.Data.List.Basic

/-!
The slot pool of the frame cache (`slot_pool.cpp`): one shared buffer cut into
equal windows, each idle, being written, or handed to the consumer. Every
method of the source locks the pool's mutex, so each is one atomic function.
-/

namespace Iq9Pipeline.FrameCache

inductive SlotState
  | idle
  | inUse
  | onFlight
deriving DecidableEq, Repr

structure Slot where
  offset : Nat
  state : SlotState
deriving DecidableEq, Repr

def kMaxSlots : Nat := 32

/-- The members of `SlotPool`. An uninitialised pool has no slots, and `Init`
accepts at most `kMaxSlots` of them. -/
structure SlotPool where
  slots : List Slot
  sharedFd : Int
  basePtr : Option Nat
  slotStride : Nat
  bufferSize : Nat
  numSlots : Int
  initialized : Bool
  sized : numSlots = slots.length
  bounded : slots.length ≤ kMaxSlots

namespace SlotPool

def empty : SlotPool where
  slots := []
  sharedFd := -1
  basePtr := none
  slotStride := 0
  bufferSize := 0
  numSlots := 0
  initialized := false
  sized := rfl
  bounded := by decide

structure HeapAnswers where
  openHeap : Int
  openFallback : Int
  allocate : Except String Int
  map : Except String Nat
  errno : String

def init (pool : SlotPool) (heapPath : String) (slotStride : Nat) (numSlots : Int)
    (answers : HeapAnswers) : Except String SlotPool :=
  if pool.initialized then
    .error "SlotPool already initialized"
  else if inRange : numSlots ≤ 0 ∨ (kMaxSlots : Int) < numSlots then
    .error s!"Invalid num_slots={numSlots} (must be 1..{kMaxSlots})"
  else if answers.openHeap < 0 ∧ answers.openFallback < 0 then
    .error ("Failed to open DMA heap at '" ++ heapPath ++
      "' and fallback '/dev/dma_heap/system': " ++ answers.errno)
  else if slotStride = 0 then
    .error "slot_stride must be > 0"
  else
    let bufferSize := sizeMul slotStride numSlots.toNat
    if bufferSize / numSlots.toNat ≠ slotStride then
      .error "slot buffer size overflow"
    else
      match answers.allocate, answers.map with
      | .error reason, _ =>
          .error (s!"DMA_HEAP_IOCTL_ALLOC failed for shared buffer (size={bufferSize}): " ++ reason)
      | .ok _, .error reason =>
          .error (s!"mmap failed for shared buffer (size={bufferSize}): " ++ reason)
      | .ok fd, .ok address =>
          .ok {
            slots := (List.range numSlots.toNat).map fun index =>
              { offset := sizeMul index slotStride, state := .idle }
            sharedFd := fd
            basePtr := some address
            slotStride := slotStride
            bufferSize := bufferSize
            numSlots := numSlots
            initialized := true
            sized := by
              rw [List.length_map, List.length_range]
              omega
            bounded := by
              rw [List.length_map, List.length_range]
              omega
          }

def state? (pool : SlotPool) (index : Nat) : Option SlotState :=
  pool.slots[index]?.map Slot.state

def setState (pool : SlotPool) (index : Nat) (state : SlotState) : SlotPool :=
  { pool with
    slots := pool.slots.modify index fun slot => { slot with state := state }
    sized := by simpa using pool.sized
    bounded := by simpa using pool.bounded }

def acquireSlot (pool : SlotPool) : Int × SlotPool :=
  match pool.slots.findIdx? fun slot => slot.state = .idle with
  | some index => (index, pool.setState index .inUse)
  | none => (-1, pool)

def moveSlot (pool : SlotPool) (source target : SlotState) (slotIndex : Int) : Bool × SlotPool :=
  if slotIndex < 0 ∨ pool.numSlots ≤ slotIndex then
    (false, pool)
  else if pool.state? slotIndex.toNat ≠ some source then
    (false, pool)
  else
    (true, pool.setState slotIndex.toNat target)

def submitSlot (pool : SlotPool) (slotIndex : Int) : Bool × SlotPool :=
  pool.moveSlot .inUse .onFlight slotIndex

def releaseSlot (pool : SlotPool) (slotIndex : Int) : Bool × SlotPool :=
  pool.moveSlot .onFlight .idle slotIndex

def revertSlot (pool : SlotPool) (slotIndex : Int) : Bool × SlotPool :=
  pool.moveSlot .inUse .idle slotIndex

def getSlotPtr (pool : SlotPool) (slotIndex : Int) : Option Nat :=
  if slotIndex < 0 ∨ pool.numSlots ≤ slotIndex then
    none
  else
    match pool.basePtr, pool.slots[slotIndex.toNat]? with
    | some base, some slot =>
        if pool.bufferSize ≤ slot.offset then none else some (base + slot.offset)
    | _, _ => none

def getSlotFd (pool : SlotPool) (slotIndex : Int) : Int :=
  if slotIndex < 0 ∨ pool.numSlots ≤ slotIndex then -1 else pool.sharedFd

def getSlotOffset (pool : SlotPool) (slotIndex : Int) : Nat :=
  if slotIndex < 0 ∨ pool.numSlots ≤ slotIndex then 0
  else (pool.slots[slotIndex.toNat]?.map Slot.offset).getD 0

@[simp] theorem state?_setState (pool : SlotPool) (index other : Nat) (state : SlotState) :
    (pool.setState index state).state? other =
      if index = other then (pool.state? other).map fun _ => state else pool.state? other := by
  simp only [state?, setState, List.getElem?_modify]
  split <;> cases pool.slots[other]? <;> simp

theorem state?_setState_self {pool : SlotPool} {index : Nat} {old : SlotState} (state : SlotState)
    (present : pool.state? index = some old) :
    (pool.setState index state).state? index = some state := by
  simp [present]

theorem state?_setState_of_ne {pool : SlotPool} {index other : Nat} (state : SlotState)
    (different : index ≠ other) :
    (pool.setState index state).state? other = pool.state? other := by
  simp [different]

theorem state?_setState_iff {pool : SlotPool} {index : Nat} {old new wanted : SlotState}
    (present : pool.state? index = some old) (leaves : old ≠ wanted) (enters : new ≠ wanted)
    (other : Nat) :
    (pool.setState index new).state? other = some wanted ↔ pool.state? other = some wanted := by
  by_cases same : index = other
  · subst other
    simp [present, leaves, enters]
  · rw [state?_setState_of_ne _ same]

theorem state?_bound {pool : SlotPool} {index : Nat} {state : SlotState}
    (present : pool.state? index = some state) : index < kMaxSlots := by
  simp only [state?, Option.map_eq_some_iff] at present
  obtain ⟨slot, found, _⟩ := present
  have bound := (List.getElem?_eq_some_iff.mp found).1
  have := pool.bounded
  omega

theorem state?_inRange {pool : SlotPool} {index : Nat} {state : SlotState}
    (present : pool.state? index = some state) : ¬ ((index : Int) < 0 ∨ pool.numSlots ≤ index) := by
  simp only [state?, Option.map_eq_some_iff] at present
  obtain ⟨slot, found, _⟩ := present
  have bound := (List.getElem?_eq_some_iff.mp found).1
  have := pool.sized
  omega

theorem moveSlot_cases (pool : SlotPool) (source target : SlotState) (slotIndex : Int) :
    (0 ≤ slotIndex ∧ pool.state? slotIndex.toNat = some source ∧
      pool.moveSlot source target slotIndex = (true, pool.setState slotIndex.toNat target)) ∨
    (pool.moveSlot source target slotIndex = (false, pool) ∧
      (0 ≤ slotIndex → pool.state? slotIndex.toNat ≠ some source)) := by
  unfold moveSlot
  split
  · rename_i outside
    refine .inr ⟨rfl, fun nonnegative present => ?_⟩
    have inside := state?_inRange present
    omega
  · split
    · rename_i wrong
      exact .inr ⟨rfl, fun _ => wrong⟩
    · rename_i inside present
      exact .inl ⟨by omega, by simpa using present, rfl⟩

theorem moveSlot_of_state {pool : SlotPool} {source : SlotState} {index : Nat}
    (target : SlotState) (present : pool.state? index = some source) :
    pool.moveSlot source target index = (true, pool.setState index target) := by
  rcases moveSlot_cases pool source target index with ⟨_, _, moved⟩ | ⟨_, refused⟩
  · simpa using moved
  · exact absurd present (by simpa using refused (by omega))

theorem moveSlot_of_not_state {pool : SlotPool} {source : SlotState} {index : Nat}
    (target : SlotState) (absent : pool.state? index ≠ some source) :
    pool.moveSlot source target index = (false, pool) := by
  rcases moveSlot_cases pool source target index with ⟨_, present, _⟩ | ⟨refused, _⟩
  · exact absurd (by simpa using present) absent
  · exact refused

theorem releaseSlot_of_not_onFlight {pool : SlotPool} {slotIndex : UInt32}
    (absent : pool.state? slotIndex.toNat ≠ some .onFlight) :
    pool.releaseSlot (castInt slotIndex) = (false, pool) := by
  rcases moveSlot_cases pool .onFlight .idle (castInt slotIndex) with
    ⟨nonnegative, present, _⟩ | ⟨refused, _⟩
  · exact absurd (castInt_toNat nonnegative ▸ present) absent
  · exact refused

theorem releaseSlot_of_onFlight {pool : SlotPool} {index : Nat}
    (present : pool.state? index = some .onFlight) :
    pool.releaseSlot (castInt (UInt32.ofNat index)) = (true, pool.setState index .idle) := by
  rw [castInt_ofNat (Nat.lt_trans (state?_bound present) (by decide))]
  exact moveSlot_of_state .idle present

theorem acquireSlot_cases (pool : SlotPool) :
    (∃ index : Nat, pool.state? index = some .idle ∧
      pool.acquireSlot = ((index : Int), pool.setState index .inUse)) ∨
    (pool.acquireSlot = (-1, pool) ∧ ∀ index, pool.state? index ≠ some .idle) := by
  unfold acquireSlot
  cases found : pool.slots.findIdx? fun slot => slot.state = .idle with
  | some index =>
      obtain ⟨bound, idle, _⟩ := List.findIdx?_eq_some_iff_getElem.mp found
      exact .inl ⟨index, by simpa [state?, bound] using idle, rfl⟩
  | none =>
      refine .inr ⟨rfl, fun index present => ?_⟩
      simp only [state?, Option.map_eq_some_iff] at present
      obtain ⟨slot, member, idle⟩ := present
      have refused := List.findIdx?_eq_none_iff.mp found slot (List.mem_of_getElem? member)
      simp [idle] at refused

/-- What an accepted initialisation promises: `numSlots` idle slots whose windows
tile the buffer, with no `size_t` overflow. -/
theorem init_ok {pool made : SlotPool} {heapPath : String} {slotStride : Nat} {numSlots : Int}
    {answers : HeapAnswers} (accepted : pool.init heapPath slotStride numSlots answers = .ok made) :
    0 < numSlots ∧ numSlots ≤ kMaxSlots ∧ 0 < slotStride ∧ made.slotStride = slotStride ∧
      made.numSlots = numSlots ∧ made.bufferSize = sizeMul slotStride numSlots.toNat ∧
      made.bufferSize / numSlots.toNat = slotStride ∧
      made.slots = (List.range numSlots.toNat).map fun index =>
        { offset := sizeMul index slotStride, state := .idle } := by
  unfold init at accepted
  split at accepted
  · simp at accepted
  split at accepted
  · simp at accepted
  split at accepted
  · simp at accepted
  split at accepted
  · simp at accepted
  rename_i inRange _ positive
  dsimp only at accepted
  split at accepted
  · simp at accepted
  rename_i exactProduct
  split at accepted
  · simp at accepted
  · simp at accepted
  · simp only [Except.ok.injEq] at accepted
    subst accepted
    exact ⟨by omega, by omega, by omega, rfl, rfl, rfl, by simpa using exactProduct, rfl⟩

theorem sizeMul_exact {stride count : Nat} (exactProduct : sizeMul stride count / count = stride) :
    sizeMul stride count = stride * count ∧ stride * count < 2 ^ 64 := by
  have below : sizeMul stride count ≤ stride * count := Nat.mod_le _ _
  have above : stride * count ≤ sizeMul stride count := by
    conv_lhs => rw [← exactProduct]
    exact Nat.div_mul_le_self _ _
  have small : sizeMul stride count < 2 ^ 64 := Nat.mod_lt _ (by decide)
  omega

structure Layout (pool : SlotPool) (stride count : Nat) : Prop where
  slotStride : pool.slotStride = stride
  bufferSize : pool.bufferSize = stride * count
  length : pool.slots.length = count
  offset : ∀ index slot, pool.slots[index]? = some slot → slot.offset = index * stride
  small : stride * count < 2 ^ 64

theorem init_layout {pool made : SlotPool} {heapPath : String} {slotStride : Nat} {numSlots : Int}
    {answers : HeapAnswers} (accepted : pool.init heapPath slotStride numSlots answers = .ok made) :
    made.Layout slotStride numSlots.toNat := by
  obtain ⟨_, _, _, stride, _, size, exactProduct, slots⟩ := init_ok accepted
  rw [size] at exactProduct
  obtain ⟨product, small⟩ := sizeMul_exact exactProduct
  refine ⟨stride, size.trans product, by simp [slots], fun index slot found => ?_, small⟩
  rw [slots] at found
  obtain ⟨bound, rfl⟩ := List.getElem?_eq_some_iff.mp found
  rw [List.length_map, List.length_range] at bound
  rw [List.getElem_map, List.getElem_range]
  have inside : index * slotStride ≤ slotStride * numSlots.toNat := by
    rw [Nat.mul_comm]
    exact Nat.mul_le_mul_left _ bound.le
  exact Nat.mod_eq_of_lt (Nat.lt_of_le_of_lt inside small)

theorem Layout.sizeMul_eq {pool : SlotPool} {stride count index : Nat}
    (layout : pool.Layout stride count) (bound : index ≤ count) :
    sizeMul index stride = index * stride := by
  have inside : index * stride ≤ stride * count := by
    rw [Nat.mul_comm]
    exact Nat.mul_le_mul_left _ bound
  exact Nat.mod_eq_of_lt (Nat.lt_of_le_of_lt inside layout.small)

theorem Layout.setState {pool : SlotPool} {stride count : Nat} (layout : pool.Layout stride count)
    (index : Nat) (state : SlotState) : (pool.setState index state).Layout stride count where
  slotStride := layout.slotStride
  bufferSize := layout.bufferSize
  length := by simpa [SlotPool.setState] using layout.length
  offset other slot found := by
    simp only [SlotPool.setState, List.getElem?_modify, Option.map_eq_map,
      Option.map_eq_some_iff] at found
    obtain ⟨old, present, rfl⟩ := found
    have unchanged := layout.offset other old present
    split <;> exact unchanged
  small := layout.small

theorem Layout.getSlotOffset_eq {pool : SlotPool} {stride count index : Nat}
    (layout : pool.Layout stride count) (bound : index < count) :
    pool.getSlotOffset index = index * stride := by
  have inside : index < pool.slots.length := layout.length ▸ bound
  have sized := pool.sized
  rw [getSlotOffset, if_neg (by omega), Int.toNat_natCast, List.getElem?_eq_getElem inside]
  exact layout.offset index _ (List.getElem?_eq_getElem inside)

end SlotPool

end Iq9Pipeline.FrameCache
