import Iq9Pipeline.Foundation.Machine
import Iq9Pipeline.FrameCache.SlotPool
import Mathlib.Logic.Function.Basic

/-!
`DmaBufProducer::SubmitFrame` as executed by any number of channel threads
(`producer.cpp`, `ipc_sender.cpp`). A thread's program counter stands between
two actions that lock a mutex or block, and every label carries what the
operating system answered to that action.
-/

namespace Iq9Pipeline.FrameCache

open Foundation

/-- `IpcSender::PollRelease` on what `recv(..., 12, MSG_DONTWAIT)` returned:
`none` for a negative result, else the bytes read. -/
def pollRelease (received : Option (List UInt8)) : Option IQ9ReleasePacket :=
  match received with
  | none => none
  | some bytes =>
      if bytes.length ≠ 12 then none
      else if (IQ9ReleasePacket.ofBytes bytes).magic ≠ iq9ReleaseMagic then none
      else some (IQ9ReleasePacket.ofBytes bytes)

theorem pollRelease_toBytes {packet : IQ9ReleasePacket} (magic : packet.magic = iq9ReleaseMagic) :
    pollRelease (some packet.toBytes) = some packet := by
  simp [pollRelease, IQ9ReleasePacket.ofBytes_toBytes, magic]

structure FrameArgs where
  width : Int32
  height : Int32
  yStride : Int32
  uvOffset : Int32
  timestampNs : UInt64
deriving DecidableEq, Repr

def taskPacket (args : FrameArgs) (slot : Nat) : IQ9TaskPacket where
  magic := iq9TaskMagic
  slotIndex := UInt32.ofNat slot
  width := args.width.toUInt32
  height := args.height.toUInt32
  channels := 3
  dataType := PixelFormat.rgb24.code
  timestampNs := args.timestampNs

inductive Pc
  | idle
  | lockPoll (args : FrameArgs)
  | polling (args : FrameArgs)
  | acquireSlot (args : FrameArgs)
  | mapSlot (args : FrameArgs) (slot : Nat)
  | syncStart (args : FrameArgs) (slot : Nat)
  | syncEnd (args : FrameArgs) (slot : Nat)
  | sendFrame (args : FrameArgs) (slot : Nat)
  | submitSlot (args : FrameArgs) (slot : Nat)
  | revertSlot (slot : Nat) (error : String)
deriving DecidableEq, Repr

def Pc.owns : Pc → Option Nat
  | .idle | .lockPoll _ | .polling _ | .acquireSlot _ => none
  | .mapSlot _ slot | .syncStart _ slot | .syncEnd _ slot | .sendFrame _ slot
  | .submitSlot _ slot | .revertSlot slot _ => some slot

/-- The slot whose frame is handed over while the slot is not yet marked in flight. -/
def Pc.handedOver : Pc → Option Nat
  | .submitSlot _ slot => some slot
  | _ => none

theorem Pc.owns_of_handedOver {pc : Pc} {slot : Nat} (handed : pc.handedOver = some slot) :
    pc.owns = some slot := by
  cases pc <;> simp_all [Pc.handedOver, Pc.owns]

structure DmaBufProducer (Thread : Type) where
  slotPool : SlotPool
  relayMode : Bool
  pollMutex : Option Thread
  pc : Thread → Pc
  result : Thread → Option (Except String UInt32)

/-- One locked or blocking action, with the outcome the environment chose. -/
inductive Action (Thread : Type)
  | call (thread : Thread) (args : FrameArgs)
  | lockPoll (thread : Thread)
  | pollRelease (thread : Thread) (received : Option (List UInt8))
  | acquireSlot (thread : Thread)
  | mapSlot (thread : Thread)
  | syncStart (thread : Thread) (failure : Option String)
  | syncEnd (thread : Thread) (failure : Option String)
  | sendFrame (thread : Thread) (failure : Option String)
  | submitSlot (thread : Thread)
  | revertSlot (thread : Thread)
  | releaseSlotDirect (slotIndex : UInt32)

namespace DmaBufProducer

variable {Thread : Type} [DecidableEq Thread]

def goto (producer : DmaBufProducer Thread) (thread : Thread) (next : Pc) :
    DmaBufProducer Thread :=
  { producer with pc := Function.update producer.pc thread next }

def returns (producer : DmaBufProducer Thread) (thread : Thread)
    (value : Except String UInt32) : DmaBufProducer Thread :=
  { producer.goto thread .idle with
    result := Function.update producer.result thread (some value) }

def withPool (producer : DmaBufProducer Thread) (slotPool : SlotPool) : DmaBufProducer Thread :=
  { producer with slotPool := slotPool }

def step (producer : DmaBufProducer Thread) : Action Thread → Option (DmaBufProducer Thread)
  | .call thread args =>
      match producer.pc thread with
      | .idle => some (producer.goto thread (.lockPoll args))
      | _ => none
  | .lockPoll thread =>
      match producer.pc thread, producer.pollMutex with
      | .lockPoll args, none =>
          some { producer.goto thread (.polling args) with pollMutex := some thread }
      | _, _ => none
  | .pollRelease thread received =>
      match producer.pc thread with
      | .polling args =>
          match FrameCache.pollRelease received with
          | some packet =>
              some (producer.withPool (producer.slotPool.releaseSlot (castInt packet.slotIndex)).2)
          | none => some { producer.goto thread (.acquireSlot args) with pollMutex := none }
      | _ => none
  | .acquireSlot thread =>
      match producer.pc thread with
      | .acquireSlot args =>
          let acquired := producer.slotPool.acquireSlot
          if acquired.1 < 0 then
            some ((producer.withPool acquired.2).returns thread (.error "no free slots"))
          else
            some ((producer.withPool acquired.2).goto thread (.mapSlot args acquired.1.toNat))
      | _ => none
  | .mapSlot thread =>
      match producer.pc thread with
      | .mapSlot args slot =>
          if producer.slotPool.getSlotFd slot < 0 ∨ producer.slotPool.getSlotPtr slot = none then
            some (producer.goto thread (.revertSlot slot "invalid slot state"))
          else
            some (producer.goto thread (.syncStart args slot))
      | _ => none
  | .syncStart thread failure =>
      match producer.pc thread, failure with
      | .syncStart args slot, none => some (producer.goto thread (.syncEnd args slot))
      | .syncStart _ slot, some reason =>
          some (producer.goto thread (.revertSlot slot
            ("DMA_BUF_IOCTL_SYNC(SYNC_START|SYNC_WRITE) failed: " ++ reason)))
      | _, _ => none
  | .syncEnd thread failure =>
      match producer.pc thread, failure with
      | .syncEnd args slot, none =>
          -- In relay mode nothing is sent: the caller publishes the slot index itself.
          some (producer.goto thread
            (if producer.relayMode then .submitSlot args slot else .sendFrame args slot))
      | .syncEnd _ slot, some reason =>
          some (producer.goto thread (.revertSlot slot
            ("DMA_BUF_IOCTL_SYNC(SYNC_END|SYNC_WRITE) failed: " ++ reason)))
      | _, _ => none
  | .sendFrame thread failure =>
      match producer.pc thread, failure with
      | .sendFrame args slot, none => some (producer.goto thread (.submitSlot args slot))
      | .sendFrame _ slot, some reason => some (producer.goto thread (.revertSlot slot reason))
      | _, _ => none
  | .submitSlot thread =>
      match producer.pc thread with
      | .submitSlot _ slot =>
          let submitted := producer.slotPool.submitSlot slot
          if submitted.1 then
            some ((producer.withPool submitted.2).returns thread (.ok (UInt32.ofNat slot)))
          else
            some (producer.goto thread
              (.revertSlot slot "SubmitSlot failed: unexpected slot state"))
      | _ => none
  | .revertSlot thread =>
      match producer.pc thread with
      | .revertSlot slot error =>
          some ((producer.withPool (producer.slotPool.revertSlot slot).2).returns thread
            (.error error))
      | _ => none
  | .releaseSlotDirect slotIndex =>
      some (producer.withPool (producer.slotPool.releaseSlot (castInt slotIndex)).2)

def ofPool (slotPool : SlotPool) (relayMode : Bool) : DmaBufProducer Thread where
  slotPool := slotPool
  relayMode := relayMode
  pollMutex := none
  pc _ := .idle
  result _ := none

def Fresh (producer : DmaBufProducer Thread) : Prop :=
  (∀ index state, producer.slotPool.state? index = some state → state = .idle) ∧
    (∀ thread, producer.pc thread = .idle) ∧ producer.pollMutex = none

def machine (Thread : Type) [DecidableEq Thread] :
    Machine (DmaBufProducer Thread) (Action Thread) where
  start := Fresh
  step := step

def Quiescent (producer : DmaBufProducer Thread) : Prop :=
  ∀ thread, producer.pc thread = .idle

omit [DecidableEq Thread] in
theorem fresh_ofPool {pool made : SlotPool} {heapPath : String} {slotStride : Nat}
    {numSlots : Int} {answers : SlotPool.HeapAnswers} (relayMode : Bool)
    (accepted : pool.init heapPath slotStride numSlots answers = .ok made) :
    (ofPool made relayMode : DmaBufProducer Thread).Fresh := by
  refine ⟨fun index state found => ?_, fun _ => rfl, rfl⟩
  have slots := (SlotPool.init_ok accepted).2.2.2.2.2.2.2
  simp only [ofPool, SlotPool.state?, slots, List.getElem?_map, Option.map_map,
    Option.map_eq_some_iff] at found
  obtain ⟨_, _, idle⟩ := found
  exact idle.symm

@[simp] theorem slotPool_goto (producer : DmaBufProducer Thread) (thread : Thread) (next : Pc) :
    (producer.goto thread next).slotPool = producer.slotPool := rfl

@[simp] theorem pc_goto (producer : DmaBufProducer Thread) (thread : Thread) (next : Pc) :
    (producer.goto thread next).pc = Function.update producer.pc thread next := rfl

@[simp] theorem slotPool_returns (producer : DmaBufProducer Thread) (thread : Thread)
    (value : Except String UInt32) :
    (producer.returns thread value).slotPool = producer.slotPool := rfl

@[simp] theorem pc_returns (producer : DmaBufProducer Thread) (thread : Thread)
    (value : Except String UInt32) :
    (producer.returns thread value).pc = Function.update producer.pc thread .idle := rfl

@[simp] theorem result_returns (producer : DmaBufProducer Thread) (thread : Thread)
    (value : Except String UInt32) :
    (producer.returns thread value).result =
      Function.update producer.result thread (some value) := rfl

omit [DecidableEq Thread] in
@[simp] theorem slotPool_withPool (producer : DmaBufProducer Thread) (slotPool : SlotPool) :
    (producer.withPool slotPool).slotPool = slotPool := rfl

omit [DecidableEq Thread] in
@[simp] theorem pc_withPool (producer : DmaBufProducer Thread) (slotPool : SlotPool) :
    (producer.withPool slotPool).pc = producer.pc := rfl

theorem Fresh.reachable_run {producer final : DmaBufProducer Thread} (fresh : producer.Fresh)
    {actions : List (Action Thread)}
    (ran : (machine Thread).run (fun _ _ => True) producer actions = some final) :
    (machine Thread).Reachable final :=
  Machine.ReachableUnder.run (Machine.ReachableUnder.start fresh) ran

end DmaBufProducer

def oneSlotPool : SlotPool where
  slots := [{ offset := 0, state := .idle }]
  sharedFd := 5
  basePtr := some 4096
  slotStride := 4096
  bufferSize := 4096
  numSlots := 1
  initialized := true
  sized := rfl
  bounded := by decide

def demoArgs : FrameArgs where
  width := 32
  height := 32
  yStride := 32
  uvOffset := 1024
  timestampNs := 1000

theorem fresh_oneSlotPool {Thread : Type} {relayMode : Bool} :
    (DmaBufProducer.ofPool oneSlotPool relayMode : DmaBufProducer Thread).Fresh := by
  refine ⟨fun index state found => ?_, fun _ => rfl, rfl⟩
  cases index with
  | zero => exact (Option.some.inj found).symm
  | succ index => simp [DmaBufProducer.ofPool, oneSlotPool, SlotPool.state?] at found

end Iq9Pipeline.FrameCache
