import Iq9Pipeline.Packets

/-!
The consumer's library (`consumer.cpp`, `ipc_receiver.cpp`): the handshake that
maps the shared buffer, the check of every task packet against it, and the
release packet that gives a slot back.
-/

namespace Iq9Pipeline.Consumer

def kMaxSlots : Int := 32

def kMaxBufferSize : Nat := 128 * 1024 * 1024

structure DmaBufConsumer where
  initialized : Bool
  sharedFd : Int
  basePtr : Option Nat
  slotStride : Nat
  bufferSize : Nat
  slotCount : Int
deriving DecidableEq, Repr

structure Frame where
  fd : Int
  data : Nat
  width : UInt32
  height : UInt32
  channels : UInt32
  dataSize : UInt32
  timestampNs : UInt64
  slotIndex : UInt32
  slotStride : UInt32
  slotOffset : Nat
deriving DecidableEq, Repr

structure HandshakeAnswers where
  connect : Except String Unit
  recvPacket : Except String IQ9InitPacket
  recvFd : Except String Int
  map : Except String Nat

namespace DmaBufConsumer

def new : DmaBufConsumer where
  initialized := false
  sharedFd := -1
  basePtr := none
  slotStride := 0
  bufferSize := 0
  slotCount := 0

def recvInit (answers : HandshakeAnswers) : Except String (IQ9InitPacket × Int) :=
  match answers.recvPacket with
  | .error reason => .error reason
  | .ok packet =>
      if packet.magic ≠ iq9InitMagic then
        .error s!"RecvInit: invalid init magic: 0x{packet.magic.toNat}"
      else if castInt packet.slotCount ≤ 0 then
        .error s!"RecvInit: invalid slot_count {castInt packet.slotCount}"
      else
        match answers.recvFd with
        | .error reason => .error reason
        | .ok receivedFd =>
            if receivedFd < 0 then .error "RecvInit: no shared fd received"
            else .ok (packet, receivedFd)

def adopt (packet : IQ9InitPacket) (sharedFd : Int) (map : Except String Nat) :
    Except String DmaBufConsumer :=
  let slotCount := castInt packet.slotCount
  let slotStride := packet.slotStride.toNat
  let bufferSize := packet.bufferSize.toNat
  if slotCount ≤ 0 ∨ kMaxSlots < slotCount then
    .error "invalid slot_count in init packet"
  else if slotStride = 0 ∨ bufferSize = 0 ∨ kMaxBufferSize < bufferSize then
    .error "slot_stride/buffer_size out of range"
  else if sizeMul slotStride slotCount.toNat ≠ bufferSize then
    .error "buffer_size mismatch with slot_count*slot_stride"
  else
    match map with
    | .error reason => .error ("mmap shared buffer failed: " ++ reason)
    | .ok address =>
        .ok {
          initialized := true
          sharedFd := sharedFd
          basePtr := some address
          slotStride := slotStride
          bufferSize := bufferSize
          slotCount := slotCount
        }

def init (consumer : DmaBufConsumer) (answers : HandshakeAnswers) :
    Except String DmaBufConsumer :=
  if consumer.initialized then
    .error "consumer already initialized"
  else
    match answers.connect, recvInit answers with
    | .error reason, _ => .error reason
    | .ok _, .error reason => .error reason
    | .ok _, .ok (packet, sharedFd) => adopt packet sharedFd answers.map

def mapFrame (consumer : DmaBufConsumer) (packet : IQ9TaskPacket) : Except String Frame :=
  if !consumer.initialized then
    .error "consumer not initialized"
  else if packet.magic ≠ iq9TaskMagic then
    .error "invalid task packet magic"
  else
    let index := castInt packet.slotIndex
    if index < 0 ∨ consumer.slotCount ≤ index then
      .error s!"slot_index {index} out of range (slot_count={consumer.slotCount})"
    else
      let rawSize := sizeMul (sizeMul packet.width.toNat packet.height.toNat)
        packet.channels.toNat
      let offset := sizeMul index.toNat consumer.slotStride
      if rawSize = 0 ∨ consumer.bufferSize < offset ∨ consumer.slotStride < rawSize ∨
          consumer.bufferSize < (offset + rawSize) % 2 ^ 64 then
        .error "frame dimensions exceed slot window/buffer size"
      else
        .ok {
          fd := consumer.sharedFd
          data := consumer.basePtr.getD 0 + offset
          width := packet.width
          height := packet.height
          channels := packet.channels
          dataSize := UInt32.ofNat rawSize
          timestampNs := packet.timestampNs
          slotIndex := packet.slotIndex
          slotStride := UInt32.ofNat consumer.slotStride
          slotOffset := offset
        }

def releasePacket (slotIndex : UInt32) : IQ9ReleasePacket where
  magic := iq9ReleaseMagic
  slotIndex := slotIndex
  status := 0

theorem adopt_ok {packet : IQ9InitPacket} {sharedFd : Int} {map : Except String Nat}
    {made : DmaBufConsumer} (accepted : adopt packet sharedFd map = .ok made) :
    0 < castInt packet.slotCount ∧ castInt packet.slotCount ≤ kMaxSlots ∧
      packet.bufferSize.toNat ≤ kMaxBufferSize ∧
      sizeMul packet.slotStride.toNat (castInt packet.slotCount).toNat = packet.bufferSize.toNat ∧
      made.slotCount = castInt packet.slotCount ∧
      made.slotStride = packet.slotStride.toNat ∧ made.bufferSize = packet.bufferSize.toNat := by
  simp only [adopt] at accepted
  split at accepted
  · simp at accepted
  split at accepted
  · simp at accepted
  split at accepted
  · simp at accepted
  rename_i count sizes product
  split at accepted
  · simp at accepted
  · simp only [Except.ok.injEq] at accepted
    subst accepted
    exact ⟨by omega, by omega, by omega, by simpa using product, rfl, rfl, rfl⟩

theorem init_ok {consumer made : DmaBufConsumer} {answers : HandshakeAnswers}
    {packet : IQ9InitPacket} (received : answers.recvPacket = .ok packet)
    (accepted : consumer.init answers = .ok made) :
    ∃ sharedFd, adopt packet sharedFd answers.map = .ok made := by
  simp only [init, recvInit, received] at accepted
  split at accepted
  · simp at accepted
  split at accepted
  · simp at accepted
  · simp at accepted
  · rename_i packet' sharedFd _ transferred
    split at transferred
    · simp at transferred
    split at transferred
    · simp at transferred
    split at transferred
    · simp at transferred
    split at transferred
    · simp at transferred
    · simp only [Except.ok.injEq, Prod.mk.injEq] at transferred
      exact ⟨sharedFd, transferred.1 ▸ accepted⟩

end DmaBufConsumer

end Iq9Pipeline.Consumer
