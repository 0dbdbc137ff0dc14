import Iq9Pipeline.Consumer.DmaBufConsumer

/-!
Which frames `MapFrame` accepts. It computes the size of a frame as a product of three
fields modulo 2^64, so that a frame far larger than a slot passes when the remainder is
small.
-/

namespace Iq9Pipeline

theorem castInt_inRange_iff {value : UInt32} {count : Int} (small : count ≤ 2 ^ 31) :
    (0 ≤ castInt value ∧ castInt value < count) ↔ (value.toNat : Int) < count := by
  constructor
  · rintro ⟨nonnegative, below⟩
    have exactly := castInt_toNat nonnegative
    omega
  · intro below
    rw [castInt_of_small (by omega)]
    omega

namespace Consumer.DmaBufConsumer

/-- What an accepted handshake leaves: slots that tile a buffer of bounded size. -/
structure Ready (consumer : DmaBufConsumer) : Prop where
  initialized : consumer.initialized = true
  positive : 0 < consumer.slotCount
  bounded : consumer.slotCount ≤ kMaxSlots
  tiled : consumer.slotStride * consumer.slotCount.toNat = consumer.bufferSize
  small : consumer.bufferSize ≤ kMaxBufferSize

theorem ready_of_init {consumer made : DmaBufConsumer} {answers : HandshakeAnswers}
    {packet : IQ9InitPacket} (received : answers.recvPacket = .ok packet)
    (accepted : consumer.init answers = .ok made) : made.Ready := by
  obtain ⟨sharedFd, adopted⟩ := init_ok received accepted
  obtain ⟨positive, bounded, small, tiled, count, stride, size⟩ := adopt_ok adopted
  have initialized : made.initialized = true := by
    simp only [adopt] at adopted
    split at adopted
    · simp at adopted
    split at adopted
    · simp at adopted
    split at adopted
    · simp at adopted
    split at adopted
    · simp at adopted
    · simp only [Except.ok.injEq] at adopted
      subst adopted
      rfl
  have fewSlots : (castInt packet.slotCount).toNat ≤ 32 := by
    simp only [kMaxSlots] at bounded
    omega
  have noWrap : packet.slotStride.toNat * (castInt packet.slotCount).toNat < 2 ^ 64 := by
    have strideBound := packet.slotStride.toNat_lt
    have product := Nat.mul_le_mul strideBound.le fewSlots
    omega
  rw [sizeMul, Nat.mod_eq_of_lt noWrap] at tiled
  exact ⟨initialized, by omega, by omega, by rw [stride, count, size, tiled], by omega⟩

end Consumer.DmaBufConsumer

namespace Consumer

def frameSize (packet : IQ9TaskPacket) : Nat :=
  packet.width.toNat * packet.height.toNat * packet.channels.toNat

theorem sizeMul_frameSize (packet : IQ9TaskPacket) :
    sizeMul (sizeMul packet.width.toNat packet.height.toNat) packet.channels.toNat =
      frameSize packet % 2 ^ 64 := by
  rw [sizeMul, sizeMul, Nat.mod_mul_mod, frameSize]

namespace DmaBufConsumer

structure Fits (consumer : DmaBufConsumer) (packet : IQ9TaskPacket) (frame : Frame) : Prop where
  positive : 0 < frameSize packet
  inSlot : frameSize packet ≤ consumer.slotStride
  dataSize : frame.dataSize.toNat = frameSize packet
  slotOffset : frame.slotOffset = packet.slotIndex.toNat * consumer.slotStride
  inBuffer : frame.slotOffset + frame.dataSize.toNat ≤ consumer.bufferSize

/-- The packet passes the other checks, and the remainder of its size passes for the size. -/
structure Overflows (consumer : DmaBufConsumer) (packet : IQ9TaskPacket) : Prop where
  magic : packet.magic = iq9TaskMagic
  slotIndex : (packet.slotIndex.toNat : Int) < consumer.slotCount
  large : 2 ^ 64 ≤ frameSize packet
  positive : 0 < frameSize packet % 2 ^ 64
  inSlot : frameSize packet % 2 ^ 64 ≤ consumer.slotStride

variable {consumer : DmaBufConsumer} {packet : IQ9TaskPacket} {frame : Frame}

theorem Ready.stride_le (ready : consumer.Ready) : consumer.slotStride ≤ kMaxBufferSize := by
  have positive := ready.positive
  have one := Nat.mul_le_mul_left consumer.slotStride
    (show 1 ≤ consumer.slotCount.toNat by omega)
  rw [ready.tiled, Nat.mul_one] at one
  exact Nat.le_trans one ready.small

theorem Ready.window_le (ready : consumer.Ready) {index : Nat}
    (inRange : (index : Int) < consumer.slotCount) :
    index * consumer.slotStride + consumer.slotStride ≤ consumer.bufferSize := by
  have next := Nat.mul_le_mul_left consumer.slotStride
    (show index + 1 ≤ consumer.slotCount.toNat by omega)
  rw [ready.tiled, Nat.mul_comm, Nat.succ_mul] at next
  exact next

/-- What an accepted packet has passed, and where its frame lies. -/
theorem mapFrame_ok_iff (ready : consumer.Ready) :
    consumer.mapFrame packet = .ok frame ↔
      packet.magic = iq9TaskMagic ∧ (packet.slotIndex.toNat : Int) < consumer.slotCount ∧
        0 < frameSize packet % 2 ^ 64 ∧ frameSize packet % 2 ^ 64 ≤ consumer.slotStride ∧
        frame = {
          fd := consumer.sharedFd
          data := consumer.basePtr.getD 0 + packet.slotIndex.toNat * consumer.slotStride
          width := packet.width
          height := packet.height
          channels := packet.channels
          dataSize := UInt32.ofNat (frameSize packet % 2 ^ 64)
          timestampNs := packet.timestampNs
          slotIndex := packet.slotIndex
          slotStride := UInt32.ofNat consumer.slotStride
          slotOffset := packet.slotIndex.toNat * consumer.slotStride } := by
  have slots := ready.bounded
  have buffer := ready.small
  simp only [kMaxSlots, kMaxBufferSize] at slots buffer
  rw [mapFrame, ready.initialized]
  simp only [Bool.not_true, Bool.false_eq_true, if_false, sizeMul_frameSize]
  by_cases magic : packet.magic = iq9TaskMagic
  · by_cases inRange : (packet.slotIndex.toNat : Int) < consumer.slotCount
    · have index := castInt_of_small (show packet.slotIndex.toNat < 2 ^ 31 by omega)
      have window := ready.window_le inRange
      have offset : sizeMul packet.slotIndex.toNat consumer.slotStride =
          packet.slotIndex.toNat * consumer.slotStride := Nat.mod_eq_of_lt (by omega)
      rw [if_neg (by simpa using magic), if_neg (by omega), index, Int.toNat_natCast, offset]
      by_cases fits : 0 < frameSize packet % 2 ^ 64 ∧
          frameSize packet % 2 ^ 64 ≤ consumer.slotStride
      · have total : (packet.slotIndex.toNat * consumer.slotStride + frameSize packet % 2 ^ 64) %
            2 ^ 64 = packet.slotIndex.toNat * consumer.slotStride + frameSize packet % 2 ^ 64 :=
          Nat.mod_eq_of_lt (by omega)
        rw [total, if_neg (by omega), Except.ok.injEq]
        constructor
        · rintro rfl
          exact ⟨magic, inRange, fits.1, fits.2, rfl⟩
        · rintro ⟨_, _, _, _, rfl⟩
          rfl
      · rw [if_pos (by omega)]
        apply iff_of_false nofun
        rintro ⟨_, _, positive, inSlot, _⟩
        exact fits ⟨positive, inSlot⟩
    · have outside : castInt packet.slotIndex < 0 ∨
          consumer.slotCount ≤ castInt packet.slotIndex := by
        by_contra inside
        rw [not_or, Int.not_lt, Int.not_le] at inside
        exact inRange ((castInt_inRange_iff (by omega)).mp inside)
      rw [if_neg (by simpa using magic), if_pos outside]
      simp [inRange]
  · simp [magic]

theorem fits_of_small (ready : consumer.Ready) (small : frameSize packet < 2 ^ 64)
    (accepted : consumer.mapFrame packet = .ok frame) : consumer.Fits packet frame := by
  obtain ⟨_, inRange, positive, inSlot, rfl⟩ := (mapFrame_ok_iff ready).mp accepted
  rw [Nat.mod_eq_of_lt small] at positive inSlot
  have stride := ready.stride_le
  have window := ready.window_le inRange
  simp only [kMaxBufferSize] at stride
  have size : (UInt32.ofNat (frameSize packet % 2 ^ 64)).toNat = frameSize packet := by
    rw [Nat.mod_eq_of_lt small]
    exact UInt32.toNat_ofNat_of_lt' (by simp only [UInt32.size]; omega)
  exact ⟨positive, inSlot, size, rfl, by simp only [size]; omega⟩

/-- An accepted frame fits its slot if and only if its size does not wrap around into it. -/
theorem mapFrame_fits_iff (ready : consumer.Ready) (packet : IQ9TaskPacket) :
    (∀ frame, consumer.mapFrame packet = .ok frame → consumer.Fits packet frame) ↔
      ¬consumer.Overflows packet := by
  constructor
  · rintro fits ⟨magic, inRange, large, positive, inSlot⟩
    have accepted := (mapFrame_ok_iff ready).mpr ⟨magic, inRange, positive, inSlot, rfl⟩
    have size := (fits _ accepted).inSlot
    have stride := ready.stride_le
    simp only [kMaxBufferSize] at stride
    omega
  · intro unwrapped frame accepted
    refine fits_of_small ready ?_ accepted
    obtain ⟨magic, inRange, positive, inSlot, _⟩ := (mapFrame_ok_iff ready).mp accepted
    by_contra large
    exact unwrapped ⟨magic, inRange, by omega, positive, inSlot⟩

def fullHd : DmaBufConsumer where
  initialized := true
  sharedFd := 5
  basePtr := some 4096
  slotStride := 6220800
  bufferSize := 24883200
  slotCount := 4

def rgbPacket (width height : UInt32) : IQ9TaskPacket where
  magic := iq9TaskMagic
  slotIndex := 1
  width := width
  height := height
  channels := 3
  dataType := PixelFormat.rgb24.code
  timestampNs := 1000

theorem ready_fullHd : fullHd.Ready := by
  refine ⟨rfl, ?_, ?_, ?_, ?_⟩ <;> decide +kernel

theorem mapFrame_fits_fullHd :
    (∀ frame, fullHd.mapFrame (rgbPacket 1920 1080) = .ok frame →
      fullHd.Fits (rgbPacket 1920 1080) frame) ↔ ¬fullHd.Overflows (rgbPacket 1920 1080) :=
  mapFrame_fits_iff ready_fullHd (rgbPacket 1920 1080)

/-- 2479917521 * 2479483547 * 3 is 2^64 + 29345. -/
theorem mapFrame_overflows : ¬∀ (consumer : DmaBufConsumer) (packet : IQ9TaskPacket)
    (frame : Frame), consumer.Ready → consumer.mapFrame packet = .ok frame →
      consumer.Fits packet frame := by
  intro universal
  have fits := (universal fullHd (rgbPacket 2479917521 2479483547) _ ready_fullHd
    ((mapFrame_ok_iff ready_fullHd).mpr ⟨rfl, by decide +kernel, by decide +kernel,
      by decide +kernel, rfl⟩)).inSlot
  revert fits
  decide +kernel

end DmaBufConsumer

end Consumer

end Iq9Pipeline
