import Iq9Pipeline.Consumer.DmaBufConsumer
import Iq9Pipeline.FrameCache.ProducerInit

/-!
The handshake: the memory layout the producer has initialised and the one the
consumer builds from the packet. The producer computes it in 64 bits and sends it in
32, and the consumer checks only what it receives.
-/

namespace Iq9Pipeline

open FrameCache Consumer

structure LayoutAgrees (made : InitialisedProducer) (consumer : DmaBufConsumer) : Prop where
  slotCount : consumer.slotCount = made.slotCount.toInt
  slotStride : consumer.slotStride = made.slotStride.toNat
  bufferSize : consumer.bufferSize = made.bufferSize.toNat
  windows : ∀ index : Nat, index < made.slotCount.toInt →
    (sizeMul index consumer.slotStride, consumer.slotStride) =
      (made.slotPool.getSlotOffset index, made.slotPool.slotStride)

section Accepted

variable {config : Config} {answers : InitAnswers} {made : InitialisedProducer}
  {replies : HandshakeAnswers} {consumer : DmaBufConsumer}

theorem consumer_layout (initialised : InitialisedProducer.init config answers = .ok made)
    (transferred : replies.recvPacket = .ok made.packet)
    (accepted : DmaBufConsumer.new.init replies = .ok consumer) :
    consumer.slotCount = config.slots.toInt ∧
      consumer.slotStride = pageCeil (rgbBytes config.width config.height) % 2 ^ 32 ∧
      consumer.bufferSize =
        pageCeil (rgbBytes config.width config.height) * config.slots.toInt.toNat % 2 ^ 32 := by
  obtain ⟨_, slotStride, bufferSize, _⟩ := InitialisedProducer.init_layout initialised
  obtain ⟨_, _, _, _, strideMember, sizeMember, packet⟩ := InitialisedProducer.init_ok initialised
  obtain ⟨sharedFd, adopted⟩ := DmaBufConsumer.init_ok transferred accepted
  obtain ⟨_, _, _, _, consumerCount, consumerStride, consumerSize⟩ :=
    DmaBufConsumer.adopt_ok adopted
  rw [packet] at consumerCount consumerStride consumerSize
  refine ⟨consumerCount, ?_, ?_⟩
  · rw [consumerStride, ← slotStride, strideMember]
    exact UInt64.toNat_toUInt32 _
  · rw [consumerSize, ← bufferSize, sizeMember]
    exact UInt64.toNat_toUInt32 _

theorem layoutAgrees_of_lt (initialised : InitialisedProducer.init config answers = .ok made)
    (transferred : replies.recvPacket = .ok made.packet)
    (accepted : DmaBufConsumer.new.init replies = .ok consumer)
    (small : pageCeil (rgbBytes config.width config.height) * config.slots.toInt.toNat < 2 ^ 32) :
    LayoutAgrees made consumer := by
  obtain ⟨consumerCount, consumerStride, consumerSize⟩ :=
    consumer_layout initialised transferred accepted
  obtain ⟨positive, slotStride, bufferSize, layout⟩ := InitialisedProducer.init_layout initialised
  have slotCount : made.slotCount = config.slots :=
    (InitialisedProducer.init_ok initialised).2.2.2.1
  have slots : 0 < config.slots.toInt.toNat := by omega
  have strideSmall : pageCeil (rgbBytes config.width config.height) < 2 ^ 32 :=
    Nat.lt_of_le_of_lt (Nat.le_mul_of_pos_right _ slots) small
  have sameStride : consumer.slotStride = made.slotStride.toNat := by
    rw [consumerStride, slotStride, Nat.mod_eq_of_lt strideSmall]
  refine ⟨by rw [consumerCount, slotCount], sameStride, ?_, fun index inside => ?_⟩
  · rw [consumerSize, bufferSize, Nat.mod_eq_of_lt small]
  · rw [slotCount] at inside
    have bound : index < config.slots.toInt.toNat := by omega
    have exactOffset := layout.sizeMul_eq bound.le
    rw [sameStride, slotStride, layout.getSlotOffset_eq bound, layout.slotStride, exactOffset]

end Accepted

/-- Both sides agree on the layout exactly when the whole buffer is under four GiB. -/
theorem layoutAgrees_iff {config : Config} {answers : InitAnswers} {made : InitialisedProducer}
    {replies : HandshakeAnswers} {consumer : DmaBufConsumer}
    (initialised : InitialisedProducer.init config answers = .ok made)
    (transferred : replies.recvPacket = .ok made.packet)
    (accepted : DmaBufConsumer.new.init replies = .ok consumer) :
    LayoutAgrees made consumer ↔
      pageCeil (rgbBytes config.width config.height) * config.slots.toInt.toNat < 2 ^ 32 := by
  obtain ⟨_, _, bufferSize, _⟩ := InitialisedProducer.init_layout initialised
  constructor
  · intro agrees
    have wrapped := (consumer_layout initialised transferred accepted).2.2
    rw [agrees.bufferSize, bufferSize] at wrapped
    rw [wrapped]
    exact Nat.mod_lt _ (by decide)
  · exact layoutAgrees_of_lt initialised transferred accepted

def willingReplies (packet : IQ9InitPacket) : HandshakeAnswers where
  connect := .ok ()
  recvPacket := .ok packet
  recvFd := .ok 6
  map := .ok 8192

theorem layoutAgrees_iff_fullHd : ∃ made consumer,
    InitialisedProducer.init (geometry 1920 1080 4) willingAnswers = .ok made ∧
      DmaBufConsumer.new.init (willingReplies made.packet) = .ok consumer ∧
      (LayoutAgrees made consumer ↔
        pageCeil (rgbBytes (geometry 1920 1080 4).width (geometry 1920 1080 4).height) *
          (geometry 1920 1080 4).slots.toInt.toNat < 2 ^ 32) := by
  obtain ⟨made, initialised⟩ : ∃ made, InitialisedProducer.init (geometry 1920 1080 4)
      willingAnswers = .ok made := ⟨_, rfl⟩
  have packet : made.packet = (geometry 1920 1080 4).initPacket :=
    (InitialisedProducer.init_ok initialised).2.2.2.2.2.2
  obtain ⟨consumer, accepted⟩ : ∃ consumer, DmaBufConsumer.new.init
      (willingReplies (geometry 1920 1080 4).initPacket) = .ok consumer := ⟨_, rfl⟩
  rw [← packet] at accepted
  exact ⟨made, consumer, initialised, accepted, layoutAgrees_iff initialised rfl accepted⟩

/-- One slot of just over four GiB passes for one of a page. -/
theorem layoutsDiffer : ¬ ∀ (made : InitialisedProducer) (consumer : DmaBufConsumer),
    InitialisedProducer.init (geometry 1431655766 1 1) willingAnswers = .ok made →
    DmaBufConsumer.new.init (willingReplies made.packet) = .ok consumer →
    LayoutAgrees made consumer := by
  intro universal
  obtain ⟨made, initialised⟩ : ∃ made, InitialisedProducer.init (geometry 1431655766 1 1)
      willingAnswers = .ok made := ⟨_, rfl⟩
  obtain ⟨_, _, _, _, slotStride, _, packet⟩ := InitialisedProducer.init_ok initialised
  obtain ⟨consumer, accepted⟩ : ∃ consumer, DmaBufConsumer.new.init
      (willingReplies (geometry 1431655766 1 1).initPacket) = .ok consumer := ⟨_, rfl⟩
  obtain ⟨sharedFd, adopted⟩ := DmaBufConsumer.init_ok rfl accepted
  obtain ⟨_, _, _, _, _, consumerStride, _⟩ := DmaBufConsumer.adopt_ok adopted
  rw [← packet] at accepted
  have same := (universal made consumer initialised accepted).slotStride
  rw [consumerStride, slotStride] at same
  exact absurd same (by decide)

end Iq9Pipeline
