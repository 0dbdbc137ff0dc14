import Iq9Pipeline.Foundation.LittleEndian

/-!
The packet types that the producer, the rule process and the consumer share
(`dmabuf_producer/types.h`, `dmabuf_consumer/types.h`). Both ends of every socket
are on one host, so a packet travels as the bytes of its little-endian fields.
-/

namespace Iq9Pipeline

open Foundation

inductive PixelFormat
  | nv12
  | rgb24
deriving DecidableEq, Repr

def PixelFormat.code : PixelFormat → UInt32
  | .nv12 => 0
  | .rgb24 => 1

def iq9TaskMagic : UInt32 := 0x49513941
def iq9ReleaseMagic : UInt32 := 0x49513942
def iq9InitMagic : UInt32 := 0x49513943

structure IQ9TaskPacket where
  magic : UInt32
  slotIndex : UInt32
  width : UInt32
  height : UInt32
  channels : UInt32
  dataType : UInt32
  timestampNs : UInt64
deriving DecidableEq, Repr

structure IQ9ReleasePacket where
  magic : UInt32
  slotIndex : UInt32
  status : Int32
deriving DecidableEq, Repr

structure IQ9InitPacket where
  magic : UInt32
  slotCount : UInt32
  slotStride : UInt32
  bufferSize : UInt32
  width : UInt32
  height : UInt32
  channels : UInt32
  dataType : UInt32
deriving DecidableEq, Repr

def castInt (value : UInt32) : Int :=
  value.toBitVec.toInt

def castUInt32 (value : Int) : UInt32 :=
  UInt32.ofInt value

def sizeMul (left right : Nat) : Nat :=
  left * right % 2 ^ 64

theorem castInt_of_small {value : UInt32} (small : value.toNat < 2 ^ 31) :
    castInt value = value.toNat := by
  rw [castInt, BitVec.toInt_eq_toNat_of_lt]
  · rfl
  · simp only [UInt32.toNat_toBitVec]
    omega

theorem castInt_toNat {value : UInt32} (nonnegative : 0 ≤ castInt value) :
    (castInt value).toNat = value.toNat := by
  by_cases small : value.toNat < 2 ^ 31
  · rw [castInt_of_small small, Int.toNat_natCast]
  · have negative : castInt value = value.toNat - 2 ^ 32 := by
      rw [castInt, BitVec.toInt_eq_toNat_cond]
      simp only [UInt32.toNat_toBitVec]
      split <;> omega
    have := value.toNat_lt
    omega

theorem castInt_ofNat {index : Nat} (small : index < 2 ^ 31) :
    castInt (UInt32.ofNat index) = index := by
  have value : (UInt32.ofNat index).toNat = index := UInt32.toNat_ofNat_of_lt' (by
    simp only [UInt32.size]
    omega)
  rw [castInt_of_small (by omega), value]

theorem toNat_toUInt64_of_nonneg {value : Int32} (nonnegative : 0 ≤ value.toInt) :
    value.toInt64.toUInt64.toNat = value.toInt.toNat := by
  have wide := value.toInt_toInt64
  have nonneg64 : 0 ≤ value.toInt64 := by
    rw [Int64.le_iff_toInt_le, wide]
    exact nonnegative
  have clamped := Int64.toInt_eq_toNatClampNeg nonneg64
  rw [Int64.toNat_toUInt64_of_le nonneg64]
  omega

def IQ9TaskPacket.toBytes (packet : IQ9TaskPacket) : List UInt8 :=
  word32 packet.magic ++ (word32 packet.slotIndex ++ (word32 packet.width ++
    (word32 packet.height ++ (word32 packet.channels ++ (word32 packet.dataType ++
      word64 packet.timestampNs)))))

def IQ9TaskPacket.ofBytes (bytes : List UInt8) : IQ9TaskPacket where
  magic := word32At bytes 0
  slotIndex := word32At bytes 4
  width := word32At bytes 8
  height := word32At bytes 12
  channels := word32At bytes 16
  dataType := word32At bytes 20
  timestampNs := word64At bytes 24

def IQ9ReleasePacket.toBytes (packet : IQ9ReleasePacket) : List UInt8 :=
  word32 packet.magic ++ (word32 packet.slotIndex ++ word32 packet.status.toUInt32)

def IQ9ReleasePacket.ofBytes (bytes : List UInt8) : IQ9ReleasePacket where
  magic := word32At bytes 0
  slotIndex := word32At bytes 4
  status := (word32At bytes 8).toInt32

@[simp] theorem IQ9TaskPacket.toBytes_length (packet : IQ9TaskPacket) :
    packet.toBytes.length = 32 := by
  simp [IQ9TaskPacket.toBytes]

@[simp] theorem IQ9ReleasePacket.toBytes_length (packet : IQ9ReleasePacket) :
    packet.toBytes.length = 12 := by
  simp [IQ9ReleasePacket.toBytes]

theorem IQ9TaskPacket.ofBytes_toBytes (packet : IQ9TaskPacket) (rest : List UInt8) :
    IQ9TaskPacket.ofBytes (packet.toBytes ++ rest) = packet := by
  simp only [IQ9TaskPacket.ofBytes, IQ9TaskPacket.toBytes, List.append_assoc, word32At_word32,
    word32At_skip _ _ 0, word32At_skip _ _ 4, word32At_skip _ _ 8, word32At_skip _ _ 12,
    word32At_skip _ _ 16, word64At_skip _ _ 0, word64At_skip _ _ 4, word64At_skip _ _ 8,
    word64At_skip _ _ 12, word64At_skip _ _ 16, word64At_skip _ _ 20, word64At_word64]

theorem IQ9ReleasePacket.ofBytes_toBytes (packet : IQ9ReleasePacket) :
    IQ9ReleasePacket.ofBytes packet.toBytes = packet := by
  have status : word32At (word32 packet.status.toUInt32) 0 = packet.status.toUInt32 := by
    simpa using word32At_word32 packet.status.toUInt32 []
  simp only [IQ9ReleasePacket.ofBytes, IQ9ReleasePacket.toBytes, word32At_word32,
    word32At_skip _ _ 0, word32At_skip _ _ 4, status, Int32.toInt32_toUInt32]

end Iq9Pipeline
