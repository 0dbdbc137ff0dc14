import Iq9Pipeline.FrameCache.SlotPool
import Mathlib.Tactic.Linarith

/-!
`DmaBufProducer::Init` (`producer.cpp`): the slot stride is the size of one RGB frame
of the configured geometry, rounded up to a page, and the handshake packet carries it
in 32 bits.
-/

namespace Iq9Pipeline.FrameCache

structure Config where
  socketPath : Option String
  heapPath : Option String
  width : Int32
  height : Int32
  slotCount : Int32
  relayMode : Bool
deriving DecidableEq, Repr

structure InitAnswers where
  heap : SlotPool.HeapAnswers
  ipcInit : Except String Unit
  acceptClient : Except String Unit
  sendInit : Except String Unit

def alignUp (value alignment : UInt64) : UInt64 :=
  (value + alignment - 1) &&& ~~~(alignment - 1)

def castSize (value : Int32) : UInt64 :=
  value.toInt64.toUInt64

structure InitialisedProducer where
  slotPool : SlotPool
  width : Int32
  height : Int32
  slotCount : Int32
  slotStride : UInt64
  bufferSize : UInt64
  relayMode : Bool
  packet : IQ9InitPacket

namespace Config

def slots (config : Config) : Int32 :=
  if config.slotCount ≤ 0 then 4 else config.slotCount

def slotStride (config : Config) : UInt64 :=
  alignUp (castSize config.width * castSize config.height * 3) 4096

def bufferSize (config : Config) : UInt64 :=
  config.slotStride * castSize config.slots

def initPacket (config : Config) : IQ9InitPacket where
  magic := iq9InitMagic
  slotCount := config.slots.toUInt32
  slotStride := config.slotStride.toUInt32
  bufferSize := config.bufferSize.toUInt32
  width := config.width.toUInt32
  height := config.height.toUInt32
  channels := 3
  dataType := PixelFormat.rgb24.code

end Config

def InitialisedProducer.init (config : Config) (answers : InitAnswers) :
    Except String InitialisedProducer :=
  if config.width ≤ 0 ∨ config.height ≤ 0 then
    .error "DmaBufProducer::Init: width and height must be > 0"
  else
    let heapPath := config.heapPath.getD "/dev/dma_heap/qcom,system"
    match SlotPool.empty.init heapPath config.slotStride.toNat config.slots.toInt answers.heap with
    | .error reason => .error reason
    | .ok slotPool =>
        match answers.ipcInit, answers.acceptClient, answers.sendInit with
        | .ok _, .ok _, .ok _ =>
            .ok {
              slotPool := slotPool
              width := config.width
              height := config.height
              slotCount := config.slots
              slotStride := config.slotStride
              bufferSize := config.bufferSize
              relayMode := config.relayMode
              packet := config.initPacket
            }
        | .error reason, _, _ | _, .error reason, _ | _, _, .error reason => .error reason

def pageCeil (size : Nat) : Nat :=
  (size + 4095) / 4096 * 4096

theorem and_pageMask {size : Nat} (small : size < 2 ^ 64) :
    size &&& (2 ^ 64 - 4096) = size / 4096 * 4096 := by
  have shifted : size / 4096 * 4096 = (size >>> 12) <<< 12 := by
    rw [Nat.shiftLeft_eq, Nat.shiftRight_eq_div_pow]
  rw [shifted]
  apply Nat.eq_of_testBit_eq
  intro bit
  have mask : (2 ^ 64 - 4096).testBit bit = (decide (bit < 64) && !(2 ^ 12 - 1).testBit bit) :=
    Nat.testBit_two_pow_sub_succ (by decide) bit
  rw [Nat.testBit_and, mask, Nat.testBit_two_pow_sub_one, Nat.testBit_shiftLeft,
    Nat.testBit_shiftRight]
  by_cases low : bit < 12
  · simp [low]
  · have high : 12 + (bit - 12) = bit := by omega
    by_cases inWord : bit < 64
    · simp [low, inWord, high, Nat.le_of_not_lt low]
    · have zero : size.testBit bit = false := Nat.testBit_lt_two_pow
        (Nat.lt_of_lt_of_le small (Nat.pow_le_pow_right (by decide) (by omega)))
      simp [high, zero]

theorem alignUp_toNat {value : UInt64} (small : value.toNat + 4095 < 2 ^ 64) :
    (alignUp value 4096).toNat = pageCeil value.toNat := by
  have raised : (value + 4096 - 1).toNat = value.toNat + 4095 := by
    rw [UInt64.toNat_sub, UInt64.toNat_add]
    have one : UInt64.toNat 1 = 1 := rfl
    have page : UInt64.toNat 4096 = 4096 := rfl
    omega
  have mask : (~~~(4096 - 1) : UInt64).toNat = 2 ^ 64 - 4096 := by decide
  rw [alignUp, UInt64.toNat_and, raised, mask, and_pageMask small, pageCeil]

theorem castSize_toNat {value : Int32} (positive : 0 < value.toInt) :
    (castSize value).toNat = value.toInt.toNat :=
  toNat_toUInt64_of_nonneg (Int.le_of_lt positive)

def rgbBytes (width height : Int32) : Nat :=
  width.toInt.toNat * height.toInt.toNat * 3

theorem Config.slotStride_toNat {config : Config} (width : 0 < config.width.toInt)
    (height : 0 < config.height.toInt) :
    config.slotStride.toNat = pageCeil (rgbBytes config.width config.height) := by
  have wide : config.width.toInt.toNat < 2 ^ 31 := by
    have := config.width.toInt_lt
    omega
  have high : config.height.toInt.toNat < 2 ^ 31 := by
    have := config.height.toInt_lt
    omega
  have area : config.width.toInt.toNat * config.height.toInt.toNat ≤ (2 ^ 31 - 1) * (2 ^ 31 - 1) :=
    Nat.mul_le_mul (by omega) (by omega)
  have raw : (castSize config.width * castSize config.height * 3).toNat =
      rgbBytes config.width config.height := by
    have three : UInt64.toNat 3 = 3 := rfl
    rw [UInt64.toNat_mul, UInt64.toNat_mul, castSize_toNat width, castSize_toNat height, three,
      rgbBytes, Nat.mod_eq_of_lt (b := 2 ^ 64) (by omega), Nat.mod_eq_of_lt (by omega)]
  rw [Config.slotStride, alignUp_toNat (by rw [raw, rgbBytes]; omega), raw]

theorem InitialisedProducer.init_ok {config : Config} {answers : InitAnswers}
    {made : InitialisedProducer} (accepted : init config answers = .ok made) :
    0 < config.width.toInt ∧ 0 < config.height.toInt ∧
      SlotPool.empty.init (config.heapPath.getD "/dev/dma_heap/qcom,system")
        config.slotStride.toNat config.slots.toInt answers.heap = .ok made.slotPool ∧
      made.slotCount = config.slots ∧ made.slotStride = config.slotStride ∧
      made.bufferSize = config.bufferSize ∧ made.packet = config.initPacket := by
  simp only [init] at accepted
  split at accepted
  · simp at accepted
  split at accepted
  · simp at accepted
  rename_i geometry _ pool initialised
  simp only [not_or, Int32.le_iff_toInt_le, Int32.toInt_zero, not_le] at geometry
  split at accepted
  · simp only [Except.ok.injEq] at accepted
    subst accepted
    exact ⟨geometry.1, geometry.2, initialised, rfl, rfl, rfl, rfl⟩
  all_goals simp at accepted

theorem InitialisedProducer.init_layout {config : Config} {answers : InitAnswers}
    {made : InitialisedProducer} (initialised : init config answers = .ok made) :
    let stride := pageCeil (rgbBytes config.width config.height)
    0 < config.slots.toInt ∧ made.slotStride.toNat = stride ∧
      made.bufferSize.toNat = stride * config.slots.toInt.toNat ∧
      made.slotPool.Layout stride config.slots.toInt.toNat := by
  intro stride
  obtain ⟨width, height, pool, _, slotStride, bufferSize, _⟩ :=
    init_ok initialised
  have positive := (SlotPool.init_ok pool).1
  have layout := SlotPool.init_layout pool
  have strideEq : config.slotStride.toNat = stride := Config.slotStride_toNat width height
  rw [strideEq] at layout
  refine ⟨positive, by rw [slotStride, strideEq], ?_, layout⟩
  rw [bufferSize, Config.bufferSize, UInt64.toNat_mul, castSize_toNat positive, strideEq]
  exact Nat.mod_eq_of_lt layout.small

def willingAnswers : InitAnswers where
  heap := { openHeap := 4, openFallback := -1, allocate := .ok 5, map := .ok 4096, errno := "" }
  ipcInit := .ok ()
  acceptClient := .ok ()
  sendInit := .ok ()

def geometry (width height slotCount : Int32) : Config where
  socketPath := none
  heapPath := none
  width := width
  height := height
  slotCount := slotCount
  relayMode := false

end Iq9Pipeline.FrameCache
