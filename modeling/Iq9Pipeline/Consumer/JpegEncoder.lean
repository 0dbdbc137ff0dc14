import Iq9Pipeline.Consumer.FrameFit
import Iq9Pipeline.Foundation.LoopNest
import Mathlib.Tactic.Linarith
import Mathlib.Tactic.Ring

/-!
The encoder of the VLM path (`jpeg_encoder.cpp`) and what it reads of the copy of a frame
(`consumer_demo.cpp`). The copy is as long as the channels of the packet make it; the
encoder takes three bytes for a pixel.
-/

namespace Iq9Pipeline.Consumer

open Foundation

structure JpegConfig where
  quality : Int32 := 80
  targetWidth : UInt32 := 448
  targetHeight : UInt32 := 448

namespace JpegEncoder

def pixelCopies (srcW srcH srcRowBytes dstW dstH dy dx : UInt32) : List (Nat × Nat) :=
  let sy := dy * srcH / dstH
  let srcRow := (sy * srcRowBytes).toNat
  let dstRow := (dy * dstW * 3).toNat
  let sx := dx * srcW / dstW
  let srcPx := srcRow + (sx * 3).toNat
  let dstPx := dstRow + (dx * 3).toNat
  [(dstPx, srcPx), (dstPx + 1, srcPx + 1), (dstPx + 2, srcPx + 2)]

def resizeCopies (srcW srcH srcRowBytes dstW dstH : UInt32) : List (Nat × Nat) :=
  nest dstH.toNat fun dy => nest dstW.toNat fun dx =>
    pixelCopies srcW srcH srcRowBytes dstW dstH (UInt32.ofNat dy) (UInt32.ofNat dx)

def resizeRgb24 (src : List UInt8) (srcW srcH srcRowBytes dstW dstH : UInt32) : List UInt8 :=
  (resizeCopies srcW srcH srcRowBytes dstW dstH).foldl
    (fun dst copy => dst.set copy.1 (src.getD copy.2 0))
    (List.replicate (dstW * dstH * 3).toNat 0)

structure Picture where
  encodeSrc : List UInt8
  encodeW : UInt32
  encodeRowBytes : UInt32
  encodeH : UInt32

structure TurboJpeg where
  initCompress : Bool
  compress2 : Picture → Int32 → Except String (List UInt8)

def encode (turbo : TurboJpeg) (config : JpegConfig) (rgbData : List UInt8)
    (width height rowBytes : UInt32) : Except String (List UInt8) :=
  let picture : Picture :=
    if width ≠ config.targetWidth ∨ height ≠ config.targetHeight then
      { encodeSrc := resizeRgb24 rgbData width height rowBytes config.targetWidth
          config.targetHeight
        encodeW := config.targetWidth
        encodeRowBytes := config.targetWidth * 3
        encodeH := config.targetHeight }
    else ⟨rgbData, width, rowBytes, height⟩
  if !turbo.initCompress then .error "tjInitCompress failed"
  else
    match turbo.compress2 picture config.quality with
    | .error text => .error ("tjCompress2 failed: " ++ text)
    | .ok jpegBytes => .ok jpegBytes

/-- What `tjCompress2` reads: three bytes of each pixel of every row. -/
def tjCompress2Reads (width rowBytes height : UInt32) : List Nat :=
  nest height.toNat fun row => nest (3 * width.toNat) fun column => [row * rowBytes.toNat + column]

def encodeReads (config : JpegConfig) (width height rowBytes : UInt32) : List Nat :=
  if width ≠ config.targetWidth ∨ height ≠ config.targetHeight then
    (resizeCopies width height rowBytes config.targetWidth config.targetHeight).map Prod.snd
  else tjCompress2Reads width rowBytes height

end JpegEncoder

structure EncodeJob where
  copySize : Nat
  width : UInt32
  height : UInt32
  rowBytes : UInt32

def encodeJob (packet : IQ9TaskPacket) (frame : Frame) : Option EncodeJob :=
  if packet.dataType = PixelFormat.rgb24.code then
    some {
      copySize := frame.dataSize.toNat
      width := frame.width
      height := frame.height
      rowBytes := frame.width * 3 }
  else none

def JpegConfig.Sized (config : JpegConfig) : Prop :=
  3 * config.targetWidth.toNat * config.targetHeight.toNat < 2 ^ 32

instance (config : JpegConfig) : Decidable config.Sized :=
  inferInstanceAs (Decidable (_ < _))

structure EncodeJob.Inside (job : EncodeJob) (config : JpegConfig) : Prop where
  reads : ∀ index ∈ JpegEncoder.encodeReads config job.width job.height job.rowBytes,
    index < job.copySize
  writes : ∀ copy ∈ JpegEncoder.resizeCopies job.width job.height job.rowBytes
    config.targetWidth config.targetHeight,
      copy.1 < (config.targetWidth * config.targetHeight * 3).toNat

namespace JpegEncoder

theorem toNat_mul_le (left right : UInt32) : (left * right).toNat ≤ left.toNat * right.toNat := by
  rw [UInt32.toNat_mul]
  exact Nat.mod_le _ _

theorem toNat_mul_of_lt {left right : UInt32} (small : left.toNat * right.toNat < 2 ^ 32) :
    (left * right).toNat = left.toNat * right.toNat := by
  rw [UInt32.toNat_mul, Nat.mod_eq_of_lt small]

theorem toNat_ofNat_of_le {value : Nat} {bound : UInt32} (below : value ≤ bound.toNat) :
    (UInt32.ofNat value).toNat = value :=
  UInt32.toNat_ofNat_of_lt' (Nat.lt_of_le_of_lt below bound.toNat_lt)

theorem scaled_lt {step source target : UInt32} (inside : step.toNat < target.toNat)
    (positive : 0 < source.toNat) : (step * source / target).toNat < source.toNat := by
  rw [UInt32.toNat_div, Nat.div_lt_iff_lt_mul (by omega)]
  calc (step * source).toNat ≤ step.toNat * source.toNat := toNat_mul_le step source
    _ < target.toNat * source.toNat := Nat.mul_lt_mul_of_pos_right inside positive
    _ = source.toNat * target.toNat := Nat.mul_comm _ _

theorem pixel_lt {row column height width : Nat} (inRow : row < height)
    (inColumn : column < width) :
    row * (3 * width) + (3 * column + 2) < 3 * width * height := by
  have rows := Nat.mul_le_mul_right (3 * width) (show row + 1 ≤ height by omega)
  rw [Nat.succ_mul] at rows
  have swap : height * (3 * width) = 3 * width * height := Nat.mul_comm _ _
  omega

section Bounds

variable {width height targetWidth targetHeight rowBytes : UInt32}

theorem rowBytes_le (width : UInt32) : (width * 3).toNat ≤ 3 * width.toNat := by
  have product := toNat_mul_le width 3
  have three : (3 : UInt32).toNat = 3 := rfl
  rw [three] at product
  omega

theorem mem_resizeCopies {copy : Nat × Nat} :
    copy ∈ resizeCopies width height rowBytes targetWidth targetHeight ↔
      ∃ dy < targetHeight.toNat, ∃ dx < targetWidth.toNat,
        copy ∈ pixelCopies width height rowBytes targetWidth targetHeight (UInt32.ofNat dy)
          (UInt32.ofNat dx) := by
  simp only [resizeCopies, mem_nest]

theorem resizeCopies_read_lt (wide : 0 < width.toNat) (high : 0 < height.toNat) :
    ∀ copy ∈ resizeCopies width height (width * 3) targetWidth targetHeight,
      copy.2 < 3 * width.toNat * height.toNat := by
  intro copy member
  obtain ⟨dy, inRow, dx, inColumn, member⟩ := mem_resizeCopies.mp member
  rw [← toNat_ofNat_of_le inRow.le] at inRow
  rw [← toNat_ofNat_of_le inColumn.le] at inColumn
  have row := scaled_lt inRow high
  have column := scaled_lt inColumn wide
  have line := toNat_mul_le (UInt32.ofNat dy * height / targetHeight) (width * 3)
  have rows := Nat.mul_le_mul_left (UInt32.ofNat dy * height / targetHeight).toNat
    (rowBytes_le width)
  have place := rowBytes_le (UInt32.ofNat dx * width / targetWidth)
  have inside := pixel_lt row column
  simp only [pixelCopies, List.mem_cons, List.not_mem_nil, or_false] at member
  rcases member with rfl | rfl | rfl <;> dsimp only <;> omega

theorem resizeCopies_write_lt
    (sized : 3 * targetWidth.toNat * targetHeight.toNat < 2 ^ 32) :
    ∀ copy ∈ resizeCopies width height rowBytes targetWidth targetHeight,
      copy.1 < (targetWidth * targetHeight * 3).toNat := by
  intro copy member
  obtain ⟨dy, inRow, dx, inColumn, member⟩ := mem_resizeCopies.mp member
  have three : (3 : UInt32).toNat = 3 := rfl
  have product : targetWidth.toNat * targetHeight.toNat * 3 =
      3 * targetWidth.toNat * targetHeight.toNat := by ring
  have area := @toNat_mul_of_lt targetWidth targetHeight (by omega)
  have size := @toNat_mul_of_lt (targetWidth * targetHeight) 3 (by rw [area, three]; omega)
  rw [area, three, product] at size
  have line := Nat.le_trans (rowBytes_le (UInt32.ofNat dy * targetWidth))
    (Nat.mul_le_mul_left 3 (toNat_mul_le (UInt32.ofNat dy) targetWidth))
  have place := rowBytes_le (UInt32.ofNat dx)
  rw [toNat_ofNat_of_le inRow.le] at line
  rw [toNat_ofNat_of_le inColumn.le] at place
  have inside := pixel_lt inRow inColumn
  have swap : dy * (3 * targetWidth.toNat) = 3 * (dy * targetWidth.toNat) := by ring
  rw [size]
  simp only [pixelCopies, List.mem_cons, List.not_mem_nil, or_false] at member
  rcases member with rfl | rfl | rfl <;> dsimp only <;> omega

theorem tjCompress2Reads_lt :
    ∀ index ∈ tjCompress2Reads width (width * 3) height,
      index < 3 * width.toNat * height.toNat := by
  intro index member
  simp only [tjCompress2Reads, mem_nest, List.mem_singleton] at member
  obtain ⟨row, inRow, column, inColumn, rfl⟩ := member
  have line := Nat.mul_le_mul_left row (rowBytes_le width)
  have rows := Nat.mul_le_mul_right (3 * width.toNat) (show row + 1 ≤ height.toNat by omega)
  rw [Nat.succ_mul, Nat.mul_comm height.toNat] at rows
  omega

theorem encodeReads_lt {config : JpegConfig} (wide : 0 < width.toNat) (high : 0 < height.toNat) :
    ∀ index ∈ encodeReads config width height (width * 3),
      index < 3 * width.toNat * height.toNat := by
  intro index member
  rw [encodeReads] at member
  split at member
  · obtain ⟨copy, listed, rfl⟩ := List.mem_map.mp member
    exact resizeCopies_read_lt wide high copy listed
  · exact tjCompress2Reads_lt index member

theorem last_mem_encodeReads (wide : 0 < width.toNat) (high : 0 < height.toNat)
    (small : 3 * width.toNat < 2 ^ 32) (quality : Int32) :
    3 * width.toNat * height.toNat - 1 ∈
      encodeReads ⟨quality, width, height⟩ width height (width * 3) := by
  have three : (3 : UInt32).toNat = 3 := rfl
  have line := @toNat_mul_of_lt width 3 (by rw [three]; omega)
  have rows : (height.toNat - 1) * (3 * width.toNat) + 3 * width.toNat =
      3 * width.toNat * height.toNat := by
    rw [← Nat.succ_mul, Nat.succ_eq_add_one, Nat.sub_add_cancel high, Nat.mul_comm]
  rw [three] at line
  rw [encodeReads, if_neg (by simp), tjCompress2Reads]
  simp only [mem_nest, List.mem_singleton]
  refine ⟨height.toNat - 1, by omega, 3 * width.toNat - 1, by omega, ?_⟩
  rw [line, Nat.mul_comm width.toNat]
  omega

theorem pixel_mem_encodeReads {config : JpegConfig} {dy dx : Nat}
    (resized : width ≠ config.targetWidth ∨ height ≠ config.targetHeight)
    (inRow : dy < config.targetHeight.toNat) (inColumn : dx < config.targetWidth.toNat) :
    (UInt32.ofNat dy * height / config.targetHeight * rowBytes).toNat +
        (UInt32.ofNat dx * width / config.targetWidth * 3).toNat + 2 ∈
      encodeReads config width height rowBytes := by
  rw [encodeReads, if_pos resized, List.mem_map]
  let dst := (UInt32.ofNat dy * config.targetWidth * 3).toNat + (UInt32.ofNat dx * 3).toNat + 2
  refine ⟨(dst, _), mem_resizeCopies.mpr ⟨dy, inRow, dx, inColumn, ?_⟩, rfl⟩
  exact List.mem_cons_of_mem _ (List.mem_cons_of_mem _ List.mem_cons_self)

/-- A wide frame scaled down to three columns is read from the second third of its row on. -/
theorem wide_read (quality : Int32) (wide : 2 ^ 27 ≤ width.toNat) :
    ∃ index ∈ encodeReads ⟨quality, 3, 1⟩ width height rowBytes, 2 ^ 27 ≤ index := by
  have three : (3 : UInt32).toNat = 3 := rfl
  have one : (1 : UInt32).toNat = 1 := rfl
  have bound := width.toNat_lt
  have resized : width ≠ 3 := by
    rintro rfl
    omega
  refine ⟨_, @pixel_mem_encodeReads _ _ _ ⟨quality, 3, 1⟩ 0 1 (Or.inl resized)
    (by rw [one]; omega) (by rw [three]; omega), ?_⟩
  have column : (UInt32.ofNat 1 * width / 3).toNat = width.toNat / 3 := by
    rw [UInt32.toNat_div, toNat_mul_of_lt (by rw [UInt32.toNat_ofNat']; omega), three,
      UInt32.toNat_ofNat', Nat.mod_eq_of_lt (by decide), Nat.one_mul]
  have place := @toNat_mul_of_lt (UInt32.ofNat 1 * width / 3) 3 (by rw [column, three]; omega)
  rw [column, three] at place
  dsimp only
  rw [place]
  omega

/-- Scaled down to `rows` rows, the second row of a narrow frame of many rows begins at an
offset that is large and does not wrap. -/
theorem exists_rows {width height : Nat} (wide : 0 < width) (narrow : width < 2 ^ 27)
    (area : 2 ^ 32 < width * height) :
    ∃ rows, 2 ≤ rows ∧ 4 * rows ≤ height ∧ 2 ^ 27 ≤ height / rows * (3 * width) ∧
      height / rows * (3 * width) < 2 ^ 32 := by
  -- `skip` rows of the frame are more than 2^27 bytes
  obtain ⟨skip, skips⟩ : ∃ skip, skip = 2 ^ 27 / (3 * width) + 4 := ⟨_, rfl⟩
  have least : 4 ≤ skip := skips ▸ Nat.le_add_left 4 _
  have below := Nat.div_mul_le_self (2 ^ 27) (3 * width)
  have above := Nat.lt_div_mul_add (a := 2 ^ 27) (show 0 < 3 * width by omega)
  have bytes : skip * (3 * width) = 2 ^ 27 / (3 * width) * (3 * width) + 12 * width := by
    rw [skips, Nat.add_mul]
    omega
  have twice : 2 * skip ≤ height := by
    by_contra few
    have product := Nat.mul_le_mul_left width (show height ≤ 2 * skip by omega)
    have swap : width * (2 * skip) * 3 = 2 * (skip * (3 * width)) := by ring
    omega
  have many : 2 ≤ height / skip := by
    rw [Nat.le_div_iff_mul_le (by omega)]
    exact twice
  have atMost := Nat.div_mul_le_self height skip
  have atLeast := Nat.lt_div_mul_add (a := height) (show 0 < skip by omega)
  have four := Nat.mul_le_mul_left (height / skip) least
  refine ⟨height / skip, many, by omega, ?_⟩
  have low : skip ≤ height / (height / skip) := by
    rw [Nat.le_div_iff_mul_le (by omega), Nat.mul_comm]
    exact atMost
  have high : height / (height / skip) ≤ 2 * skip := by
    apply Nat.le_of_lt_succ
    rw [Nat.div_lt_iff_lt_mul (by omega), Nat.succ_mul]
    have product := Nat.mul_le_mul_right skip many
    have swap : 2 * skip * (height / skip) = height / skip * skip + height / skip * skip := by
      ring
    omega
  have lowOffset := Nat.mul_le_mul_right (3 * width) low
  have highOffset := Nat.mul_le_mul_right (3 * width) high
  rw [Nat.mul_assoc] at highOffset
  omega

theorem tall_read (quality : Int32) (wide : 0 < width.toNat) (narrow : width.toNat < 2 ^ 27)
    (area : 2 ^ 32 < width.toNat * height.toNat) :
    ∃ targetHeight : UInt32, 3 * targetHeight.toNat < 2 ^ 32 ∧
      ∃ index ∈ encodeReads ⟨quality, 1, targetHeight⟩ width height (width * 3),
        2 ^ 27 ≤ index := by
  have three : (3 : UInt32).toNat = 3 := rfl
  have one : (1 : UInt32).toNat = 1 := rfl
  have bound := height.toNat_lt
  obtain ⟨rows, many, few, low, high⟩ := exists_rows wide narrow area
  have target : (UInt32.ofNat rows).toNat = rows :=
    UInt32.toNat_ofNat_of_lt' (by simp only [UInt32.size]; omega)
  have resized : height ≠ UInt32.ofNat rows := by
    intro same
    rw [same, target] at few
    omega
  refine ⟨UInt32.ofNat rows, by omega, _, @pixel_mem_encodeReads _ _ _
    ⟨quality, 1, UInt32.ofNat rows⟩ 1 0 (Or.inr resized) (by rw [target]; omega)
    (by rw [one]; omega), ?_⟩
  have row : (UInt32.ofNat 1 * height / UInt32.ofNat rows).toNat = height.toNat / rows := by
    rw [UInt32.toNat_div, toNat_mul_of_lt (by rw [UInt32.toNat_ofNat']; omega), target,
      UInt32.toNat_ofNat', Nat.mod_eq_of_lt (by decide), Nat.one_mul]
  have line : (width * 3).toNat = 3 * width.toNat := by
    rw [toNat_mul_of_lt (by rw [three]; omega), three, Nat.mul_comm]
  have offset := @toNat_mul_of_lt (UInt32.ofNat 1 * height / UInt32.ofNat rows) (width * 3)
    (by rw [row, line]; omega)
  rw [row, line] at offset
  dsimp only
  rw [offset]
  omega

theorem exists_far_read (wide : 0 < width.toNat)
    (area : 2 ^ 32 < width.toNat * height.toNat) :
    ∃ config : JpegConfig, config.Sized ∧
      ∃ index ∈ encodeReads config width height (width * 3), 2 ^ 27 ≤ index := by
  by_cases narrow : width.toNat < 2 ^ 27
  · obtain ⟨targetHeight, sized, far⟩ := tall_read 80 wide narrow area
    refine ⟨⟨80, 1, targetHeight⟩, ?_, far⟩
    have one : (1 : UInt32).toNat = 1 := rfl
    simp only [JpegConfig.Sized, one]
    omega
  · exact ⟨⟨80, 3, 1⟩, by decide, wide_read 80 (Nat.le_of_not_lt narrow)⟩

end Bounds

end JpegEncoder

open JpegEncoder DmaBufConsumer

variable {consumer : DmaBufConsumer} {packet : IQ9TaskPacket} {frame : Frame} {job : EncodeJob}

theorem encodeJob_eq (ready : consumer.Ready) (accepted : consumer.mapFrame packet = .ok frame)
    (captured : encodeJob packet frame = some job) :
    0 < frameSize packet % 2 ^ 64 ∧ frameSize packet % 2 ^ 64 ≤ 2 ^ 27 ∧
      job = ⟨frameSize packet % 2 ^ 64, packet.width, packet.height, packet.width * 3⟩ := by
  obtain ⟨_, _, positive, inSlot, rfl⟩ := (mapFrame_ok_iff ready).mp accepted
  have stride := ready.stride_le
  simp only [kMaxBufferSize] at stride
  refine ⟨positive, by omega, ?_⟩
  simp only [encodeJob, Option.ite_none_right_eq_some, Option.some.injEq] at captured
  rw [← captured.2]
  congr
  exact UInt32.toNat_ofNat_of_lt' (by simp only [UInt32.size]; omega)

/-- The encoder stays inside the copy, whatever it scales to, if and only if the packet has
three channels at least and its size does not wrap around. -/
theorem encode_inside_iff (ready : consumer.Ready)
    (accepted : consumer.mapFrame packet = .ok frame)
    (captured : encodeJob packet frame = some job) :
    (∀ config : JpegConfig, config.Sized → job.Inside config) ↔
      3 ≤ packet.channels.toNat ∧ frameSize packet < 2 ^ 64 := by
  obtain ⟨positive, small, rfl⟩ := encodeJob_eq ready accepted captured
  have nonzero : 0 < frameSize packet := by omega
  have someChannel : 0 < packet.channels.toNat := Nat.pos_of_mul_pos_left nonzero
  have area : 0 < packet.width.toNat * packet.height.toNat := Nat.pos_of_mul_pos_right nonzero
  have wide : 0 < packet.width.toNat := Nat.pos_of_mul_pos_right area
  have high : 0 < packet.height.toNat := Nat.pos_of_mul_pos_left area
  have triple : 3 * packet.width.toNat * packet.height.toNat =
      packet.width.toNat * packet.height.toNat * 3 := by ring
  constructor
  · intro inside
    have unwrapped : frameSize packet < 2 ^ 64 := by
      by_contra large
      have huge : 2 ^ 32 < packet.width.toNat * packet.height.toNat := by
        by_contra flat
        have channels := packet.channels.toNat_lt
        have product := Nat.mul_lt_mul_of_le_of_lt (Nat.le_of_not_lt flat) channels (by decide)
        rw [frameSize] at large
        omega
      obtain ⟨config, sized, index, read, far⟩ := exists_far_read wide huge
      have near := (inside config sized).reads index read
      dsimp only at near
      omega
    refine ⟨?_, unwrapped⟩
    by_contra few
    have channels := Nat.mul_le_mul_left (packet.width.toNat * packet.height.toNat)
      (show packet.channels.toNat ≤ 2 by omega)
    have least := Nat.mul_le_mul_left (packet.width.toNat * packet.height.toNat)
      (show 1 ≤ packet.channels.toNat from someChannel)
    have line := Nat.mul_le_mul_left (3 * packet.width.toNat) high
    rw [Nat.mod_eq_of_lt unwrapped] at small inside
    rw [frameSize] at small inside
    have sized : (⟨80, packet.width, packet.height⟩ : JpegConfig).Sized := by
      simp only [JpegConfig.Sized]
      omega
    have near := (inside _ sized).reads _ (last_mem_encodeReads wide high (by omega) 80)
    dsimp only at near
    omega
  · rintro ⟨channels, unwrapped⟩ config sized
    have covered := Nat.mul_le_mul_left (packet.width.toNat * packet.height.toNat) channels
    refine ⟨fun index read => ?_, resizeCopies_write_lt sized⟩
    have near := encodeReads_lt wide high index read
    dsimp only
    rw [Nat.mod_eq_of_lt unwrapped, frameSize]
    omega

theorem encode_inside_fullHd :
    (∀ config : JpegConfig, config.Sized → EncodeJob.Inside ⟨6220800, 1920, 1080, 5760⟩ config) ↔
      3 ≤ (3 : UInt32).toNat ∧ frameSize (rgbPacket 1920 1080) < 2 ^ 64 := by
  have accepted := (@mapFrame_ok_iff fullHd (rgbPacket 1920 1080) _ ready_fullHd).mpr
    ⟨rfl, by decide +kernel, by decide +kernel, by decide +kernel, rfl⟩
  exact encode_inside_iff ready_fullHd accepted rfl

/-- A packet of one channel: the copy has 8 bytes, and the encoder reads 24. -/
def grayPacket : IQ9TaskPacket :=
  { rgbPacket 4 2 with channels := 1 }

theorem encode_overreads : ¬∀ (consumer : DmaBufConsumer) (packet : IQ9TaskPacket)
    (frame : Frame) (job : EncodeJob) (config : JpegConfig), consumer.Ready →
      consumer.mapFrame packet = .ok frame → encodeJob packet frame = some job →
        config.Sized → job.Inside config := by
  intro universal
  have accepted := (@mapFrame_ok_iff fullHd grayPacket _ ready_fullHd).mpr
    ⟨rfl, by decide +kernel, by decide +kernel, by decide +kernel, rfl⟩
  have near := (universal fullHd grayPacket _ _ ⟨80, 4, 2⟩ ready_fullHd accepted rfl
    (by decide)).reads 23 (by decide +kernel)
  revert near
  decide +kernel

end Iq9Pipeline.Consumer
