import Iq9Pipeline.MultiCam.InverseAffine
import Iq9Pipeline.Vision.ResizeKernels

/-!
The kernels that cut faces out of a camera frame (`scrfd_preprocess.cl`,
`arcface_preprocess.cl`), in exact arithmetic on `float`. Both look up a place of the frame in
its two planes; they differ in how they find the place and in what they store.
-/

namespace Iq9Pipeline.MultiCam

open Foundation
open Foundation.Numerals
open Vision.Kernels (int32 int32_eq Tap Rgb pixels mem_pixels nodup_pixels)

def asInt (value : UInt32) : Int :=
  (value.toNat : Int).bmod (2 ^ 32)

def clamp {α : Type} [LinearOrder α] (value low high : α) : α :=
  min (max value low) high

structure Nv12Frame where
  yOffset : UInt32
  uvOffset : UInt32
  yStride : UInt32
  uvStride : UInt32
  srcW : UInt32
  srcH : UInt32
deriving DecidableEq

structure Quad (K : Type) where
  at00 : UInt32
  at01 : UInt32
  at10 : UInt32
  at11 : UInt32
  fx : K
  fy : K

structure Sample (K : Type) where
  y : Quad K
  u : Quad K
  v : Quad K

structure WorkItem (K : Type) where
  sampled : Option (Sample K)
  stores : List (Nat × K)

def quad {K : Type} (offset stride : UInt32) (x y : Tap K) : Quad K :=
  let address (row column : Int) := offset + UInt32.ofInt row * stride + UInt32.ofInt column
  ⟨address y.lower x.lower, address y.lower x.upper, address y.upper x.lower,
    address y.upper x.upper, x.weight, y.weight⟩

namespace Quad

variable {K : Type}

def addresses (q : Quad K) : List UInt32 :=
  [q.at00, q.at01, q.at10, q.at11]

def next (q : Quad K) : Quad K :=
  ⟨q.at00 + 1, q.at01 + 1, q.at10 + 1, q.at11 + 1, q.fx, q.fy⟩

variable [Field K]

def value (nv12 : UInt32 → UInt8) (q : Quad K) : K :=
  let byte (address : UInt32) : K := (nv12 address).toNat
  (1 - q.fy) * ((1 - q.fx) * byte q.at00 + q.fx * byte q.at01) +
    q.fy * ((1 - q.fx) * byte q.at10 + q.fx * byte q.at11)

def weights (q : Quad K) : List K :=
  [(1 - q.fy) * (1 - q.fx), (1 - q.fy) * q.fx, q.fy * (1 - q.fx), q.fy * q.fx]

end Quad

section

variable {K : Type} [Field K] [LinearOrder K]

section

variable [FloorRing K]

def lumaTap (size : UInt32) (place : K) : Option (Tap K) := do
  let x0 ← int32 ⌊place⌋
  let x1 := min (← int32 (x0 + 1)) (← int32 (asInt size - 1))
  some ⟨x0, x1, place - x0⟩

/-- `ux0`, `ux1` and `ufx`, or those of `uy`; the lower one is clamped last. -/
def chromaTap (size : UInt32) (place : K) : Option (Tap K) := do
  let ux := place * (1 / 2)
  let ux0 ← int32 ⌊ux⌋
  let last ← int32 (asInt (size / 2) - 1)
  let ux1 := min (← int32 (ux0 + 1)) last
  some ⟨clamp ux0 0 last, ux1, ux - ⌊ux⌋⟩

def Nv12Frame.sample (frame : Nv12Frame) (sx sy : K) : Option (Sample K) := do
  let x ← lumaTap frame.srcW sx
  let y ← lumaTap frame.srcH sy
  let ux ← chromaTap frame.srcW sx
  let uy ← chromaTap frame.srcH sy
  -- A pair of chroma bytes starts at an even column.
  let pair : Tap K := ⟨← int32 (ux.lower * 2), ← int32 (ux.upper * 2), ux.weight⟩
  let u := quad frame.uvOffset frame.uvStride pair uy
  some ⟨quad frame.yOffset frame.yStride x y, u, u.next⟩

end

def Sample.rgb (nv12 : UInt32 → UInt8) (sample : Sample K) : Rgb K :=
  let y := sample.y.value nv12
  let u := sample.u.value nv12
  let v := sample.v.value nv12
  ⟨clamp (1.164 * (y - 16) + 1.596 * (v - 128)) 0 255,
    clamp (1.164 * (y - 16) - 0.813 * (v - 128) - 0.391 * (u - 128)) 0 255,
    clamp (1.164 * (y - 16) + 2.018 * (u - 128)) 0 255⟩

def planes (dstSize : UInt32) (dx dy : Nat) (value : Nat → K) : List (Nat × K) :=
  let planeSize := dstSize * dstSize
  let idx := UInt32.ofNat dy * dstSize + UInt32.ofNat dx
  (List.range 3).map fun c => ((UInt32.ofNat c * planeSize + idx).toNat, value c)

variable [FloorRing K]

def scrfdPreprocess (nv12 : UInt32 → UInt8) (frame : Nv12Frame) (dstSize newW newH : UInt32)
    (scale : K) (dx dy : Nat) : Option (WorkItem K) :=
  if dx ≥ asInt dstSize ∨ dy ≥ asInt dstSize then some ⟨none, []⟩
  else if dx ≥ asInt newW ∨ dy ≥ asInt newH then
    some ⟨none, planes dstSize dx dy fun _ => -0.99609375⟩
  else do
    let srcX := clamp ((dx + 1 / 2) * scale - 1 / 2) 0 ((frame.srcW - 1).toNat : K)
    let srcY := clamp ((dy + 1 / 2) * scale - 1 / 2) 0 ((frame.srcH - 1).toNat : K)
    let sample ← frame.sample srcX srcY
    let rgb := sample.rgb nv12
    some ⟨some sample, planes dstSize dx dy fun c => (rgb.channel c - 127.5) / 128⟩

def arcfacePreprocess (nv12 : UInt32 → UInt8) (frame : Nv12Frame) (dstSize : UInt32)
    (m : InverseAffine K) (dx dy : Nat) : Option (WorkItem K) :=
  if dx ≥ asInt dstSize ∨ dy ≥ asInt dstSize then some ⟨none, []⟩
  else
    let sx := m.m00 * dx + m.m01 * dy + m.m02
    let sy := m.m10 * dx + m.m11 * dy + m.m12
    if sx < 0 ∨ sx ≥ ((frame.srcW - 1).toNat : K) ∨ sy < 0 ∨ sy ≥ ((frame.srcH - 1).toNat : K) then
      some ⟨none, planes dstSize dx dy fun _ => -1⟩
    else do
      let sample ← frame.sample sx sy
      let rgb := sample.rgb nv12
      some ⟨some sample, planes dstSize dx dy fun c => rgb.channel c / 127.5 - 1⟩

end

/-- Planes of at least two by two pixels, with byte offsets below 2^32. -/
structure Nv12Frame.Valid (frame : Nv12Frame) : Prop where
  wide : 2 ≤ frame.srcW.toNat
  high : 2 ≤ frame.srcH.toNat
  yStride : frame.srcW.toNat ≤ frame.yStride.toNat
  uvStride : 2 * (frame.srcW.toNat / 2) ≤ frame.uvStride.toNat
  yEnd : frame.yOffset.toNat + frame.srcH.toNat * frame.yStride.toNat < 2 ^ 32
  uvEnd : frame.uvOffset.toNat + frame.srcH.toNat / 2 * frame.uvStride.toNat < 2 ^ 32

section Taps

theorem asInt_eq {value : UInt32} (small : value.toNat < 2 ^ 31) : asInt value = value.toNat := by
  unfold asInt
  generalize value.toNat = number at small ⊢
  exact Int.bmod_eq_of_le (by omega) (by omega)

structure Between {K : Type} [Field K] [LinearOrder K] (t : Tap K) (size : Int) : Prop where
  within : t.Within size
  nonneg : 0 ≤ t.weight
  le_one : t.weight ≤ 1

variable {K : Type} [Field K] [LinearOrder K] [FloorRing K] {size : UInt32} {place : K}

theorem between_floor {t : Tap K} {size : Int} (within : t.Within size)
    (weight : t.weight = Int.fract place) [IsStrictOrderedRing K] : Between t size :=
  ⟨within, weight ▸ Int.fract_nonneg place, weight ▸ (Int.fract_lt_one place).le⟩

variable [IsStrictOrderedRing K]

theorem lumaTap_between (small : size.toNat < 2 ^ 31) (nonneg : 0 ≤ place)
    (last : place ≤ ((size.toNat : Int) - 1 : Int)) :
    ∃ t, lumaTap size place = some t ∧ Between t size.toNat := by
  have start : 0 ≤ ⌊place⌋ := Int.floor_nonneg.mpr nonneg
  have stop : ⌊place⌋ ≤ (size.toNat : Int) - 1 := by
    have floor := (Int.floor_le place).trans last
    exact_mod_cast floor
  refine ⟨⟨⌊place⌋, min (⌊place⌋ + 1) ((size.toNat : Int) - 1), place - ⌊place⌋⟩, ?_, ?_⟩
  · rw [lumaTap, asInt_eq small, int32_eq start (by omega), Option.bind_eq_bind, Option.bind_some,
      int32_eq (by omega : 0 ≤ ⌊place⌋ + 1) (by omega), Option.bind_some,
      int32_eq (by omega : 0 ≤ (size.toNat : Int) - 1) (by omega), Option.bind_some]
  · apply between_floor _ (Int.self_sub_floor place)
    simp only [Tap.Within]
    omega

theorem chromaTap_between (small : size.toNat < 2 ^ 31) (two : 2 ≤ size.toNat) (nonneg : 0 ≤ place)
    (last : place ≤ ((size.toNat : Int) - 1 : Int)) :
    ∃ t, chromaTap size place = some t ∧ Between t (size.toNat / 2) := by
  have start : 0 ≤ ⌊place * (1 / 2)⌋ := Int.floor_nonneg.mpr (by linarith)
  have stop : ⌊place * (1 / 2)⌋ ≤ (size.toNat : Int) / 2 := by
    have whole : (size.toNat : Int) - 1 ≤ 2 * ((size.toNat : Int) / 2) := by omega
    have half : place ≤ ((2 * ((size.toNat : Int) / 2) : Int) : K) :=
      last.trans (Int.cast_le.mpr whole)
    push_cast at half
    have floor := Int.floor_le (place * (1 / 2))
    have bound : ((⌊place * (1 / 2)⌋ : Int) : K) ≤ ((size.toNat : Int) / 2 : Int) := by
      linarith
    exact_mod_cast bound
  have halved : asInt (size / 2) = (size.toNat : Int) / 2 := by
    have toNat : (size / 2).toNat = size.toNat / 2 := UInt32.toNat_div size 2
    rw [asInt_eq (by omega), toNat]
    rfl
  refine ⟨⟨clamp ⌊place * (1 / 2)⌋ 0 ((size.toNat : Int) / 2 - 1),
    min (⌊place * (1 / 2)⌋ + 1) ((size.toNat : Int) / 2 - 1),
    place * (1 / 2) - ⌊place * (1 / 2)⌋⟩, ?_, ?_⟩
  · simp only [chromaTap, halved, int32_eq start (by omega), Option.bind_eq_bind, Option.bind_some,
      int32_eq (by omega : 0 ≤ (size.toNat : Int) / 2 - 1) (by omega),
      int32_eq (by omega : 0 ≤ ⌊place * (1 / 2)⌋ + 1) (by omega)]
  · apply between_floor _ (Int.self_sub_floor (place * (1 / 2)))
    simp only [Tap.Within, clamp]
    omega

end Taps

section Addresses

theorem toNat_ofNat {value : Nat} (small : value < 2 ^ 32) : (UInt32.ofNat value).toNat = value :=
  UInt32.toNat_ofNat_of_lt' small

theorem toNat_ofInt {value : Nat} (small : value < 2 ^ 32) :
    (UInt32.ofInt (value : Int)).toNat = value := by
  have whole : ((value : Int) % 2 ^ 32).toNat = value := by omega
  rw [UInt32.ofInt, whole, toNat_ofNat small]

theorem plane_address {offset stride : UInt32} {row column height : Nat} (low : row < height)
    (right : column < stride.toNat) (fits : offset.toNat + height * stride.toNat < 2 ^ 32) :
    let address := offset + UInt32.ofInt row * stride + UInt32.ofInt column
    address.toNat = offset.toNat + row * stride.toNat + column ∧
      address.toNat < offset.toNat + height * stride.toNat := by
  intro address
  have place : row * stride.toNat + column < height * stride.toNat := digits_lt low right
  have rows : row ≤ row * stride.toNat := Nat.le_mul_of_pos_right row (by omega)
  have product : (UInt32.ofInt (row : Int) * stride).toNat = row * stride.toNat := by
    rw [UInt32.toNat_mul, toNat_ofInt (by omega), Nat.mod_eq_of_lt (by omega)]
  have start : (offset + UInt32.ofInt (row : Int) * stride).toNat =
      offset.toNat + row * stride.toNat := by
    rw [UInt32.toNat_add, product, Nat.mod_eq_of_lt (by omega)]
  have counted : address.toNat = offset.toNat + row * stride.toNat + column := by
    rw [UInt32.toNat_add, start, toNat_ofInt (by omega), Nat.mod_eq_of_lt (by omega)]
  exact ⟨counted, by omega⟩

variable {K : Type} {offset stride : UInt32} {x y : Tap K} {height : Nat} {address : UInt32}

theorem quad_addresses (rows : y.Within height) (columns : x.Within stride.toNat)
    (fits : offset.toNat + height * stride.toNat < 2 ^ 32)
    (read : address ∈ (quad offset stride x y).addresses) :
    ∃ row < height, ∃ column : Nat, ((column : Int) = x.lower ∨ (column : Int) = x.upper) ∧
      address.toNat = offset.toNat + row * stride.toNat + column ∧
      address.toNat < offset.toNat + height * stride.toNat := by
  obtain ⟨top, up, bottom, down⟩ := rows
  obtain ⟨first, left, last, right⟩ := columns
  obtain ⟨y0, upper⟩ := Int.eq_ofNat_of_zero_le top
  obtain ⟨y1, lower⟩ := Int.eq_ofNat_of_zero_le bottom
  obtain ⟨x0, low⟩ := Int.eq_ofNat_of_zero_le first
  obtain ⟨x1, high⟩ := Int.eq_ofNat_of_zero_le last
  have above : y0 < height := by omega
  have below : y1 < height := by omega
  have before : x0 < stride.toNat := by omega
  have after : x1 < stride.toNat := by omega
  simp only [Quad.addresses, quad, upper, lower, low, high, List.mem_cons, List.not_mem_nil,
    or_false] at read
  rcases read with rfl | rfl | rfl | rfl
  · exact ⟨y0, above, x0, .inl low.symm, plane_address above before fits⟩
  · exact ⟨y0, above, x1, .inr high.symm, plane_address above after fits⟩
  · exact ⟨y1, below, x0, .inl low.symm, plane_address below before fits⟩
  · exact ⟨y1, below, x1, .inr high.symm, plane_address below after fits⟩

end Addresses

structure Quad.Convex {K : Type} [Field K] [LinearOrder K] (q : Quad K) : Prop where
  right : 0 ≤ q.fx ∧ q.fx ≤ 1
  lower : 0 ≤ q.fy ∧ q.fy ≤ 1
  each : ∀ weight ∈ q.weights, 0 ≤ weight ∧ weight ≤ 1
  total : q.weights.sum = 1
  mean : ∀ nv12 : UInt32 → UInt8, q.value nv12 =
    ((q.weights.zip q.addresses).map fun term => term.1 * ((nv12 term.2).toNat : K)).sum

def InPlane (offset stride : UInt32) (height : Nat) (address : UInt32) : Prop :=
  offset.toNat ≤ address.toNat ∧ address.toNat < offset.toNat + height * stride.toNat

structure Sample.Inside {K : Type} [Field K] [LinearOrder K] (frame : Nv12Frame)
    (sample : Sample K) : Prop where
  luma : ∀ address ∈ sample.y.addresses,
    InPlane frame.yOffset frame.yStride frame.srcH.toNat address
  chroma : ∀ address ∈ sample.u.addresses ++ sample.v.addresses,
    InPlane frame.uvOffset frame.uvStride (frame.srcH.toNat / 2) address
  pairs : ∀ pair ∈ sample.u.addresses.zip sample.v.addresses,
    ∃ row < frame.srcH.toNat / 2, ∃ column < frame.srcW.toNat / 2,
      pair.1.toNat = frame.uvOffset.toNat + row * frame.uvStride.toNat + 2 * column ∧
      pair.2.toNat = pair.1.toNat + 1
  convex : ∀ q ∈ [sample.y, sample.u, sample.v], q.Convex

section Pairs

variable {frame : Nv12Frame} {address : UInt32}

def Pair (frame : Nv12Frame) (address : UInt32) : Prop :=
  ∃ row < frame.srcH.toNat / 2, ∃ column < frame.srcW.toNat / 2,
    address.toNat = frame.uvOffset.toNat + row * frame.uvStride.toNat + 2 * column

theorem Pair.inPlane (pair : Pair frame address) (valid : frame.Valid) :
    InPlane frame.uvOffset frame.uvStride (frame.srcH.toNat / 2) address ∧
      InPlane frame.uvOffset frame.uvStride (frame.srcH.toNat / 2) (address + 1) ∧
      (address + 1).toNat = address.toNat + 1 := by
  obtain ⟨row, low, column, right, counted⟩ := pair
  have stride := valid.uvStride
  have ends := valid.uvEnd
  have last : row * frame.uvStride.toNat + (2 * column + 1) <
      frame.srcH.toNat / 2 * frame.uvStride.toNat := digits_lt low (by omega)
  have next : (address + 1).toNat = address.toNat + 1 := by
    rw [UInt32.toNat_add, UInt32.toNat_one, Nat.mod_eq_of_lt (by omega)]
  exact ⟨⟨by omega, by omega⟩, ⟨by omega, by omega⟩, next⟩

theorem pair_of_quad {K : Type} {x y : Tap K} (valid : frame.Valid)
    (rows : y.Within (frame.srcH.toNat / 2)) (columns : x.Within (frame.srcW.toNat / 2))
    (read : address ∈ (quad frame.uvOffset frame.uvStride
      ⟨x.lower * 2, x.upper * 2, x.weight⟩ y).addresses) :
    Pair frame address := by
  have stride := valid.uvStride
  obtain ⟨first, before, last, after⟩ := columns
  have doubled : Tap.Within ⟨x.lower * 2, x.upper * 2, x.weight⟩ frame.uvStride.toNat := by
    simp only [Tap.Within]
    omega
  obtain ⟨row, low, column, which, counted, _⟩ := quad_addresses rows doubled valid.uvEnd read
  simp only at which
  exact ⟨row, low, column / 2, by omega, by omega⟩

theorem Quad.next_addresses {K : Type} (q : Quad K) :
    q.next.addresses = q.addresses.map (· + 1) :=
  rfl

end Pairs

section Samples

variable {K : Type} [Field K] [LinearOrder K] [IsStrictOrderedRing K]

theorem Quad.convex {q : Quad K} (right : 0 ≤ q.fx ∧ q.fx ≤ 1) (lower : 0 ≤ q.fy ∧ q.fy ≤ 1) :
    q.Convex where
  right := right
  lower := lower
  each := by
    have left := sub_nonneg.mpr right.2
    have above := sub_nonneg.mpr lower.2
    have rest := sub_le_self 1 right.1
    have top := sub_le_self 1 lower.1
    simp only [Quad.weights, List.forall_mem_cons]
    exact ⟨⟨mul_nonneg above left, mul_le_one₀ top left rest⟩,
      ⟨mul_nonneg above right.1, mul_le_one₀ top right.1 right.2⟩,
      ⟨mul_nonneg lower.1 left, mul_le_one₀ lower.2 left rest⟩,
      ⟨mul_nonneg lower.1 right.1, mul_le_one₀ lower.2 right.1 right.2⟩, nofun⟩
  total := by
    simp only [Quad.weights, List.sum_cons, List.sum_nil]
    ring
  mean nv12 := by
    simp only [Quad.value, Quad.weights, Quad.addresses, List.zip_cons_cons, List.zip_nil_left,
      List.map_cons, List.map_nil, List.sum_cons, List.sum_nil]
    ring

theorem Nv12Frame.Valid.small {frame : Nv12Frame} (valid : frame.Valid) :
    frame.srcW.toNat < 2 ^ 31 ∧ frame.srcH.toNat < 2 ^ 31 := by
  have wide := Nat.mul_le_mul valid.high valid.yStride
  have high := Nat.mul_le_mul_left frame.srcH.toNat (valid.wide.trans valid.yStride)
  have fits := valid.yEnd
  omega

variable [FloorRing K] {frame : Nv12Frame} {sx sy : K}

theorem sample_inside (valid : frame.Valid) (left : 0 ≤ sx)
    (right : sx ≤ ((frame.srcW.toNat : Int) - 1 : Int)) (above : 0 ≤ sy)
    (below : sy ≤ ((frame.srcH.toNat : Int) - 1 : Int)) :
    ∃ sample, frame.sample sx sy = some sample ∧ sample.Inside frame := by
  obtain ⟨wide, high⟩ := valid.small
  have yStride := valid.yStride
  have uvStride := valid.uvStride
  obtain ⟨x, x_eq, columns⟩ := lumaTap_between wide left right
  obtain ⟨y, y_eq, rows⟩ := lumaTap_between high above below
  obtain ⟨ux, ux_eq, halfColumns⟩ := chromaTap_between wide valid.wide left right
  obtain ⟨uy, uy_eq, halfRows⟩ := chromaTap_between high valid.high above below
  obtain ⟨first, before, last, after⟩ := halfColumns.within
  let pair : Tap K := ⟨ux.lower * 2, ux.upper * 2, ux.weight⟩
  let u := quad frame.uvOffset frame.uvStride pair uy
  refine ⟨⟨quad frame.yOffset frame.yStride x y, u, u.next⟩, ?_, ?_⟩
  · simp only [Nv12Frame.sample, x_eq, y_eq, ux_eq, uy_eq, Option.bind_eq_bind, Option.bind_some,
      int32_eq (by omega : 0 ≤ ux.lower * 2) (by omega),
      int32_eq (by omega : 0 ≤ ux.upper * 2) (by omega)]
    rfl
  have chroma : ∀ address ∈ u.addresses, Pair frame address := fun address read =>
    pair_of_quad valid halfRows.within halfColumns.within read
  constructor
  · intro address read
    obtain ⟨left, right, bottom, low⟩ := columns.within
    obtain ⟨row, _, column, _, counted, bound⟩ :=
      quad_addresses rows.within ⟨left, by omega, bottom, by omega⟩ valid.yEnd read
    exact ⟨by omega, bound⟩
  · intro address read
    rcases List.mem_append.mp read with even | odd
    · exact ((chroma address even).inPlane valid).1
    · obtain ⟨first, listed, rfl⟩ := List.mem_map.mp (Quad.next_addresses u ▸ odd)
      exact ((chroma first listed).inPlane valid).2.1
  · intro pair listed
    have together : u.addresses.zip u.next.addresses =
        u.addresses.map fun address => (address, address + 1) := rfl
    obtain ⟨first, read, rfl⟩ := List.mem_map.mp (together ▸ listed)
    obtain ⟨row, low, column, right, counted⟩ := chroma first read
    exact ⟨row, low, column, right, counted, ((chroma first read).inPlane valid).2.2⟩
  · simp only [List.forall_mem_cons]
    have luma := Quad.convex (q := quad frame.yOffset frame.yStride x y)
      ⟨columns.nonneg, columns.le_one⟩ ⟨rows.nonneg, rows.le_one⟩
    have even := Quad.convex (q := u) ⟨halfColumns.nonneg, halfColumns.le_one⟩
      ⟨halfRows.nonneg, halfRows.le_one⟩
    have odd := Quad.convex (q := u.next) even.right even.lower
    exact ⟨luma, even, odd, nofun⟩

end Samples

structure Preprocesses {K : Type} [Field K] [LinearOrder K] (frame : Nv12Frame)
    (dstSize : UInt32) (kernel : Nat → Nat → Option (WorkItem K)) : Prop where
  inside : ∀ dx dy, ∃ item, kernel dx dy = some item ∧
    ∀ sample ∈ item.sampled, sample.Inside frame
  once : ∀ items, LaunchedOnce items (pixels dstSize.toNat dstSize.toNat) →
    ∃ output : List K, output.length = 3 * dstSize.toNat ^ 2 ∧
      (∀ value ∈ output, -1 ≤ value ∧ value ≤ 1) ∧
      Computes (fun pixel => (kernel pixel.2 pixel.1).map WorkItem.stores) items output

section Stores

variable {K : Type} {dstSize : UInt32} {dx dy : Nat}

theorem planes_eq (fits : 3 * dstSize.toNat ^ 2 ≤ 2 ^ 32) (right : dx < dstSize.toNat)
    (low : dy < dstSize.toNat) (value : Nat → K) :
    planes dstSize dx dy value =
      (List.range 3).map fun c =>
        (c * (dstSize.toNat * dstSize.toNat) + (dy * dstSize.toNat + dx), value c) := by
  have place := digits_lt low right
  have size := dstSize.toNat_lt
  rw [Nat.pow_two] at fits
  have plane : (dstSize * dstSize).toNat = dstSize.toNat * dstSize.toNat := by
    rw [UInt32.toNat_mul, Nat.mod_eq_of_lt (by omega)]
  have row : (UInt32.ofNat dy * dstSize).toNat = dy * dstSize.toNat := by
    rw [UInt32.toNat_mul, toNat_ofNat (by omega), Nat.mod_eq_of_lt (by omega)]
  have idx : (UInt32.ofNat dy * dstSize + UInt32.ofNat dx).toNat = dy * dstSize.toNat + dx := by
    rw [UInt32.toNat_add, row, toNat_ofNat (by omega), Nat.mod_eq_of_lt (by omega)]
  apply List.map_congr_left
  intro c listed
  have channel := List.mem_range.mp listed
  have element := digits_lt channel place
  rw [UInt32.toNat_add, UInt32.toNat_mul, toNat_ofNat (by omega), plane, idx,
    Nat.mod_eq_of_lt (by omega : c * (dstSize.toNat * dstSize.toNat) < 2 ^ 32),
    Nat.mod_eq_of_lt (by omega)]

variable [Field K] [LinearOrder K] {frame : Nv12Frame}
  {kernel : Nat → Nat → Option (WorkItem K)}

omit [Field K] [LinearOrder K] in
theorem pixel_of_place {n idx : Nat} (inside : idx < 3 * (n * n)) :
    (idx % (n * n) / n, idx % (n * n) % n) ∈ pixels n n := by
  have area : 0 < n * n := Nat.pos_of_mul_pos_left (Nat.zero_lt_of_lt inside)
  have side : 0 < n := Nat.pos_of_mul_pos_right area
  exact mem_pixels.mpr ⟨Nat.div_lt_of_lt_mul (Nat.mod_lt idx area), Nat.mod_lt _ side⟩

omit [Field K] [LinearOrder K] in
theorem computes_planes {items : List (Nat × Nat)} {stores : Nat × Nat → Option (List (Nat × K))}
    {value : Nat × Nat → Nat → K} (fits : 3 * dstSize.toNat ^ 2 ≤ 2 ^ 32)
    (launched : LaunchedOnce items (pixels dstSize.toNat dstSize.toNat))
    (runs : ∀ pixel ∈ pixels dstSize.toNat dstSize.toNat,
      stores pixel = some (planes dstSize pixel.2 pixel.1 (value pixel)))
    (surplus : ∀ pixel, pixel ∉ pixels dstSize.toNat dstSize.toNat → stores pixel = some []) :
    Computes stores items ((List.range (3 * (dstSize.toNat * dstSize.toNat))).map fun idx =>
      value (idx % (dstSize.toNat * dstSize.toNat) / dstSize.toNat,
        idx % (dstSize.toNat * dstSize.toNat) % dstSize.toNat)
        (idx / (dstSize.toNat * dstSize.toNat))) := by
  have each : ∀ pixel ∈ pixels dstSize.toNat dstSize.toNat,
      stores pixel = some ((List.range 3).map fun c =>
        (c * (dstSize.toNat * dstSize.toNat) + (pixel.1 * dstSize.toNat + pixel.2),
          value pixel c)) := by
    intro pixel member
    obtain ⟨low, right⟩ := mem_pixels.mp member
    rw [runs pixel member, planes_eq fits right low]
  refine launched.computes_perm nodup_pixels each surplus ?_
  generalize count : dstSize.toNat * dstSize.toNat = area
  have planar := planar_stores area 3 fun c place =>
    value (place / dstSize.toNat, place % dstSize.toNat) c
  rw [pixels, nest_range, List.flatMap_map, count]
  simp only [Nat.div_add_mod']
  exact planar

theorem preprocesses_of (fits : 3 * dstSize.toNat ^ 2 ≤ 2 ^ 32)
    (fills : ∀ dx < dstSize.toNat, ∀ dy < dstSize.toNat, ∃ sampled value,
      kernel dx dy = some ⟨sampled, planes dstSize dx dy value⟩ ∧
        (∀ sample ∈ sampled, sample.Inside frame) ∧ ∀ c, -1 ≤ value c ∧ value c ≤ 1)
    (surplus : ∀ dx dy, ¬(dx < dstSize.toNat ∧ dy < dstSize.toNat) →
      kernel dx dy = some ⟨none, []⟩) :
    Preprocesses frame dstSize kernel where
  inside dx dy := by
    by_cases inside : dx < dstSize.toNat ∧ dy < dstSize.toNat
    · obtain ⟨sampled, value, run, reads, _⟩ := fills dx inside.1 dy inside.2
      exact ⟨_, run, reads⟩
    · exact ⟨_, surplus dx dy inside, nofun⟩
  once items launched := by
    have each (pixel : Nat × Nat) : ∃ value : Nat → K,
        pixel ∈ pixels dstSize.toNat dstSize.toNat →
          (kernel pixel.2 pixel.1).map WorkItem.stores =
              some (planes dstSize pixel.2 pixel.1 value) ∧
            ∀ c, -1 ≤ value c ∧ value c ≤ 1 := by
      by_cases member : pixel ∈ pixels dstSize.toNat dstSize.toNat
      · obtain ⟨low, right⟩ := mem_pixels.mp member
        obtain ⟨_, value, run, _, range⟩ := fills pixel.2 right pixel.1 low
        exact ⟨value, fun _ => ⟨congrArg (Option.map WorkItem.stores) run, range⟩⟩
      · exact ⟨fun _ => 0, fun listed => absurd listed member⟩
    choose value run using each
    refine ⟨_, ?_, ?_, computes_planes fits launched (fun pixel member => (run pixel member).1)
      fun pixel other => ?_⟩
    · rw [List.length_map, List.length_range, Nat.pow_two]
    · intro element listed
      obtain ⟨idx, within, rfl⟩ := List.mem_map.mp listed
      exact (run _ (pixel_of_place (List.mem_range.mp within))).2 _
    · rw [mem_pixels, and_comm] at other
      rw [surplus _ _ other]
      rfl

end Stores

section Kernels

theorem clamp_mem {α : Type} [LinearOrder α] {low high : α} (range : low ≤ high) (value : α) :
    low ≤ clamp value low high ∧ clamp value low high ≤ high :=
  ⟨le_min (le_max_right value low) range, min_le_right (max value low) high⟩

theorem last_eq {K : Type} [Field K] {size : UInt32} (positive : 1 ≤ size.toNat) :
    ((size - 1).toNat : K) = ((size.toNat : Int) - 1 : Int) := by
  have last : (size - 1).toNat = size.toNat - 1 := by
    rw [UInt32.toNat_sub_of_le _ _ positive, UInt32.toNat_one]
  rw [last, Nat.cast_sub positive]
  push_cast
  rfl

variable {K : Type} [Field K] [LinearOrder K] [IsStrictOrderedRing K] {dstSize : UInt32}

theorem channel_mem (nv12 : UInt32 → UInt8) (sample : Sample K) (c : Nat) :
    0 ≤ (sample.rgb nv12).channel c ∧ (sample.rgb nv12).channel c ≤ 255 := by
  have range : (0 : K) ≤ 255 := by norm_num
  simp only [Rgb.channel, Sample.rgb]
  split_ifs <;> exact clamp_mem range _

omit [Field K] [LinearOrder K] [IsStrictOrderedRing K] in
theorem outside_iff (fits : 3 * dstSize.toNat ^ 2 ≤ 2 ^ 32) {dx dy : Nat} :
    (dx ≥ asInt dstSize ∨ dy ≥ asInt dstSize) ↔ ¬(dx < dstSize.toNat ∧ dy < dstSize.toNat) := by
  have small : dstSize.toNat < 2 ^ 31 := by
    by_contra large
    have square := Nat.pow_le_pow_left (Nat.not_lt.mp large) 2
    omega
  rw [asInt_eq small]
  omega

variable [FloorRing K] {frame : Nv12Frame} (nv12 : UInt32 → UInt8)

theorem sample_clamped (valid : frame.Valid) {sx sy : K} (left : 0 ≤ sx)
    (right : sx ≤ (frame.srcW - 1).toNat) (above : 0 ≤ sy) (below : sy ≤ (frame.srcH - 1).toNat) :
    ∃ sample, frame.sample sx sy = some sample ∧ sample.Inside frame :=
  sample_inside valid left (right.trans_eq (last_eq (one_le_two.trans valid.wide))) above
    (below.trans_eq (last_eq (one_le_two.trans valid.high)))

theorem scrfdPreprocess_preprocesses (valid : frame.Valid) (fits : 3 * dstSize.toNat ^ 2 ≤ 2 ^ 32)
    (newW newH : UInt32) (scale : K) :
    Preprocesses frame dstSize (scrfdPreprocess nv12 frame dstSize newW newH scale) := by
  apply preprocesses_of fits
  · intro dx right dy low
    rw [scrfdPreprocess, if_neg (mt (outside_iff fits).mp (not_not_intro ⟨right, low⟩))]
    split
    · refine ⟨_, _, rfl, nofun, fun _ => ?_⟩
      norm_num
    · have wide : (0 : K) ≤ (frame.srcW - 1).toNat := Nat.cast_nonneg _
      have high : (0 : K) ≤ (frame.srcH - 1).toNat := Nat.cast_nonneg _
      obtain ⟨left, right⟩ := clamp_mem wide ((dx + 1 / 2) * scale - 1 / 2)
      obtain ⟨above, below⟩ := clamp_mem high ((dy + 1 / 2) * scale - 1 / 2)
      obtain ⟨sample, sampled, inside⟩ := sample_clamped valid left right above below
      refine ⟨some sample, fun c => ((sample.rgb nv12).channel c - 127.5) / 128, ?_, ?_, ?_⟩
      · simp only [sampled, Option.bind_eq_bind, Option.bind_some]
      · rintro _ ⟨⟩
        exact inside
      · intro c
        obtain ⟨black, white⟩ := channel_mem nv12 sample c
        constructor <;> linarith
  · intro dx dy outside
    exact if_pos ((outside_iff fits).mpr outside)

theorem arcfacePreprocess_preprocesses (valid : frame.Valid)
    (fits : 3 * dstSize.toNat ^ 2 ≤ 2 ^ 32) (m : InverseAffine K) :
    Preprocesses frame dstSize (arcfacePreprocess nv12 frame dstSize m) := by
  apply preprocesses_of fits
  · intro dx right dy low
    rw [arcfacePreprocess, if_neg (mt (outside_iff fits).mp (not_not_intro ⟨right, low⟩))]
    simp only
    split
    · refine ⟨_, _, rfl, nofun, fun _ => ?_⟩
      norm_num
    · rename_i guard
      simp only [not_or, not_lt, not_le, ge_iff_le] at guard
      obtain ⟨left, right, above, below⟩ := guard
      obtain ⟨sample, sampled, inside⟩ := sample_clamped valid left right.le above below.le
      refine ⟨some sample, fun c => (sample.rgb nv12).channel c / 127.5 - 1, ?_, ?_, ?_⟩
      · simp only [sampled, Option.bind_eq_bind, Option.bind_some]
      · rintro _ ⟨⟩
        exact inside
      · intro c
        obtain ⟨black, white⟩ := channel_mem nv12 sample c
        have half : (0 : K) < 127.5 := by norm_num
        have bright : (sample.rgb nv12).channel c / 127.5 ≤ 2 :=
          (div_le_iff₀ half).mpr (white.trans_eq (by norm_num))
        constructor
        · linarith [div_nonneg black half.le]
        · linarith
  · intro dx dy outside
    exact if_pos ((outside_iff fits).mpr outside)

/-- Both kernels stay in the frame, and fill their output with what the networks expect. -/
theorem facePreprocess_inside (valid : frame.Valid) (fits : 3 * dstSize.toNat ^ 2 ≤ 2 ^ 32) :
    (∀ (newW newH : UInt32) (scale : K),
      Preprocesses frame dstSize (scrfdPreprocess nv12 frame dstSize newW newH scale)) ∧
    ∀ m : InverseAffine K, Preprocesses frame dstSize (arcfacePreprocess nv12 frame dstSize m) :=
  ⟨scrfdPreprocess_preprocesses nv12 valid fits, arcfacePreprocess_preprocesses nv12 valid fits⟩

end Kernels

def oddFrame : Nv12Frame :=
  ⟨0, 9, 3, 2, 3, 3⟩

theorem oddFrame_valid : oddFrame.Valid := by
  constructor <;> decide

theorem facePreprocess_inside_odd :
    Preprocesses oddFrame 2 (scrfdPreprocess (fun _ => 128) oddFrame 2 2 1 (3 / 2 : ℚ)) ∧
      Preprocesses oddFrame 2
        (arcfacePreprocess (fun _ => 128) oddFrame 2 (⟨1, 0, 0, 0, 1, 0⟩ : InverseAffine ℚ)) :=
  ⟨(facePreprocess_inside _ oddFrame_valid (by decide)).1 2 1 (3 / 2),
    (facePreprocess_inside _ oddFrame_valid (by decide)).2 ⟨1, 0, 0, 0, 1, 0⟩⟩

/-- The right lower pixel is at the edge of the frame: its neighbours are the last pixel and, twice,
the only pair of chroma bytes. -/
example :
    (oddFrame.sample (2 : ℚ) 2).map
        (fun sample => (sample.y.addresses, sample.u.addresses, sample.v.addresses)) =
      some ([8, 8, 8, 8], [9, 9, 9, 9], [10, 10, 10, 10]) := by
  decide +kernel

end Iq9Pipeline.MultiCam
