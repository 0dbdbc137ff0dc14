import Mathlib.Data.List.Basic
import Mathlib.Tactic.Ring

/-!
Fixed-width little-endian words in byte lists: what a writer lays out in
memory and a reader on the same host finds at the same offset.
-/

namespace Foundation

def leBytes : Nat → Nat → List UInt8
  | 0, _ => []
  | width + 1, value => UInt8.ofNat value :: leBytes width (value / 256)

def leValue : List UInt8 → Nat
  | [] => 0
  | byte :: bytes => byte.toNat + 256 * leValue bytes

@[simp] theorem leBytes_length (width value : Nat) : (leBytes width value).length = width := by
  induction width generalizing value with
  | zero => rfl
  | succ width ih => simp [leBytes, ih]

theorem leValue_leBytes (width value : Nat) :
    leValue (leBytes width value) = value % 256 ^ width := by
  induction width generalizing value with
  | zero => simp [leBytes, leValue, Nat.mod_one]
  | succ width ih =>
      simp only [leBytes, leValue, ih, UInt8.toNat_ofNat']
      rw [show 256 ^ (width + 1) = 256 * 256 ^ width by ring, Nat.mod_mul]

theorem leValue_lt (bytes : List UInt8) : leValue bytes < 256 ^ bytes.length := by
  induction bytes with
  | nil => simp [leValue]
  | cons byte bytes ih =>
      have small := byte.toNat_lt
      simp only [leValue, List.length_cons, pow_succ]
      omega

theorem leBytes_leValue (bytes : List UInt8) : leBytes bytes.length (leValue bytes) = bytes := by
  induction bytes with
  | nil => rfl
  | cons byte bytes ih =>
      have small := byte.toNat_lt
      have head : UInt8.ofNat (byte.toNat + 256 * leValue bytes) = byte := by
        apply UInt8.toNat_inj.mp
        rw [UInt8.toNat_ofNat']
        omega
      have tail : (byte.toNat + 256 * leValue bytes) / 256 = leValue bytes := by omega
      rw [leValue, List.length_cons, leBytes, head, tail, ih]

def word32 (value : UInt32) : List UInt8 :=
  leBytes 4 value.toNat

def word64 (value : UInt64) : List UInt8 :=
  leBytes 8 value.toNat

def word32At (bytes : List UInt8) (offset : Nat) : UInt32 :=
  UInt32.ofNat (leValue ((bytes.drop offset).take 4))

def word64At (bytes : List UInt8) (offset : Nat) : UInt64 :=
  UInt64.ofNat (leValue ((bytes.drop offset).take 8))

@[simp] theorem word32_length (value : UInt32) : (word32 value).length = 4 :=
  leBytes_length 4 _

@[simp] theorem word64_length (value : UInt64) : (word64 value).length = 8 :=
  leBytes_length 8 _

@[simp] theorem word32At_word32 (value : UInt32) (rest : List UInt8) :
    word32At (word32 value ++ rest) 0 = value := by
  have bound : value.toNat < 256 ^ 4 := value.toNat_lt
  have taken : (word32 value ++ rest).take 4 = leBytes 4 value.toNat := by
    rw [List.take_append_of_le_length (by simp), List.take_of_length_le (by simp), word32]
  rw [word32At, List.drop_zero, taken, leValue_leBytes, Nat.mod_eq_of_lt bound, UInt32.ofNat_toNat]

@[simp] theorem word64At_word64 (value : UInt64) (rest : List UInt8) :
    word64At (word64 value ++ rest) 0 = value := by
  have bound : value.toNat < 256 ^ 8 := value.toNat_lt
  have taken : (word64 value ++ rest).take 8 = leBytes 8 value.toNat := by
    rw [List.take_append_of_le_length (by simp), List.take_of_length_le (by simp), word64]
  rw [word64At, List.drop_zero, taken, leValue_leBytes, Nat.mod_eq_of_lt bound, UInt64.ofNat_toNat]

theorem word32At_append (front rest : List UInt8) (offset : Nat) :
    word32At (front ++ rest) (front.length + offset) = word32At rest offset := by
  rw [word32At, List.drop_length_add_append, word32At]

theorem word64At_append (front rest : List UInt8) (offset : Nat) :
    word64At (front ++ rest) (front.length + offset) = word64At rest offset := by
  rw [word64At, List.drop_length_add_append, word64At]

@[simp] theorem word32At_skip (value : UInt32) (rest : List UInt8) (offset : Nat) :
    word32At (word32 value ++ rest) (offset + 4) = word32At rest offset := by
  rw [Nat.add_comm]
  simpa using word32At_append (word32 value) rest offset

@[simp] theorem word64At_skip (value : UInt32) (rest : List UInt8) (offset : Nat) :
    word64At (word32 value ++ rest) (offset + 4) = word64At rest offset := by
  rw [Nat.add_comm]
  simpa using word64At_append (word32 value) rest offset

theorem take_four_eq_word32 {bytes : List UInt8} {value : UInt32} (long : 4 ≤ bytes.length)
    (read : word32At bytes 0 = value) : bytes.take 4 = word32 value := by
  have length : (bytes.take 4).length = 4 := by simpa using long
  have small : leValue (bytes.take 4) < 2 ^ 32 := by
    simpa [length] using leValue_lt (bytes.take 4)
  have same : leValue (bytes.take 4) = value.toNat := by
    rw [← read, word32At, List.drop_zero, UInt32.toNat_ofNat_of_lt' small]
  calc bytes.take 4 = leBytes 4 (leValue (bytes.take 4)) := by
        conv_lhs => rw [← leBytes_leValue (bytes.take 4), length]
    _ = word32 value := by rw [same, word32]

end Foundation
