import Mathlib.Data.List.Basic

/-!
A byte stream between two processes on which every call moves some bytes, but as
few as it likes. The loops that move a whole buffer do not depend on that.
-/

namespace Foundation

/-- How much of `wanted` bytes a call moves that may move less, but not nothing. -/
def portion (answer wanted : Nat) : Nat :=
  min (max 1 answer) wanted

structure Socket where
  bytes : List UInt8
  reads : Nat → Nat
  peeks : Nat → Nat

namespace Socket

def recv (socket : Socket) (wanted : Nat) : List UInt8 × Socket :=
  let count := portion (socket.reads 0) wanted
  (socket.bytes.take count, { socket with
    bytes := socket.bytes.drop count
    reads := fun call => socket.reads (call + 1) })

def peek (socket : Socket) (wanted : Nat) : List UInt8 × Socket :=
  (socket.bytes.take (portion (socket.peeks 0) wanted), { socket with
    peeks := fun call => socket.peeks (call + 1) })

def recvAll (socket : Socket) (length : Nat) : Option (List UInt8 × Socket) :=
  if length = 0 then some ([], socket)
  else
    let received := socket.recv length
    if received.1 = [] then none
    else
      (received.2.recvAll (length - received.1.length)).map fun rest =>
        (received.1 ++ rest.1, rest.2)
termination_by length
decreasing_by
  rename_i some_wanted some_received
  exact Nat.sub_lt (Nat.pos_of_ne_zero some_wanted) (List.length_pos_iff.mpr some_received)

theorem portion_pos (answer : Nat) {wanted : Nat} (some_wanted : wanted ≠ 0) :
    0 < portion answer wanted := by
  simp only [portion]
  omega

theorem portion_le (answer wanted : Nat) : portion answer wanted ≤ wanted :=
  Nat.min_le_right _ _

theorem recv_append {socket : Socket} {front back : List UInt8}
    (bytes : socket.bytes = front ++ back) :
    (socket.recv front.length).1 = front.take (portion (socket.reads 0) front.length) ∧
      (socket.recv front.length).2.bytes =
        front.drop (portion (socket.reads 0) front.length) ++ back := by
  have short := portion_le (socket.reads 0) front.length
  simp only [recv, bytes]
  exact ⟨List.take_append_of_le_length short, List.drop_append_of_le_length short⟩

/-- However the stream is cut into calls, the loop takes what it wants and no more. -/
theorem recvAll_append (socket : Socket) (front : List UInt8) {back : List UInt8}
    (bytes : socket.bytes = front ++ back) :
    ∃ rest, socket.recvAll front.length = some (front, rest) ∧ rest.bytes = back ∧
      rest.peeks = socket.peeks := by
  induction wanted : front.length using Nat.strongRecOn generalizing socket front with
  | ind length ih =>
      subst wanted
      unfold recvAll
      by_cases done : front = []
      · subst done
        exact ⟨socket, by simp, by simpa using bytes, rfl⟩
      · have left : front.length ≠ 0 := by simpa using done
        have count := portion_pos (socket.reads 0) left
        obtain ⟨received, remaining⟩ := recv_append bytes
        have some_received : (socket.recv front.length).1 ≠ [] := by
          rw [received, Ne, List.take_eq_nil_iff, not_or]
          exact ⟨Nat.ne_of_gt count, done⟩
        have short := portion_le (socket.reads 0) front.length
        have behind : (front.drop (portion (socket.reads 0) front.length)).length =
            front.length - (socket.recv front.length).1.length := by
          rw [received, List.length_drop, List.length_take]
          omega
        have fewer : front.length - (socket.recv front.length).1.length < front.length :=
          Nat.sub_lt (Nat.pos_of_ne_zero left) (List.length_pos_iff.mpr some_received)
        obtain ⟨rest, read, ended, peeks⟩ := ih _ fewer _ _ remaining behind
        refine ⟨rest, ?_, ended, peeks⟩
        rw [if_neg left, if_neg some_received, read, Option.map_some, received,
          List.take_append_drop]

theorem length_of_recvAll {socket rest : Socket} {length : Nat} {received : List UInt8}
    (read : socket.recvAll length = some (received, rest)) : received.length = length := by
  induction length using Nat.strongRecOn generalizing socket received rest with
  | ind length ih =>
      rw [recvAll] at read
      split at read
      · rename_i done
        simp only [Option.some.injEq, Prod.mk.injEq] at read
        rw [← read.1, done, List.length_nil]
      · rename_i wanted
        simp only at read
        split at read
        · simp at read
        · rename_i some_received
          obtain ⟨⟨more, final⟩, later, joined⟩ := Option.map_eq_some_iff.mp read
          have positive := List.length_pos_iff.mpr some_received
          have bound : (socket.recv length).1.length ≤ length :=
            Nat.le_trans (List.length_take_le _ _) (portion_le _ _)
          have tail := ih _ (by omega) later
          simp only [Prod.mk.injEq] at joined
          rw [← joined.1, List.length_append, tail]
          omega

theorem recvAll_bytes {socket rest : Socket} {length : Nat} {received : List UInt8}
    (read : socket.recvAll length = some (received, rest)) :
    socket.bytes = received ++ rest.bytes := by
  induction length using Nat.strongRecOn generalizing socket received rest with
  | ind length ih =>
      rw [recvAll] at read
      split at read
      · simp only [Option.some.injEq, Prod.mk.injEq] at read
        rw [← read.1, ← read.2, List.nil_append]
      · simp only at read
        split at read
        · simp at read
        · rename_i wanted some_received
          obtain ⟨⟨more, final⟩, later, joined⟩ := Option.map_eq_some_iff.mp read
          simp only [Prod.mk.injEq] at joined
          have fewer := Nat.sub_lt (Nat.pos_of_ne_zero wanted)
            (List.length_pos_iff.mpr some_received)
          have tail := ih _ fewer later
          rw [← joined.1, ← joined.2, List.append_assoc, ← tail]
          exact (List.take_append_drop _ _).symm

theorem recvAll_shorter {socket rest : Socket} {length : Nat} {received : List UInt8}
    (read : socket.recvAll length = some (received, rest)) :
    rest.bytes.length + length = socket.bytes.length := by
  rw [recvAll_bytes read, List.length_append, length_of_recvAll read, Nat.add_comm]

theorem peek_append {socket : Socket} {front back : List UInt8}
    (bytes : socket.bytes = front ++ back) (full : front.length ≤ socket.peeks 0) :
    (socket.peek front.length).1 = front := by
  have all : portion (socket.peeks 0) front.length = front.length := by
    simp only [portion]
    omega
  simp only [peek, bytes, all, List.take_left']

theorem peek_full {socket : Socket} {wanted : Nat}
    (full : (socket.peek wanted).1.length = wanted) :
    socket.bytes = (socket.peek wanted).1 ++ socket.bytes.drop wanted := by
  have short := portion_le (socket.peeks 0) wanted
  simp only [peek, List.length_take] at full ⊢
  rw [show portion (socket.peeks 0) wanted = wanted by omega, List.take_append_drop]

theorem peek_short {socket : Socket} {wanted : Nat} (several : 1 < wanted)
    (short : socket.peeks 0 < wanted) : (socket.peek wanted).1.length ≠ wanted := by
  simp only [peek, List.length_take, portion]
  omega

end Socket

def sendAll (answers : Nat → Nat) (buffer : List UInt8) : List UInt8 :=
  if buffer = [] then []
  else
    let count := portion (answers 0) buffer.length
    buffer.take count ++ sendAll (fun call => answers (call + 1)) (buffer.drop count)
termination_by buffer.length
decreasing_by
  rename_i some_left
  have := List.length_pos_iff.mpr some_left
  simp only [portion, List.length_drop]
  omega

theorem sendAll_eq (answers : Nat → Nat) (buffer : List UInt8) :
    sendAll answers buffer = buffer := by
  fun_induction sendAll answers buffer with
  | case1 => rfl
  | case2 answers buffer some_left count ih => rw [ih, List.take_append_drop]

end Foundation
