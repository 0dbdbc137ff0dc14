import Iq9Pipeline.Consumer.DmaBufConsumer
import Iq9Pipeline.FrameCache.ProducerCore
import Mathlib.Tactic.IntervalCases

/-!
The release socket as a stream of bytes. The consumer sends whole packets; the
producer reads up to twelve bytes at a time, keeps no partial read, and takes each
read for a packet of its own.
-/

namespace Iq9Pipeline.FrameCache

open Foundation

structure ReleaseStream where
  sent : List UInt32
  socket : List UInt8
  polling : Bool
  reads : List Nat
  released : List UInt32
deriving DecidableEq, Repr

inductive StreamAction
  | sendRelease (slotIndex : UInt32)
  | pollReleases
  | recv (count : Nat)
  | wouldBlock
deriving DecidableEq, Repr

def packetBytes (slotIndex : UInt32) : List UInt8 :=
  (Consumer.DmaBufConsumer.releasePacket slotIndex).toBytes

namespace ReleaseStream

def step (stream : ReleaseStream) : StreamAction → Option ReleaseStream
  | .sendRelease slotIndex =>
      some { stream with
        sent := stream.sent ++ [slotIndex]
        socket := stream.socket ++ packetBytes slotIndex }
  | .pollReleases => if stream.polling then none else some { stream with polling := true }
  | .recv count =>
      if stream.polling ∧ 0 < count ∧ count ≤ 12 ∧ count ≤ stream.socket.length then
        let rest := { stream with
          socket := stream.socket.drop count, reads := stream.reads ++ [count] }
        match pollRelease (some (stream.socket.take count)) with
        | some packet => some { rest with released := stream.released ++ [packet.slotIndex] }
        | none => some { rest with polling := false }
      else none
  | .wouldBlock =>
      if stream.polling ∧ pollRelease none = none then some { stream with polling := false }
      else none

def empty : ReleaseStream where
  sent := []
  socket := []
  polling := false
  reads := []
  released := []

def machine : Machine ReleaseStream StreamAction where
  start stream := stream = empty
  step := step

def received (stream : ReleaseStream) : Nat :=
  stream.reads.sum / 12

end ReleaseStream

def slotsRead (bytes : List UInt8) : List Nat → List UInt32
  | [] => []
  | count :: reads =>
      match pollRelease (some (bytes.take count)) with
      | some packet => packet.slotIndex :: slotsRead (bytes.drop count) reads
      | none => slotsRead (bytes.drop count) reads

theorem pollRelease_short {bytes : List UInt8} (short : bytes.length ≠ 12) :
    pollRelease (some bytes) = none := by
  simp [pollRelease, short]

@[simp] theorem packetBytes_length (slotIndex : UInt32) : (packetBytes slotIndex).length = 12 :=
  IQ9ReleasePacket.toBytes_length _

theorem pollRelease_packetBytes (slotIndex : UInt32) :
    pollRelease (some (packetBytes slotIndex)) =
      some (Consumer.DmaBufConsumer.releasePacket slotIndex) :=
  pollRelease_toBytes rfl

theorem flatMap_packetBytes_length (slots : List UInt32) :
    (slots.flatMap packetBytes).length = 12 * slots.length := by
  induction slots with
  | nil => rfl
  | cons slot slots ih => simp [ih, Nat.mul_add, Nat.add_comm]

theorem slotsRead_append (bytes : List UInt8) (reads : List Nat) (count : Nat) :
    slotsRead bytes (reads ++ [count]) =
      slotsRead bytes reads ++ slotsRead (bytes.drop reads.sum) [count] := by
  induction reads generalizing bytes with
  | nil => simp [slotsRead]
  | cons first reads ih =>
      simp only [List.cons_append, slotsRead, List.sum_cons, ← List.drop_drop]
      split <;> simp [ih, slotsRead]

theorem slotsRead_of_append {bytes : List UInt8} (more : List UInt8) {reads : List Nat}
    (enough : reads.sum ≤ bytes.length) :
    slotsRead (bytes ++ more) reads = slotsRead bytes reads := by
  induction reads generalizing bytes with
  | nil => rfl
  | cons count reads ih =>
      rw [List.sum_cons] at enough
      have rest : reads.sum ≤ (bytes.drop count).length := by
        rw [List.length_drop]
        omega
      simp only [slotsRead, List.take_append_of_le_length (show count ≤ bytes.length by omega),
        List.drop_append_of_le_length (show count ≤ bytes.length by omega), ih rest]

theorem slotsRead_length_le (bytes : List UInt8) (reads : List Nat) :
    12 * (slotsRead bytes reads).length ≤ reads.sum := by
  induction reads generalizing bytes with
  | nil => simp [slotsRead]
  | cons count reads ih =>
      have rest := ih (bytes.drop count)
      simp only [slotsRead, List.sum_cons]
      split
      · rename_i packet found
        have full : (bytes.take count).length = 12 := by
          by_contra short
          simp [pollRelease_short short] at found
        rw [List.length_take] at full
        simp only [List.length_cons]
        omega
      · omega

theorem pollRelease_eq_some {bytes : List UInt8} {packet : IQ9ReleasePacket}
    (found : pollRelease (some bytes) = some packet) :
    bytes.length = 12 ∧ bytes.take 4 = word32 iq9ReleaseMagic ∧
      packet.slotIndex = word32At bytes 4 := by
  simp only [pollRelease] at found
  split at found
  · simp at found
  split at found
  · simp at found
  · rename_i long magic
    have length : bytes.length = 12 := by omega
    exact ⟨length, take_four_eq_word32 (by omega) (not_not.mp magic), by
      rw [← Option.some.inj found, IQ9ReleasePacket.ofBytes]⟩

theorem misaligned_ne {slot : UInt32} {more : List UInt8} {offset : Nat}
    {packet : IQ9ReleasePacket} (inside : 0 < offset) (within : offset < 12)
    (found : pollRelease (some (((packetBytes slot ++ more).drop offset).take 12)) = some packet) :
    packet.slotIndex ≠ slot := by
  obtain ⟨_, magic, index⟩ := pollRelease_eq_some found
  obtain ⟨first, second, third, fourth, written⟩ :
      ∃ first second third fourth, word32 slot = [first, second, third, fourth] :=
    ⟨_, _, _, _, rfl⟩
  have head : word32 iq9ReleaseMagic = [0x42, 0x39, 0x51, 0x49] := by decide
  have status : word32 (0 : Int32).toUInt32 = [0, 0, 0, 0] := by decide
  have bytes : packetBytes slot =
      [0x42, 0x39, 0x51, 0x49, first, second, third, fourth, 0, 0, 0, 0] := by
    simp only [packetBytes, IQ9ReleasePacket.toBytes, Consumer.DmaBufConsumer.releasePacket,
      written, head, status, List.cons_append, List.nil_append]
  rw [bytes] at magic index
  rw [head, List.take_take] at magic
  by_cases onSlot : offset = 4
  · -- Only the slot index of the packet itself can pass for the magic.
    subst offset
    have same : slot = iq9ReleaseMagic := by
      have equal : word32 slot = word32 iq9ReleaseMagic := by
        rw [written, head]
        simpa using magic
      calc slot = word32At (word32 slot ++ []) 0 := (word32At_word32 slot []).symm
        _ = word32At (word32 iq9ReleaseMagic ++ []) 0 := by rw [equal]
        _ = iq9ReleaseMagic := word32At_word32 _ []
    have zero : packet.slotIndex = 0 := by
      rw [index]
      simp [word32At, leValue]
    rw [zero, same]
    decide
  · interval_cases offset <;> simp at magic onSlot

theorem slotsRead_ne_of_sum_lt {bytes : List UInt8} {slots : List UInt32} {reads : List Nat}
    {covered : Nat} (fewer : reads.sum < 12 * covered) (enough : covered ≤ slots.length) :
    slotsRead bytes reads ≠ slots.take covered := by
  intro same
  have bound := slotsRead_length_le bytes reads
  rw [same, List.length_take] at bound
  omega

/-- Once a read stands inside a packet, the slots read stay wrong for good. -/
theorem slotsRead_misaligned (slot : UInt32) (slots : List UInt32) (more : List UInt8)
    {offset : Nat} {reads : List Nat} (inside : 0 < offset) (within : offset < 12)
    (whole : ∀ count ∈ reads, count ≤ 12) (covers : 12 ≤ offset + reads.sum)
    (enough : offset + reads.sum ≤ 12 * (slots.length + 1)) :
    slotsRead ((packetBytes slot ++ more).drop offset) reads ≠
      (slot :: slots).take ((offset + reads.sum) / 12) := by
  induction reads generalizing offset with
  | nil =>
      simp only [List.sum_nil] at covers
      omega
  | cons count reads ih =>
      have atMost := whole count List.mem_cons_self
      have later : ∀ count ∈ reads, count ≤ 12 := fun count member =>
        whole count (List.mem_cons_of_mem _ member)
      rw [List.sum_cons] at covers enough ⊢
      simp only [slotsRead, List.drop_drop]
      split
      · rename_i packet found
        obtain ⟨length, _, _⟩ := pollRelease_eq_some found
        obtain rfl : count = 12 := by
          rw [List.length_take] at length
          omega
        obtain ⟨covered, equal⟩ : ∃ covered, (offset + (12 + reads.sum)) / 12 = covered + 1 :=
          ⟨(offset + reads.sum) / 12, by omega⟩
        rw [equal, List.take_succ_cons]
        exact fun same => misaligned_ne inside within found (List.cons.inj same).1
      · by_cases still : offset + count < 12
        · have rest := ih (by omega) still later (by omega) (by omega)
          rwa [Nat.add_assoc] at rest
        · apply slotsRead_ne_of_sum_lt
          · omega
          · rw [List.length_cons]
            omega

theorem slotsRead_eq_iff {slots : List UInt32} {reads : List Nat}
    (whole : ∀ count ∈ reads, 0 < count ∧ count ≤ 12)
    (enough : reads.sum ≤ 12 * slots.length) :
    slotsRead (slots.flatMap packetBytes) reads = slots.take (reads.sum / 12) ↔
      ∀ count ∈ reads.take (reads.sum / 12), count = 12 := by
  induction reads generalizing slots with
  | nil => simp [slotsRead]
  | cons count reads ih =>
      obtain ⟨positive, atMost⟩ := whole count List.mem_cons_self
      have later : ∀ count ∈ reads, 0 < count ∧ count ≤ 12 := fun count member =>
        whole count (List.mem_cons_of_mem _ member)
      rw [List.sum_cons] at enough ⊢
      obtain ⟨slot, slots, rfl⟩ : ∃ slot rest, slots = slot :: rest := by
        cases slots with
        | nil =>
            simp only [List.length_nil] at enough
            omega
        | cons slot slots => exact ⟨slot, slots, rfl⟩
      rw [List.length_cons] at enough
      by_cases full : count = 12
      · subst count
        have covered : (12 + reads.sum) / 12 = reads.sum / 12 + 1 := by omega
        have first :
            (packetBytes slot ++ slots.flatMap packetBytes).take 12 = packetBytes slot := by
          rw [List.take_append_of_le_length (by simp), List.take_of_length_le (by simp)]
        have others : (packetBytes slot ++ slots.flatMap packetBytes).drop 12 =
            slots.flatMap packetBytes :=
          List.drop_left' (packetBytes_length slot)
        rw [covered, List.take_succ_cons, List.take_succ_cons, List.forall_mem_cons,
          List.flatMap_cons, slotsRead, first, pollRelease_packetBytes, others]
        simp only [Consumer.DmaBufConsumer.releasePacket, List.cons.injEq, true_and]
        exact ih later (by omega)
      · have short : (((slot :: slots).flatMap packetBytes).take count).length ≠ 12 := by
          rw [List.length_take]
          omega
        rw [slotsRead, pollRelease_short short]
        by_cases few : (count + reads.sum) / 12 = 0
        · have bound := slotsRead_length_le (((slot :: slots).flatMap packetBytes).drop count) reads
          have empty : slotsRead (((slot :: slots).flatMap packetBytes).drop count) reads = [] :=
            List.eq_nil_of_length_eq_zero (by omega)
          rw [few, List.take_zero, List.take_zero]
          exact iff_of_true empty (by simp)
        · have wrong := slotsRead_misaligned slot slots (slots.flatMap packetBytes) positive
            (by omega) (fun count member => (later count member).2) (by omega) enough
          refine iff_of_false wrong fun universal => full (universal count ?_)
          obtain ⟨covered, equal⟩ : ∃ covered, (count + reads.sum) / 12 = covered + 1 :=
            Nat.exists_eq_succ_of_ne_zero few
          simp [equal]

namespace ReleaseStream

structure Accounted (stream : ReleaseStream) : Prop where
  whole : ∀ count ∈ stream.reads, 0 < count ∧ count ≤ 12
  enough : stream.reads.sum ≤ 12 * stream.sent.length
  socket : stream.socket = (stream.sent.flatMap packetBytes).drop stream.reads.sum
  released : stream.released = slotsRead (stream.sent.flatMap packetBytes) stream.reads

theorem Accounted.step {stream next : ReleaseStream} {action : StreamAction}
    (accounted : Accounted stream) (stepped : stream.step action = some next) :
    Accounted next := by
  have length := flatMap_packetBytes_length stream.sent
  have enough := accounted.enough
  cases action with
  | sendRelease slotIndex =>
      simp only [ReleaseStream.step, Option.some.injEq] at stepped
      subst next
      refine ⟨accounted.whole, ?_, ?_, ?_⟩
      · simp only [List.length_append]
        omega
      · simp only [List.flatMap_append, List.flatMap_singleton, accounted.socket]
        rw [List.drop_append_of_le_length (by omega)]
      · simp only [List.flatMap_append, List.flatMap_singleton, accounted.released]
        rw [slotsRead_of_append _ (by omega)]
  | pollReleases =>
      simp only [ReleaseStream.step, Option.ite_none_left_eq_some, Option.some.injEq] at stepped
      exact stepped.2 ▸ ⟨accounted.whole, accounted.enough, accounted.socket, accounted.released⟩
  | wouldBlock =>
      simp only [ReleaseStream.step, Option.ite_none_right_eq_some, Option.some.injEq] at stepped
      exact stepped.2 ▸ ⟨accounted.whole, accounted.enough, accounted.socket, accounted.released⟩
  | recv count =>
      simp only [ReleaseStream.step, Option.ite_none_right_eq_some] at stepped
      obtain ⟨⟨_, positive, atMost, available⟩, read⟩ := stepped
      rw [accounted.socket, List.length_drop] at available
      have whole : ∀ other ∈ stream.reads ++ [count], 0 < other ∧ other ≤ 12 := by
        intro other member
        rcases List.mem_append.mp member with old | new
        · exact accounted.whole other old
        · rw [List.mem_singleton.mp new]
          exact ⟨positive, atMost⟩
      have sum : (stream.reads ++ [count]).sum = stream.reads.sum + count := by simp
      have slots := slotsRead_append (stream.sent.flatMap packetBytes) stream.reads count
      rw [← accounted.released, ← accounted.socket, slotsRead] at slots
      split at read
      · rename_i packet found
        simp only [Option.some.injEq] at read
        subst next
        refine ⟨whole, ?_, ?_, ?_⟩
        · simp only [sum]
          omega
        · simp only [sum, accounted.socket, List.drop_drop]
        · rw [slots, found]
          rfl
      · rename_i refused
        simp only [Option.some.injEq] at read
        subst next
        refine ⟨whole, ?_, ?_, ?_⟩
        · simp only [sum]
          omega
        · simp only [sum, accounted.socket, List.drop_drop]
        · rw [slots, refused]
          simp [slotsRead]

theorem reachable_accounted {stream : ReleaseStream} (reachable : machine.Reachable stream) :
    Accounted stream := by
  apply reachable.invariant Accounted
  · rintro stream rfl
    exact ⟨by simp [empty], by simp [empty], by simp [empty], rfl⟩
  · intro stream action next accounted stepped
    exact accounted.step stepped

/-- The slots released are those of the packets received, exactly when no read up to
their number split a packet. -/
theorem released_eq_received_iff {stream : ReleaseStream} (reachable : machine.Reachable stream) :
    stream.released = stream.sent.take stream.received ↔
      ∀ count ∈ stream.reads.take stream.received, count = 12 := by
  have accounted := reachable_accounted reachable
  rw [accounted.released]
  exact slotsRead_eq_iff accounted.whole accounted.enough

theorem released_eq_received_iff_twoPolls : ∃ stream : ReleaseStream,
    stream.sent = [3, 1] ∧ stream.reads = [12, 12] ∧
      (stream.released = stream.sent.take stream.received ↔
        ∀ count ∈ stream.reads.take stream.received, count = 12) := by
  let actions := [StreamAction.sendRelease 3, .pollReleases, .recv 12, .wouldBlock,
    .sendRelease 1, .pollReleases, .recv 12]
  have reached : (machine.run (fun _ _ => True) empty actions).map
      (fun stream => (stream.sent, stream.reads)) = some ([3, 1], [12, 12]) := by decide
  obtain ⟨stream, ran, facts⟩ := Option.map_eq_some_iff.mp reached
  obtain ⟨sent, reads⟩ := Prod.mk.inj facts
  have reachable := Machine.ReachableUnder.run (Machine.ReachableUnder.start rfl) ran
  exact ⟨stream, sent, reads, released_eq_received_iff reachable⟩

/-- A packet that two reads split releases nothing. -/
theorem splitReleaseLost : ¬ ∀ stream : ReleaseStream, machine.Reachable stream →
    stream.released = stream.sent.take stream.received := by
  intro universal
  let actions := [StreamAction.sendRelease 3, .pollReleases, .recv 5, .pollReleases, .recv 7]
  have reached : (machine.run (fun _ _ => True) empty actions).map
      (fun stream => (stream.released, stream.sent.take stream.received)) = some ([], [3]) := by
    decide
  obtain ⟨stream, ran, facts⟩ := Option.map_eq_some_iff.mp reached
  obtain ⟨released, received⟩ := Prod.mk.inj facts
  have equal := universal stream (Machine.ReachableUnder.run (Machine.ReachableUnder.start rfl) ran)
  rw [released, received] at equal
  cases equal

end ReleaseStream

end Iq9Pipeline.FrameCache
