import Iq9Pipeline.Consumer.RelayReceiver
import Iq9Pipeline.Foundation.Loop

/-!
What a turn of the consumer's relay loop leaves of the stream. A turn that reads
anything reads at least the word it peeked at. The turn that reports bad framing
reads nothing, and every later turn finds the same word again.
-/

namespace Iq9Pipeline.Consumer

open Foundation Loop

structure RelayLoop where
  frameCount : Nat
  socket : Socket

/-- One turn of `while (frame_count < num_frames ...)`. `handled` tells of each packet
whether `MapFrame` and `ReleaseFrame` succeed; where one fails, the loop is left. -/
def relayIteration (numFrames : Nat) (handled : Nat → IQ9TaskPacket → Bool) (loop : RelayLoop) :
    Option RelayLoop :=
  if loop.frameCount < numFrames then
    match relayTurn loop.socket with
    | .leave => none
    | .again socket => some { loop with socket }
    | .frame _ packet socket =>
        if handled loop.frameCount packet then some ⟨loop.frameCount + 1, socket⟩ else none
  else none

def relayStart (socket : Socket) : RelayLoop :=
  ⟨0, socket⟩

def Unframed (socket : Socket) : Prop :=
  (socket.peek 4).1.length = 4 ∧
    word32At (socket.peek 4).1 0 ≠ iq9TaskMagic ∧
    (word32At (socket.peek 4).1 0 = 0 ∨ 65536 ≤ word32At (socket.peek 4).1 0)

def Turn.Consumes (socket : Socket) : Turn → Prop
  | .leave => True
  | .again rest | .frame _ _ rest => rest.bytes.length < socket.bytes.length

theorem checkMagic_consumes {socket rest : Socket} {metadataJson packet : List UInt8}
    (shorter : rest.bytes.length < socket.bytes.length) :
    (checkMagic metadataJson packet rest).Consumes socket := by
  simp only [checkMagic]
  split
  · exact shorter
  · exact shorter

theorem relayTurn_unframed {socket : Socket} (unframed : Unframed socket) :
    relayTurn socket = .again (socket.peek 4).2 := by
  obtain ⟨full, packet, word⟩ := unframed
  have metadata : ¬(0 < word32At (socket.peek 4).1 0 ∧ word32At (socket.peek 4).1 0 < 65536) := by
    rcases word with zero | large
    · simp [zero]
    · intro window
      exact absurd window.2 (UInt32.not_lt.mpr large)
  simp [relayTurn, full, packet, metadata]

theorem peek_bytes (socket : Socket) (wanted : Nat) :
    (socket.peek wanted).2.bytes = socket.bytes := by
  rfl

theorem relayTurn_framed {socket : Socket} (framed : ¬Unframed socket) :
    (relayTurn socket).Consumes socket := by
  simp only [relayTurn]
  split
  · trivial
  · rename_i full
    split
    · split
      · trivial
      · rename_i received
        have bytes := Socket.recvAll_shorter received
        rw [peek_bytes] at bytes
        exact checkMagic_consumes (by omega)
    · split
      · split
        · trivial
        · rename_i lengthRead
          have lengthBytes := Socket.recvAll_shorter lengthRead
          rw [peek_bytes] at lengthBytes
          split
          · trivial
          · rename_i metadataRead
            have metadataBytes := Socket.recvAll_shorter metadataRead
            split
            · trivial
            · rename_i packetRead
              have packetBytes := Socket.recvAll_shorter packetRead
              exact checkMagic_consumes (by omega)
      · rename_i notPacket notMetadata
        refine absurd ⟨not_not.mp full, notPacket, ?_⟩ framed
        rw [not_and, UInt32.not_lt] at notMetadata
        rcases UInt32.le_iff_lt_or_eq.mp (UInt32.zero_le (a := word32At (socket.peek 4).1 0)) with
          positive | zero
        · exact Or.inr (notMetadata positive)
        · exact Or.inl zero.symm

def RelayLoop.Consumes (numFrames : Nat) (handled : Nat → IQ9TaskPacket → Bool)
    (loop : RelayLoop) : Prop :=
  ∀ next, relayIteration numFrames handled loop = some next →
    next.socket.bytes.length < loop.socket.bytes.length

def RelayLoop.Skips (numFrames : Nat) (loop : RelayLoop) : Prop :=
  loop.frameCount < numFrames ∧ Unframed loop.socket

section

variable {numFrames : Nat} {handled : Nat → IQ9TaskPacket → Bool} {loop : RelayLoop}

theorem relayIteration_skips (skips : loop.Skips numFrames) :
    relayIteration numFrames handled loop =
      some { loop with socket := (loop.socket.peek 4).2 } := by
  simp only [relayIteration, if_pos skips.1, relayTurn_unframed skips.2]

theorem relayIteration_consumes :
    loop.Consumes numFrames handled ↔ ¬loop.Skips numFrames := by
  constructor
  · intro consumes skips
    have shorter := consumes _ (relayIteration_skips skips)
    exact Nat.lt_irrefl _ shorter
  · intro framed next turned
    simp only [relayIteration] at turned
    split at turned
    · rename_i more
      have consumes := relayTurn_framed (fun unframed => framed ⟨more, unframed⟩)
      split at turned
      · simp at turned
      · rename_i read
        rw [read] at consumes
        rw [Option.some.injEq] at turned
        rw [← turned]
        exact consumes
      · rename_i read
        rw [read] at consumes
        split at turned
        · rw [Option.some.injEq] at turned
          rw [← turned]
          exact consumes
        · simp at turned
    · simp at turned

end

/-- The loop consumes something in each of its turns, and then comes to an end,
exactly if it is never at a word it takes for bad framing. -/
theorem relayLoop_progress (numFrames : Nat) (handled : Nat → IQ9TaskPacket → Bool)
    (socket : Socket) :
    ((∀ count loop, turns (relayIteration numFrames handled) count (relayStart socket) = some loop →
        loop.Consumes numFrames handled) ∧
      ∃ count, turns (relayIteration numFrames handled) count (relayStart socket) = none) ↔
      ∀ count loop, turns (relayIteration numFrames handled) count (relayStart socket) = some loop →
        ¬loop.Skips numFrames := by
  constructor
  · intro progress count loop reached
    exact relayIteration_consumes.mp (progress.1 count loop reached)
  · intro framed
    constructor
    · intro count loop reached
      exact relayIteration_consumes.mpr (framed count loop reached)
    · refine ⟨socket.bytes.length + 1, ?_⟩
      apply turns_left fun loop : RelayLoop => loop.socket.bytes.length
      intro count last next reached turned
      exact relayIteration_consumes.mpr (framed count last reached) next turned

def zeroWord : Socket :=
  ⟨[0, 0, 0, 0], fun _ => 4, fun _ => 4⟩

theorem relayLoop_zeroWord :
    ¬(relayStart zeroWord).Consumes 1 (fun _ _ => true) ∧
      ∀ count, turns (relayIteration 1 fun _ _ => true) count (relayStart zeroWord) =
        some (relayStart zeroWord) := by
  have unframed : Unframed zeroWord := by
    simp only [Unframed]
    decide
  have still : relayIteration 1 (fun _ _ => true) (relayStart zeroWord) =
      some (relayStart zeroWord) := relayIteration_skips ⟨Nat.one_pos, unframed⟩
  constructor
  · intro consumes
    exact Nat.lt_irrefl _ (consumes _ still)
  · exact turns_still still

end Iq9Pipeline.Consumer
