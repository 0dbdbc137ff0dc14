import Iq9Pipeline.Foundation.ByteStream
import Iq9Pipeline.Packets

/-!
The consumer's loop over the relay socket (`consumer_demo.cpp`), up to the frames
it maps. The loop peeks at four bytes to tell the two protocols apart: a packet
on its own begins with the magic, metadata with its length.
-/

namespace Iq9Pipeline.Consumer

open Foundation

inductive Turn
  | leave
  | again (socket : Socket)
  | frame (metadataJson : List UInt8) (packet : IQ9TaskPacket) (socket : Socket)

def checkMagic (metadataJson bytes : List UInt8) (socket : Socket) : Turn :=
  let packet := IQ9TaskPacket.ofBytes bytes
  if packet.magic ≠ iq9TaskMagic then .again socket else .frame metadataJson packet socket

def relayTurn (socket : Socket) : Turn :=
  let (peeked, socket) := socket.peek 4
  if peeked.length ≠ 4 then .leave
  else
    let peek := word32At peeked 0
    if peek = iq9TaskMagic then
      match socket.recvAll 32 with
      | none => .leave
      | some (packet, socket) => checkMagic [] packet socket
    else if 0 < peek ∧ peek < 65536 then
      match socket.recvAll 4 with
      | none => .leave
      | some (metaLen, socket) =>
          match socket.recvAll (word32At metaLen 0).toNat with
          | none => .leave
          | some (metaJson, socket) =>
              match socket.recvAll 32 with
              | none => .leave
              | some (packet, socket) => checkMagic metaJson packet socket
    -- "skipping": nothing is read, so that the next turn peeks at the same bytes.
    else .again socket

/-- The metadata and packets of the frames that the loop maps. It ends after `limit`
frames at the latest: `num_frames`, a shutdown or an error of `MapFrame`. -/
def receiveRelay : Nat → Nat → Socket → List (List UInt8 × IQ9TaskPacket)
  | 0, _, _ | _, 0, _ => []
  | fuel + 1, limit + 1, socket =>
      match relayTurn socket with
      | .leave => []
      | .again socket => receiveRelay fuel (limit + 1) socket
      | .frame metadataJson packet socket =>
          (metadataJson, packet) :: receiveRelay fuel limit socket

theorem checkMagic_eq_frame {metadataJson bytes found : List UInt8} {packet : IQ9TaskPacket}
    {socket rest : Socket}
    (checked : checkMagic metadataJson bytes socket = .frame found packet rest) :
    found = metadataJson := by
  simp only [checkMagic] at checked
  split at checked
  · simp at checked
  · simp only [Turn.frame.injEq] at checked
    exact checked.1.symm

theorem relayTurn_metadata {socket rest : Socket} {metadataJson : List UInt8}
    {packet : IQ9TaskPacket} (turned : relayTurn socket = .frame metadataJson packet rest) :
    metadataJson.length < 65536 := by
  simp only [relayTurn] at turned
  split at turned
  · simp at turned
  · rename_i full
    have bytes := Socket.peek_full (not_not.mp full)
    split at turned
    · split at turned
      · simp at turned
      · rw [checkMagic_eq_frame turned]
        simp
    · split at turned
      · rename_i window
        obtain ⟨_, read, _, _⟩ :=
          (socket.peek 4).2.recvAll_append (socket.peek 4).1 bytes
        rw [not_not.mp full] at read
        simp only [read] at turned
        split at turned
        · simp at turned
        · rename_i received
          have length := Socket.length_of_recvAll received
          split at turned
          · simp at turned
          · rw [checkMagic_eq_frame turned, length]
            exact UInt32.lt_iff_toNat_lt.mp window.2
      · simp at turned

theorem receiveRelay_metadata {fuel limit : Nat} {socket : Socket}
    {frame : List UInt8 × IQ9TaskPacket} (received : frame ∈ receiveRelay fuel limit socket) :
    frame.1.length < 65536 := by
  induction fuel generalizing limit socket with
  | zero => simp [receiveRelay] at received
  | succ fuel ih =>
      cases limit with
      | zero => simp [receiveRelay] at received
      | succ limit =>
          simp only [receiveRelay] at received
          split at received
          · simp at received
          · exact ih received
          · rename_i turned
            rcases List.mem_cons.mp received with rfl | later
            · exact relayTurn_metadata turned
            · exact ih later

theorem relayTurn_item {socket : Socket} {length : UInt32} {metadataJson rest : List UInt8}
    {packet : IQ9TaskPacket}
    (bytes : socket.bytes = word32 length ++ (metadataJson ++ (packet.toBytes ++ rest)))
    (announced : length.toNat = metadataJson.length) (window : 0 < length ∧ length < 65536)
    (magic : packet.magic = iq9TaskMagic) (full : 4 ≤ socket.peeks 0) :
    ∃ final, relayTurn socket = .frame metadataJson packet final ∧ final.bytes = rest ∧
      final.peeks = fun call => socket.peeks (call + 1) := by
  have peeked : (socket.peek 4).1 = word32 length := by
    simpa using Socket.peek_append bytes (by simpa using full)
  have word : word32At (word32 length) 0 = length := by
    simpa using word32At_word32 length []
  have notMagic : length ≠ iq9TaskMagic := by
    rintro rfl
    exact absurd window.2 (by decide)
  obtain ⟨afterLength, readLength, lengthRest, lengthPeeks⟩ :=
    (socket.peek 4).2.recvAll_append (word32 length) bytes
  obtain ⟨afterMetadata, readMetadata, metadataRest, metadataPeeks⟩ :=
    afterLength.recvAll_append metadataJson lengthRest
  obtain ⟨final, readPacket, packetRest, packetPeeks⟩ :=
    afterMetadata.recvAll_append packet.toBytes metadataRest
  rw [word32_length] at readLength
  rw [← announced] at readMetadata
  rw [IQ9TaskPacket.toBytes_length] at readPacket
  refine ⟨final, ?_, packetRest, ?_⟩
  · have decoded : IQ9TaskPacket.ofBytes packet.toBytes = packet := by
      simpa using IQ9TaskPacket.ofBytes_toBytes packet []
    simp only [relayTurn, peeked, word32_length, ne_eq, not_true_eq_false, if_false, word, notMagic,
      window, and_self, if_true, readLength, readMetadata, readPacket, checkMagic, decoded, magic]
  · rw [packetPeeks, metadataPeeks, lengthPeeks]
    rfl

theorem relayTurn_ended {socket : Socket} (ended : socket.bytes = []) :
    relayTurn socket = .leave := by
  simp [relayTurn, Socket.peek, ended]

theorem relayTurn_shortPeek {socket : Socket} (short : socket.peeks 0 < 4) :
    relayTurn socket = .leave := by
  simp only [relayTurn]
  rw [if_pos (Socket.peek_short (by decide) short)]

end Iq9Pipeline.Consumer
