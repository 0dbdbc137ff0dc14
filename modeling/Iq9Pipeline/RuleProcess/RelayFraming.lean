import Iq9Pipeline.Consumer.RelayReceiver
import Iq9Pipeline.RuleProcess.Scene

/-!
The relay socket from end to end: the items that the rule process writes, each
one the length of its metadata, the metadata and the packet, against the frames
that the consumer's loop finds in the stream.
-/

namespace Iq9Pipeline.RuleProcess

open Foundation Consumer

section

variable (dump : Json → List UInt8)

def relayedItem (item : Alert × EventMeta) : List UInt8 × IQ9TaskPacket :=
  (dump (relayMetadata item.1 item.2), relayPacket item.2)

def sendItem (sends : Nat → Nat → Nat) (item : Alert × EventMeta) : List UInt8 :=
  let metaStr := dump (relayMetadata item.1 item.2)
  let metaLen := UInt32.ofNat metaStr.length
  sendAll (sends 0) (word32 metaLen) ++
    (sendAll (sends 1) metaStr ++ sendAll (sends 2) (relayPacket item.2).toBytes)

def relayStream (sends : Nat → Nat → Nat → Nat) : List (Alert × EventMeta) → List UInt8
  | [] => []
  | item :: items =>
      sendItem dump (sends 0) item ++ relayStream (fun index => sends (index + 1)) items

variable {dump : Json → List UInt8}

theorem sendItem_eq (sends : Nat → Nat → Nat) (item : Alert × EventMeta) :
    sendItem dump sends item =
      word32 (UInt32.ofNat (relayedItem dump item).1.length) ++
        ((relayedItem dump item).1 ++ (relayedItem dump item).2.toBytes) := by
  simp only [sendItem, sendAll_eq, relayedItem]

theorem relayTurn_sendItem (objectText : ∀ members, dump (.object members) ≠ [])
    {sends : Nat → Nat → Nat} {item : Alert × EventMeta} {rest : List UInt8} {socket : Socket}
    (bytes : socket.bytes = sendItem dump sends item ++ rest)
    (fits : (relayedItem dump item).1.length < 65536) (full : 4 ≤ socket.peeks 0) :
    ∃ final, relayTurn socket = .frame (relayedItem dump item).1 (relayedItem dump item).2 final ∧
      final.bytes = rest ∧ final.peeks = fun call => socket.peeks (call + 1) := by
  have some_text : 0 < (relayedItem dump item).1.length :=
    List.length_pos_iff.mpr (objectText _)
  have announced : (UInt32.ofNat (relayedItem dump item).1.length).toNat =
      (relayedItem dump item).1.length :=
    UInt32.toNat_ofNat_of_lt' (by simp only [UInt32.size]; omega)
  refine relayTurn_item ?_ announced ?_ rfl full
  · rw [bytes, sendItem_eq]
    simp only [List.append_assoc]
  · rw [UInt32.lt_iff_toNat_lt, UInt32.lt_iff_toNat_lt, announced]
    exact ⟨some_text, fits⟩

theorem receiveRelay_relayStream (objectText : ∀ members, dump (.object members) ≠ [])
    {items : List (Alert × EventMeta)} {sends : Nat → Nat → Nat → Nat} {limit fuel : Nat}
    {socket : Socket} (bytes : socket.bytes = relayStream dump sends items)
    (enough : items.length < fuel)
    (fits : ∀ item ∈ items.take limit, (relayedItem dump item).1.length < 65536)
    (full : ∀ index < min limit items.length, 4 ≤ socket.peeks index) :
    receiveRelay fuel limit socket = (items.map (relayedItem dump)).take limit := by
  induction items generalizing sends limit fuel socket with
  | nil =>
      obtain ⟨fuel, rfl⟩ := Nat.exists_eq_add_one_of_ne_zero (Nat.ne_zero_of_lt enough)
      cases limit with
      | zero => rfl
      | succ limit => simp [receiveRelay, relayTurn_ended bytes]
  | cons item items ih =>
      obtain ⟨fuel, rfl⟩ := Nat.exists_eq_add_one_of_ne_zero (Nat.ne_zero_of_lt enough)
      cases limit with
      | zero => rfl
      | succ limit =>
          simp only [List.take_succ_cons, List.mem_cons, forall_eq_or_imp] at fits
          simp only [List.length_cons] at enough full
          obtain ⟨final, turned, rest, peeks⟩ :=
            relayTurn_sendItem objectText bytes fits.1 (full 0 (by omega))
          have later : receiveRelay fuel limit final =
              (items.map (relayedItem dump)).take limit := by
            refine ih rest (by omega) fits.2 ?_
            intro index inside
            rw [peeks]
            exact full (index + 1) (by omega)
          simp only [receiveRelay, turned, later, List.map_cons, List.take_succ_cons]

theorem peeks_of_receiveRelay (objectText : ∀ members, dump (.object members) ≠ [])
    {items : List (Alert × EventMeta)} {sends : Nat → Nat → Nat → Nat} {limit fuel : Nat}
    {socket : Socket} (bytes : socket.bytes = relayStream dump sends items)
    (fits : ∀ item ∈ items.take limit, (relayedItem dump item).1.length < 65536)
    (received : receiveRelay fuel limit socket = (items.map (relayedItem dump)).take limit) :
    ∀ index < min limit items.length, 4 ≤ socket.peeks index := by
  induction items generalizing sends limit fuel socket with
  | nil => simp
  | cons item items ih =>
      intro index inside
      simp only [List.length_cons] at inside
      obtain ⟨limit, rfl⟩ := Nat.exists_eq_add_one_of_ne_zero (show limit ≠ 0 by omega)
      simp only [List.take_succ_cons, List.mem_cons, forall_eq_or_imp] at fits
      cases fuel with
      | zero => simp [receiveRelay] at received
      | succ fuel =>
          have full : 4 ≤ socket.peeks 0 := by
            by_contra short
            simp [receiveRelay, relayTurn_shortPeek (Nat.lt_of_not_le short)] at received
          obtain ⟨final, turned, rest, peeks⟩ :=
            relayTurn_sendItem objectText bytes fits.1 full
          simp only [receiveRelay, turned, List.map_cons, List.take_succ_cons,
            List.cons.injEq] at received
          cases index with
          | zero => exact full
          | succ index =>
              have later := ih rest fits.2 received.2 index (by omega)
              rwa [peeks] at later

end

/-- The loop finds the items that were sent, and goes on finding them given more turns. -/
def ReceivesAll (dump : Json → List UInt8) (sends : Nat → Nat → Nat → Nat)
    (reads peeks : Nat → Nat) (limit : Nat) (items : List (Alert × EventMeta)) : Prop :=
  ∃ enough, ∀ fuel, enough ≤ fuel →
    receiveRelay fuel limit ⟨relayStream dump sends items, reads, peeks⟩ =
      (items.map (relayedItem dump)).take limit

theorem receivesAll_iff (dump : Json → List UInt8)
    (objectText : ∀ members, dump (.object members) ≠ []) (sends : Nat → Nat → Nat → Nat)
    (reads peeks : Nat → Nat) (limit : Nat) (items : List (Alert × EventMeta)) :
    ReceivesAll dump sends reads peeks limit items ↔
      (∀ item ∈ items.take limit, (dump (relayMetadata item.1 item.2)).length < 65536) ∧
        ∀ index < min limit items.length, 4 ≤ peeks index := by
  constructor
  · rintro ⟨enough, received⟩
    have found := received enough (Nat.le_refl enough)
    have fits : ∀ item ∈ items.take limit, (relayedItem dump item).1.length < 65536 := by
      intro item member
      have sent : relayedItem dump item ∈ (items.map (relayedItem dump)).take limit := by
        rw [← List.map_take]
        exact List.mem_map_of_mem member
      rw [← found] at sent
      exact receiveRelay_metadata sent
    exact ⟨fits, peeks_of_receiveRelay objectText rfl fits found⟩
  · rintro ⟨fits, full⟩
    exact ⟨items.length + 1, fun fuel enough =>
      receiveRelay_relayStream objectText rfl enough fits full⟩

def trunkAlert : Alert where
  ruleName := "open_trunk"
  priority := 1
  dedupKey := "open_trunk_alice"
  trackId := 7
  timestamp := 1000000

def eventWith (detections : List Detection) : EventMeta where
  sourceId := "0"
  sourceIdNum := 0
  timestamp := 1000000
  removedTrackIds := []
  detections := detections
  slotIndex := 3
  width := 1920
  height := 1080
  channels := 3
  timestampNs := 1000000000

def shortText : List UInt8 :=
  ascii "\x7b\"detections\":[],\"rule\":\"open_trunk\",\"source_id\":3\x7d"

theorem receivesAll_iff_byteByByte :
    ReceivesAll (fun _ => shortText) (fun _ _ _ => 1) (fun _ => 1) (fun _ => 4) 1
      [(trunkAlert, eventWith [])] :=
  (receivesAll_iff _ (fun _ => by decide) _ _ _ _ _).mpr
    ⟨fun _ _ => by decide, fun _ _ => Nat.le_refl 4⟩

def longClass : Detection where
  className := String.ofList (List.replicate 65536 'a')
  bbox := []
  trackId := 7
  confidence := 0.5
  embedding := []

def longText : List UInt8 :=
  ascii "\x7b\"detections\":[\x7b\"class\":\"" ++ (List.replicate 65536 0x61 ++
    ascii "\",\"confidence\":0.5,\"track_id\":7\x7d],\"rule\":\"open_trunk\",\"source_id\":3\x7d")

theorem longText_length : 65536 ≤ longText.length := by
  simp only [longText, List.length_append, List.length_replicate]
  omega

/-- The length of this item lies outside the window, so that the loop peeks at it forever. -/
theorem longMetadataLost :
    ¬ ∀ (dump : Json → List UInt8) (sends : Nat → Nat → Nat → Nat) (reads peeks : Nat → Nat)
        (items : List (Alert × EventMeta)), (∀ members, dump (.object members) ≠ []) →
      ReceivesAll dump sends reads peeks items.length items := by
  intro universal
  let items := [(trunkAlert, eventWith [longClass])]
  have length := longText_length
  have some_text : longText ≠ [] := List.ne_nil_of_length_pos (by omega)
  obtain ⟨enough, received⟩ := universal (fun _ => longText) (fun _ _ _ => 4096) (fun _ => 4096)
    (fun _ => 4) items (fun _ => some_text)
  have found := received enough (Nat.le_refl enough)
  have sent : relayedItem (fun _ => longText) (trunkAlert, eventWith [longClass]) ∈
      (items.map (relayedItem fun _ => longText)).take items.length :=
    List.mem_singleton_self _
  rw [← found] at sent
  have fits : longText.length < 65536 := receiveRelay_metadata sent
  omega

end Iq9Pipeline.RuleProcess
