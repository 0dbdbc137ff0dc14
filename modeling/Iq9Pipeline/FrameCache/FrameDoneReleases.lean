import Iq9Pipeline.Foundation.Returns
import Iq9Pipeline.FrameCache.SlotPool
import Iq9Pipeline.FrameDone

/-!
Which slots a `frame_done` message releases. An entry that names no slot is read as slot 0
or as what its member converts to. A member of the wrong type ends the loop, and a double
outside the type has no conversion.
-/

namespace Iq9Pipeline.FrameCache

open Foundation

def releaseSlotDirect (pool : SlotPool) (slotIndex : UInt32) : SlotPool :=
  (pool.releaseSlot (castInt slotIndex)).2

def afterFrameDone (pool : SlotPool) (parsed : Option Json) : SlotPool :=
  (onFrameDonePayload parsed).1.foldl releaseSlotDirect pool

def frameDoneEntries (parsed : Option Json) : List Json :=
  match parsed.bind (Json.find · "type"), parsed.bind (Json.find · "release_entries") with
  | some (.string type), some (.array entries) => if type = "frame_done" then entries else []
  | _, _ => []

def entryIndex (entry : Json) : Option Nat :=
  match entry.find "slot_index" with
  | some (.numberUnsigned value) => if value.toNat < 2 ^ 32 then some value.toNat else none
  | some (.numberInteger value) =>
      if 0 ≤ value.toInt ∧ value.toInt < 2 ^ 32 then some value.toInt.toNat else none
  | _ => none

/-- The slot that the code takes an entry for which names none. -/
def misreadAs (entry : Json) : Option UInt32 :=
  if entry.isObject then
    match entry.find "slot_index" with
    | none => some 0
    | some (.boolean value) => some value.toUInt32
    | some (.numberInteger value) =>
        if 0 ≤ value.toInt ∧ value.toInt < 2 ^ 32 then none else some (castUInt32 value.toInt)
    | some (.numberUnsigned value) =>
        if value.toNat < 2 ^ 32 then none else some value.toUInt32
    | some (.numberFloat double) =>
        if double.FitsUInt32 then some double.value.toUInt32 else none
    | _ => none
  else none

/-- The accessor has a result for the member. -/
def CastsToUInt32 : Json → Prop
  | .boolean _ | .numberInteger _ | .numberUnsigned _ => True
  | .numberFloat double => double.FitsUInt32
  | _ => False

def namedSlots (parsed : Option Json) : List Nat :=
  (frameDoneEntries parsed).filterMap entryIndex

/-- The payload is no JSON, or an object whose members can be read as what they are read as. -/
structure Readable (parsed : Option Json) : Prop where
  object : ∀ json, parsed = some json → json.isObject = true
  type : ∀ member, parsed.bind (Json.find · "type") = some member →
    ∃ type, member = .string type
  slotIndex : ∀ entry ∈ frameDoneEntries parsed, ∀ member,
    entry.find "slot_index" = some member → CastsToUInt32 member

structure ReleasesNamed (pool : SlotPool) (parsed : Option Json) : Prop where
  returns : (onFrameDonePayload parsed).2 = .returned
  freed : ∀ index, pool.state? index ≠ some .idle →
    (afterFrameDone pool parsed).state? index = some .idle → index ∈ namedSlots parsed
  named : ∀ index ∈ namedSlots parsed, pool.state? index = some .onFlight →
    (afterFrameDone pool parsed).state? index = some .idle

theorem state?_releaseSlotDirect (pool : SlotPool) (slotIndex : UInt32) (index : Nat) :
    (releaseSlotDirect pool slotIndex).state? index =
      if slotIndex.toNat = index ∧ pool.state? index = some .onFlight then some .idle
      else pool.state? index := by
  by_cases flying : pool.state? slotIndex.toNat = some .onFlight
  · have released := SlotPool.releaseSlot_of_onFlight flying
    rw [UInt32.ofNat_toNat] at released
    rw [releaseSlotDirect, released, SlotPool.state?_setState]
    by_cases same : slotIndex.toNat = index
    · simp [← same, flying]
    · simp [same]
  · rw [releaseSlotDirect, SlotPool.releaseSlot_of_not_onFlight flying, if_neg]
    rintro ⟨rfl, present⟩
    exact flying present

theorem state?_releases (pool : SlotPool) (slots : List UInt32) (index : Nat) :
    (slots.foldl releaseSlotDirect pool).state? index =
      if index ∈ slots.map UInt32.toNat ∧ pool.state? index = some .onFlight then some .idle
      else pool.state? index := by
  induction slots generalizing pool with
  | nil => simp
  | cons slotIndex slots ih =>
      rw [List.foldl_cons, ih, state?_releaseSlotDirect]
      by_cases flying : pool.state? index = some .onFlight
      · by_cases first : slotIndex.toNat = index
        · simp [first, flying]
        · simp [first, flying, Ne.symm first]
      · simp [flying]

theorem value_of_isObject {json : Json} (object : json.isObject = true) {α : Type}
    (get : Json → Except JsonException α) (key : String) (default : α) :
    json.value get key default =
      match json.find key with
      | some member => get member
      | none => .ok default := by
  cases json with
  | object members => rfl
  | _ => cases object

theorem castUInt32_eq_iff {value : Int} (nonnegative : 0 ≤ value) (small : value < 2 ^ 32)
    {slot : UInt32} : castUInt32 value = slot ↔ value.toNat = slot.toNat := by
  have same : castUInt32 value = UInt32.ofNat value.toNat := by
    rw [castUInt32, UInt32.ofInt, Int.emod_eq_of_lt nonnegative small]
  rw [same, ← UInt32.toNat_inj,
    UInt32.toNat_ofNat_of_lt' (by simp only [UInt32.size]; omega)]

theorem toUInt32_eq_iff {value : UInt64} (small : value.toNat < 2 ^ 32) {slot : UInt32} :
    value.toUInt32 = slot ↔ value.toNat = slot.toNat := by
  rw [← UInt32.toNat_inj, UInt64.toNat_toUInt32, Nat.mod_eq_of_lt small]

theorem value_slotIndex_iff {entry : Json} (object : entry.isObject = true)
    (defined : castUndefined entry = false) {slot : UInt32} :
    entry.value Json.getUInt32 "slot_index" 0 = .ok slot ↔
      entryIndex entry = some slot.toNat ∨ misreadAs entry = some slot := by
  rw [value_of_isObject object, entryIndex, misreadAs, if_pos object]
  cases found : entry.find "slot_index" with
  | none => simp
  | some member =>
      cases member with
      | numberInteger value =>
          simp only [Json.getUInt32, Json.getNumber, Except.ok.injEq]
          split
          · rename_i small
            simp [castUInt32_eq_iff small.1 small.2]
          · simp
      | numberUnsigned value =>
          simp only [Json.getUInt32, Json.getNumber, Except.ok.injEq]
          split
          · rename_i small
            simp [toUInt32_eq_iff small]
          · simp
      | numberFloat double =>
          have fits : double.FitsUInt32 := by simpa [castUndefined, found] using defined
          simp [Json.getUInt32, Json.getNumber, fits, double.uint32_eq fits]
      | _ => simp [Json.getUInt32, Json.getNumber]

theorem castsToUInt32_iff {entry : Json} (object : entry.isObject = true) :
    (∀ member, entry.find "slot_index" = some member → CastsToUInt32 member) ↔
      castUndefined entry = false ∧ Returns (entry.value Json.getUInt32 "slot_index" 0) := by
  rw [value_of_isObject object, castUndefined]
  cases entry.find "slot_index" with
  | none => simp
  | some member => cases member <;> simp [CastsToUInt32, Json.getUInt32, Json.getNumber]

theorem releaseEntries_returns_iff {entries : List Json} :
    (releaseEntries entries).2 = .returned ↔ ∀ entry ∈ entries, ∀ member,
      entry.find "slot_index" = some member → CastsToUInt32 member := by
  induction entries with
  | nil => simp [releaseEntries]
  | cons entry entries ih =>
      rw [List.forall_mem_cons, ← ih, releaseEntries]
      by_cases object : entry.isObject = true
      · rw [if_pos object, castsToUInt32_iff object]
        cases castUndefined entry with
        | true => simp
        | false =>
            cases entry.value Json.getUInt32 "slot_index" 0 with
            | error exception => simp
            | ok slot => simp
      · have bare : entry.find "slot_index" = none := by
          cases entry with
          | object members => exact absurd rfl object
          | _ => rfl
        simp [object, bare]

theorem mem_releaseEntries {entries : List Json}
    (returns : (releaseEntries entries).2 = .returned) {slot : UInt32} :
    slot ∈ (releaseEntries entries).1 ↔ ∃ entry ∈ entries,
      entryIndex entry = some slot.toNat ∨ misreadAs entry = some slot := by
  induction entries with
  | nil => simp [releaseEntries]
  | cons entry entries ih =>
      rw [List.exists_mem_cons_iff]
      rw [releaseEntries] at returns ⊢
      by_cases object : entry.isObject = true
      · rw [if_pos object] at returns ⊢
        cases defined : castUndefined entry with
        | true => simp [defined] at returns
        | false =>
            rw [← value_slotIndex_iff object defined]
            simp only [defined, Bool.false_eq_true, if_false] at returns ⊢
            cases read : entry.value Json.getUInt32 "slot_index" 0 with
            | error exception => simp [read] at returns
            | ok found =>
                simp only [read] at returns
                simp [ih returns, eq_comm]
      · have nothing : entryIndex entry = none ∧ misreadAs entry = none := by
          cases entry with
          | object members => exact absurd rfl object
          | _ => exact ⟨rfl, rfl⟩
        rw [if_neg object] at returns ⊢
        simp [ih returns, nothing]

theorem onFrameDonePayload_of_typed {parsed : Option Json}
    (object : ∀ json, parsed = some json → json.isObject = true)
    (typed : ∀ member, parsed.bind (Json.find · "type") = some member →
      ∃ type, member = .string type) :
    onFrameDonePayload parsed = releaseEntries (frameDoneEntries parsed) := by
  cases parsed with
  | none => rfl
  | some json =>
      simp only [Option.bind_some] at typed
      simp only [onFrameDonePayload, frameDoneEntries, Option.bind_some,
        value_of_isObject (object json rfl)]
      cases named : json.find "type" with
      | none => simp [releaseEntries]
      | some member =>
          obtain ⟨type, rfl⟩ := typed member named
          by_cases done : type = "frame_done"
          · cases json.find "release_entries" with
            | none => simp [Json.getString, done, releaseEntries]
            | some entries => cases entries <;> simp [Json.getString, done, releaseEntries]
          · cases json.find "release_entries" with
            | none => simp [Json.getString, done, releaseEntries]
            | some entries => cases entries <;> simp [Json.getString, done, releaseEntries]

/-- The handler returns if and only if the payload is readable. -/
theorem onFrameDonePayload_returns_iff {parsed : Option Json} :
    (onFrameDonePayload parsed).2 = .returned ↔ Readable parsed := by
  constructor
  · intro returns
    have object : ∀ json, parsed = some json → json.isObject = true := by
      rintro json rfl
      cases json with
      | object members => rfl
      | _ => cases returns
    have typed : ∀ member, parsed.bind (Json.find · "type") = some member →
        ∃ type, member = .string type := by
      intro member named
      cases parsed with
      | none => cases named
      | some json =>
          simp only [Option.bind_some] at named
          simp only [onFrameDonePayload, value_of_isObject (object json rfl), named] at returns
          cases member with
          | string type => exact ⟨type, rfl⟩
          | _ => cases returns
    rw [onFrameDonePayload_of_typed object typed] at returns
    exact ⟨object, typed, releaseEntries_returns_iff.mp returns⟩
  · intro readable
    rw [onFrameDonePayload_of_typed readable.object readable.type]
    exact releaseEntries_returns_iff.mpr readable.slotIndex

def Misread (parsed : Option Json) (index : Nat) : Prop :=
  ∃ entry ∈ frameDoneEntries parsed, ∃ slot, misreadAs entry = some slot ∧ slot.toNat = index

theorem mem_released {parsed : Option Json} (readable : Readable parsed) (index : Nat) :
    index ∈ (onFrameDonePayload parsed).1.map UInt32.toNat ↔
      index < 2 ^ 32 ∧ (index ∈ namedSlots parsed ∨ Misread parsed index) := by
  have returns := onFrameDonePayload_returns_iff.mpr readable
  rw [onFrameDonePayload_of_typed readable.object readable.type] at returns ⊢
  simp only [List.mem_map, mem_releaseEntries returns, namedSlots, List.mem_filterMap]
  constructor
  · rintro ⟨slot, ⟨entry, member, named | taken⟩, rfl⟩
    · exact ⟨slot.toNat_lt, Or.inl ⟨entry, member, named⟩⟩
    · exact ⟨slot.toNat_lt, Or.inr ⟨entry, member, slot, taken, rfl⟩⟩
  · rintro ⟨small, ⟨entry, member, named⟩ | ⟨entry, member, slot, taken, rfl⟩⟩
    · have whole : (UInt32.ofNat index).toNat = index := UInt32.toNat_ofNat_of_lt' small
      exact ⟨UInt32.ofNat index, ⟨entry, member, Or.inl (by rw [whole, named])⟩, whole⟩
    · exact ⟨slot, ⟨entry, member, Or.inr taken⟩, rfl⟩

theorem state?_afterFrameDone (pool : SlotPool) {parsed : Option Json}
    (readable : Readable parsed) (index : Nat) :
    (afterFrameDone pool parsed).state? index = some .idle ↔ pool.state? index = some .idle ∨
      pool.state? index = some .onFlight ∧
        (index ∈ namedSlots parsed ∨ Misread parsed index) := by
  rw [afterFrameDone, state?_releases]
  have released := mem_released readable index
  split
  · rename_i freed
    simp [freed.2, (released.mp freed.1).2]
  · rename_i kept
    refine ⟨Or.inl, ?_⟩
    rintro (idle | ⟨flying, listed⟩)
    · exact idle
    · have bound := Nat.lt_trans (SlotPool.state?_bound flying) (by decide : kMaxSlots < 2 ^ 32)
      exact absurd ⟨released.mpr ⟨bound, listed⟩, flying⟩ kept

theorem sized_oneOnFlight : (1 : Int) = ([⟨0, .onFlight⟩] : List Slot).length := rfl

def oneOnFlight : SlotPool where
  slots := [⟨0, .onFlight⟩]
  sharedFd := 3
  basePtr := some 4096
  slotStride := 6220800
  bufferSize := 6220800
  numSlots := 1
  initialized := true
  sized := sized_oneOnFlight
  bounded := Nat.succ_le_succ (Nat.zero_le 31)

end Iq9Pipeline.FrameCache
