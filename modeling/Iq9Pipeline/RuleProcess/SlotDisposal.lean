import Iq9Pipeline.RuleProcess.Scene

/-!
What happens to the slots of one scene: each is either handed to the consumer with
a relayed event or named by the `frame_done` message. The relay is decided per
event but recorded per source, so sources and slots must not be shared with an
event that raises an alert.
-/

namespace Iq9Pipeline.RuleProcess

variable {Engine : Type}

/-- Every event is relayed or released, not both, and no slot is released too often. -/
structure DisposedOnce (events : List EventMeta) (relayed : List (Option Alert))
    (slots : List UInt32) : Prop where
  once : ∀ (index : Nat) (event : EventMeta) (sent : Option Alert),
    events[index]? = some event → relayed[index]? = some sent →
      Xor (sent.isSome = true) (event.slotIndex ∈ slots)
  counted : ∀ slot, slots.count slot =
    (events.zip relayed).countP fun pair => pair.1.slotIndex = slot ∧ pair.2 = none

def releasedSlots (events : List EventMeta) (vqaSources : List Int32) : List UInt32 :=
  (FrameCache.onFrameDonePayload (some (frameDone events vqaSources))).1

/-- No event that raises an alert shares its source or its slot with another event. -/
def Unshared (alerts : List Bool) (events : List EventMeta) : Prop :=
  ∀ (index other : Nat) (event neighbour : EventMeta), index ≠ other →
    events[index]? = some event → events[other]? = some neighbour → alerts[index]? = some true →
      event.sourceIdNum ≠ neighbour.sourceIdNum ∧ event.slotIndex ≠ neighbour.slotIndex

theorem releasedSlots_eq (events : List EventMeta) (vqaSources : List Int32) :
    releasedSlots events vqaSources =
      (events.filter fun event => event.sourceIdNum ∉ vqaSources).map EventMeta.slotIndex := by
  rw [releasedSlots, frameDone, FrameCache.onFrameDonePayload_frameDoneMessage, List.map_map]
  rfl

theorem Unshared.recorded_iff {processEvent : Engine → EventMeta → List Alert × Engine}
    {engine : Engine} {relayFd : Int} {outcomes : Nat → RelayOutcome} {events : List EventMeta}
    (unshared : Unshared (raised processEvent engine events) events) {index : Nat}
    {event : EventMeta} {sent : Option Alert} (found : events[index]? = some event)
    (outcome :
      (relayScene processEvent engine relayFd outcomes events).relayed[index]? = some sent) :
    event.sourceIdNum ∈ (relayScene processEvent engine relayFd outcomes events).vqaSources ↔
      sent.isSome = true := by
  rw [mem_vqaSources]
  constructor
  · rintro ⟨other, neighbour, alert, present, relayed, source⟩
    by_cases same : other = index
    · subst other
      rw [outcome] at relayed
      simp [Option.some.inj relayed]
    · exact absurd source
        (unshared other index neighbour event same present found (raised_of_relayed relayed)).1
  · intro relayed
    obtain ⟨alert, rfl⟩ := Option.isSome_iff_exists.mp relayed
    exact ⟨index, event, alert, found, outcome, rfl⟩

theorem countP_lt_countP {α : Type} {narrow wide : α → Bool} {items : List α} {item : α}
    (implies : ∀ item ∈ items, narrow item = true → wide item = true) (member : item ∈ items)
    (outside : narrow item = false) (inside : wide item = true) :
    items.countP narrow < items.countP wide := by
  induction items with
  | nil => simp at member
  | cons head tail ih =>
      have tails : ∀ item ∈ tail, narrow item = true → wide item = true := fun item belongs =>
        implies item (List.mem_cons_of_mem _ belongs)
      have bounded : tail.countP narrow ≤ tail.countP wide := List.countP_mono_left tails
      rcases List.mem_cons.mp member with same | later
      · subst item
        simp only [List.countP_cons, outside, inside]
        simp only [Bool.false_eq_true, if_false, if_true]
        omega
      · have smaller := ih tails later
        have first := implies head List.mem_cons_self
        simp only [List.countP_cons]
        cases taken : narrow head with
        | false => simp; omega
        | true => simp [first taken]; omega

theorem count_releasedSlots {events : List EventMeta} {relayed : List (Option Alert)}
    (paired : relayed.length = events.length) (vqaSources : List Int32) (slot : UInt32) :
    (releasedSlots events vqaSources).count slot = (events.zip relayed).countP fun pair =>
      pair.1.slotIndex = slot ∧ pair.1.sourceIdNum ∉ vqaSources := by
  have events_eq : (events.zip relayed).map Prod.fst = events :=
    List.map_fst_zip (by omega)
  rw [releasedSlots_eq, List.count_eq_countP, List.countP_map, List.countP_filter]
  conv_lhs => rw [← events_eq]
  rw [List.countP_map]
  apply List.countP_congr
  intro pair _
  simp

theorem Unshared.disposedOnce {processEvent : Engine → EventMeta → List Alert × Engine}
    {engine : Engine} {relayFd : Int} {outcomes : Nat → RelayOutcome} {events : List EventMeta}
    (unshared : Unshared (raised processEvent engine events) events) :
    DisposedOnce events (relayScene processEvent engine relayFd outcomes events).relayed
      (releasedSlots events
        (relayScene processEvent engine relayFd outcomes events).vqaSources) := by
  constructor
  · intro index event sent found outcome
    have recorded := unshared.recorded_iff found outcome
    have released : event.slotIndex ∈ releasedSlots events
        (relayScene processEvent engine relayFd outcomes events).vqaSources ↔
          sent.isSome = false := by
      rw [releasedSlots_eq, List.mem_map]
      constructor
      · rintro ⟨neighbour, member, slot⟩
        rw [List.mem_filter, decide_eq_true_eq] at member
        obtain ⟨other, present⟩ := List.mem_iff_getElem?.mp member.1
        by_contra relayed
        rw [Bool.not_eq_false] at relayed
        obtain ⟨alert, rfl⟩ := Option.isSome_iff_exists.mp relayed
        by_cases same : index = other
        · subst other
          rw [found, Option.some.injEq] at present
          exact member.2 (present ▸ recorded.mpr relayed)
        · exact (unshared index other event neighbour same found present
            (raised_of_relayed outcome)).2 slot.symm
      · intro unsent
        refine ⟨event, List.mem_filter.mpr ⟨List.mem_of_getElem? found, ?_⟩, rfl⟩
        simpa [unsent] using recorded
    rw [released]
    cases sent with
    | none => exact .inr ⟨rfl, by simp⟩
    | some alert => exact .inl ⟨rfl, by simp⟩
  · intro slot
    rw [count_releasedSlots (relayScene_relayed_length ..)]
    apply List.countP_congr
    rintro ⟨event, sent⟩ member
    obtain ⟨index, present⟩ := List.mem_iff_getElem?.mp member
    obtain ⟨found, outcome⟩ := List.getElem?_zip_eq_some.mp present
    have recorded := unshared.recorded_iff found outcome
    cases sent <;> simp_all

theorem relayed_only {processEvent : Engine → EventMeta → List Alert × Engine}
    {engine : Engine} {events : List EventMeta} {index : Nat} {event : EventMeta}
    (found : events[index]? = some event)
    (alerts : (raised processEvent engine events)[index]? = some true) :
    let run := relayScene processEvent engine (-1) (onlyWanted fun other => other = index) events
    (∃ alert, run.relayed[index]? = some (some alert)) ∧
      (∀ other sent, run.relayed[other]? = some sent → (sent.isSome = true ↔ other = index)) ∧
      ∀ source, source ∈ run.vqaSources ↔ source = event.sourceIdNum := by
  intro run
  have each := relayed_onlyWanted processEvent engine (-1) (fun other => other = index) events
  have here : ∃ alert, run.relayed[index]? = some (some alert) := by
    have atIndex := each index
    simp only [alerts, Option.map_some, decide_true, Bool.and_true] at atIndex
    obtain ⟨sent, present, raised⟩ := Option.map_eq_some_iff.mp atIndex
    obtain ⟨alert, rfl⟩ := Option.isSome_iff_exists.mp raised
    exact ⟨alert, present⟩
  have elsewhere : ∀ other sent, run.relayed[other]? = some sent →
      (sent.isSome = true ↔ other = index) := by
    intro other sent present
    constructor
    · intro relayed
      have atOther := each other
      rw [present, Option.map_some, relayed] at atOther
      obtain ⟨alert, _, both⟩ := Option.map_eq_some_iff.mp atOther.symm
      simpa using (Bool.and_eq_true_iff.mp both).2
    · rintro rfl
      obtain ⟨alert, same⟩ := here
      rw [present, Option.some.injEq] at same
      simp [same]
  refine ⟨here, elsewhere, fun source => ?_⟩
  rw [mem_vqaSources]
  constructor
  · rintro ⟨other, neighbour, alert, present, relayed, rfl⟩
    obtain rfl := (elsewhere other (some alert) relayed).mp rfl
    rw [found, Option.some.injEq] at present
    rw [present]
  · rintro rfl
    obtain ⟨alert, relayed⟩ := here
    exact ⟨index, event, alert, found, relayed, rfl⟩

theorem unshared_of_disposedOnce {processEvent : Engine → EventMeta → List Alert × Engine}
    {engine : Engine} {events : List EventMeta}
    (disposed : ∀ outcomes, DisposedOnce events
      (relayScene processEvent engine (-1) outcomes events).relayed
      (releasedSlots events (relayScene processEvent engine (-1) outcomes events).vqaSources)) :
    Unshared (raised processEvent engine events) events := by
  intro index other event neighbour different found present alerts
  obtain ⟨⟨alert, here⟩, elsewhere, recorded⟩ := relayed_only found alerts
  have holds := disposed (onlyWanted fun other => other = index)
  obtain ⟨sent, outcome⟩ : ∃ sent, (relayScene processEvent engine (-1)
      (onlyWanted fun other => other = index) events).relayed[other]? = some sent := by
    have bound := (List.getElem?_eq_some_iff.mp present).1
    exact ⟨_, List.getElem?_eq_getElem (by simpa using bound)⟩
  have unsent : sent = none := by
    cases sent with
    | none => rfl
    | some alert => exact absurd ((elsewhere other _ outcome).mp rfl) different.symm
  subst unsent
  have sources : event.sourceIdNum ≠ neighbour.sourceIdNum := by
    intro same
    have counts := holds.counted neighbour.slotIndex
    rw [count_releasedSlots (relayScene_relayed_length ..)] at counts
    have member : (neighbour, none) ∈ events.zip (relayScene processEvent engine (-1)
        (onlyWanted fun other => other = index) events).relayed :=
      List.mem_of_getElem? (List.getElem?_zip_eq_some.mpr ⟨present, outcome⟩)
    refine absurd counts (Nat.ne_of_lt (countP_lt_countP ?_ member ?_ ?_))
    · rintro ⟨third, sent⟩ belongs counted
      obtain ⟨place, both⟩ := List.mem_iff_getElem?.mp belongs
      obtain ⟨thirdAt, sentAt⟩ := List.getElem?_zip_eq_some.mp both
      simp only [recorded, decide_eq_true_eq] at counted ⊢
      refine ⟨counted.1, ?_⟩
      by_contra relayed
      have place_eq := (elsewhere place sent sentAt).mp (Option.isSome_iff_ne_none.mpr relayed)
      subst place
      rw [found, Option.some.injEq] at thirdAt
      exact counted.2 (thirdAt ▸ rfl)
    · simp [recorded, same]
    · simp
  refine ⟨sources, fun same => ?_⟩
  have once := holds.once index event (some alert) found here
  have released : event.slotIndex ∈ releasedSlots events (relayScene processEvent engine (-1)
      (onlyWanted fun other => other = index) events).vqaSources := by
    rw [releasedSlots_eq, List.mem_map]
    refine ⟨neighbour, List.mem_filter.mpr ⟨List.mem_of_getElem? present, ?_⟩, same.symm⟩
    simpa [recorded] using sources.symm
  simp [Xor, released] at once

/-- Whatever the relay answers, every slot of an accepted scene is disposed of once,
exactly when no event with an alert shares its source or its slot. -/
theorem disposedOnce_iff_unshared (parse : List UInt8 → Option Json)
    (processEvent : Engine → EventMeta → List Alert × Engine) (engine : Engine)
    (payload : List UInt8) :
    (∀ relayFd outcomes events run,
      processScenePayload parse processEvent engine relayFd outcomes payload =
        .ok (some (events, run)) →
      DisposedOnce events run.relayed (releasedSlots events run.vqaSources)) ↔
    ∀ events, sceneEvents parse payload = .ok (some events) →
      Unshared (raised processEvent engine events) events := by
  have processed (relayFd : Int) (outcomes : Nat → RelayOutcome) (events : List EventMeta)
      (run : SceneRun Engine) :
      processScenePayload parse processEvent engine relayFd outcomes payload =
        .ok (some (events, run)) ↔ sceneEvents parse payload = .ok (some events) ∧
          run = relayScene processEvent engine relayFd outcomes events := by
    unfold processScenePayload
    cases sceneEvents parse payload with
    | error thrown => simp [Except.map]
    | ok accepted =>
        cases accepted with
        | none => simp [Except.map]
        | some scene =>
            simp only [Except.map, Option.map_some, Except.ok.injEq, Option.some.injEq,
              Prod.mk.injEq]
            constructor
            · rintro ⟨rfl, rfl⟩
              exact ⟨rfl, rfl⟩
            · rintro ⟨rfl, rfl⟩
              exact ⟨rfl, rfl⟩
  constructor
  · intro disposed events accepted
    apply unshared_of_disposedOnce
    intro outcomes
    exact disposed (-1) outcomes events _ ((processed ..).mpr ⟨accepted, rfl⟩)
  · intro unshared relayFd outcomes events run returned
    obtain ⟨accepted, rfl⟩ := (processed ..).mp returned
    exact (unshared events accepted).disposedOnce

def defaultedScene : Json :=
  let source := fun slot => .object [("image_meta", .object [("height", .numberUnsigned 64),
    ("slot_index", .numberUnsigned slot), ("width", .numberUnsigned 64)])]
  .object [("sources", .array [source 0, source 1]), ("type", .string "scene_update")]

def defaultedPayload : List UInt8 :=
  let source := fun slot => "\x7b\"image_meta\":\x7b\"slot_index\":" ++ slot ++
    ",\"width\":64,\"height\":64\x7d\x7d"
  ascii ("\x7b\"type\":\"scene_update\",\"sources\":[" ++ source "0" ++ "," ++ source "1" ++
    "]\x7d")

def alertOnce (armed : Bool) (event : EventMeta) : List Alert × Bool :=
  if armed then
    ([{ ruleName := "LeftItem", priority := 0, dedupKey := "LeftItem_1", trackId := 1,
        timestamp := event.timestamp }], false)
  else
    ([], false)

/-- The first source is relayed, and its recorded id keeps slot 1 out of the `frame_done`. -/
theorem slotLeaked : ¬ ∀ (parse : List UInt8 → Option Json) (relayFd : Int)
    (outcomes : Nat → RelayOutcome) (events : List EventMeta) (run : SceneRun Bool),
    processScenePayload parse alertOnce true relayFd outcomes defaultedPayload =
      .ok (some (events, run)) →
    DisposedOnce events run.relayed (releasedSlots events run.vqaSources) := by
  intro universal
  let parse := fun text => if text = defaultedPayload then some defaultedScene else none
  have whole : sceneText defaultedPayload = defaultedPayload := by decide +kernel
  have parsed : parse defaultedPayload = some defaultedScene := if_pos rfl
  have reached : (processScenePayload parse alertOnce true 3 (onlyWanted fun _ => true)
      defaultedPayload).map (fun accepted => accepted.map fun outcome =>
        ((releasedSlots outcome.1 outcome.2.vqaSources).count 1,
          (outcome.1.zip outcome.2.relayed).countP fun pair =>
            pair.1.slotIndex = 1 ∧ pair.2 = none)) = .ok (some (0, 1)) := by
    simp only [processScenePayload, sceneEvents, adaptSceneUpdate, whole, parsed]
    rfl
  cases returned : processScenePayload parse alertOnce true 3 (onlyWanted fun _ => true)
      defaultedPayload with
  | error thrown => simp [returned, Except.map] at reached
  | ok accepted =>
      cases accepted with
      | none => simp [returned, Except.map] at reached
      | some outcome =>
          simp only [returned, Except.map, Option.map_some, Except.ok.injEq, Option.some.injEq,
            Prod.mk.injEq] at reached
          have counts := (universal parse 3 _ outcome.1 outcome.2 returned).counted 1
          rw [reached.1, reached.2] at counts
          simp at counts

end Iq9Pipeline.RuleProcess
