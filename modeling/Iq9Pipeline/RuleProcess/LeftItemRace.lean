import Iq9Pipeline.Foundation.Machine
import Iq9Pipeline.RuleProcess.LeftItemSteps

/-!
Concurrent calls of one left-item rule. A call takes the lock for each person it scans,
once more to update the state and copy the items out, and a last time to write its
decisions back; between the last two it decides without the lock, on its copy.
-/

namespace Iq9Pipeline.RuleProcess

open Foundation

variable {Number : Type}

/-- The copy a call decides on. It remembers how many owner sightings of each item had
been written back when it was taken. -/
structure Snapshot (Number : Type) where
  event : RuleEvent Number
  zones : List (List Number)
  items : List (Int32 × ItemState Number)
  sightings : Int32 → Nat

inductive Phase (Number : Type)
  | scanning (event : RuleEvent Number) (detections : List (Sighting Number))
      (gathered : Gathered Number)
  | deciding (snapshot : Snapshot Number)
  | writing (snapshot : Snapshot Number) (decisions : List Decision)

structure Race (Number : Type) where
  state : LeftItemState Number
  calls : Nat → Option (Phase Number)
  returned : List (Nat × List Alert)
  alerts : Int32 → Nat
  sightings : Int32 → Nat
  /-- The items whose written-back owner a call with an older copy has overwritten. -/
  undone : List Int32

inductive Move (Number : Type)
  | enter (call : Nat) (event : RuleEvent Number)
  | advance (call : Nat)

def Move.call : Move Number → Nat
  | .enter call _ => call
  | .advance call => call

def Phase.snapshot : Phase Number → Option (Snapshot Number)
  | .scanning _ _ _ => none
  | .deciding snapshot => some snapshot
  | .writing snapshot _ => some snapshot

def Snapshot.Current (snapshot : Snapshot Number) (race : Race Number) : Prop :=
  ∀ item ∈ snapshot.items, race.state.itemStates[item.1]? = some item.2 ∧
    snapshot.sightings item.1 = race.sightings item.1

theorem Snapshot.current_of_empty {snapshot : Snapshot Number} {race : Race Number}
    (empty : snapshot.items = []) : snapshot.Current race := by
  intro item listed
  rw [empty] at listed
  cases listed

namespace Race

def idle : Race Number where
  state := {}
  calls _ := none
  returned := []
  alerts _ := 0
  sightings _ := 0
  undone := []

def phase (race : Race Number) (call : Nat) (phase : Option (Phase Number)) : Race Number :=
  { race with calls := Function.update race.calls call phase }

def isStored (state : LeftItemState Number) (trackId : Int32) : Bool :=
  state.itemStates[trackId]?.isSome

def decisionOn (decisions : List Decision) (trackId : Int32) : Option Decision :=
  decisions.find? fun decision => decision.trackId = trackId

def snapshotOf (race : Race Number) (call : Nat) : Option (Snapshot Number) :=
  (race.calls call).bind Phase.snapshot

def Holds (race : Race Number) (call : Nat) : Prop :=
  ∃ snapshot, race.snapshotOf call = some snapshot ∧ snapshot.items ≠ []

/-- The items are copied out only while no call holds a copy of them. -/
def exclusive (race : Race Number) : Move Number → Prop
  | .enter _ _ => True
  | .advance call =>
      match race.calls call with
      | some (.scanning _ [] _) => ∀ other, ¬ race.Holds other
      | _ => True

theorem decisionOn_eq_some_iff {decisions : List Decision}
    (distinct : (decisions.map Decision.trackId).Nodup) {trackId : Int32} {decision : Decision} :
    decisionOn decisions trackId = some decision ↔
      decision ∈ decisions ∧ decision.trackId = trackId := by
  constructor
  · intro found
    exact ⟨List.mem_of_find?_eq_some found, by simpa using List.find?_some found⟩
  · rintro ⟨member, rfl⟩
    rw [decisionOn]
    induction decisions with
    | nil => simp at member
    | cons first decisions ih =>
        rw [List.map_cons, List.nodup_cons] at distinct
        rw [List.find?_cons]
        rcases List.mem_cons.mp member with rfl | later
        · simp
        · have other : first.trackId ≠ decision.trackId := by
            intro same
            exact distinct.1 (same ▸ List.mem_map_of_mem later)
          simp only [other, decide_false]
          exact ih distinct.2 later

theorem decisionOn_eq_none_iff {decisions : List Decision} {trackId : Int32} :
    decisionOn decisions trackId = none ↔ trackId ∉ decisions.map Decision.trackId := by
  simp [decisionOn, List.find?_eq_none]

theorem snapshotOf_eq {race : Race Number} {call : Nat} {phase : Option (Phase Number)}
    (calling : race.calls call = phase) : race.snapshotOf call = phase.bind Phase.snapshot := by
  rw [snapshotOf, calling]

theorem snapshotOf_update {race next : Race Number} {call : Nat}
    {phase : Option (Phase Number)}
    (calls : next.calls = Function.update race.calls call phase) (other : Nat) :
    next.snapshotOf other =
      if other = call then phase.bind Phase.snapshot else race.snapshotOf other := by
  rw [snapshotOf, calls]
  by_cases same : other = call
  · rw [if_pos same, same, Function.update_self]
  · rw [if_neg same, Function.update_of_ne same, snapshotOf]

variable [Scalar Number]

def resetByUpdate (rule : LeftItemRule Number) (before after : LeftItemState Number)
    (removedTrackIds : List Int32) (trackId : Int32) : Bool :=
  ((rule.erasedItems before removedTrackIds).contains trackId || !isStored before trackId) &&
    (isStored before trackId || isStored after trackId)

def update (rule : LeftItemRule Number) (race : Race Number) (call : Nat)
    (event : RuleEvent Number) (gathered : Gathered Number) : Race Number :=
  let updated := rule.updateState race.state event.removedTrackIds gathered
  { race with
    state := updated
    calls := Function.update race.calls call (some (.deciding {
      event := event
      zones := rule.personOwnerZones gathered.personBboxes
      items := LeftItemRule.workItems updated
      sightings := race.sightings }))
    alerts := fun trackId =>
      if resetByUpdate rule race.state updated event.removedTrackIds trackId then 0
      else race.alerts trackId }

def write (race : Race Number) (call : Nat) (snapshot : Snapshot Number)
    (decisions : List Decision) : Race Number where
  state := LeftItemRule.writeBack race.state decisions
  calls := Function.update race.calls call none
  returned := race.returned ++ [(call, decisions.filterMap Decision.alert)]
  alerts trackId :=
    match decisionOn decisions trackId with
    | some decision =>
        if decision.hasOwner && isStored race.state trackId then 0
        else if decision.alert.isSome then race.alerts trackId + 1
        else race.alerts trackId
    | none => race.alerts trackId
  sightings trackId :=
    match decisionOn decisions trackId with
    | some decision =>
        if decision.hasOwner && isStored race.state trackId then race.sightings trackId + 1
        else race.sightings trackId
    | none => race.sightings trackId
  undone := race.undone ++ (decisions.filter fun decision =>
    !decision.hasOwner && isStored race.state decision.trackId &&
      decide (snapshot.sightings decision.trackId < race.sightings decision.trackId)).map
        Decision.trackId

def step (rule : LeftItemRule Number) (race : Race Number) : Move Number → Option (Race Number)
  | .enter call event =>
      match race.calls call with
      | none => some (race.phase call (some (.scanning event event.detections {})))
      | some _ => none
  | .advance call =>
      match race.calls call with
      | some (.scanning event (det :: detections) gathered) =>
          let scanned := rule.scanDetection (race.state.personStates, gathered) det
          some { race with
            state := { race.state with personStates := scanned.1 }
            calls := Function.update race.calls call
              (some (.scanning event detections scanned.2)) }
      | some (.scanning event [] gathered) => some (race.update rule call event gathered)
      | some (.deciding snapshot) =>
          some (race.phase call (some (.writing snapshot
            (snapshot.items.map (rule.decision snapshot.event snapshot.zones)))))
      | some (.writing snapshot decisions) => some (race.write call snapshot decisions)
      | none => none

def machine (rule : LeftItemRule Number) : Machine (Race Number) (Move Number) where
  start race := race = idle
  step := step rule

/-- At most one alert for an item between two resets of its state, and no owner sighting
that was written back is overwritten by a call with an older copy. -/
structure OneAlertPerEpisode (race : Race Number) : Prop where
  alerts : ∀ trackId, race.alerts trackId ≤ 1
  undone : race.undone = []

def Consistent (rule : LeftItemRule Number) : Phase Number → Prop
  | .scanning _ _ _ => True
  | .deciding snapshot => (snapshot.items.map Prod.fst).Nodup
  | .writing snapshot decisions =>
      (snapshot.items.map Prod.fst).Nodup ∧
        decisions = snapshot.items.map (rule.decision snapshot.event snapshot.zones)

structure Invariant (rule : LeftItemRule Number) (race : Race Number) : Prop where
  once : ∀ trackId, race.alerts trackId ≤ 1
  latched : ∀ (trackId : Int32) (item : ItemState Number),
    race.state.itemStates[trackId]? = some item → item.alerted = false → race.alerts trackId = 0
  undone : race.undone = []
  consistent : ∀ call phase, race.calls call = some phase → Consistent rule phase
  current : ∀ call snapshot, race.snapshotOf call = some snapshot → snapshot.Current race
  alone : ∀ call other, race.Holds call → race.Holds other → call = other

variable {rule : LeftItemRule Number} {race : Race Number}

theorem consistent_of_update (consistent : ∀ call phase, race.calls call = some phase →
      Consistent rule phase)
    {call : Nat} {next : Option (Phase Number)}
    (new : ∀ phase, next = some phase → Consistent rule phase) :
    ∀ other phase, Function.update race.calls call next other = some phase →
      Consistent rule phase := by
  intro other phase found
  by_cases same : other = call
  · subst same
    rw [Function.update_self] at found
    exact new phase found
  · rw [Function.update_of_ne same] at found
    exact consistent other phase found

theorem Invariant.quiet {next : Race Number} (invariant : Invariant rule race)
    (snapshots : ∀ call, next.snapshotOf call = race.snapshotOf call)
    (items : next.state.itemStates = race.state.itemStates)
    (alerts : next.alerts = race.alerts) (sightings : next.sightings = race.sightings)
    (undone : next.undone = race.undone)
    (consistent : ∀ call phase, next.calls call = some phase → Consistent rule phase) :
    Invariant rule next where
  once trackId := alerts ▸ invariant.once trackId
  latched trackId item found := by
    rw [items] at found
    exact alerts ▸ invariant.latched trackId item found
  undone := undone.trans invariant.undone
  consistent := consistent
  current call snapshot copied := by
    rw [snapshots] at copied
    intro item listed
    rw [items, sightings]
    exact invariant.current call snapshot copied item listed
  alone call other first second := by
    simp only [Holds, snapshots] at first second
    exact invariant.alone call other first second

theorem latched_update (invariant : Invariant rule race) (call : Nat)
    (event : RuleEvent Number) (gathered : Gathered Number) {trackId : Int32}
    {item : ItemState Number}
    (found : (race.update rule call event gathered).state.itemStates[trackId]? = some item)
    (unalerted : item.alerted = false) :
    (race.update rule call event gathered).alerts trackId = 0 := by
  simp only [Race.update] at found ⊢
  have stored : isStored (rule.updateState race.state event.removedTrackIds gathered)
      trackId = true := by
    rw [isStored, found]
    rfl
  split
  · rfl
  · rename_i kept
    simp only [resetByUpdate, stored, Bool.or_true, Bool.and_true, Bool.not_eq_true,
      Bool.or_eq_false_iff, Bool.not_eq_false', List.contains_eq_mem,
      decide_eq_false_iff_not] at kept
    obtain ⟨before, present⟩ := Option.isSome_iff_exists.mp kept.2
    rw [LeftItemRule.updateState_lookup] at found
    simp only [kept.1, if_false, present, Option.getD_some] at found
    refine invariant.latched trackId before present ?_
    split at found
    · rw [← Option.some.inj found] at unalerted
      exact unalerted
    · rw [← Option.some.inj found] at unalerted
      exact unalerted

theorem Invariant.update (invariant : Invariant rule race) {call : Nat}
    (free : ∀ other, ¬ race.Holds other) (event : RuleEvent Number)
    (gathered : Gathered Number) : Invariant rule (race.update rule call event gathered) where
  once trackId := by
    simp only [Race.update]
    split
    · exact Nat.zero_le 1
    · exact invariant.once trackId
  latched _ _ := latched_update invariant call event gathered
  undone := invariant.undone
  consistent := by
    refine consistent_of_update invariant.consistent ?_
    rintro _ ⟨⟩
    exact LeftItemRule.workItems_nodup _
  current other snapshot copied := by
    rw [snapshotOf_update rfl] at copied
    split at copied
    · obtain rfl := Option.some.inj copied
      exact fun item listed => ⟨LeftItemRule.mem_workItems.mp listed, rfl⟩
    · refine Snapshot.current_of_empty (Classical.not_not.mp fun held => ?_)
      exact free other ⟨snapshot, copied, held⟩
  alone first second held held' := by
    have mine (other : Nat) (held : (race.update rule call event gathered).Holds other) :
        other = call := by
      obtain ⟨snapshot, copied, filled⟩ := held
      rw [snapshotOf_update rfl] at copied
      split at copied
      · assumption
      · exact absurd ⟨snapshot, copied, filled⟩ (free other)
    exact (mine first held).trans (mine second held').symm

theorem decisionOn_item {snapshot : Snapshot Number} {decisions : List Decision}
    (consistent : Consistent rule (.writing snapshot decisions)) {trackId : Int32}
    {decision : Decision} (found : decisionOn decisions trackId = some decision) :
    ∃ item, (trackId, item) ∈ snapshot.items ∧
      decision = rule.decision snapshot.event snapshot.zones (trackId, item) := by
  have member := List.mem_of_find?_eq_some found
  have named : decision.trackId = trackId := by simpa using List.find?_some found
  rw [consistent.2, List.mem_map] at member
  obtain ⟨item, listed, rfl⟩ := member
  rw [LeftItemRule.decision_trackId] at named
  subst named
  exact ⟨item.2, listed, rfl⟩

theorem Consistent.distinct {snapshot : Snapshot Number} {decisions : List Decision}
    (consistent : Consistent rule (.writing snapshot decisions)) :
    (decisions.map Decision.trackId).Nodup := by
  have keys : Decision.trackId ∘ rule.decision snapshot.event snapshot.zones = Prod.fst := by
    funext item
    exact rule.decision_trackId snapshot.event snapshot.zones item
  rw [consistent.2, List.map_map, keys]
  exact consistent.1

section Write

variable {call : Nat} {snapshot : Snapshot Number} {decisions : List Decision}

theorem Invariant.once_write (invariant : Invariant rule race)
    (calling : race.calls call = some (.writing snapshot decisions))
    (current : snapshot.Current race) (trackId : Int32) :
    (race.write call snapshot decisions).alerts trackId ≤ 1 := by
  have before := invariant.once trackId
  simp only [Race.write]
  cases found : decisionOn decisions trackId with
  | none => exact before
  | some decision =>
      obtain ⟨item, listed, rfl⟩ :=
        decisionOn_item (invariant.consistent call _ calling) found
      dsimp only
      split
      · exact Nat.zero_le 1
      · split
        · rename_i raised
          cases owned : rule.hasOwner snapshot.zones item.bbox with
          | true => simp [rule.decision_of_owned owned] at raised
          | false =>
              rw [rule.decision_of_unowned owned] at raised
              cases latch : item.alerted with
              | true => simp [latch] at raised
              | false =>
                  have silent := invariant.latched trackId item (current _ listed).1 latch
                  omega
        · exact before

theorem Invariant.latched_write (invariant : Invariant rule race)
    (calling : race.calls call = some (.writing snapshot decisions))
    (current : snapshot.Current race) {trackId : Int32} {item : ItemState Number}
    (found : (race.write call snapshot decisions).state.itemStates[trackId]? = some item)
    (unalerted : item.alerted = false) :
    (race.write call snapshot decisions).alerts trackId = 0 := by
  have consistent := invariant.consistent call _ calling
  simp only [Race.write] at found ⊢
  cases decided : decisionOn decisions trackId with
  | none =>
      rw [LeftItemRule.writeBack_lookup_of_absent (decisionOn_eq_none_iff.mp decided)] at found
      exact invariant.latched trackId item found unalerted
  | some decision =>
      obtain ⟨copy, listed, rfl⟩ := decisionOn_item consistent decided
      obtain ⟨member, named⟩ := (decisionOn_eq_some_iff consistent.distinct).mp decided
      have written :=
        @LeftItemRule.writeBack_lookup _ race.state _ consistent.distinct _ member
      rw [named] at written
      rw [written, Option.map_eq_some_iff] at found
      obtain ⟨old, present, rfl⟩ := found
      have stored : isStored race.state trackId = true := by
        rw [isStored, present]
        rfl
      dsimp only
      cases owned : rule.hasOwner snapshot.zones copy.bbox with
      | true => simp [rule.decision_of_owned owned, stored]
      | false =>
          rw [rule.decision_of_unowned owned] at unalerted ⊢
          simp only [Decision.settle, Bool.or_eq_false_iff] at unalerted
          have silent := invariant.latched trackId copy (current _ listed).1 unalerted.1
          simp [unalerted.1, unalerted.2, silent]

theorem Invariant.undone_write (invariant : Invariant rule race)
    (calling : race.calls call = some (.writing snapshot decisions))
    (current : snapshot.Current race) :
    (race.write call snapshot decisions).undone = [] := by
  have consistent := invariant.consistent call _ calling
  have quiet : ∀ decision ∈ decisions, (!decision.hasOwner &&
      isStored race.state decision.trackId &&
        decide (snapshot.sightings decision.trackId < race.sightings decision.trackId)) =
          false := by
    intro decision member
    have found := (decisionOn_eq_some_iff consistent.distinct).mpr ⟨member, rfl⟩
    obtain ⟨item, listed, _⟩ := decisionOn_item consistent found
    have seen : snapshot.sightings decision.trackId = race.sightings decision.trackId :=
      (current _ listed).2
    simp [seen]
  simp only [Race.write, invariant.undone, List.nil_append, List.map_eq_nil_iff,
    List.filter_eq_nil_iff, Bool.not_eq_true]
  exact quiet

omit [Scalar Number] in
theorem holds_write {other : Nat} {copied : Snapshot Number}
    (left : (race.write call snapshot decisions).snapshotOf other = some copied) :
    other ≠ call ∧ race.snapshotOf other = some copied := by
  rw [snapshotOf_update rfl] at left
  split at left
  · cases left
  · rename_i different
    exact ⟨different, left⟩

theorem Invariant.current_write (invariant : Invariant rule race)
    (calling : race.calls call = some (.writing snapshot decisions)) {other : Nat}
    {copied : Snapshot Number}
    (left : (race.write call snapshot decisions).snapshotOf other = some copied) :
    copied.Current (race.write call snapshot decisions) := by
  obtain ⟨different, held⟩ := holds_write left
  have mine : race.snapshotOf call = some snapshot := snapshotOf_eq calling
  by_cases empty : snapshot.items = []
  · -- Without items there is nothing to write back.
    have nothing : decisions = [] := by
      rw [(invariant.consistent call _ calling).2, empty, List.map_nil]
    subst nothing
    exact invariant.current other copied held
  · refine Snapshot.current_of_empty (Classical.not_not.mp fun filled => different ?_)
    exact invariant.alone other call ⟨copied, held, filled⟩ ⟨snapshot, mine, empty⟩

theorem Invariant.write (invariant : Invariant rule race)
    (calling : race.calls call = some (.writing snapshot decisions)) :
    Invariant rule (race.write call snapshot decisions) := by
  have current : snapshot.Current race :=
    invariant.current call snapshot (snapshotOf_eq calling)
  constructor
  · exact invariant.once_write calling current
  · exact fun _ _ => invariant.latched_write calling current
  · exact invariant.undone_write calling current
  · exact consistent_of_update invariant.consistent (by simp)
  · exact fun _ _ => invariant.current_write calling
  · rintro first second ⟨copied, left, filled⟩ ⟨copied', left', filled'⟩
    exact invariant.alone first second ⟨copied, (holds_write left).2, filled⟩
      ⟨copied', (holds_write left').2, filled'⟩

end Write

omit [Scalar Number] in
theorem snapshotOf_phase {next : Race Number} {call : Nat} {phase : Option (Phase Number)}
    (calls : next.calls = Function.update race.calls call phase)
    (same : phase.bind Phase.snapshot = race.snapshotOf call) (other : Nat) :
    next.snapshotOf other = race.snapshotOf other := by
  rw [snapshotOf_update calls]
  split
  · rename_i mine
    rw [same, mine]
  · rfl

theorem Invariant.step (invariant : Invariant rule race) {move : Move Number}
    {next : Race Number} (allowed : exclusive race move)
    (stepped : step rule race move = some next) : Invariant rule next := by
  cases move with
  | enter call event =>
      simp only [Race.step] at stepped
      split at stepped
      · rename_i absent
        rw [← Option.some.inj stepped]
        refine invariant.quiet (snapshotOf_phase rfl (snapshotOf_eq absent).symm) rfl rfl rfl rfl
          (consistent_of_update invariant.consistent ?_)
        rintro _ ⟨⟩
        trivial
      · simp at stepped
  | advance call =>
      simp only [Race.step] at stepped
      split at stepped
      · rename_i calling
        rw [← Option.some.inj stepped]
        refine invariant.quiet (snapshotOf_phase rfl (snapshotOf_eq calling).symm) rfl rfl rfl rfl
          (consistent_of_update invariant.consistent ?_)
        rintro _ ⟨⟩
        trivial
      · rename_i calling
        rw [← Option.some.inj stepped]
        rw [exclusive, calling] at allowed
        exact invariant.update allowed _ _
      · rename_i snapshot calling
        rw [← Option.some.inj stepped]
        refine invariant.quiet (snapshotOf_phase rfl (snapshotOf_eq calling).symm) rfl rfl rfl rfl
          (consistent_of_update invariant.consistent ?_)
        rintro _ ⟨⟩
        exact ⟨invariant.consistent call _ calling, rfl⟩
      · rename_i snapshot decisions calling
        rw [← Option.some.inj stepped]
        exact invariant.write calling
      · simp at stepped

theorem invariant_idle : Invariant rule idle where
  once _ := Nat.zero_le 1
  latched _ _ found := by simp [idle] at found
  undone := rfl
  consistent _ _ found := by simp [idle] at found
  current _ _ copied := by simp [snapshotOf, idle] at copied
  alone _ _ held := by simp [Holds, snapshotOf, idle] at held

theorem invariant_exclusive (rule : LeftItemRule Number) {race : Race Number}
    (reachable : (machine rule).ReachableUnder exclusive race) : Invariant rule race := by
  refine reachable.invariant (Invariant rule) ?_ ?_
  · rintro _ rfl
    exact invariant_idle
  · intro state move next _ held allowed stepped
    exact held.step allowed stepped

/-- The calls of one rule, however else they interleave, raise at most one alert for an item
between two resets, as long as one at a time works on a copy of the items. -/
theorem oneAlertPerEpisode_of_exclusive (rule : LeftItemRule Number) {race : Race Number}
    (reachable : (machine rule).ReachableUnder exclusive race) : OneAlertPerEpisode race := by
  have invariant := invariant_exclusive rule reachable
  exact ⟨invariant.once, invariant.undone⟩

theorem run_scanning {call : Nat} {event : RuleEvent Number}
    {detections : List (Sighting Number)} {gathered : Gathered Number}
    (calling : race.calls call = some (.scanning event detections gathered))
    (moves : List (Move Number)) :
    (machine rule).run (fun _ _ => True) race
        (List.replicate detections.length (.advance call) ++ moves) =
      let scanned := detections.foldl rule.scanDetection (race.state.personStates, gathered)
      (machine rule).run (fun _ _ => True) { race with
        state := { race.state with personStates := scanned.1 }
        calls := Function.update race.calls call (some (.scanning event [] scanned.2)) } moves := by
  induction detections generalizing race gathered with
  | nil =>
      have same : Function.update race.calls call (some (.scanning event [] gathered)) =
          race.calls := by
        rw [← calling, Function.update_eq_self]
      simp only [List.length_nil, List.replicate_zero, List.nil_append, List.foldl_nil, same]
  | cons det detections ih =>
      have stepped : (machine rule).step race (.advance call) = some { race with
          state := { race.state with
            personStates := (rule.scanDetection (race.state.personStates, gathered) det).1 }
          calls := Function.update race.calls call (some (.scanning event detections
            (rule.scanDetection (race.state.personStates, gathered) det).2)) } := by
        simp only [machine, step, calling]
      rw [List.length_cons, List.replicate_succ, List.cons_append, Machine.run, if_pos trivial,
        stepped, Option.bind_some, ih (Function.update_self ..)]
      simp only [Function.update_idem, List.foldl_cons]

/-- A call that nothing interrupts does what `apply` does. -/
theorem run_alone_eq_apply (rule : LeftItemRule Number) (race : Race Number) {call : Nat}
    (free : race.calls call = none) (event : RuleEvent Number) :
    ((machine rule).run (fun _ _ => True) race (.enter call event ::
        (List.replicate event.detections.length (.advance call) ++
          List.replicate 3 (.advance call)))).map
      (fun next => (next.state, next.returned, next.calls)) =
        some ((rule.apply race.state event).2,
          race.returned ++ [(call, (rule.apply race.state event).1)], race.calls) := by
  have entered : (machine rule).step race (.enter call event) =
      some (race.phase call (some (.scanning event event.detections {}))) := by
    simp only [machine, step, free]
  have left : Function.update race.calls call none = race.calls := by
    rw [← free, Function.update_eq_self]
  rw [Machine.run, if_pos trivial, entered, Option.bind_some,
    run_scanning (Function.update_self ..)]
  simp only [List.replicate_succ, List.replicate_zero, Machine.run, if_true, machine, step, phase,
    update, write, Function.update_self, Function.update_idem, Option.bind_some, Option.map_some,
    left]
  rfl

theorem calls_of_step {move : Move Number} {next : Race Number}
    (stepped : step rule race move = some next) :
    (∃ phase, next.calls = Function.update race.calls move.call phase) ∧
      ∀ call, move = .advance call → race.calls call ≠ none := by
  cases move with
  | enter call event =>
      simp only [Race.step] at stepped
      split at stepped
      · rw [← Option.some.inj stepped]
        exact ⟨⟨_, rfl⟩, nofun⟩
      · simp at stepped
  | advance call =>
      have active : ∀ other, Move.advance call = (.advance other : Move Number) →
          race.calls other ≠ none := by
        rintro _ ⟨⟩ absent
        simp [Race.step, absent] at stepped
      simp only [Race.step] at stepped
      split at stepped
      · exact Option.some.inj stepped ▸ ⟨⟨_, rfl⟩, active⟩
      · exact Option.some.inj stepped ▸ ⟨⟨_, rfl⟩, active⟩
      · exact Option.some.inj stepped ▸ ⟨⟨_, rfl⟩, active⟩
      · exact Option.some.inj stepped ▸ ⟨⟨_, rfl⟩, active⟩
      · simp at stepped

def oneAtATime (race : Race Number) : Move Number → Prop
  | .enter _ _ => ∀ call, race.calls call = none
  | .advance _ => True

/-- Calls that never overlap have their copies to themselves. -/
theorem exclusive_of_oneAtATime (rule : LeftItemRule Number) {race : Race Number}
    (reachable : (machine rule).ReachableUnder oneAtATime race) :
    (machine rule).ReachableUnder exclusive race := by
  refine reachable.widen (fun race => ∀ call other,
    race.calls call ≠ none → race.calls other ≠ none → call = other) ?_ ?_ ?_
  · rintro _ rfl call other active
    exact absurd rfl active
  · intro race move next single alone stepped first second active active'
    obtain ⟨⟨phase, calls⟩, present⟩ := calls_of_step stepped
    have mine (call : Nat) (active : next.calls call ≠ none) : call = move.call := by
      by_contra different
      rw [calls, Function.update_of_ne different] at active
      cases move with
      | enter entered event => exact active (alone call)
      | advance advanced => exact different (single call advanced active (present advanced rfl))
    exact (mine first active).trans (mine second active').symm
  · intro race move single alone
    cases move with
    | enter call event => trivial
    | advance call =>
        rw [exclusive]
        split
        · rename_i calling
          rintro other ⟨snapshot, copied, _⟩
          obtain ⟨phase, active, _⟩ := Option.bind_eq_some_iff.mp copied
          have same := single other call (by simp [active]) (by simp [calling])
          rw [same, snapshotOf_eq calling] at copied
          cases copied
        · trivial

def bagRule : LeftItemRule Float32 :=
  LeftItemRule.ofConfig {
    name := "LeftItemRule"
    priority := 1
    targetSources := ["source_001"]
    targetClasses := ["bag"]
    params := [("grace_period_sec", 1), ("item_owner_iou_threshold", 0.5)]
    strParams := [] }

def bagShown : RuleEvent Float32 :=
  ⟨"source_001", 1000000, [], [⟨"bag", [0, 0, 1, 1], 7, 1, []⟩]⟩

def viewEmpty : RuleEvent Float32 :=
  ⟨"source_001", 2000000, [], []⟩

theorem two_alerts_of_overlap :
    ¬ ∀ (rule : LeftItemRule Float32), rule.validate = .ok () → ∀ race : Race Float32,
      (machine rule).Reachable race → OneAlertPerEpisode race := by
  intro universal
  have ran : ((machine bagRule).run (fun _ _ => True) idle [.enter 0 bagShown, .advance 0,
      .advance 0, .advance 0, .advance 0, .enter 1 viewEmpty, .enter 2 viewEmpty, .advance 1,
      .advance 2, .advance 1, .advance 2, .advance 1, .advance 2]).map
        (fun race => race.alerts 7) = some 2 := by
    decide +kernel
  obtain ⟨race, ran, alerts⟩ := Option.map_eq_some_iff.mp ran
  have reachable : (machine bagRule).Reachable race :=
    Machine.ReachableUnder.run (Machine.ReachableUnder.start rfl) ran
  have once := (universal bagRule (by decide +kernel) race reachable).alerts 7
  omega

def exclusiveAmong (count : Nat) (race : Race Float32) : Move Float32 → Bool
  | .enter call _ => call < count
  | .advance call =>
      match race.calls call with
      | some (.scanning _ [] _) => (List.range count).all fun other =>
          (race.snapshotOf other).all fun snapshot => snapshot.items.isEmpty
      | _ => true

theorem exclusive_of_among (rule : LeftItemRule Float32) (count : Nat) {race : Race Float32}
    (reachable : (machine rule).ReachableUnder
      (fun race move => exclusiveAmong count race move = true) race) :
    (machine rule).ReachableUnder exclusive race := by
  refine reachable.widen (fun race => ∀ call, count ≤ call → race.calls call = none) ?_ ?_ ?_
  · rintro _ rfl call _
    rfl
  · intro race move next few among stepped call late
    obtain ⟨⟨phase, calls⟩, present⟩ := calls_of_step stepped
    have other : call ≠ move.call := by
      rintro rfl
      cases move with
      | enter entered event =>
          simp only [exclusiveAmong, decide_eq_true_eq] at among
          exact absurd late (Nat.not_le.mpr among)
      | advance advanced => exact present advanced rfl (few advanced late)
    rw [calls, Function.update_of_ne other]
    exact few call late
  · intro race move few among
    cases move with
    | enter call event => trivial
    | advance call =>
        rw [exclusive]
        split
        · rename_i calling
          rintro other ⟨snapshot, copied, filled⟩
          by_cases early : other < count
          · simp only [exclusiveAmong, calling, List.all_eq_true, List.mem_range] at among
            have empty := among other early
            rw [copied, Option.all_some, List.isEmpty_iff] at empty
            exact filled empty
          · rw [snapshotOf_eq (few other (Nat.not_lt.mp early))] at copied
            cases copied
        · trivial

/-- The bag is seen by one call, and found left by the next of two that begin together. -/
theorem oneAlertPerEpisode_of_exclusive_run : ∃ race : Race Float32,
    race.alerts 7 = 1 ∧ OneAlertPerEpisode race := by
  have ran : ((machine bagRule).run (fun race move => exclusiveAmong 3 race move = true) idle
      [.enter 0 bagShown, .enter 1 viewEmpty, .enter 2 viewEmpty, .advance 0, .advance 0,
        .advance 0, .advance 0, .advance 1, .advance 1, .advance 1, .advance 2, .advance 2,
        .advance 2]).map (fun race => race.alerts 7) = some 1 := by
    decide +kernel
  obtain ⟨race, ran, alerts⟩ := Option.map_eq_some_iff.mp ran
  exact ⟨race, alerts, oneAlertPerEpisode_of_exclusive bagRule
    (exclusive_of_among bagRule 3 (Machine.ReachableUnder.run (.start rfl) ran))⟩

end Race

end Iq9Pipeline.RuleProcess
