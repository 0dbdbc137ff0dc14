import Iq9Pipeline.Consumer.DmaBufConsumer
import Iq9Pipeline.FrameCache.Outstanding
import Iq9Pipeline.FrameDone
import Mathlib.Data.List.Nodup

/-!
The relayed system: channel threads submit frames without sending them, the rule
process either names a frame's slot in a `frame_done` message or relays the frame to
the consumer, and the broker delivers every message at least once. A release names
a slot only, so each token below keeps the frame it stands for as a ghost.
-/

namespace Iq9Pipeline

open Foundation FrameCache

structure SlotFrame where
  id : Nat
  slot : Nat
  sourceId : Int32
deriving DecidableEq, Repr

structure Published where
  frames : List SlotFrame
  delivered : Bool
deriving DecidableEq, Repr

structure Entry where
  slotIndex : UInt32
  frame : SlotFrame
  redelivered : Bool
deriving DecidableEq, Repr

structure RelaySystem (Thread : Type) where
  producer : DmaBufProducer Thread
  nextId : Nat
  carries : Nat → Option SlotFrame
  pending : List SlotFrame
  published : List Published
  callback : List Entry
  held : List SlotFrame
  releases : List SlotFrame

inductive RelayAction (Thread : Type)
  | producer (action : Action Thread)
  | submitSlot (thread : Thread) (sourceId : Int32)
  | pollRelease (thread : Thread)
  | publishFrame (frames : List SlotFrame)
  | relay (frame : SlotFrame)
  | deliver (position : Nat)
  | releaseEntry
  | releaseFrame (frame : SlotFrame)

namespace RelaySystem

variable {Thread : Type} [DecidableEq Thread]

def Inside : Action Thread → Prop
  | .submitSlot _ | .sendFrame _ _ | .pollRelease _ _ | .releaseSlotDirect _ => False
  | _ => True

instance : (action : Action Thread) → Decidable (Inside action)
  | .submitSlot _ | .sendFrame _ _ | .pollRelease _ _ | .releaseSlotDirect _ => .isFalse id
  | .call _ _ | .lockPoll _ | .acquireSlot _ | .mapSlot _ | .syncStart _ _ | .syncEnd _ _
  | .revertSlot _ => .isTrue trivial

def entries (frames : List SlotFrame) (redelivered : Bool) : List Entry :=
  let message := RuleProcess.frameDoneMessage
    (frames.map fun frame => (UInt32.ofNat frame.slot, frame.sourceId))
  (onFrameDonePayload (some message)).1.zipWith
    (fun slotIndex frame =>
      { slotIndex := slotIndex, frame := frame, redelivered := redelivered }) frames

def releasePacket (frame : SlotFrame) : IQ9ReleasePacket :=
  Consumer.DmaBufConsumer.releasePacket (UInt32.ofNat frame.slot)

def announce (system : RelaySystem Thread) (thread : Thread) (sourceId : Int32) :
    RelaySystem Thread :=
  match system.producer.pc thread, system.producer.result thread with
  | .idle, some (.ok slotIndex) =>
      let frame := { id := system.nextId, slot := slotIndex.toNat, sourceId := sourceId }
      { system with
        nextId := system.nextId + 1
        carries := Function.update system.carries frame.slot (some frame)
        pending := system.pending ++ [frame] }
  | _, _ => system

def step (system : RelaySystem Thread) : RelayAction Thread → Option (RelaySystem Thread)
  | .producer action =>
      if Inside action then
        (system.producer.step action).map fun producer => { system with producer := producer }
      else none
  | .submitSlot thread sourceId =>
      (system.producer.step (.submitSlot thread)).map fun producer =>
        announce { system with producer := producer } thread sourceId
  | .pollRelease thread =>
      match system.releases with
      | [] =>
          (system.producer.step (.pollRelease thread none)).map fun producer =>
            { system with producer := producer }
      | frame :: rest =>
          (system.producer.step (.pollRelease thread (some (releasePacket frame).toBytes))).map
            fun producer => { system with producer := producer, releases := rest }
  | .publishFrame frames =>
      if frames.Nodup ∧ frames ⊆ system.pending then
        some { system with
          pending := system.pending.filter fun frame => frame ∉ frames
          published := system.published ++ [{ frames := frames, delivered := false }] }
      else none
  | .relay frame =>
      if frame ∈ system.pending then
        some { system with
          pending := system.pending.erase frame
          held := system.held ++ [frame] }
      else none
  | .deliver position =>
      match system.published[position]? with
      | none => none
      | some message =>
          some { system with
            published := system.published.set position { message with delivered := true }
            callback := system.callback ++ entries message.frames message.delivered }
  | .releaseEntry =>
      match system.callback with
      | [] => none
      | entry :: rest =>
          (system.producer.step (.releaseSlotDirect entry.slotIndex)).map fun producer =>
            { system with producer := producer, callback := rest }
  | .releaseFrame frame =>
      if frame ∈ system.held then
        some { system with
          held := system.held.erase frame
          releases := system.releases ++ [frame] }
      else none

def machine (Thread : Type) [DecidableEq Thread] :
    Machine (RelaySystem Thread) (RelayAction Thread) where
  start system := system.producer.Fresh ∧ system.producer.relayMode = true ∧
    system.pending = [] ∧ system.published = [] ∧ system.callback = [] ∧ system.held = [] ∧
      system.releases = []
  step := step

def onBehalfOf (system : RelaySystem Thread) : RelayAction Thread → Option SlotFrame
  | .releaseEntry => system.callback.head?.map Entry.frame
  | .pollRelease _ => system.releases.head?
  | _ => none

/-- An entry of a redelivered message is handled only while its slot is not in flight. -/
def StaleEntriesMiss (system : RelaySystem Thread) : RelayAction Thread → Prop
  | .releaseEntry => ∀ entry ∈ system.callback.head?, entry.redelivered = true →
      system.producer.slotPool.state? entry.slotIndex.toNat ≠ some .onFlight
  | _ => True

instance (system : RelaySystem Thread) (action : RelayAction Thread) :
    Decidable (StaleEntriesMiss system action) := by
  cases action <;> unfold StaleEntriesMiss <;> infer_instance

def owedBy (message : Published) : List SlotFrame :=
  if message.delivered then [] else message.frames

def owedIn (entry : Entry) : List SlotFrame :=
  if entry.redelivered then [] else [entry.frame]

def live (system : RelaySystem Thread) : List SlotFrame :=
  system.pending ++ (system.published.flatMap owedBy ++ (system.callback.flatMap owedIn ++
    (system.held ++ system.releases)))

/-- Every frame still owed to somebody is the one its slot carries in flight, and no two
of them share a slot. -/
structure Carried (system : RelaySystem Thread) : Prop where
  once : (system.live.map SlotFrame.slot).Nodup
  inFlight : ∀ frame ∈ system.live,
    system.producer.slotPool.state? frame.slot = some .onFlight ∧
      system.carries frame.slot = some frame
  named : ∀ entry ∈ system.callback, entry.slotIndex = UInt32.ofNat entry.frame.slot

theorem entries_eq (frames : List SlotFrame) (redelivered : Bool) :
    entries frames redelivered = frames.map fun frame =>
      { slotIndex := UInt32.ofNat frame.slot, frame := frame, redelivered := redelivered } := by
  simp [entries, onFrameDonePayload_frameDoneMessage, List.zipWith_map_left]

omit [DecidableEq Thread] in
@[simp] theorem producer_announce (system : RelaySystem Thread) (thread : Thread)
    (sourceId : Int32) : (system.announce thread sourceId).producer = system.producer := by
  unfold announce
  split <;> rfl

omit [DecidableEq Thread] in
@[simp] theorem callback_announce (system : RelaySystem Thread) (thread : Thread)
    (sourceId : Int32) : (system.announce thread sourceId).callback = system.callback := by
  unfold announce
  split <;> rfl

theorem producer_reachable {system : RelaySystem Thread}
    (reachable : (machine Thread).Reachable system) :
    (DmaBufProducer.machine Thread).Reachable system.producer := by
  apply reachable.project RelaySystem.producer
  · intro system started
    exact started.1
  · intro system action next stepped
    change system.step action = some next at stepped
    cases action with
    | producer action =>
        simp only [step] at stepped
        split at stepped
        · obtain ⟨producer, moved, rfl⟩ := Option.map_eq_some_iff.mp stepped
          exact .inr ⟨action, moved⟩
        · simp at stepped
    | submitSlot thread sourceId =>
        obtain ⟨producer, moved, rfl⟩ := Option.map_eq_some_iff.mp stepped
        rw [producer_announce]
        exact .inr ⟨.submitSlot thread, moved⟩
    | pollRelease thread =>
        simp only [step] at stepped
        split at stepped
        · obtain ⟨producer, moved, rfl⟩ := Option.map_eq_some_iff.mp stepped
          exact .inr ⟨.pollRelease thread none, moved⟩
        · rename_i frame rest _
          obtain ⟨producer, moved, rfl⟩ := Option.map_eq_some_iff.mp stepped
          exact .inr ⟨.pollRelease thread (some (releasePacket frame).toBytes), moved⟩
    | releaseEntry =>
        simp only [step] at stepped
        split at stepped
        · simp at stepped
        · rename_i entry rest _
          obtain ⟨producer, moved, rfl⟩ := Option.map_eq_some_iff.mp stepped
          exact .inr ⟨.releaseSlotDirect entry.slotIndex, moved⟩
    | publishFrame frames =>
        simp only [step, Option.ite_none_right_eq_some, Option.some.injEq] at stepped
        exact .inl (stepped.2 ▸ rfl)
    | relay frame =>
        simp only [step, Option.ite_none_right_eq_some, Option.some.injEq] at stepped
        exact .inl (stepped.2 ▸ rfl)
    | releaseFrame frame =>
        simp only [step, Option.ite_none_right_eq_some, Option.some.injEq] at stepped
        exact .inl (stepped.2 ▸ rfl)
    | deliver position =>
        simp only [step] at stepped
        split at stepped
        · simp at stepped
        · simp only [Option.some.injEq] at stepped
          exact .inl (stepped ▸ rfl)

theorem carried_start {system : RelaySystem Thread}
    (started : (machine Thread).start system) : Carried system := by
  obtain ⟨_, _, pending, published, callback, held, releases⟩ := started
  have nothing : system.live = [] := by simp [live, pending, published, callback, held, releases]
  exact ⟨by simp [nothing], by simp [nothing], by simp [callback]⟩

def Named (callback : List Entry) : Prop :=
  ∀ entry ∈ callback, entry.slotIndex = UInt32.ofNat entry.frame.slot

inductive Moves (system : RelaySystem Thread) (action : RelayAction Thread)
    (next : RelaySystem Thread) : Prop
  | kept : (∀ slot, next.producer.slotPool.state? slot = some .onFlight ↔
        system.producer.slotPool.state? slot = some .onFlight) →
      next.live.Perm system.live → next.carries = system.carries → Moves system action next
  | submitted (frame : SlotFrame) :
      system.producer.slotPool.state? frame.slot = some .inUse →
      next.producer.slotPool = system.producer.slotPool.setState frame.slot .onFlight →
      next.live.Perm (frame :: system.live) →
      next.carries = Function.update system.carries frame.slot (some frame) →
      Moves system action next
  | released (frame : SlotFrame) : system.onBehalfOf action = some frame →
      next.producer.slotPool = system.producer.slotPool.setState frame.slot .idle →
      system.live.Perm (frame :: next.live) → next.carries = system.carries →
      Moves system action next

omit [DecidableEq Thread] in
theorem Moves.handed {system next : RelaySystem Thread} {action : RelayAction Thread}
    (producer : next.producer = system.producer) (live : next.live.Perm system.live)
    (carries : next.carries = system.carries) : Moves system action next :=
  .kept (fun _ => by rw [producer]) live carries

omit [DecidableEq Thread] in
theorem Carried.moves {system next : RelaySystem Thread} {action : RelayAction Thread}
    (carried : Carried system) (moves : Moves system action next) (named : Named next.callback) :
    Carried next := by
  cases moves with
  | kept same live carries =>
      refine ⟨(live.map SlotFrame.slot).nodup_iff.mpr carried.once, ?_, named⟩
      intro frame member
      have owed := carried.inFlight frame (live.mem_iff.mp member)
      rw [carries]
      exact ⟨(same frame.slot).mpr owed.1, owed.2⟩
  | submitted frame inUse pool live carries =>
      have absent : ∀ other ∈ system.live, frame.slot ≠ other.slot := by
        intro other member same
        have onFlight := (carried.inFlight other member).1
        rw [← same, inUse] at onFlight
        simp at onFlight
      refine ⟨(live.map SlotFrame.slot).nodup_iff.mpr
        (List.nodup_cons.mpr ⟨?_, carried.once⟩), ?_, named⟩
      · intro member
        obtain ⟨other, owed, same⟩ := List.mem_map.mp member
        exact absent other owed same.symm
      · intro other member
        rw [pool, carries]
        rcases List.mem_cons.mp (live.mem_iff.mp member) with rfl | owed
        · exact ⟨SlotPool.state?_setState_self .onFlight inUse, Function.update_self ..⟩
        · have different := absent other owed
          rw [SlotPool.state?_setState_of_ne _ different, Function.update_of_ne different.symm]
          exact carried.inFlight other owed
  | released frame behalf pool live carries =>
      have once := (live.map SlotFrame.slot).nodup_iff.mp carried.once
      rw [List.map_cons, List.nodup_cons] at once
      refine ⟨once.2, ?_, named⟩
      intro other member
      have different : frame.slot ≠ other.slot := fun same =>
        once.1 (same ▸ List.mem_map_of_mem member)
      have still := carried.inFlight other (live.mem_iff.mpr (List.mem_cons_of_mem _ member))
      rw [pool, carries, SlotPool.state?_setState_of_ne _ different]
      exact still

omit [DecidableEq Thread] in
theorem flatMap_deliver {published : List Published} {position : Nat} {message : Published}
    (found : published[position]? = some message) :
    ((published.set position { message with delivered := true }).flatMap owedBy ++
      owedBy message).Perm (published.flatMap owedBy) := by
  induction published generalizing position with
  | nil => simp at found
  | cons first published ih =>
      cases position with
      | zero =>
          simp only [List.getElem?_cons_zero, Option.some.injEq] at found
          subst found
          simpa [owedBy] using List.perm_append_comm
      | succ position =>
          simpa [List.append_assoc] using (ih found).append_left (owedBy first)

theorem flatMap_entries (message : Published) :
    (entries message.frames message.delivered).flatMap owedIn = owedBy message := by
  rw [entries_eq, List.flatMap_map, owedBy]
  cases message.delivered <;> simp [owedIn]

theorem split_pending {pending frames : List SlotFrame} (unique : pending.Nodup)
    (distinct : frames.Nodup) (present : frames ⊆ pending) :
    (frames ++ pending.filter fun frame => frame ∉ frames).Perm pending := by
  refine (List.perm_ext_iff_of_nodup ?_ unique).mpr fun frame => ?_
  · refine List.nodup_append.mpr ⟨distinct, unique.filter _, ?_⟩
    rintro frame named other member rfl
    simp [named] at member
  · simp only [List.mem_append, List.mem_filter, decide_eq_true_eq]
    constructor
    · rintro (named | ⟨member, _⟩)
      · exact present named
      · exact member
    · intro member
      by_cases named : frame ∈ frames
      · exact .inl named
      · exact .inr ⟨member, named⟩

theorem step_named {system next : RelaySystem Thread} {action : RelayAction Thread}
    (named : Named system.callback) (stepped : system.step action = some next) :
    Named next.callback := by
  cases action with
  | producer action =>
      simp only [RelaySystem.step] at stepped
      split at stepped
      · obtain ⟨producer, _, rfl⟩ := Option.map_eq_some_iff.mp stepped
        exact named
      · simp at stepped
  | submitSlot thread sourceId =>
      obtain ⟨producer, _, rfl⟩ := Option.map_eq_some_iff.mp stepped
      rw [callback_announce]
      exact named
  | pollRelease thread =>
      simp only [RelaySystem.step] at stepped
      split at stepped
      · obtain ⟨producer, _, rfl⟩ := Option.map_eq_some_iff.mp stepped
        exact named
      · obtain ⟨producer, _, rfl⟩ := Option.map_eq_some_iff.mp stepped
        exact named
  | deliver position =>
      simp only [RelaySystem.step] at stepped
      split at stepped
      · simp at stepped
      · simp only [Option.some.injEq] at stepped
        subst next
        intro entry member
        rcases List.mem_append.mp member with old | new
        · exact named entry old
        · rw [entries_eq, List.mem_map] at new
          obtain ⟨frame, _, rfl⟩ := new
          rfl
  | releaseEntry =>
      simp only [RelaySystem.step] at stepped
      split at stepped
      · simp at stepped
      · rename_i entry rest queue
        obtain ⟨producer, _, rfl⟩ := Option.map_eq_some_iff.mp stepped
        exact fun other member => named other (by simp [queue, member])
  | publishFrame _ | relay _ | releaseFrame _ =>
      simp only [RelaySystem.step, Option.ite_none_right_eq_some, Option.some.injEq] at stepped
      exact stepped.2 ▸ named

theorem Carried.step_moves {system next : RelaySystem Thread} {action : RelayAction Thread}
    {ledger : Ledger Nat Thread} (carried : Carried system)
    (refines : system.producer.Refines ledger) (missed : StaleEntriesMiss system action)
    (stepped : system.step action = some next) : Moves system action next := by
  cases action with
  | producer action =>
      simp only [RelaySystem.step] at stepped
      split at stepped
      · rename_i inside
        obtain ⟨producer, moved, rfl⟩ := Option.map_eq_some_iff.mp stepped
        refine .kept ((DmaBufProducer.step_effect moved).onFlight_iff ?_ ?_) (.refl _) rfl
        · rintro thread rfl
          exact inside
        · rintro slot (⟨_, _, _, rfl, _⟩ | ⟨_, rfl, _⟩) <;> exact inside
      · simp at stepped
  | submitSlot thread sourceId =>
      obtain ⟨producer, moved, rfl⟩ := Option.map_eq_some_iff.mp stepped
      obtain ⟨args, slot, pc, inUse, rfl⟩ := refines.submits moved
      have small := SlotPool.state?_bound inUse
      have index : (UInt32.ofNat slot).toNat = slot :=
        UInt32.toNat_ofNat_of_lt' (Nat.lt_trans small (by decide))
      simp only [announce, DmaBufProducer.pc_returns, Function.update_self,
        DmaBufProducer.result_returns]
      refine .submitted ⟨system.nextId, (UInt32.ofNat slot).toNat, sourceId⟩ ?_ ?_ ?_ rfl
      · rw [index]
        exact inUse
      · simp [index]
      · rw [List.perm_iff_count]
        intro other
        simp only [live, List.count_append, List.count_cons, List.count_nil]
        omega
  | pollRelease thread =>
      simp only [RelaySystem.step] at stepped
      split at stepped
      · obtain ⟨producer, moved, rfl⟩ := Option.map_eq_some_iff.mp stepped
        refine .kept ((DmaBufProducer.step_effect moved).onFlight_iff ?_ ?_) (.refl _) rfl
        · simp
        · exact fun _ => DmaBufProducer.not_releases_empty
      · rename_i frame rest queue
        obtain ⟨producer, moved, rfl⟩ := Option.map_eq_some_iff.mp stepped
        have member : frame ∈ system.live := by simp [live, queue]
        have onFlight := (carried.inFlight frame member).1
        have polled : FrameCache.pollRelease (some (releasePacket frame).toBytes) =
            some (releasePacket frame) := pollRelease_toBytes rfl
        refine .released frame (by simp [onBehalfOf, queue]) ?_ ?_ rfl
        · rw [DmaBufProducer.step_pollRelease polled moved]
          exact congrArg Prod.snd (SlotPool.releaseSlot_of_onFlight onFlight)
        · rw [List.perm_iff_count]
          intro other
          simp only [live, queue, List.count_append, List.count_cons]
          omega
  | publishFrame frames =>
      simp only [RelaySystem.step, Option.ite_none_right_eq_some, Option.some.injEq] at stepped
      obtain ⟨⟨distinct, present⟩, rfl⟩ := stepped
      have pending : system.pending.Nodup :=
        (List.nodup_append.mp (List.Nodup.of_map _ carried.once)).1
      refine .handed rfl ?_ rfl
      have split := split_pending pending distinct present
      rw [List.perm_iff_count] at split ⊢
      intro other
      have count := split other
      simp only [live, List.flatMap_append, List.flatMap_cons, List.flatMap_nil, owedBy,
        Bool.false_eq_true, if_false, List.count_append, List.count_nil] at count ⊢
      omega
  | relay frame =>
      simp only [RelaySystem.step, Option.ite_none_right_eq_some, Option.some.injEq] at stepped
      obtain ⟨member, rfl⟩ := stepped
      refine .handed rfl ?_ rfl
      have taken := List.perm_cons_erase member
      rw [List.perm_iff_count] at taken ⊢
      intro other
      have count := taken other
      simp only [live, List.count_append, List.count_cons, List.count_nil] at count ⊢
      omega
  | deliver position =>
      simp only [RelaySystem.step] at stepped
      split at stepped
      · simp at stepped
      · rename_i message found
        simp only [Option.some.injEq] at stepped
        subst next
        refine .handed rfl ?_ rfl
        have moved := flatMap_deliver found
        rw [List.perm_iff_count] at moved ⊢
        intro other
        have count := moved other
        simp only [live, List.flatMap_append, flatMap_entries, List.count_append] at count ⊢
        omega
  | releaseEntry =>
      simp only [RelaySystem.step] at stepped
      split at stepped
      · simp at stepped
      · rename_i entry rest queue
        obtain ⟨producer, moved, rfl⟩ := Option.map_eq_some_iff.mp stepped
        simp only [DmaBufProducer.step, Option.some.injEq] at moved
        subst producer
        have named := carried.named entry (by simp [queue])
        by_cases stale : entry.redelivered = true
        · have refused := SlotPool.releaseSlot_of_not_onFlight
            (missed entry (by simp [queue]) stale)
          refine .handed ?_ (.of_eq (by simp [live, queue, owedIn, stale])) rfl
          exact congrArg (fun released => system.producer.withPool released.2) refused
        · have member : entry.frame ∈ system.live := by simp [live, queue, owedIn, stale]
          have onFlight := (carried.inFlight entry.frame member).1
          refine .released entry.frame (by simp [onBehalfOf, queue]) ?_ ?_ rfl
          · rw [named]
            exact congrArg Prod.snd (SlotPool.releaseSlot_of_onFlight onFlight)
          · rw [List.perm_iff_count]
            intro other
            simp only [live, queue, List.flatMap_cons, owedIn, stale, Bool.false_eq_true,
              if_false, List.count_append, List.count_cons, List.count_nil]
            omega
  | releaseFrame frame =>
      simp only [RelaySystem.step, Option.ite_none_right_eq_some, Option.some.injEq] at stepped
      obtain ⟨member, rfl⟩ := stepped
      refine .handed rfl ?_ rfl
      have taken := List.perm_cons_erase member
      rw [List.perm_iff_count] at taken ⊢
      intro other
      have count := taken other
      simp only [live, List.count_append, List.count_cons, List.count_nil] at count ⊢
      omega

theorem reachable_carried {system : RelaySystem Thread}
    (reachable : (machine Thread).ReachableUnder StaleEntriesMiss system) : Carried system := by
  apply reachable.invariant Carried
  · intro system started
    exact carried_start started
  · intro system action next earlier carried missed stepped
    obtain ⟨_, _, refines⟩ :=
      DmaBufProducer.reachable_refines (producer_reachable earlier.reachable)
    exact carried.moves (carried.step_moves refines missed stepped)
      (step_named carried.named stepped)

theorem freed_eq {pool : SlotPool} {index slot : Nat}
    (onFlight : pool.state? slot = some .onFlight)
    (idle : (pool.setState index .idle).state? slot = some .idle) : index = slot := by
  by_contra different
  rw [SlotPool.state?_setState_of_ne _ different, onFlight] at idle
  cases idle

/-- As long as stale entries find their slot out of flight, a slot leaves flight only on
behalf of the frame it carries. -/
theorem freed_onBehalfOf_carried {system next : RelaySystem Thread} {action : RelayAction Thread}
    {slot : Nat} (reachable : (machine Thread).ReachableUnder StaleEntriesMiss system)
    (missed : StaleEntriesMiss system action) (stepped : system.step action = some next)
    (onFlight : system.producer.slotPool.state? slot = some .onFlight)
    (idle : next.producer.slotPool.state? slot = some .idle) :
    ∃ frame, system.onBehalfOf action = some frame ∧ system.carries slot = some frame := by
  have carried := reachable_carried reachable
  obtain ⟨_, _, refines⟩ :=
    DmaBufProducer.reachable_refines (producer_reachable reachable.reachable)
  have kept : next.producer.slotPool.state? slot ≠ some .onFlight := by simp [idle]
  cases carried.step_moves refines missed stepped with
  | kept same _ _ => exact absurd ((same slot).mpr onFlight) kept
  | submitted frame inUse pool _ _ =>
      refine absurd ?_ kept
      rw [pool]
      by_cases same : frame.slot = slot
      · rw [same] at inUse ⊢
        exact SlotPool.state?_setState_self .onFlight inUse
      · rw [SlotPool.state?_setState_of_ne _ same]
        exact onFlight
  | released frame behalf pool live _ =>
      rw [pool] at idle
      obtain rfl := freed_eq onFlight idle
      exact ⟨frame, behalf, (carried.inFlight frame (live.mem_iff.mpr List.mem_cons_self)).2⟩

def fresh (Thread : Type) : RelaySystem Thread where
  producer := DmaBufProducer.ofPool oneSlotPool true
  nextId := 0
  carries _ := none
  pending := []
  published := []
  callback := []
  held := []
  releases := []

theorem fresh_start : (machine Thread).start (fresh Thread) :=
  ⟨fresh_oneSlotPool, rfl, rfl, rfl, rfl, rfl, rfl⟩

def submission : List (RelayAction (Fin 1)) :=
  [.producer (.call 0 demoArgs), .producer (.lockPoll 0), .pollRelease 0,
    .producer (.acquireSlot 0), .producer (.mapSlot 0), .producer (.syncStart 0 none),
    .producer (.syncEnd 0 none), .submitSlot 0 7]

def firstFrame : SlotFrame := { id := 0, slot := 0, sourceId := 7 }

def secondFrame : SlotFrame := { id := 1, slot := 0, sourceId := 7 }

theorem freed_onBehalfOf_carried_first : ∃ system next : RelaySystem (Fin 1),
    system.step .releaseEntry = some next ∧
      next.producer.slotPool.state? 0 = some .idle ∧
      ∃ frame, system.onBehalfOf .releaseEntry = some frame ∧ system.carries 0 = some frame := by
  let actions := submission ++ [.publishFrame [firstFrame], .deliver 0]
  have reached : ((machine (Fin 1)).run StaleEntriesMiss (fresh (Fin 1)) actions).map
      (fun system => (system.producer.slotPool.state? 0,
        decide (StaleEntriesMiss system .releaseEntry),
        (system.step .releaseEntry).map fun next => next.producer.slotPool.state? 0)) =
      some (some .onFlight, true, some (some .idle)) := rfl
  obtain ⟨system, ran, facts⟩ := Option.map_eq_some_iff.mp reached
  simp only [Prod.mk.injEq, decide_eq_true_eq] at facts
  obtain ⟨onFlight, missed, stepped⟩ := facts
  obtain ⟨next, stepped, idle⟩ := Option.map_eq_some_iff.mp stepped
  have reachable := Machine.ReachableUnder.run (Machine.ReachableUnder.start fresh_start) ran
  exact ⟨system, next, stepped, idle,
    freed_onBehalfOf_carried reachable missed stepped onFlight idle⟩

/-- A second delivery of the first frame's message frees the slot while the consumer holds
the second frame. -/
theorem staleEntryFrees : ¬ ∀ (system next : RelaySystem (Fin 1)) (action : RelayAction (Fin 1))
    (slot : Nat), (machine (Fin 1)).Reachable system → system.step action = some next →
    system.producer.slotPool.state? slot = some .onFlight →
    next.producer.slotPool.state? slot = some .idle →
    ∃ frame, system.onBehalfOf action = some frame ∧ system.carries slot = some frame := by
  intro universal
  let actions := submission ++ [.publishFrame [firstFrame], .deliver 0, .releaseEntry] ++
    submission ++ [.relay secondFrame, .deliver 0]
  have reached : ((machine (Fin 1)).run (fun _ _ => True) (fresh (Fin 1)) actions).map
      (fun system => (system.producer.slotPool.state? 0, system.carries 0,
        system.onBehalfOf .releaseEntry,
        (system.step .releaseEntry).map fun next => next.producer.slotPool.state? 0)) =
      some (some .onFlight, some secondFrame, some firstFrame, some (some .idle)) := rfl
  obtain ⟨system, ran, facts⟩ := Option.map_eq_some_iff.mp reached
  simp only [Prod.mk.injEq] at facts
  obtain ⟨onFlight, carries, behalf, stepped⟩ := facts
  obtain ⟨next, stepped, idle⟩ := Option.map_eq_some_iff.mp stepped
  have reachable := Machine.ReachableUnder.run (Machine.ReachableUnder.start fresh_start) ran
  obtain ⟨frame, owner, current⟩ :=
    universal system next .releaseEntry 0 reachable stepped onFlight idle
  rw [behalf] at owner
  rw [carries] at current
  simp [← Option.some.inj owner, secondFrame, firstFrame] at current

end RelaySystem

end Iq9Pipeline
