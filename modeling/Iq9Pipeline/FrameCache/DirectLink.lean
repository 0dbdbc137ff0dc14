import Iq9Pipeline.Consumer.DmaBufConsumer
import Iq9Pipeline.FrameCache.Outstanding
import Mathlib.Data.List.Perm.Basic

/-!
The slot protocol without relaying: channel threads submit frames over a FIFO
of whole task packets, and a consumer gives every slot back over a FIFO of whole
release packets. A slot is owed while its frame is on the way, held, or on the
way back; a release is lost when it arrives before its slot is marked in flight.
-/

namespace Iq9Pipeline.FrameCache

open Foundation

structure DirectLink (Thread : Type) where
  producer : DmaBufProducer Thread
  tasks : List IQ9TaskPacket
  held : List IQ9TaskPacket
  releases : List IQ9ReleasePacket

def Action.Local {Thread : Type} : Action Thread → Prop
  | .pollRelease _ _ | .sendFrame _ _ | .releaseSlotDirect _ => False
  | _ => True

instance {Thread : Type} (action : Action Thread) : Decidable action.Local := by
  cases action <;> unfold Action.Local <;> infer_instance

inductive LinkAction (Thread : Type)
  | producer (action : Action Thread)
  | pollRelease (thread : Thread)
  | sendFrame (thread : Thread) (failure : Option String)
  | recvFrame
  | releaseFrame (position : Nat)

namespace DirectLink

variable {Thread : Type} [DecidableEq Thread]

def outgoing (producer : DmaBufProducer Thread) (thread : Thread) : List IQ9TaskPacket :=
  match producer.pc thread with
  | .sendFrame args slot => [taskPacket args slot]
  | _ => []

def step (link : DirectLink Thread) : LinkAction Thread → Option (DirectLink Thread)
  | .producer action =>
      if action.Local then
        (link.producer.step action).map fun producer => { link with producer := producer }
      else none
  | .pollRelease thread =>
      match link.releases with
      | [] =>
          (link.producer.step (.pollRelease thread none)).map fun producer =>
            { link with producer := producer }
      | packet :: rest =>
          (link.producer.step (.pollRelease thread (some packet.toBytes))).map fun producer =>
            { link with producer := producer, releases := rest }
  | .sendFrame thread failure =>
      (link.producer.step (.sendFrame thread failure)).map fun producer =>
        { link with
          producer := producer
          tasks := if failure = none then link.tasks ++ outgoing link.producer thread
            else link.tasks }
  | .recvFrame =>
      match link.tasks with
      | [] => none
      | packet :: rest => some { link with tasks := rest, held := link.held ++ [packet] }
  | .releaseFrame position =>
      match link.held[position]? with
      | none => none
      | some packet =>
          some { link with
            held := link.held.eraseIdx position
            releases := link.releases ++
              [Consumer.DmaBufConsumer.releasePacket packet.slotIndex] }

def machine (Thread : Type) [DecidableEq Thread] :
    Machine (DirectLink Thread) (LinkAction Thread) where
  start link := link.producer.Fresh ∧ link.producer.relayMode = false ∧
    link.tasks = [] ∧ link.held = [] ∧ link.releases = []
  step := step

def Drained (link : DirectLink Thread) : Prop :=
  link.tasks = [] ∧ link.held = [] ∧ link.releases = []

def AllIdle (link : DirectLink Thread) : Prop :=
  ∀ slot state, link.producer.slotPool.state? slot = some state → state = .idle

def owed (link : DirectLink Thread) : List Nat :=
  (link.tasks.map fun packet => packet.slotIndex.toNat) ++
    ((link.held.map fun packet => packet.slotIndex.toNat) ++
      link.releases.map fun packet => packet.slotIndex.toNat)

/-- A poll that is about to read a release finds the slot no longer in use: its thread
has marked it in flight. -/
def TimelyRelease (link : DirectLink Thread) : LinkAction Thread → Prop
  | .pollRelease _ =>
      ∀ packet ∈ link.releases.head?,
        link.producer.slotPool.state? packet.slotIndex.toNat ≠ some .inUse
  | _ => True

instance (link : DirectLink Thread) (action : LinkAction Thread) :
    Decidable (TimelyRelease link action) := by
  cases action <;> unfold TimelyRelease <;> infer_instance

structure Balanced (link : DirectLink Thread) : Prop where
  direct : link.producer.relayMode = false
  magic : ∀ packet ∈ link.releases, packet.magic = iq9ReleaseMagic
  once : link.owed.Nodup
  owed_iff : ∀ slot, slot ∈ link.owed ↔ link.producer.Outstanding slot

theorem producer_reachable {link : DirectLink Thread}
    (reachable : (machine Thread).Reachable link) :
    (DmaBufProducer.machine Thread).Reachable link.producer := by
  apply reachable.project DirectLink.producer
  · intro link started
    exact started.1
  · intro link action next stepped
    change link.step action = some next at stepped
    cases action with
    | producer action =>
        simp only [step] at stepped
        split at stepped
        · obtain ⟨producer, moved, rfl⟩ := Option.map_eq_some_iff.mp stepped
          exact .inr ⟨action, moved⟩
        · simp at stepped
    | pollRelease thread =>
        simp only [step] at stepped
        split at stepped
        · obtain ⟨producer, moved, rfl⟩ := Option.map_eq_some_iff.mp stepped
          exact .inr ⟨.pollRelease thread none, moved⟩
        · rename_i packet rest _
          obtain ⟨producer, moved, rfl⟩ := Option.map_eq_some_iff.mp stepped
          exact .inr ⟨.pollRelease thread (some packet.toBytes), moved⟩
    | sendFrame thread failure =>
        obtain ⟨producer, moved, rfl⟩ := Option.map_eq_some_iff.mp stepped
        exact .inr ⟨.sendFrame thread failure, moved⟩
    | recvFrame =>
        simp only [step] at stepped
        split at stepped
        · simp at stepped
        · simp only [Option.some.injEq] at stepped
          exact .inl (stepped ▸ rfl)
    | releaseFrame position =>
        simp only [step] at stepped
        split at stepped
        · simp at stepped
        · simp only [Option.some.injEq] at stepped
          exact .inl (stepped ▸ rfl)

theorem balanced_start {link : DirectLink Thread} (started : (machine Thread).start link) :
    Balanced link := by
  obtain ⟨fresh, direct, tasks, held, releases⟩ := started
  refine ⟨direct, by simp [releases], by simp [owed, tasks, held, releases], fun slot => ?_⟩
  simp only [owed, tasks, held, releases, List.map_nil, List.append_nil, List.not_mem_nil,
    false_iff]
  rintro (onFlight | ⟨thread, handed⟩)
  · simpa using fresh.1 slot .onFlight onFlight
  · simp [fresh.2.1 thread, Pc.handedOver] at handed

theorem Balanced.inside {link : DirectLink Thread} {action : Action Thread}
    {producer : DmaBufProducer Thread} {ledger : Ledger Nat Thread} (balanced : Balanced link)
    (refines : link.producer.Refines ledger)
    (moved : link.producer.step action = some producer)
    (keeps : ∀ thread, ¬ link.producer.HandsOver action thread)
    (silent : ∀ slot, ¬ DmaBufProducer.Releases action slot) :
    Balanced { link with producer := producer } where
  direct := (DmaBufProducer.step_effect moved).relayMode.trans balanced.direct
  magic := balanced.magic
  once := balanced.once
  owed_iff slot := (balanced.owed_iff slot).trans
    ((DmaBufProducer.step_effect moved).outstanding_iff refines keeps silent slot).symm

omit [DecidableEq Thread] in
theorem Balanced.reorder {link next : DirectLink Thread} (balanced : Balanced link)
    (same : next.producer = link.producer) (owed : next.owed.Perm link.owed)
    (magic : ∀ packet ∈ next.releases, packet.magic = iq9ReleaseMagic) : Balanced next where
  direct := same ▸ balanced.direct
  magic := magic
  once := owed.nodup_iff.mpr balanced.once
  owed_iff slot := by
    rw [owed.mem_iff, same]
    exact balanced.owed_iff slot

theorem Balanced.sent {link : DirectLink Thread} {producer : DmaBufProducer Thread}
    {thread : Thread} {ledger : Ledger Nat Thread} (balanced : Balanced link)
    (refines : link.producer.Refines ledger)
    (moved : link.producer.step (.sendFrame thread none) = some producer) :
    Balanced { link with
      producer := producer, tasks := link.tasks ++ outgoing link.producer thread } := by
  obtain ⟨args, slot, pc, rfl⟩ := DmaBufProducer.step_sendFrame moved
  have owns : (link.producer.pc thread).owns = some slot := by simp [pc, Pc.owns]
  have bound := SlotPool.state?_bound (refines.inUse owns)
  have named : (UInt32.ofNat slot).toNat = slot :=
    UInt32.toNat_ofNat_of_lt' (Nat.lt_trans bound (by decide))
  obtain ⟨fresh, outstanding⟩ := refines.handsOver args owns
    (by simp [pc, Pc.handedOver])
  have appended : (owed { link with
      producer := link.producer.goto thread (.submitSlot args slot)
      tasks := link.tasks ++ outgoing link.producer thread }).Perm (slot :: link.owed) := by
    simp only [owed, outgoing, pc, taskPacket, List.map_append, List.map_cons, List.map_nil,
      named, List.append_assoc, List.singleton_append]
    exact List.perm_middle
  have absent : slot ∉ link.owed := fun member => fresh ((balanced.owed_iff slot).mp member)
  refine ⟨balanced.direct, balanced.magic, ?_, fun other => ?_⟩
  · exact appended.nodup_iff.mpr (List.nodup_cons.mpr ⟨absent, balanced.once⟩)
  · rw [appended.mem_iff, List.mem_cons, balanced.owed_iff]
    exact (outstanding other).symm

theorem Balanced.released {link : DirectLink Thread} {producer : DmaBufProducer Thread}
    {thread : Thread} {packet : IQ9ReleasePacket} {rest : List IQ9ReleasePacket}
    {ledger : Ledger Nat Thread} (balanced : Balanced link)
    (refines : link.producer.Refines ledger) (queue : link.releases = packet :: rest)
    (timely : link.producer.slotPool.state? packet.slotIndex.toNat ≠ some .inUse)
    (moved : link.producer.step (.pollRelease thread (some packet.toBytes)) = some producer) :
    Balanced { link with producer := producer, releases := rest } := by
  have removed : link.owed.Perm (packet.slotIndex.toNat ::
      owed { link with producer := producer, releases := rest }) := by
    simp only [owed, queue, List.map_cons, ← List.append_assoc]
    exact List.perm_middle
  have unique := List.nodup_cons.mp (removed.nodup_iff.mp balanced.once)
  have outstanding := (balanced.owed_iff packet.slotIndex.toNat).mp
    (removed.mem_iff.mpr List.mem_cons_self)
  obtain ⟨onFlight, settled⟩ := refines.released outstanding timely
  have small := SlotPool.state?_bound onFlight
  have index : castInt packet.slotIndex = packet.slotIndex.toNat :=
    castInt_of_small (Nat.lt_trans small (by decide))
  have after : producer = link.producer.withPool
      (link.producer.slotPool.setState packet.slotIndex.toNat .idle) := by
    have polled := pollRelease_toBytes (balanced.magic packet (by simp [queue]))
    rw [DmaBufProducer.step_pollRelease polled moved, index, SlotPool.releaseSlot,
      SlotPool.moveSlot_of_state .idle onFlight]
  subst after
  refine ⟨balanced.direct, ?_, unique.2, fun other => ?_⟩
  · intro member belongs
    exact balanced.magic member (by simp [queue, belongs])
  · rw [settled other, ← balanced.owed_iff, removed.mem_iff, List.mem_cons]
    constructor
    · intro member
      exact ⟨fun same => unique.1 (same ▸ member), .inr member⟩
    · rintro ⟨different, same | member⟩
      · exact absurd same different
      · exact member

theorem Balanced.step {link next : DirectLink Thread} {action : LinkAction Thread}
    {ledger : Ledger Nat Thread} (balanced : Balanced link)
    (refines : link.producer.Refines ledger) (timely : TimelyRelease link action)
    (stepped : link.step action = some next) : Balanced next := by
  cases action with
  | producer action =>
      simp only [DirectLink.step] at stepped
      split at stepped
      · rename_i isLocal
        obtain ⟨producer, moved, rfl⟩ := Option.map_eq_some_iff.mp stepped
        apply balanced.inside refines moved
        · rintro thread (rfl | ⟨relay, _⟩)
          · exact isLocal
          · simp [balanced.direct] at relay
        · rintro slot (⟨_, _, _, rfl, _⟩ | ⟨_, rfl, _⟩) <;> exact isLocal
      · simp at stepped
  | pollRelease thread =>
      simp only [DirectLink.step] at stepped
      split at stepped
      · obtain ⟨producer, moved, rfl⟩ := Option.map_eq_some_iff.mp stepped
        apply balanced.inside refines moved
        · simp [DmaBufProducer.HandsOver]
        · exact fun _ => DmaBufProducer.not_releases_empty
      · rename_i packet rest queue
        obtain ⟨producer, moved, rfl⟩ := Option.map_eq_some_iff.mp stepped
        exact balanced.released refines queue (timely packet (by simp [queue])) moved
  | sendFrame thread failure =>
      obtain ⟨producer, moved, rfl⟩ := Option.map_eq_some_iff.mp stepped
      cases failure with
      | none => simpa using balanced.sent refines moved
      | some reason =>
          have failed := balanced.inside refines moved (by simp [DmaBufProducer.HandsOver])
            (by simp [DmaBufProducer.Releases])
          simpa using failed
  | recvFrame =>
      simp only [DirectLink.step] at stepped
      split at stepped
      · simp at stepped
      · rename_i packet rest queue
        simp only [Option.some.injEq] at stepped
        subst next
        refine balanced.reorder ?_ ?_ ?_
        · rfl
        · simp only [owed, queue, List.map_append, List.map_cons, List.map_nil,
            List.append_assoc, List.cons_append]
          rw [← List.append_assoc]
          exact List.perm_middle.trans (.of_eq (by simp))
        · exact balanced.magic
  | releaseFrame position =>
      simp only [DirectLink.step] at stepped
      split at stepped
      · simp at stepped
      · rename_i packet found
        simp only [Option.some.injEq] at stepped
        subst next
        obtain ⟨bound, same⟩ := List.getElem?_eq_some_iff.mp found
        have taken : (packet :: link.held.eraseIdx position).Perm link.held :=
          same ▸ List.getElem_cons_eraseIdx_perm bound
        refine balanced.reorder ?_ ?_ ?_
        · rfl
        · have mapped := (taken.map fun packet => packet.slotIndex.toNat).symm
          simp only [owed, List.map_append, List.map_cons, List.map_nil]
          apply List.Perm.append_left
          rw [← List.append_assoc]
          exact (List.perm_append_singleton _ _).trans (mapped.append_right _).symm
        · intro member belongs
          rcases List.mem_append.mp belongs with old | new
          · exact balanced.magic member old
          · rw [List.mem_singleton.mp new]
            rfl

theorem reachable_balanced {link : DirectLink Thread}
    (reachable : (machine Thread).ReachableUnder TimelyRelease link) : Balanced link := by
  apply reachable.invariant Balanced
  · intro link started
    exact balanced_start started
  · intro link action next earlier balanced timely stepped
    obtain ⟨_, _, refines⟩ :=
      DmaBufProducer.reachable_refines (producer_reachable earlier.reachable)
    exact balanced.step refines timely stepped

/-- As long as no poll reads a release before its slot is marked in flight, a
quiet link has every slot back. -/
theorem noReleaseLost {link : DirectLink Thread}
    (reachable : (machine Thread).ReachableUnder TimelyRelease link)
    (quiescent : link.producer.Quiescent) (drained : link.Drained) : link.AllIdle := by
  intro slot state present
  cases state with
  | idle => rfl
  | inUse =>
      obtain ⟨_, _, refines⟩ :=
        DmaBufProducer.reachable_refines (producer_reachable reachable.reachable)
      obtain ⟨thread, owns⟩ := refines.owned present
      simp [quiescent thread, Pc.owns] at owns
  | onFlight =>
      have member := ((reachable_balanced reachable).owed_iff slot).mpr (.inl present)
      simp [owed, drained.1, drained.2.1, drained.2.2] at member

def fresh (Thread : Type) : DirectLink Thread where
  producer := DmaBufProducer.ofPool oneSlotPool false
  tasks := []
  held := []
  releases := []

theorem fresh_start : (machine Thread).start (fresh Thread) :=
  ⟨fresh_oneSlotPool, rfl, rfl, rfl, rfl⟩

theorem noReleaseLost_oneFrame : ∃ link : DirectLink (Fin 2),
    link.producer.result 0 = some (.ok 0) ∧ link.AllIdle := by
  let actions : List (LinkAction (Fin 2)) := [.producer (.call 0 demoArgs),
    .producer (.lockPoll 0), .pollRelease 0, .producer (.acquireSlot 0), .producer (.mapSlot 0),
    .producer (.syncStart 0 none), .producer (.syncEnd 0 none), .sendFrame 0 none, .recvFrame,
    .producer (.submitSlot 0), .releaseFrame 0, .producer (.call 1 demoArgs),
    .producer (.lockPoll 1), .pollRelease 1, .pollRelease 1, .producer (.acquireSlot 1),
    .producer (.mapSlot 1), .producer (.syncStart 1 (some "EIO")), .producer (.revertSlot 1)]
  have reached : ((machine (Fin 2)).run TimelyRelease (fresh (Fin 2)) actions).map
      (fun link => (link.producer.pc 0, link.producer.pc 1, link.tasks, link.held, link.releases,
        link.producer.result 0)) =
      some (.idle, .idle, [], [], [], some (.ok 0)) := rfl
  obtain ⟨link, ran, facts⟩ := Option.map_eq_some_iff.mp reached
  simp only [Prod.mk.injEq] at facts
  obtain ⟨first, second, tasks, held, releases, result⟩ := facts
  have reachable := Machine.ReachableUnder.run (Machine.ReachableUnder.start fresh_start) ran
  exact ⟨link, result, noReleaseLost reachable (Fin.forall_fin_two.mpr ⟨first, second⟩)
    ⟨tasks, held, releases⟩⟩

/-- Thread 1 drains the release of slot 0 while thread 0 has sent the frame and not yet
marked the slot in flight. The release is gone and the slot never comes back. -/
theorem releaseLost : ¬ ∀ link : DirectLink (Fin 2), (machine (Fin 2)).Reachable link →
    link.producer.Quiescent → link.Drained → link.AllIdle := by
  intro universal
  let actions : List (LinkAction (Fin 2)) := [.producer (.call 0 demoArgs),
    .producer (.lockPoll 0), .pollRelease 0, .producer (.acquireSlot 0), .producer (.mapSlot 0),
    .producer (.syncStart 0 none), .producer (.syncEnd 0 none), .sendFrame 0 none, .recvFrame,
    .releaseFrame 0, .producer (.call 1 demoArgs), .producer (.lockPoll 1), .pollRelease 1,
    .pollRelease 1, .producer (.acquireSlot 1), .producer (.submitSlot 0)]
  have reached : ((machine (Fin 2)).run (fun _ _ => True) (fresh (Fin 2)) actions).map
      (fun link => (link.producer.pc 0, link.producer.pc 1, link.tasks, link.held, link.releases,
        link.producer.slotPool.state? 0)) =
      some (.idle, .idle, [], [], [], some .onFlight) := rfl
  obtain ⟨link, ran, facts⟩ := Option.map_eq_some_iff.mp reached
  simp only [Prod.mk.injEq] at facts
  obtain ⟨first, second, tasks, held, releases, onFlight⟩ := facts
  have reachable := Machine.ReachableUnder.run (Machine.ReachableUnder.start fresh_start) ran
  have idle := universal link reachable (Fin.forall_fin_two.mpr ⟨first, second⟩)
    ⟨tasks, held, releases⟩ 0 .onFlight onFlight
  cases idle

end DirectLink

end Iq9Pipeline.FrameCache
