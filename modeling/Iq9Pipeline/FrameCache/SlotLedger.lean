import Iq9Pipeline.Foundation.Ledger
import Iq9Pipeline.FrameCache.ProducerCore

/-!
The slot pool with its channel threads is a ledger of exclusive resources: an
idle slot is free, a slot in use is held by the one thread that acquired it, and
a slot in flight is away. Every run of the producer refines a history of ledger
moves, and exclusive ownership is read off the ledger.
-/

namespace Iq9Pipeline.FrameCache

open Foundation

namespace DmaBufProducer

variable {Thread : Type} [DecidableEq Thread]

def HandsOver (producer : DmaBufProducer Thread) (action : Action Thread) (thread : Thread) :
    Prop :=
  action = .sendFrame thread none ∨ (producer.relayMode = true ∧ action = .syncEnd thread none)

def Releases (action : Action Thread) (slot : Nat) : Prop :=
  (∃ thread received packet, action = .pollRelease thread received ∧
    FrameCache.pollRelease received = some packet ∧ castInt packet.slotIndex = slot) ∨
  ∃ slotIndex, action = .releaseSlotDirect slotIndex ∧ castInt slotIndex = slot

/-- Everything one action can do to the slots and to the threads that hold them. -/
inductive Effect (before : DmaBufProducer Thread) :
    Action Thread → DmaBufProducer Thread → Prop
  | inner {action after} : after.relayMode = before.relayMode →
      after.slotPool = before.slotPool →
      (∀ thread, (after.pc thread).owns = (before.pc thread).owns) →
      (∀ thread, (after.pc thread).handedOver = (before.pc thread).handedOver) →
      Effect before action after
  | acquired {thread args slot} : before.pc thread = .acquireSlot args →
      before.slotPool.state? slot = some .idle →
      Effect before (.acquireSlot thread)
        ((before.withPool (before.slotPool.setState slot .inUse)).goto thread
          (.mapSlot args slot))
  | handsOver {action thread args slot} : before.HandsOver action thread →
      (before.pc thread).owns = some slot →
      (before.pc thread).handedOver = none →
      Effect before action (before.goto thread (.submitSlot args slot))
  | released {action slot} : Releases action slot →
      before.slotPool.state? slot = some .onFlight →
      Effect before action (before.withPool (before.slotPool.setState slot .idle))
  | submitted {thread args slot} : before.pc thread = .submitSlot args slot →
      before.slotPool.state? slot = some .inUse →
      Effect before (.submitSlot thread)
        ((before.withPool (before.slotPool.setState slot .onFlight)).returns thread
          (.ok (UInt32.ofNat slot)))
  | submitRefused {thread args slot} : before.pc thread = .submitSlot args slot →
      before.slotPool.state? slot ≠ some .inUse →
      Effect before (.submitSlot thread)
        (before.goto thread (.revertSlot slot "SubmitSlot failed: unexpected slot state"))
  | reverted {thread slot error} : before.pc thread = .revertSlot slot error →
      before.slotPool.state? slot = some .inUse →
      Effect before (.revertSlot thread)
        ((before.withPool (before.slotPool.setState slot .idle)).returns thread (.error error))
  | revertRefused {thread slot error} : before.pc thread = .revertSlot slot error →
      before.slotPool.state? slot ≠ some .inUse →
      Effect before (.revertSlot thread) (before.returns thread (.error error))

omit [DecidableEq Thread] in
theorem withPool_self (producer : DmaBufProducer Thread) :
    producer.withPool producer.slotPool = producer := rfl

theorem Effect.ofPc {before after : DmaBufProducer Thread} {action : Action Thread}
    {thread : Thread} {old next : Pc} (current : before.pc thread = old)
    (mode : after.relayMode = before.relayMode) (pool : after.slotPool = before.slotPool)
    (pc : after.pc = Function.update before.pc thread next)
    (owns : next.owns = old.owns) (handedOver : next.handedOver = old.handedOver) :
    Effect before action after := by
  subst old
  apply Effect.inner mode pool
  · intro other
    by_cases same : other = thread
    · subst other
      simpa [pc] using owns
    · simp [pc, same]
  · intro other
    by_cases same : other = thread
    · subst other
      simpa [pc] using handedOver
    · simp [pc, same]

theorem releaseSlot_effect (before : DmaBufProducer Thread) (action : Action Thread)
    (slotIndex : Int)
    (named : ∀ slot : Nat, slotIndex = slot → Releases action slot) :
    Effect before action (before.withPool (before.slotPool.releaseSlot slotIndex).2) := by
  rcases SlotPool.moveSlot_cases before.slotPool .onFlight .idle slotIndex with
    ⟨nonnegative, onFlight, moved⟩ | ⟨refused, _⟩
  · rw [SlotPool.releaseSlot, moved]
    exact .released (named slotIndex.toNat (by omega)) onFlight
  · rw [SlotPool.releaseSlot, refused]
    exact .inner rfl rfl (fun _ => rfl) (fun _ => rfl)

theorem step_effect {before after : DmaBufProducer Thread} {action : Action Thread}
    (stepped : before.step action = some after) : Effect before action after := by
  cases action with
  | call thread args =>
      simp only [step] at stepped
      split at stepped <;> simp only [Option.some.injEq, reduceCtorEq] at stepped
      rename_i pc
      subst after
      exact .ofPc pc rfl rfl rfl rfl rfl
  | lockPoll thread =>
      simp only [step] at stepped
      split at stepped <;> simp only [Option.some.injEq, reduceCtorEq] at stepped
      rename_i args pc _
      subst after
      exact .ofPc pc rfl rfl rfl rfl rfl
  | pollRelease thread received =>
      simp only [step] at stepped
      split at stepped
      · rename_i args pc
        split at stepped <;> simp only [Option.some.injEq] at stepped <;> subst after
        · rename_i packet polled
          exact releaseSlot_effect before _ _ fun slot named =>
            .inl ⟨thread, received, packet, rfl, polled, named⟩
        · exact .ofPc pc rfl rfl rfl rfl rfl
      · simp at stepped
  | acquireSlot thread =>
      simp only [step] at stepped
      split at stepped
      · rename_i args pc
        rcases before.slotPool.acquireSlot_cases with ⟨slot, idle, acquired⟩ | ⟨full, _⟩
        · rw [acquired] at stepped
          have found : ¬ ((slot : Int) < 0) := by omega
          simp only [found, if_false, Int.toNat_natCast, Option.some.injEq] at stepped
          subst after
          exact .acquired pc idle
        · rw [full, withPool_self] at stepped
          simp only [Int.reduceNeg, Int.reduceLT, if_true, Option.some.injEq] at stepped
          subst after
          exact .ofPc pc rfl rfl rfl rfl rfl
      · simp at stepped
  | mapSlot thread =>
      simp only [step] at stepped
      split at stepped
      · rename_i args slot pc
        split at stepped <;> simp only [Option.some.injEq] at stepped <;> subst after
        · exact .ofPc pc rfl rfl rfl rfl rfl
        · exact .ofPc pc rfl rfl rfl rfl rfl
      · simp at stepped
  | syncStart thread failure =>
      simp only [step] at stepped
      split at stepped <;> simp only [Option.some.injEq, reduceCtorEq] at stepped
      · rename_i args slot pc
        subst after
        exact .ofPc pc rfl rfl rfl rfl rfl
      · rename_i args slot reason pc
        subst after
        exact .ofPc pc rfl rfl rfl rfl rfl
  | syncEnd thread failure =>
      simp only [step] at stepped
      split at stepped <;> simp only [Option.some.injEq, reduceCtorEq] at stepped
      · rename_i args slot pc
        subst after
        split
        · rename_i relay
          exact .handsOver (.inr ⟨relay, rfl⟩) (by simp [pc, Pc.owns]) (by simp [pc, Pc.handedOver])
        · exact .ofPc pc rfl rfl rfl rfl rfl
      · rename_i args slot reason pc
        subst after
        exact .ofPc pc rfl rfl rfl rfl rfl
  | sendFrame thread failure =>
      simp only [step] at stepped
      split at stepped <;> simp only [Option.some.injEq, reduceCtorEq] at stepped
      · rename_i args slot pc
        subst after
        exact .handsOver (.inl rfl) (by simp [pc, Pc.owns]) (by simp [pc, Pc.handedOver])
      · rename_i args slot reason pc
        subst after
        exact .ofPc pc rfl rfl rfl rfl rfl
  | submitSlot thread =>
      simp only [step] at stepped
      split at stepped
      · rename_i args slot pc
        by_cases inUse : before.slotPool.state? slot = some .inUse
        · rw [SlotPool.submitSlot, SlotPool.moveSlot_of_state .onFlight inUse] at stepped
          simp only [if_true, Option.some.injEq] at stepped
          subst after
          exact .submitted pc inUse
        · rw [SlotPool.submitSlot, SlotPool.moveSlot_of_not_state .onFlight inUse] at stepped
          simp only [Bool.false_eq_true, if_false, Option.some.injEq] at stepped
          subst after
          exact .submitRefused pc inUse
      · simp at stepped
  | revertSlot thread =>
      simp only [step] at stepped
      split at stepped <;> simp only [Option.some.injEq, reduceCtorEq] at stepped
      rename_i slot error pc
      by_cases inUse : before.slotPool.state? slot = some .inUse
      · rw [SlotPool.revertSlot, SlotPool.moveSlot_of_state .idle inUse] at stepped
        subst after
        exact .reverted pc inUse
      · rw [SlotPool.revertSlot, SlotPool.moveSlot_of_not_state .idle inUse, withPool_self]
          at stepped
        subst after
        exact .revertRefused pc inUse
  | releaseSlotDirect slotIndex =>
      simp only [step, Option.some.injEq] at stepped
      subst after
      exact releaseSlot_effect before _ _ fun slot named => .inr ⟨slotIndex, rfl, named⟩

theorem Effect.relayMode {before after : DmaBufProducer Thread} {action : Action Thread}
    (effect : Effect before action after) : after.relayMode = before.relayMode := by
  cases effect with
  | inner mode _ _ _ => exact mode
  | _ => rfl

theorem step_pollRelease {before after : DmaBufProducer Thread} {thread : Thread}
    {received : Option (List UInt8)} {packet : IQ9ReleasePacket}
    (polled : FrameCache.pollRelease received = some packet)
    (stepped : before.step (.pollRelease thread received) = some after) :
    after = before.withPool (before.slotPool.releaseSlot (castInt packet.slotIndex)).2 := by
  simp only [step, polled] at stepped
  split at stepped
  · exact (Option.some.inj stepped).symm
  · simp at stepped

theorem step_sendFrame {before after : DmaBufProducer Thread} {thread : Thread}
    (stepped : before.step (.sendFrame thread none) = some after) :
    ∃ args slot, before.pc thread = .sendFrame args slot ∧
      after = before.goto thread (.submitSlot args slot) := by
  simp only [step] at stepped
  split at stepped
  · rename_i args slot pc _
    exact ⟨args, slot, pc, (Option.some.inj stepped).symm⟩
  · contradiction
  · simp at stepped

def slotState : Holder Thread → SlotState
  | .free => .idle
  | .heldBy _ => .inUse
  | .away => .onFlight

structure Refines (producer : DmaBufProducer Thread) (ledger : Ledger Nat Thread) : Prop where
  state : ∀ slot state, producer.slotPool.state? slot = some state →
    state = slotState (ledger slot)
  outside : ∀ slot, producer.slotPool.state? slot = none → ledger slot = .free
  owner : ∀ thread slot, (producer.pc thread).owns = some slot ↔ ledger slot = .heldBy thread

omit [DecidableEq Thread] in
theorem Refines.state?_eq {producer : DmaBufProducer Thread} {ledger : Ledger Nat Thread}
    (refines : Refines producer ledger) {slot : Nat} (busy : ledger slot ≠ .free) :
    producer.slotPool.state? slot = some (slotState (ledger slot)) := by
  cases found : producer.slotPool.state? slot with
  | none => exact absurd (refines.outside slot found) busy
  | some state => rw [refines.state slot state found]

omit [DecidableEq Thread] in
theorem Refines.inUse {producer : DmaBufProducer Thread} {ledger : Ledger Nat Thread}
    (refines : Refines producer ledger) {thread : Thread} {slot : Nat}
    (owns : (producer.pc thread).owns = some slot) :
    producer.slotPool.state? slot = some .inUse := by
  have held := (refines.owner thread slot).mp owns
  rw [refines.state?_eq (by simp [held]), held, slotState]

omit [DecidableEq Thread] in
theorem Refines.free {producer : DmaBufProducer Thread} {ledger : Ledger Nat Thread}
    (refines : Refines producer ledger) {slot : Nat}
    (idle : producer.slotPool.state? slot = some .idle) : ledger slot = .free := by
  have state := refines.state slot .idle idle
  cases held : ledger slot with
  | free => rfl
  | heldBy agent => simp [held, slotState] at state
  | away => simp [held, slotState] at state

omit [DecidableEq Thread] in
theorem Refines.away {producer : DmaBufProducer Thread} {ledger : Ledger Nat Thread}
    (refines : Refines producer ledger) {slot : Nat}
    (onFlight : producer.slotPool.state? slot = some .onFlight) : ledger slot = .away := by
  have state := refines.state slot .onFlight onFlight
  cases held : ledger slot with
  | free => simp [held, slotState] at state
  | heldBy agent => simp [held, slotState] at state
  | away => rfl

omit [DecidableEq Thread] in
theorem refines_fresh {producer : DmaBufProducer Thread} (fresh : producer.Fresh) :
    Refines producer fun _ => .free where
  state slot state found := fresh.1 slot state found
  outside _ _ := rfl
  owner thread slot := by simp [fresh.2.1 thread, Pc.owns]

omit [DecidableEq Thread] in
theorem Refines.pool_update {before after : DmaBufProducer Thread} {ledger : Ledger Nat Thread}
    (refines : Refines before ledger) {slot : Nat} {holder : Holder Thread} {old : SlotState}
    (present : before.slotPool.state? slot = some old)
    (pool : after.slotPool = before.slotPool.setState slot (slotState holder))
    (owner : ∀ thread other, (after.pc thread).owns = some other ↔
      Function.update ledger slot holder other = .heldBy thread) :
    Refines after (Function.update ledger slot holder) where
  state other state found := by
    rw [pool] at found
    by_cases same : slot = other
    · subst other
      simpa [present, eq_comm] using found
    · rw [SlotPool.state?_setState_of_ne _ same] at found
      rw [Function.update_of_ne (Ne.symm same)]
      exact refines.state other state found
  outside other absent := by
    rw [pool] at absent
    have different : slot ≠ other := by
      intro same
      subst other
      simp [present] at absent
    rw [SlotPool.state?_setState_of_ne _ different] at absent
    rw [Function.update_of_ne (Ne.symm different)]
    exact refines.outside other absent
  owner := owner

omit [DecidableEq Thread] in
theorem Refines.owner_of_away {before : DmaBufProducer Thread} {ledger : Ledger Nat Thread}
    (refines : Refines before ledger) {slot : Nat} (away : ledger slot = .away)
    (thread : Thread) (other : Nat) :
    (before.pc thread).owns = some other ↔
      Function.update ledger slot .free other = .heldBy thread := by
  rw [refines.owner thread other]
  by_cases same : other = slot
  · subst other
    simp [away]
  · simp [same]

theorem Refines.owner_of_drop {before : DmaBufProducer Thread} {ledger : Ledger Nat Thread}
    (refines : Refines before ledger) {slot : Nat} {thread : Thread} {next : Holder Thread}
    (owns : (before.pc thread).owns = some slot) (nobody : ∀ agent, next ≠ .heldBy agent)
    (agent : Thread) (other : Nat) :
    (Function.update before.pc thread .idle agent).owns = some other ↔
      Function.update ledger slot next other = .heldBy agent := by
  have held := (refines.owner thread slot).mp owns
  by_cases self : agent = thread
  · subst agent
    by_cases same : other = slot
    · subst other
      simp [Pc.owns, nobody]
    · have elsewhere : ledger other ≠ .heldBy thread := by
        intro alsoHeld
        have alsoOwns := (refines.owner thread other).mpr alsoHeld
        rw [owns, Option.some.injEq] at alsoOwns
        exact same alsoOwns.symm
      simp [Pc.owns, same, elsewhere]
  · rw [Function.update_of_ne self, refines.owner agent other]
    by_cases same : other = slot
    · subst other
      simp [held, nobody, Ne.symm self]
    · simp [same]

theorem Refines.step {before after : DmaBufProducer Thread} {action : Action Thread}
    {ledger : Ledger Nat Thread} (refines : Refines before ledger)
    (stepped : before.step action = some after) :
    ∃ next, (next = ledger ∨ Ledger.Move ledger next) ∧ Refines after next := by
  cases step_effect stepped with
  | inner _ pool owns _ =>
      refine ⟨ledger, .inl rfl, ⟨?_, ?_, ?_⟩⟩
      · rw [pool]
        exact refines.state
      · rw [pool]
        exact refines.outside
      · intro thread slot
        rw [owns]
        exact refines.owner thread slot
  | @acquired thread args slot pc idle =>
      have free := refines.free idle
      refine ⟨Function.update ledger slot (.heldBy thread), .inr (.take slot thread free), ?_⟩
      apply refines.pool_update idle rfl
      intro agent other
      by_cases self : agent = thread
      · subst agent
        have unheld : ∀ index, ledger index ≠ .heldBy thread := by
          intro index held
          have owns := (refines.owner thread index).mpr held
          simp [pc, Pc.owns] at owns
        by_cases same : other = slot
        · simp [same, Pc.owns]
        · simp [same, Pc.owns, unheld, Ne.symm same]
      · rw [pc_goto, Function.update_of_ne self, pc_withPool, refines.owner agent other]
        by_cases same : other = slot
        · subst other
          simp [free, Ne.symm self]
        · simp [same]
  | @handsOver _ thread args slot _ owns _ =>
      refine ⟨ledger, .inl rfl, ⟨refines.state, refines.outside, ?_⟩⟩
      intro agent other
      by_cases self : agent = thread
      · subst agent
        rw [← refines.owner, owns]
        simp [Pc.owns]
      · simpa [self] using refines.owner agent other
  | @released _ slot _ onFlight =>
      have away := refines.away onFlight
      refine ⟨Function.update ledger slot .free, .inr (.comeBack slot away), ?_⟩
      exact refines.pool_update onFlight rfl (refines.owner_of_away away)
  | @submitted thread args slot pc inUse =>
      have owns : (before.pc thread).owns = some slot := by simp [pc, Pc.owns]
      have held := (refines.owner thread slot).mp owns
      refine ⟨Function.update ledger slot .away, .inr (.handOut slot thread held), ?_⟩
      exact refines.pool_update inUse rfl (refines.owner_of_drop owns (by simp))
  | @submitRefused thread args slot pc notInUse =>
      have owns : (before.pc thread).owns = some slot := by simp [pc, Pc.owns]
      exact absurd (refines.inUse owns) notInUse
  | @reverted thread slot error pc inUse =>
      have owns : (before.pc thread).owns = some slot := by simp [pc, Pc.owns]
      have held := (refines.owner thread slot).mp owns
      refine ⟨Function.update ledger slot .free, .inr (.putBack slot thread held), ?_⟩
      exact refines.pool_update inUse rfl (refines.owner_of_drop owns (by simp))
  | @revertRefused thread slot error pc notInUse =>
      have owns : (before.pc thread).owns = some slot := by simp [pc, Pc.owns]
      exact absurd (refines.inUse owns) notInUse

/-- Every reachable state of the producer refines a ledger that a history of moves leads to. -/
theorem reachable_refines {producer : DmaBufProducer Thread}
    (reachable : (machine Thread).Reachable producer) :
    ∃ ledger, Ledger.Possible ledger ∧ Refines producer ledger := by
  apply reachable.invariant fun state =>
    ∃ ledger, Ledger.Possible ledger ∧ Refines state ledger
  · intro state fresh
    exact ⟨_, .refl, refines_fresh fresh⟩
  · rintro state action after ⟨ledger, possible, refines⟩ stepped
    obtain ⟨next, moved, refined⟩ := refines.step stepped
    refine ⟨next, ?_, refined⟩
    rcases moved with same | move
    · exact same ▸ possible
    · exact possible.tail move

def ReturnsFalse (before after : DmaBufProducer Thread) (thread : Thread) : Prop :=
  before.pc thread ≠ .idle ∧ after.pc thread = .idle ∧
    ∃ error, after.result thread = some (.error error)

structure ExclusiveOwnership (producer : DmaBufProducer Thread) : Prop where
  owned : ∀ slot, producer.slotPool.state? slot = some .inUse →
    ∃! thread, (producer.pc thread).owns = some slot
  exclusive : ∀ thread other slot, (producer.pc thread).owns = some slot →
    (producer.pc other).owns = some slot → thread = other
  kept : ∀ action after thread slot, producer.step action = some after →
    (producer.pc thread).owns = some slot →
      (after.pc thread).owns = some slot ∨ after.pc thread = .idle
  rolledBack : ∀ action after thread slot, producer.step action = some after →
    producer.ReturnsFalse after thread → (producer.pc thread).owns = some slot →
      after.slotPool.state? slot = some .idle
  submits : ∀ thread after, producer.step (.submitSlot thread) = some after →
    ∃ slot, (producer.pc thread).handedOver = some slot ∧
      after.result thread = some (.ok (UInt32.ofNat slot)) ∧
      after.slotPool.state? slot = some .onFlight
  quiescent : producer.Quiescent → ∀ slot, producer.slotPool.state? slot ≠ some .inUse

omit [DecidableEq Thread] in
theorem Refines.owned {producer : DmaBufProducer Thread} {ledger : Ledger Nat Thread}
    (refines : Refines producer ledger) {slot : Nat}
    (inUse : producer.slotPool.state? slot = some .inUse) :
    ∃ thread, (producer.pc thread).owns = some slot := by
  have state := refines.state slot .inUse inUse
  cases held : ledger slot with
  | free => simp [held, slotState] at state
  | heldBy thread => exact ⟨thread, (refines.owner thread slot).mpr held⟩
  | away => simp [held, slotState] at state

omit [DecidableEq Thread] in
theorem Refines.exclusive {producer : DmaBufProducer Thread} {ledger : Ledger Nat Thread}
    (refines : Refines producer ledger) {thread other : Thread} {slot : Nat}
    (owns : (producer.pc thread).owns = some slot)
    (alsoOwns : (producer.pc other).owns = some slot) : thread = other := by
  have held := (refines.owner thread slot).mp owns
  rw [(refines.owner other slot).mp alsoOwns, Holder.heldBy.injEq] at held
  exact held.symm

theorem Effect.kept {before after : DmaBufProducer Thread} {action : Action Thread}
    (effect : Effect before action after) {thread : Thread} {slot : Nat}
    (owns : (before.pc thread).owns = some slot) :
    (after.pc thread).owns = some slot ∨ after.pc thread = .idle := by
  cases effect with
  | inner _ _ same _ => exact .inl ((same thread).trans owns)
  | @acquired actor _ _ pc _ =>
      by_cases self : thread = actor
      · simp [self, pc, Pc.owns] at owns
      · simp [self, owns]
  | @handsOver _ actor args other _ held _ =>
      by_cases self : thread = actor
      · subst thread
        rw [owns] at held
        simp [Pc.owns, held]
      · simp [self, owns]
  | released _ _ => exact .inl owns
  | @submitted actor _ _ _ _ | @reverted actor _ _ _ _ | @revertRefused actor _ _ _ _ =>
      by_cases self : thread = actor
      · simp [self]
      · simp [self, owns]
  | @submitRefused actor _ _ pc _ =>
      by_cases self : thread = actor
      · simp_all [Pc.owns]
      · simp [self, owns]

theorem idle_of_update {pc : Thread → Pc} {actor thread : Thread} {next : Pc}
    (busy : pc thread ≠ .idle) (idle : Function.update pc actor next thread = .idle) :
    thread = actor ∧ next = .idle := by
  by_cases self : thread = actor
  · subst actor
    exact ⟨rfl, by simpa using idle⟩
  · rw [Function.update_of_ne self] at idle
    exact absurd idle busy

theorem Effect.rolledBack {before after : DmaBufProducer Thread} {action : Action Thread}
    {ledger : Ledger Nat Thread} (refines : Refines before ledger)
    (effect : Effect before action after) {thread : Thread} {slot : Nat}
    (returned : before.ReturnsFalse after thread)
    (owns : (before.pc thread).owns = some slot) :
    after.slotPool.state? slot = some .idle := by
  obtain ⟨busy, idle, error, result⟩ := returned
  cases effect with
  | inner _ _ same _ =>
      have dropped := same thread
      rw [idle, owns] at dropped
      simp [Pc.owns] at dropped
  | acquired _ _ => simpa using (idle_of_update busy idle).2
  | handsOver _ _ _ => simpa using (idle_of_update busy idle).2
  | released _ _ => exact absurd idle busy
  | submitted _ _ =>
      obtain ⟨rfl, _⟩ := idle_of_update busy idle
      simp [returns] at result
  | submitRefused _ _ => simpa using (idle_of_update busy idle).2
  | @reverted actor other _ pc inUse =>
      obtain ⟨rfl, _⟩ := idle_of_update busy idle
      rw [pc, Pc.owns, Option.some.injEq] at owns
      subst other
      exact SlotPool.state?_setState_self .idle inUse
  | @revertRefused actor other _ pc notInUse =>
      have held : (before.pc actor).owns = some other := by simp [pc, Pc.owns]
      exact absurd (refines.inUse held) notInUse

theorem Refines.submits {before after : DmaBufProducer Thread} {ledger : Ledger Nat Thread}
    (refines : Refines before ledger) {thread : Thread}
    (stepped : before.step (.submitSlot thread) = some after) :
    ∃ args slot, before.pc thread = .submitSlot args slot ∧
      before.slotPool.state? slot = some .inUse ∧
      after = (before.withPool (before.slotPool.setState slot .onFlight)).returns thread
        (.ok (UInt32.ofNat slot)) := by
  simp only [DmaBufProducer.step] at stepped
  split at stepped
  · rename_i args slot pc
    have owns : (before.pc thread).owns = some slot := by simp [pc, Pc.owns]
    have inUse := refines.inUse owns
    rw [SlotPool.submitSlot, SlotPool.moveSlot_of_state .onFlight inUse] at stepped
    simp only [if_true, Option.some.injEq] at stepped
    exact ⟨args, slot, pc, inUse, stepped.symm⟩
  · simp at stepped

/-- Every slot in use belongs to exactly one call in progress, a failed call has
put its slot back, and a slot whose frame was handed over is always submitted. -/
theorem exclusiveOwnership {producer : DmaBufProducer Thread}
    (reachable : (machine Thread).Reachable producer) : producer.ExclusiveOwnership := by
  obtain ⟨ledger, _, refines⟩ := reachable_refines reachable
  constructor
  · intro slot inUse
    obtain ⟨thread, owns⟩ := refines.owned inUse
    exact ⟨thread, owns, fun other alsoOwns => refines.exclusive alsoOwns owns⟩
  · intro thread other slot owns alsoOwns
    exact refines.exclusive owns alsoOwns
  · intro action after thread slot stepped owns
    exact (step_effect stepped).kept owns
  · intro action after thread slot stepped returned owns
    exact (step_effect stepped).rolledBack refines returned owns
  · intro thread after stepped
    obtain ⟨args, slot, pc, inUse, rfl⟩ := refines.submits stepped
    exact ⟨slot, by simp [pc, Pc.handedOver], by simp [returns],
      SlotPool.state?_setState_self .onFlight inUse⟩
  · intro quiescent slot inUse
    obtain ⟨thread, owns⟩ := refines.owned inUse
    simp [quiescent thread, Pc.owns] at owns

theorem exclusiveOwnership_acquired : ∃ producer : DmaBufProducer (Fin 2),
    (producer.pc 0).owns = some 0 ∧ producer.slotPool.state? 0 = some .inUse ∧
      producer.ExclusiveOwnership := by
  let actions : List (Action (Fin 2)) := [.call 0 demoArgs, .lockPoll 0, .pollRelease 0 none,
    .acquireSlot 0, .call 1 demoArgs, .lockPoll 1]
  have reached : ((machine (Fin 2)).run (fun _ _ => True) (ofPool oneSlotPool false) actions).map
      (fun producer => ((producer.pc 0).owns, producer.slotPool.state? 0)) =
        some (some 0, some .inUse) := rfl
  obtain ⟨producer, ran, facts⟩ := Option.map_eq_some_iff.mp reached
  obtain ⟨owns, inUse⟩ := Prod.mk.inj facts
  exact ⟨producer, owns, inUse, exclusiveOwnership (fresh_oneSlotPool.reachable_run ran)⟩

end DmaBufProducer

end Iq9Pipeline.FrameCache
