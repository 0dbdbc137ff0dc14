import Iq9Pipeline.FrameCache.DirectLink

/-!
What one step of the direct link does to the program counter of a thread, to the packets on
their way and to the slots that they name. Nothing here needs releases to come in time: a
release that is lost only keeps its slot from being handed out again.
-/

namespace Iq9Pipeline.FrameCache

open Foundation

def Pc.args : Pc → Option FrameArgs
  | .idle | .revertSlot _ _ => none
  | .lockPoll args | .polling args | .acquireSlot args | .mapSlot args _ | .syncStart args _
  | .syncEnd args _ | .sendFrame args _ | .submitSlot args _ => some args

namespace DmaBufProducer

variable {Thread : Type} [DecidableEq Thread]

inductive Advance (relay : Bool) (thread : Thread) : Action Thread → Pc → Pc → Prop
  | stay (action pc) : Advance relay thread action pc pc
  | called (args) : Advance relay thread (.call thread args) .idle (.lockPoll args)
  | started (args slot) : Advance relay thread (.syncStart thread none) (.syncStart args slot)
      (.syncEnd args slot)
  | converted (args slot) : relay = false → Advance relay thread (.syncEnd thread none)
      (.syncEnd args slot) (.sendFrame args slot)
  | other {action before after} : (∀ args, after.args = some args → before.args = some args) →
      (∀ args slot, after ≠ .syncEnd args slot) → (∀ args slot, after ≠ .sendFrame args slot) →
      Advance relay thread action before after

section

variable {relay : Bool} {thread : Thread} {action : Action Thread} {before after : Pc}
  {args : FrameArgs} {slot : Nat}

omit [DecidableEq Thread] in
theorem Advance.withdrawn (gone : after.args = none) :
    Advance relay thread action before after := by
  refine .other (fun args known => ?_) (fun args slot now => ?_) (fun args slot now => ?_)
  · rw [gone] at known
    cases known
  all_goals
    rw [now] at gone
    cases gone

omit [DecidableEq Thread] in
theorem Advance.args_before (advance : Advance relay thread action before after)
    (known : after.args = some args) : before.args = some args ∨ action = .call thread args := by
  cases advance with
  | called given => exact .inr (by rw [Option.some.inj known])
  | other carried _ _ => exact .inl (carried args known)
  | _ => exact .inl known

omit [DecidableEq Thread] in
theorem Advance.before_syncEnd (advance : Advance relay thread action before after)
    (now : after = .syncEnd args slot) :
    before = .syncEnd args slot ∨ action = .syncStart thread none := by
  cases advance with
  | stay => exact .inl now
  | started => exact .inr rfl
  | other _ elsewhere _ => exact absurd now (elsewhere args slot)
  | _ => cases now

omit [DecidableEq Thread] in
theorem Advance.before_sendFrame (advance : Advance relay thread action before after)
    (now : after = .sendFrame args slot) : before = .sendFrame args slot ∨
      before = .syncEnd args slot ∧ action = .syncEnd thread none := by
  cases advance with
  | stay => exact .inl now
  | converted =>
      cases now
      exact .inr ⟨rfl, rfl⟩
  | other _ _ elsewhere => exact absurd now (elsewhere args slot)
  | _ => cases now

end

theorem advance_update {producer after : DmaBufProducer Thread} {action : Action Thread}
    {actor : Thread} {next : Pc}
    (moved : after.pc = Function.update producer.pc actor next)
    (own : Advance producer.relayMode actor action (producer.pc actor) next) (thread : Thread) :
    Advance producer.relayMode thread action (producer.pc thread) (after.pc thread) := by
  by_cases self : thread = actor
  · subst actor
    rw [moved, Function.update_self]
    exact own
  · rw [moved, Function.update_of_ne self]
    exact .stay _ _

theorem step_advance {before after : DmaBufProducer Thread} {action : Action Thread}
    (stepped : before.step action = some after) (thread : Thread) :
    Advance before.relayMode thread action (before.pc thread) (after.pc thread) := by
  cases action with
  | call actor args =>
      simp only [step] at stepped
      split at stepped <;> simp only [Option.some.injEq, reduceCtorEq] at stepped
      rename_i pc
      subst after
      exact advance_update rfl (pc ▸ .called args) thread
  | lockPoll actor =>
      simp only [step] at stepped
      split at stepped <;> simp only [Option.some.injEq, reduceCtorEq] at stepped
      rename_i args pc _
      subst after
      exact advance_update rfl (pc ▸ .other (fun _ => id) (by simp) (by simp)) thread
  | pollRelease actor received =>
      simp only [step] at stepped
      split at stepped
      · rename_i args pc
        split at stepped <;> obtain rfl := Option.some.inj stepped
        · exact .stay _ _
        · exact advance_update rfl (pc ▸ .other (fun _ => id) (by simp) (by simp)) thread
      · simp at stepped
  | acquireSlot actor =>
      simp only [step] at stepped
      split at stepped
      · rename_i args pc
        split at stepped <;> obtain rfl := Option.some.inj stepped
        · exact advance_update rfl (pc ▸ .withdrawn rfl) thread
        · exact advance_update rfl (pc ▸ .other (fun _ => id) (by simp) (by simp)) thread
      · simp at stepped
  | mapSlot actor =>
      simp only [step] at stepped
      split at stepped
      · rename_i args slot pc
        split at stepped <;> obtain rfl := Option.some.inj stepped
        · exact advance_update rfl (pc ▸ .withdrawn rfl) thread
        · exact advance_update rfl (pc ▸ .other (fun _ => id) (by simp) (by simp)) thread
      · simp at stepped
  | syncStart actor failure =>
      simp only [step] at stepped
      split at stepped <;> simp only [Option.some.injEq, reduceCtorEq] at stepped
      · rename_i args slot pc
        subst after
        exact advance_update rfl (pc ▸ .started args slot) thread
      · rename_i args slot reason pc
        subst after
        exact advance_update rfl (pc ▸ .withdrawn rfl) thread
  | syncEnd actor failure =>
      simp only [step] at stepped
      split at stepped <;> simp only [Option.some.injEq, reduceCtorEq] at stepped
      · rename_i args slot pc
        subst after
        cases mode : before.relayMode with
        | true =>
            rw [← mode]
            exact advance_update rfl (pc ▸ .other (fun _ => by simp [mode, Pc.args])
              (by simp [mode]) (by simp [mode])) thread
        | false =>
            rw [← mode]
            refine advance_update rfl ?_ thread
            rw [pc, mode]
            exact .converted args slot rfl
      · rename_i args slot reason pc
        subst after
        exact advance_update rfl (pc ▸ .withdrawn rfl) thread
  | sendFrame actor failure =>
      simp only [step] at stepped
      split at stepped <;> simp only [Option.some.injEq, reduceCtorEq] at stepped
      · rename_i args slot pc
        subst after
        exact advance_update rfl (pc ▸ .other (fun _ => id) (by simp) (by simp)) thread
      · rename_i args slot reason pc
        subst after
        exact advance_update rfl (pc ▸ .withdrawn rfl) thread
  | submitSlot actor =>
      simp only [step] at stepped
      split at stepped
      · rename_i args slot pc
        split at stepped <;> obtain rfl := Option.some.inj stepped
        · exact advance_update rfl (pc ▸ .withdrawn rfl) thread
        · exact advance_update rfl (pc ▸ .withdrawn rfl) thread
      · simp at stepped
  | revertSlot actor =>
      simp only [step] at stepped
      split at stepped <;> simp only [Option.some.injEq, reduceCtorEq] at stepped
      rename_i slot error pc
      subst after
      exact advance_update rfl (pc ▸ .withdrawn rfl) thread
  | releaseSlotDirect slotIndex =>
      obtain rfl := Option.some.inj stepped
      exact .stay _ _

end DmaBufProducer

namespace DirectLink

variable {Thread : Type} [DecidableEq Thread]

/-- What every step keeps, a lost release included: a slot is owed to the consumer once,
and only while it is in flight or handed over. -/
structure Accounted (link : DirectLink Thread) : Prop where
  direct : link.producer.relayMode = false
  magic : ∀ packet ∈ link.releases, packet.magic = iq9ReleaseMagic
  once : link.owed.Nodup
  outstanding : ∀ slot ∈ link.owed, link.producer.Outstanding slot

variable {link next : DirectLink Thread} {producer : DmaBufProducer Thread}
  {ledger : Ledger Nat Thread}

theorem Accounted.inside {action : Action Thread} (accounted : Accounted link)
    (refines : link.producer.Refines ledger)
    (moved : link.producer.step action = some producer)
    (keeps : ∀ thread, ¬ link.producer.HandsOver action thread)
    (silent : ∀ slot, ¬ DmaBufProducer.Releases action slot) :
    Accounted { link with producer := producer } where
  direct := (DmaBufProducer.step_effect moved).relayMode.trans accounted.direct
  magic := accounted.magic
  once := accounted.once
  outstanding slot member :=
    ((DmaBufProducer.step_effect moved).outstanding_iff refines keeps silent slot).mpr
      (accounted.outstanding slot member)

omit [DecidableEq Thread] in
theorem Accounted.reorder (accounted : Accounted link)
    (same : next.producer = link.producer) (owed : next.owed.Perm link.owed)
    (magic : ∀ packet ∈ next.releases, packet.magic = iq9ReleaseMagic) : Accounted next where
  direct := same ▸ accounted.direct
  magic := magic
  once := owed.nodup_iff.mpr accounted.once
  outstanding slot member := by
    rw [same]
    exact accounted.outstanding slot (owed.mem_iff.mp member)

theorem Accounted.sent {thread : Thread} (accounted : Accounted link)
    (refines : link.producer.Refines ledger)
    (moved : link.producer.step (.sendFrame thread none) = some producer) :
    Accounted { link with
      producer := producer, tasks := link.tasks ++ outgoing link.producer thread } := by
  obtain ⟨args, slot, pc, rfl⟩ := DmaBufProducer.step_sendFrame moved
  have owns : (link.producer.pc thread).owns = some slot := by simp [pc, Pc.owns]
  have bound := SlotPool.state?_bound (refines.inUse owns)
  have named : (UInt32.ofNat slot).toNat = slot :=
    UInt32.toNat_ofNat_of_lt' (Nat.lt_trans bound (by decide))
  obtain ⟨fresh, outstanding⟩ := refines.handsOver args owns
    (by simp [pc, Pc.handedOver])
  have appended : (owed { link with
      producer := link.producer.goto thread (.submitSlot args slot)
      tasks := link.tasks ++ outgoing link.producer thread }).Perm (slot :: link.owed) := by
    simp only [owed, outgoing, pc, taskPacket, List.map_append, List.map_cons, List.map_nil,
      named, List.append_assoc, List.singleton_append]
    exact List.perm_middle
  refine ⟨accounted.direct, accounted.magic, ?_, fun other member => ?_⟩
  · rw [appended.nodup_iff, List.nodup_cons]
    exact ⟨fun member => fresh (accounted.outstanding slot member), accounted.once⟩
  · rw [appended.mem_iff, List.mem_cons] at member
    exact (outstanding other).mpr (member.imp_right (accounted.outstanding other))

/-- A release that comes too early is lost, and its slot is never handed out again. -/
theorem Accounted.released {thread : Thread} {packet : IQ9ReleasePacket}
    {rest : List IQ9ReleasePacket} (accounted : Accounted link)
    (refines : link.producer.Refines ledger) (queue : link.releases = packet :: rest)
    (moved : link.producer.step (.pollRelease thread (some packet.toBytes)) = some producer) :
    Accounted { link with producer := producer, releases := rest } := by
  have removed : link.owed.Perm (packet.slotIndex.toNat ::
      owed { link with producer := producer, releases := rest }) := by
    simp only [owed, queue, List.map_cons, ← List.append_assoc]
    exact List.perm_middle
  have unique := List.nodup_cons.mp (removed.nodup_iff.mp accounted.once)
  have magic : ∀ member ∈ rest, member.magic = iq9ReleaseMagic := by
    intro member belongs
    exact accounted.magic member (by simp [queue, belongs])
  have polled := pollRelease_toBytes (accounted.magic packet (by simp [queue]))
  have after := DmaBufProducer.step_pollRelease polled moved
  have before : ∀ other ∈ owed { link with producer := producer, releases := rest },
      link.producer.Outstanding other := by
    intro other member
    exact accounted.outstanding other (removed.mem_iff.mpr (List.mem_cons_of_mem _ member))
  by_cases written : link.producer.slotPool.state? packet.slotIndex.toNat = some .inUse
  · rw [SlotPool.releaseSlot_of_not_onFlight (by simp [written]),
      DmaBufProducer.withPool_self] at after
    subst producer
    exact ⟨accounted.direct, magic, unique.2, before⟩
  · obtain ⟨onFlight, settled⟩ := refines.released
      (accounted.outstanding _ (removed.mem_iff.mpr List.mem_cons_self)) written
    have small := SlotPool.state?_bound onFlight
    have index : castInt packet.slotIndex = packet.slotIndex.toNat :=
      castInt_of_small (Nat.lt_trans small (by decide))
    rw [index, SlotPool.releaseSlot, SlotPool.moveSlot_of_state .idle onFlight] at after
    subst producer
    refine ⟨accounted.direct, magic, unique.2, fun other member => ?_⟩
    exact (settled other).mpr ⟨fun same => unique.1 (same ▸ member), before other member⟩

theorem Accounted.step {action : LinkAction Thread} (accounted : Accounted link)
    (refines : link.producer.Refines ledger) (stepped : link.step action = some next) :
    Accounted next := by
  cases action with
  | producer action =>
      obtain ⟨isLocal, mapped⟩ := Option.ite_none_right_eq_some.mp stepped
      obtain ⟨producer, moved, rfl⟩ := Option.map_eq_some_iff.mp mapped
      apply accounted.inside refines moved
      · rintro thread (rfl | ⟨relay, _⟩)
        · exact isLocal
        · simp [accounted.direct] at relay
      · rintro slot (⟨_, _, _, rfl, _⟩ | ⟨_, rfl, _⟩) <;> exact isLocal
  | pollRelease thread =>
      simp only [DirectLink.step] at stepped
      split at stepped
      · obtain ⟨producer, moved, rfl⟩ := Option.map_eq_some_iff.mp stepped
        apply accounted.inside refines moved
        · simp [DmaBufProducer.HandsOver]
        · exact fun _ => DmaBufProducer.not_releases_empty
      · rename_i packet rest queue
        obtain ⟨producer, moved, rfl⟩ := Option.map_eq_some_iff.mp stepped
        exact accounted.released refines queue moved
  | sendFrame thread failure =>
      obtain ⟨producer, moved, rfl⟩ := Option.map_eq_some_iff.mp stepped
      cases failure with
      | none => simpa using accounted.sent refines moved
      | some reason =>
          have failed := accounted.inside refines moved (by simp [DmaBufProducer.HandsOver])
            (by simp [DmaBufProducer.Releases])
          simpa using failed
  | recvFrame =>
      simp only [DirectLink.step] at stepped
      split at stepped
      · simp at stepped
      · rename_i packet rest queue
        obtain rfl := Option.some.inj stepped
        refine accounted.reorder rfl ?_ accounted.magic
        simp only [owed, queue, List.map_append, List.map_cons, List.map_nil,
          List.append_assoc, List.cons_append]
        rw [← List.append_assoc]
        exact List.perm_middle.trans (.of_eq (by simp))
  | releaseFrame position =>
      simp only [DirectLink.step] at stepped
      split at stepped
      · simp at stepped
      · rename_i packet found
        obtain rfl := Option.some.inj stepped
        obtain ⟨bound, same⟩ := List.getElem?_eq_some_iff.mp found
        have taken : (packet :: link.held.eraseIdx position).Perm link.held :=
          same ▸ List.getElem_cons_eraseIdx_perm bound
        refine accounted.reorder rfl ?_ ?_
        · have mapped := (taken.map fun packet => packet.slotIndex.toNat).symm
          simp only [owed, List.map_append, List.map_cons, List.map_nil]
          apply List.Perm.append_left
          rw [← List.append_assoc]
          exact (List.perm_append_singleton _ _).trans (mapped.append_right _).symm
        · intro member belongs
          rcases List.mem_append.mp belongs with old | new
          · exact accounted.magic member old
          · rw [List.mem_singleton.mp new]
            rfl

theorem reachable_accounted (reachable : (machine Thread).Reachable link) : Accounted link := by
  apply Machine.ReachableUnder.invariant Accounted _ _ reachable
  · intro link started
    have balanced := balanced_start started
    exact ⟨balanced.direct, balanced.magic, balanced.once,
      fun slot => (balanced.owed_iff slot).mp⟩
  · intro link action next earlier accounted _ stepped
    obtain ⟨_, _, refines⟩ := DmaBufProducer.reachable_refines (producer_reachable earlier)
    exact accounted.step refines stepped

theorem step_inner {action : Action Thread} (stepped : link.step (.producer action) = some next) :
    ∃ producer, link.producer.step action = some producer ∧
      next = { link with producer := producer } := by
  obtain ⟨_, mapped⟩ := Option.ite_none_right_eq_some.mp stepped
  obtain ⟨producer, moved, same⟩ := Option.map_eq_some_iff.mp mapped
  exact ⟨producer, moved, same.symm⟩

theorem step_producer {action : LinkAction Thread} (stepped : link.step action = some next) :
    next.producer = link.producer ∨ ∃ inner, link.producer.step inner = some next.producer ∧
      (action = .producer inner ∨ ∀ thread args failure, inner ≠ .call thread args ∧
        inner ≠ .syncStart thread failure ∧ inner ≠ .syncEnd thread failure) := by
  cases action with
  | producer action =>
      obtain ⟨producer, moved, rfl⟩ := step_inner stepped
      exact .inr ⟨action, moved, .inl rfl⟩
  | pollRelease thread =>
      simp only [DirectLink.step] at stepped
      split at stepped
      · obtain ⟨producer, moved, rfl⟩ := Option.map_eq_some_iff.mp stepped
        exact .inr ⟨_, moved, .inr fun _ _ _ => by simp⟩
      · obtain ⟨producer, moved, rfl⟩ := Option.map_eq_some_iff.mp stepped
        exact .inr ⟨_, moved, .inr fun _ _ _ => by simp⟩
  | sendFrame thread failure =>
      obtain ⟨producer, moved, rfl⟩ := Option.map_eq_some_iff.mp stepped
      exact .inr ⟨_, moved, .inr fun _ _ _ => by simp⟩
  | recvFrame =>
      simp only [DirectLink.step] at stepped
      split at stepped
      · simp at stepped
      · exact .inl (Option.some.inj stepped ▸ rfl)
  | releaseFrame position =>
      simp only [DirectLink.step] at stepped
      split at stepped
      · simp at stepped
      · exact .inl (Option.some.inj stepped ▸ rfl)

theorem step_packets {action : LinkAction Thread} (stepped : link.step action = some next)
    {packet : IQ9TaskPacket} (received : packet ∈ next.tasks ++ next.held) :
    packet ∈ link.tasks ++ link.held ∨ ∃ thread args slot,
      link.producer.pc thread = .sendFrame args slot ∧ packet = taskPacket args slot := by
  cases action with
  | producer action =>
      obtain ⟨producer, moved, rfl⟩ := step_inner stepped
      exact .inl received
  | pollRelease thread =>
      simp only [DirectLink.step] at stepped
      split at stepped
      · obtain ⟨producer, moved, rfl⟩ := Option.map_eq_some_iff.mp stepped
        exact .inl received
      · obtain ⟨producer, moved, rfl⟩ := Option.map_eq_some_iff.mp stepped
        exact .inl received
  | sendFrame thread failure =>
      obtain ⟨producer, moved, rfl⟩ := Option.map_eq_some_iff.mp stepped
      cases failure with
      | none =>
          obtain ⟨args, slot, pc, _⟩ := DmaBufProducer.step_sendFrame moved
          simp only [if_true, outgoing, pc, List.mem_append, List.mem_singleton] at received
          rcases received with (waiting | new) | held
          · exact .inl (List.mem_append_left _ waiting)
          · exact .inr ⟨thread, args, slot, pc, new⟩
          · exact .inl (List.mem_append_right _ held)
      | some reason => exact .inl received
  | recvFrame =>
      simp only [DirectLink.step] at stepped
      split at stepped
      · simp at stepped
      · rename_i first rest queue
        obtain rfl := Option.some.inj stepped
        left
        simp only [queue, List.mem_append, List.mem_cons] at received ⊢
        tauto
  | releaseFrame position =>
      simp only [DirectLink.step] at stepped
      split at stepped
      · simp at stepped
      · obtain rfl := Option.some.inj stepped
        rcases List.mem_append.mp received with waiting | held
        · exact .inl (List.mem_append_left _ waiting)
        · exact .inl (List.mem_append_right _ (List.mem_of_mem_eraseIdx held))

end DirectLink

end Iq9Pipeline.FrameCache
