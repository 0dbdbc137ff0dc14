import Iq9Pipeline.FrameCache.SlotLedger

/-!
Which slots somebody other than the producer's threads is busy with, and how each
action changes that. Both modes of the slot protocol account for these slots.
-/

namespace Iq9Pipeline.FrameCache

open Foundation

namespace DmaBufProducer

variable {Thread : Type} [DecidableEq Thread]

def Outstanding (producer : DmaBufProducer Thread) (slot : Nat) : Prop :=
  producer.slotPool.state? slot = some .onFlight ∨
    ∃ thread, (producer.pc thread).handedOver = some slot

theorem handedOver_update {pc : Thread → Pc} {actor : Thread} {next : Pc} {slot : Nat}
    (before : (pc actor).handedOver ≠ some slot) (after : next.handedOver ≠ some slot) :
    (∃ thread, (Function.update pc actor next thread).handedOver = some slot) ↔
      ∃ thread, (pc thread).handedOver = some slot := by
  constructor
  · rintro ⟨thread, handed⟩
    by_cases self : thread = actor
    · subst actor
      exact absurd (by simpa using handed) after
    · exact ⟨thread, by simpa [self] using handed⟩
  · rintro ⟨thread, handed⟩
    have other : thread ≠ actor := fun self => before (self ▸ handed)
    exact ⟨thread, by simpa [other] using handed⟩

theorem Effect.outstanding_iff {before after : DmaBufProducer Thread} {action : Action Thread}
    {ledger : Ledger Nat Thread} (refines : Refines before ledger)
    (effect : Effect before action after) (keeps : ∀ thread, ¬ before.HandsOver action thread)
    (silent : ∀ slot, ¬ Releases action slot) (slot : Nat) :
    after.Outstanding slot ↔ before.Outstanding slot := by
  unfold Outstanding
  cases effect with
  | inner _ pool _ same => simp only [pool, same]
  | @acquired thread args other pc idle =>
      exact or_congr (SlotPool.state?_setState_iff idle (by simp) (by simp) slot)
        (handedOver_update (by simp [pc, Pc.handedOver]) (by simp [Pc.handedOver]))
  | handsOver hands _ _ => exact absurd hands (keeps _)
  | released releases _ => exact absurd releases (silent _)
  | @submitted thread args other pc inUse =>
      by_cases same : slot = other
      · -- The one slot that changes sides: handed over before, in flight after.
        subst other
        exact iff_of_true (.inl (SlotPool.state?_setState_self .onFlight inUse))
          (.inr ⟨thread, by simp [pc, Pc.handedOver]⟩)
      · refine or_congr ?_ (handedOver_update ?_ (by simp [Pc.handedOver]))
        · simp [Ne.symm same]
        · simpa [pc, Pc.handedOver] using Ne.symm same
  | @submitRefused thread _ slot pc notInUse =>
      have owns : (before.pc thread).owns = some slot := by simp [pc, Pc.owns]
      exact absurd (refines.inUse owns) notInUse
  | @reverted thread other error pc inUse =>
      exact or_congr (SlotPool.state?_setState_iff inUse (by simp) (by simp) slot)
        (handedOver_update (by simp [pc, Pc.handedOver]) (by simp [Pc.handedOver]))
  | @revertRefused thread other error pc _ =>
      exact or_congr Iff.rfl
        (handedOver_update (by simp [pc, Pc.handedOver]) (by simp [Pc.handedOver]))

theorem Effect.onFlight_iff {before after : DmaBufProducer Thread} {action : Action Thread}
    (effect : Effect before action after) (keeps : ∀ thread, action ≠ .submitSlot thread)
    (silent : ∀ slot, ¬ Releases action slot) (slot : Nat) :
    after.slotPool.state? slot = some .onFlight ↔ before.slotPool.state? slot = some .onFlight := by
  cases effect with
  | inner _ pool _ _ => rw [pool]
  | acquired _ idle => exact SlotPool.state?_setState_iff idle (by simp) (by simp) slot
  | handsOver _ _ _ => exact Iff.rfl
  | released releases _ => exact absurd releases (silent _)
  | submitted _ _ => exact absurd rfl (keeps _)
  | submitRefused _ _ => exact Iff.rfl
  | reverted _ inUse => exact SlotPool.state?_setState_iff inUse (by simp) (by simp) slot
  | revertRefused _ _ => exact Iff.rfl

omit [DecidableEq Thread] in
theorem not_releases_empty {thread : Thread} {slot : Nat} :
    ¬ Releases (.pollRelease thread none) slot := by
  rintro (⟨_, _, packet, polled, received, _⟩ | ⟨_, direct, _⟩)
  · cases polled
    simp [FrameCache.pollRelease] at received
  · cases direct

theorem Refines.handsOver {before : DmaBufProducer Thread} {ledger : Ledger Nat Thread}
    (refines : Refines before ledger) {thread : Thread} (args : FrameArgs) {slot : Nat}
    (owns : (before.pc thread).owns = some slot)
    (notYet : (before.pc thread).handedOver = none) :
    ¬ before.Outstanding slot ∧ ∀ other,
      (before.goto thread (.submitSlot args slot)).Outstanding other ↔
        other = slot ∨ before.Outstanding other := by
  have inUse := refines.inUse owns
  refine ⟨?_, fun other => ?_⟩
  · rintro (onFlight | ⟨holder, handed⟩)
    · simp [inUse] at onFlight
    · have same := refines.exclusive (Pc.owns_of_handedOver handed) owns
      simp [same, notYet] at handed
  · by_cases same : other = slot
    · exact iff_of_true (.inr ⟨thread, by simp [Pc.handedOver, same]⟩) (.inl same)
    · rw [or_iff_right same]
      exact or_congr Iff.rfl (handedOver_update (by simp [notYet])
        (by simpa [Pc.handedOver] using Ne.symm same))

omit [DecidableEq Thread] in
/-- An outstanding slot that no thread still writes is in flight, and releasing it
settles exactly that slot. -/
theorem Refines.released {before : DmaBufProducer Thread} {ledger : Ledger Nat Thread}
    (refines : Refines before ledger) {slot : Nat} (outstanding : before.Outstanding slot)
    (written : before.slotPool.state? slot ≠ some .inUse) :
    before.slotPool.state? slot = some .onFlight ∧ ∀ other,
      (before.withPool (before.slotPool.setState slot .idle)).Outstanding other ↔
        other ≠ slot ∧ before.Outstanding other := by
  have nobody : ∀ thread, (before.pc thread).handedOver ≠ some slot := fun thread handed =>
    written (refines.inUse (Pc.owns_of_handedOver handed))
  have onFlight : before.slotPool.state? slot = some .onFlight :=
    outstanding.resolve_right fun ⟨thread, handed⟩ => nobody thread handed
  refine ⟨onFlight, fun other => ?_⟩
  by_cases same : other = slot
  · subst other
    simp [Outstanding, onFlight, nobody]
  · simp [Outstanding, same, Ne.symm same]

end DmaBufProducer

end Iq9Pipeline.FrameCache
