import Iq9Pipeline.MultiCam.TimingMarkInvariants
import Mathlib.Logic.Relation

/-!
The runs of the timing marks. `UnregisterChannel` decides, waits and erases in three holds
of the mutex, and what happens between them decides whether an event is lost.
-/

namespace Iq9Pipeline.MultiCam.TimingMarks

open Foundation

variable {system next : System} {label : Step}

structure Consistent (system : System) : Prop where
  started : system.runtime.worker = .notStarted →
    ∀ channelId, system.runtime.channels channelId = none
  counted : Counted system
  referenced : Referenced system
  ledgered : Ledgered system
  recorders : Recorders system

theorem consistent_initial : Consistent initial where
  started _ _ := rfl
  counted _ := rfl
  referenced _ := ⟨rfl, rfl⟩
  ledgered := rfl
  recorders := ⟨nofun, nofun, nofun, nofun, List.Pairwise.nil⟩

theorem Consistent.effect (consistent : Consistent system) (quiet : Quiet system label)
    (effect : Effect system label next) : Consistent next := by
  refine ⟨?_, consistent.counted.effect quiet effect, consistent.referenced.effect quiet effect,
    consistent.ledgered.effect quiet effect, consistent.recorders.effect quiet effect⟩
  have started := consistent.started
  cases effect with
  | refused => exact fun absent => absurd absent (TimingMarkRuntime.ensureWorkerLocked_started _)
  | registeredAgain =>
      exact fun absent => absurd absent (TimingMarkRuntime.ensureWorkerLocked_started _)
  | registeredNew =>
      exact fun absent => absurd absent (TimingMarkRuntime.ensureWorkerLocked_started _)
  | counted _ present _ =>
      intro absent
      rw [started absent] at present
      cases present
  | erased _ present =>
      intro absent
      rw [started absent] at present
      cases present
  | taken => exact Worker.noConfusion
  | recorded => exact Worker.noConfusion
  | finished => exact Worker.noConfusion
  | _ => exact started

theorem consistent_run (reachable : machine.ReachableUnder Quiet system) :
    Consistent system := by
  apply reachable.invariant Consistent
  · rintro system rfl
    exact consistent_initial
  · intro system label next _ consistent quiet stepped
    exact consistent.effect quiet (effect_of_step stepped)

inductive WorkerStep (system following : System) : Prop
  | takeEvent : system.step .takeEvent = some following → WorkerStep system following
  | recordEvent : system.step .recordEvent = some following → WorkerStep system following
  | finishEvent : system.step .finishEvent = some following → WorkerStep system following

theorem WorkerStep.consistent (stepped : WorkerStep system next)
    (consistent : Consistent system) : Consistent next := by
  cases stepped with
  | takeEvent stepped =>
      have quiet : Quiet system .takeEvent := trivial
      exact consistent.effect quiet (effect_of_step stepped)
  | recordEvent stepped =>
      have quiet : Quiet system .recordEvent := trivial
      exact consistent.effect quiet (effect_of_step stepped)
  | finishEvent stepped =>
      have quiet : Quiet system .finishEvent := trivial
      exact consistent.effect quiet (effect_of_step stepped)

def System.work (system : System) : Nat :=
  3 * system.runtime.events.length +
    match system.runtime.worker with
    | .recording .. => 2
    | .recorded _ => 1
    | _ => 0

/-- The worker is never stuck, and each of its steps is one less. -/
theorem Consistent.works (consistent : Consistent system) :
    system.undelivered = [] ∨
      ∃ next : System, WorkerStep system next ∧ next.submitted = system.submitted ∧
        next.work < system.work := by
  rw [System.undelivered]
  cases stands : system.runtime.worker with
  | notStarted =>
      left
      cases queued : system.runtime.events with
      | nil => rfl
      | cons event rest =>
          obtain ⟨state, present⟩ := consistent.ledgered.registered_of_queued
            (queued ▸ List.mem_cons_self)
          rw [consistent.started stands] at present
          cases present
  | waiting =>
      cases queued : system.runtime.events with
      | nil =>
          left
          rfl
      | cons event rest =>
          right
          refine ⟨{ system with runtime := { system.runtime with
            events := rest
            worker := .recording event (recorderOf system.runtime.channels event.channelId)
            activeWorkers := system.runtime.activeWorkers + 1 } }, .takeEvent ?_, rfl, ?_⟩
          · rw [System.step, TimingMarkRuntime.takeEvent, stands, queued]
            rfl
          · simp only [System.work, stands, queued, List.length_cons]
            omega
  | recording event recorder =>
      right
      refine ⟨{ system with
        runtime := { system.runtime with worker := .recorded event }
        calls := system.calls ++
          recorder.toList.map fun recorder => .recordStageTimestamp recorder event },
        .recordEvent ?_, rfl, ?_⟩
      · simp only [System.step, System.recordEvent, stands]
      · simp only [System.work, stands]
        omega
  | recorded event =>
      right
      refine ⟨{ system with runtime := { system.runtime with
        worker := .waiting
        inFlightCounts :=
          TimingMarkRuntime.countDown system.runtime.inFlightCounts event.channelId
        activeWorkers :=
          if 0 < system.runtime.activeWorkers then system.runtime.activeWorkers - 1
          else system.runtime.activeWorkers } }, .finishEvent ?_, rfl, ?_⟩
      · rw [System.step, TimingMarkRuntime.finishEvent, stands]
        rfl
      · simp only [System.work, stands]
        omega

theorem withRecorder_injective : Function.Injective withRecorder := by
  intro first second same
  simp only [withRecorder, Prod.mk.injEq, Option.some.injEq] at same
  exact Prod.ext same.1 same.2

theorem Ledgered.delivered (ledgered : Ledgered system) :
    ∃ rest, system.submitted = system.delivered ++ rest ∧
      rest.map withRecorder = system.undelivered := by
  obtain ⟨front, rest, whole, before, behind⟩ := List.map_eq_append_iff.mp ledgered
  obtain rfl := withRecorder_injective.list_map before
  exact ⟨rest, whole, behind⟩

theorem Consistent.drains (consistent : Consistent system) :
    ∃ final : System, Relation.ReflTransGen WorkerStep system final ∧
      final.delivered = system.submitted := by
  induction left : system.work using Nat.strongRecOn generalizing system with
  | ind work ih =>
      subst left
      rcases consistent.works with done | ⟨next, stepped, same, fewer⟩
      · obtain ⟨rest, whole, behind⟩ := consistent.ledgered.delivered
        rw [done, List.map_eq_nil_iff] at behind
        rw [behind, List.append_nil] at whole
        exact ⟨system, .refl, whole.symm⟩
      · obtain ⟨final, worked, drained⟩ := ih _ fewer (stepped.consistent consistent) rfl
        exact ⟨final, .head stepped worked, by rw [drained, same]⟩

/-- Every registered channel is present. The events that were queued are recorded once each,
in order, by the recorder that the channel had; those that are not yet are queued or in the
worker's hand, and the worker gets to them. No recorder is called once it is closed. The
counts are the numbers of events that are queued or processed. -/
structure System.Exact (system : System) : Prop where
  present : ∀ channelId, system.unregistered channelId < system.registered channelId →
    (system.runtime.channels channelId).isSome
  delivered : ∃ rest, system.submitted = system.delivered ++ rest ∧
    rest.map Prod.fst = system.runtime.worker.inHand.map Prod.fst ++ system.runtime.events
  drains : ∃ final : System, Relation.ReflTransGen WorkerStep system final ∧
    final.delivered = system.submitted
  ordered : system.calls.Pairwise fun first second =>
    ∀ recorder event, first = .close recorder → second ≠ .recordStageTimestamp recorder event
  counted : ∀ channelId,
    system.runtime.inFlight channelId = system.pendingEvents channelId

theorem Referenced.present (referenced : Referenced system) {channelId : UInt32}
    (outstanding : system.unregistered channelId < system.registered channelId) :
    (system.runtime.channels channelId).isSome := by
  rw [Option.isSome_iff_ne_none]
  intro absent
  have balanced := (referenced.of_none absent).1
  omega

theorem exact_run : ∀ system, machine.ReachableUnder Quiet system → system.Exact := by
  intro system reachable
  have consistent := consistent_run reachable
  constructor
  · intro channelId outstanding
    exact consistent.referenced.present outstanding
  · obtain ⟨rest, whole, behind⟩ := consistent.ledgered.delivered
    refine ⟨rest, whole, ?_⟩
    have events := congrArg (List.map Prod.fst) behind
    rw [System.undelivered, List.map_append, List.map_map, List.map_map] at events
    simpa [Function.comp_def, withRecorder] using events
  · exact consistent.drains
  · exact consistent.recorders.ordered
  · exact consistent.counted

instance decidableQuiet : ∀ system label, Decidable (Quiet system label)
  | system, .registerChannel config _ =>
      inferInstanceAs (Decidable (∀ state ∈ system.runtime.channels config.channelId,
        state.refCount.toNat + 1 < 2 ^ 32))
  | system, .submit event =>
      inferInstanceAs (Decidable (system.runtime.inFlight event.channelId + 1 < 2 ^ 64))
  | system, .eraseChannel channelId =>
      inferInstanceAs (Decidable (∀ state ∈ system.runtime.channels channelId,
        state.refCount ≤ 1 ∧ ∀ event ∈ system.runtime.events, event.channelId ≠ channelId))
  | system, .close recorder =>
      inferInstanceAs (Decidable (∀ held ∈ system.runtime.worker.inHand,
        held.2 ≠ some recorder))
  | _, .unregisterChannel _ => isTrue trivial
  | _, .waited _ => isTrue trivial
  | _, .takeEvent => isTrue trivial
  | _, .recordEvent => isTrue trivial
  | _, .finishEvent => isTrue trivial

def frontCamera : Config :=
  ⟨0, "/tmp/latency", 1, true⟩

def frontFrame : StageEvent :=
  ⟨0, .trackerSink, 7, 1000⟩

theorem reachable_initial (allowed : System → Step → Prop) :
    machine.ReachableUnder allowed initial :=
  .start rfl

theorem exact_run_frontCamera : ∃ system : System, system.submitted = [(frontFrame, 0)] ∧
    system.runtime.channels 0 = none ∧ system.Exact := by
  obtain ⟨system, _, reachable, shown⟩ := (reachable_initial Quiet).exists_run
    [.registerChannel frontCamera true, .submit frontFrame, .unregisterChannel 0, .takeEvent,
      .recordEvent, .finishEvent, .waited 0, .eraseChannel 0, .close 0]
    (fun system => decide (system.submitted = [(frontFrame, 0)]) &&
      (system.runtime.channels 0).isNone) (by decide +kernel)
  rw [Bool.and_eq_true, decide_eq_true_eq, Option.isNone_iff_eq_none] at shown
  exact ⟨system, shown.1, shown.2, exact_run system reachable⟩

/-- The channel is registered again while a call that has decided to erase it waits. -/
theorem registeredWhileLeaving : ¬∀ system, machine.Reachable system → system.Exact := by
  intro exact_always
  obtain ⟨system, _, reachable, shown⟩ := (reachable_initial fun _ _ => True).exists_run
    [.registerChannel frontCamera true, .unregisterChannel 0, .registerChannel frontCamera true,
      .waited 0, .submit frontFrame, .eraseChannel 0]
    (fun system => decide (system.unregistered 0 < system.registered 0) &&
      (system.runtime.channels 0).isNone) (by decide +kernel)
  rw [Bool.and_eq_true, decide_eq_true_eq, Option.isNone_iff_eq_none] at shown
  have present := (exact_always system reachable).present 0 shown.1
  rw [shown.2] at present
  cases present

end Iq9Pipeline.MultiCam.TimingMarks
