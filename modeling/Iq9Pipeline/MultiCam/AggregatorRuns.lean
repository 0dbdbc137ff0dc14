import Iq9Pipeline.MultiCam.Aggregator
import Mathlib.Data.List.Infix

/-!
What every run of the aggregator keeps: the counter against the queue, the counts
against the calls, the items against the batches, and the shape of the batches.
-/

namespace Iq9Pipeline.MultiCam

open Foundation

section Phases

variable {calls : List Call} {call : Nat} {old : CallPhase}

def countCalls (calls : List Call) (counted : CallPhase → Bool) : Nat :=
  calls.countP fun entry => counted entry.phase

theorem exists_of_phase? (found : phase? calls call = some old) :
    ∃ producer, calls[call]? = some ⟨producer, old⟩ := by
  obtain ⟨⟨producer, phase⟩, listed, rfl⟩ := Option.map_eq_some_iff.mp found
  exact ⟨producer, listed⟩

theorem countCalls_setPhase (counted : CallPhase → Bool) (found : phase? calls call = some old)
    (phase : CallPhase) :
    countCalls (setPhase calls call phase) counted + (counted old).toNat =
      countCalls calls counted + (counted phase).toNat := by
  obtain ⟨producer, listed⟩ := exists_of_phase? found
  obtain ⟨bound, entry⟩ := List.getElem?_eq_some_iff.mp listed
  have kept : countCalls calls counted =
      countCalls (calls.eraseIdx call) counted + (counted old).toNat := by
    rw [countCalls, ← (List.getElem_cons_eraseIdx_perm bound).countP_eq, List.countP_cons, entry]
    cases counted old <;> rfl
  have changed : countCalls (setPhase calls call phase) counted =
      countCalls (calls.eraseIdx call) counted + (counted phase).toNat := by
    have updated : setPhase calls call phase = calls.set call ⟨producer, phase⟩ := by
      rw [setPhase, List.modify_eq_set_getElem?, listed]
      rfl
    rw [countCalls, updated, (List.set_perm_cons_eraseIdx bound _).countP_eq, List.countP_cons]
    cases counted phase <;> rfl
  omega

theorem countCalls_stay {counted : CallPhase → Bool} (found : phase? calls call = some old)
    (phase : CallPhase) (same : counted phase = counted old) :
    countCalls (setPhase calls call phase) counted = countCalls calls counted := by
  have moved := countCalls_setPhase counted found phase
  rw [same] at moved
  exact Nat.add_right_cancel moved

theorem countCalls_enter (counted : CallPhase → Bool) (found : phase? calls call = some old)
    (phase : CallPhase) (before : counted old = false) (after : counted phase = true) :
    countCalls (setPhase calls call phase) counted = countCalls calls counted + 1 := by
  have moved := countCalls_setPhase counted found phase
  rwa [before, after] at moved

theorem countCalls_leave (counted : CallPhase → Bool) (found : phase? calls call = some old)
    (phase : CallPhase) (before : counted old = true) (after : counted phase = false) :
    countCalls (setPhase calls call phase) counted + 1 = countCalls calls counted := by
  have moved := countCalls_setPhase counted found phase
  rwa [before, after] at moved

theorem phase?_setPhase (found : phase? calls call = some old) (phase : CallPhase) (other : Nat) :
    phase? (setPhase calls call phase) other =
      if other = call then some phase else phase? calls other := by
  rw [phase?, setPhase, List.getElem?_modify]
  by_cases same : call = other
  · subst same
    obtain ⟨producer, listed⟩ := exists_of_phase? found
    simp [listed]
  · simp [same, Ne.symm same, phase?]

theorem producer_setPhase (calls : List Call) (call : Nat) (phase : CallPhase) :
    (setPhase calls call phase).map Call.producer = calls.map Call.producer := by
  refine List.ext_getElem? fun index => ?_
  rw [setPhase, List.getElem?_map, List.getElem?_map, List.getElem?_modify]
  cases calls[index]? with
  | none => rfl
  | some entry => by_cases same : call = index <;> simp [same]

end Phases

variable {config : AggregatorConfig} {agg next : Aggregator} {label : AggregatorStep}

namespace Aggregator

def Taking (config : AggregatorConfig) (agg : Aggregator) (next : ConsumerPhase) : Prop :=
  agg.consumer = .waiting ∧ next = .counting ∨
    agg.consumer = .filling ∧ agg.batch.length < config.batchSize.toNat ∧ next = .counting ∨
    agg.consumer = .draining ∧ next = .countingRest

def Passing (config : AggregatorConfig) (agg : Aggregator) (next : ConsumerPhase) : Prop :=
  agg.consumer = .checking ∧ next = (if agg.stopRequested then .draining else .waiting) ∨
    agg.consumer = .waiting ∧ next = .deciding ∨
    agg.consumer = .filling ∧ next = .deciding ∨
    agg.consumer = .deciding ∧ next = .checking ∧ agg.batch.length < config.batchSize.toNat ∧
      (agg.stopRequested = true → agg.batch = []) ∨
    agg.consumer = .draining ∧ next = .finishing ∧ agg.queue = [] ∨
    agg.consumer = .finishing ∧ next = .exited ∧ agg.batch = []

def Publishing (config : AggregatorConfig) (agg : Aggregator) (next : ConsumerPhase) : Prop :=
  agg.consumer = .deciding ∧ next = .checking ∧
      (config.batchSize.toNat ≤ agg.batch.length ∨ agg.stopRequested = true ∧ agg.batch ≠ []) ∨
    agg.consumer = .finishing ∧ next = .exited ∧ agg.batch ≠ []

inductive Effect (config : AggregatorConfig) (agg : Aggregator) :
    AggregatorStep → Aggregator → Prop
  | called (producer : Nat) :
      Effect config agg (.tryEnqueue producer)
        { agg with calls := agg.calls ++ [⟨producer, .loading⟩] }
  | retried {step : AggregatorStep} (call : Nat) (old : CallPhase) (cur : UInt64)
      (found : phase? agg.calls call = some old)
      (searching : old = .loading ∨ ∃ seen, old = .comparing seen) :
      Effect config agg step { agg with calls := setPhase agg.calls call (.comparing cur) }
  | dropped {step : AggregatorStep} (call : Nat) (seen : UInt64)
      (found : phase? agg.calls call = some (.comparing seen)) :
      Effect config agg step
        { agg with
          calls := setPhase agg.calls call .dropped
          droppedCount := agg.droppedCount + 1 }
  | admitted {step : AggregatorStep} (call : Nat)
      (found : phase? agg.calls call = some (.comparing agg.currentSize))
      (room : agg.currentSize < config.queueCapacity.toUInt64) :
      Effect config agg step
        { agg with
          calls := setPhase agg.calls call .admitted
          currentSize := agg.currentSize + 1 }
  | inserted (call : Nat) (found : phase? agg.calls call = some .admitted) :
      Effect config agg (.enqueue call)
        { agg with
          calls := setPhase agg.calls call .inserted
          queue := agg.queue ++ [call]
          entered := agg.entered ++ [call] }
  | counted (call : Nat) (found : phase? agg.calls call = some .inserted) :
      Effect config agg (.count call)
        { agg with
          calls := setPhase agg.calls call .accepted
          enqueuedCount := agg.enqueuedCount + 1 }
  | took (index call : Nat) (phase : ConsumerPhase) (found : agg.queue[index]? = some call)
      (taking : agg.Taking config phase) :
      Effect config agg (.consume (some index))
        { agg with
          queue := agg.queue.eraseIdx index
          batch := agg.batch ++ [call]
          consumer := phase }
  | subtracted (phase : ConsumerPhase) (counting : agg.consumer = .counting ∧ phase = .filling ∨
        agg.consumer = .countingRest ∧ phase = .draining) :
      Effect config agg (.consume none) (agg.subtract phase)
  | passed (phase : ConsumerPhase) (passing : agg.Passing config phase) :
      Effect config agg (.consume none) { agg with consumer := phase }
  | published (phase : ConsumerPhase) (publishing : agg.Publishing config phase) :
      Effect config agg (.consume none) (agg.publishBatch phase)
  | stopRequested (running : agg.owner = .running) :
      Effect config agg .requestStop { agg with stopRequested := true, owner := .joining }
  | joined (joining : agg.owner = .joining) (exited : agg.consumer = .exited) :
      Effect config agg .join { agg with owner := .stopped }
  | restarted (stopped : agg.owner = .stopped) :
      Effect config agg .start
        { agg with
          stopRequested := false
          consumer := .checking
          batch := []
          owner := .running
          published := []
          earlier := agg.earlier ++ agg.published }

theorem Effect.ofTake {config : AggregatorConfig} {agg next : Aggregator} {index : Nat}
    {phase : ConsumerPhase} (taking : agg.Taking config phase)
    (taken : agg.take index phase = some next) :
    Effect config agg (.consume (some index)) next := by
  obtain ⟨call, found, rfl⟩ := Option.map_eq_some_iff.mp taken
  exact .took index call phase found taking

theorem Effect.ofConsume {config : AggregatorConfig} {agg next : Aggregator}
    {taken : Option Nat} (consumed : agg.consume config taken = some next) :
    Effect config agg (.consume taken) next := by
  cases phase : agg.consumer with
  | checking =>
      cases taken with
      | none =>
          simp only [consume, phase, Option.some.injEq] at consumed
          exact consumed ▸ .passed _ (.inl ⟨phase, rfl⟩)
      | some index => simp [consume, phase] at consumed
  | waiting =>
      cases taken with
      | none =>
          simp only [consume, phase, Option.some.injEq] at consumed
          exact consumed ▸ .passed _ (.inr (.inl ⟨phase, rfl⟩))
      | some index =>
          simp only [consume, phase] at consumed
          exact .ofTake (.inl ⟨phase, rfl⟩) consumed
  | counting =>
      cases taken with
      | none =>
          simp only [consume, phase, Option.some.injEq] at consumed
          exact consumed ▸ .subtracted _ (.inl ⟨phase, rfl⟩)
      | some index => simp [consume, phase] at consumed
  | filling =>
      cases taken with
      | none =>
          simp only [consume, phase, Option.ite_none_left_eq_some, Option.some.injEq] at consumed
          exact consumed.2 ▸ .passed _ (.inr (.inr (.inl ⟨phase, rfl⟩)))
      | some index =>
          simp only [consume, phase, Option.ite_none_right_eq_some] at consumed
          exact .ofTake (.inr (.inl ⟨phase, consumed.1, rfl⟩)) consumed.2
  | deciding =>
      cases taken with
      | none =>
          simp only [consume, phase] at consumed
          split at consumed
          · rename_i due
            rw [Option.some.injEq] at consumed
            exact consumed ▸ .published _ (.inl ⟨phase, rfl, due⟩)
          · rename_i early
            rw [not_or, not_le, not_and, not_not] at early
            rw [Option.some.injEq] at consumed
            exact consumed ▸ .passed _ (.inr (.inr (.inr (.inl ⟨phase, rfl, early⟩))))
      | some index => simp [consume, phase] at consumed
  | draining =>
      cases taken with
      | none =>
          simp only [consume, phase, Option.ite_none_right_eq_some, Option.some.injEq] at consumed
          exact consumed.2 ▸
            .passed _ (.inr (.inr (.inr (.inr (.inl ⟨phase, rfl, consumed.1⟩)))))
      | some index =>
          simp only [consume, phase] at consumed
          exact .ofTake (.inr (.inr ⟨phase, rfl⟩)) consumed
  | countingRest =>
      cases taken with
      | none =>
          simp only [consume, phase, Option.some.injEq] at consumed
          exact consumed ▸ .subtracted _ (.inr ⟨phase, rfl⟩)
      | some index => simp [consume, phase] at consumed
  | finishing =>
      cases taken with
      | none =>
          simp only [consume, phase, Option.some.injEq] at consumed
          split at consumed
          · rename_i rest
            exact consumed ▸ .published _ (.inr ⟨phase, rfl, rest⟩)
          · rename_i empty
            exact consumed ▸
              .passed _ (.inr (.inr (.inr (.inr (.inr ⟨phase, rfl, not_not.mp empty⟩)))))
      | some index => simp [consume, phase] at consumed
  | exited => cases taken <;> simp [consume, phase] at consumed

theorem step_effect {config : AggregatorConfig} {agg next : Aggregator} {label : AggregatorStep}
    (stepped : agg.step config label = some next) : Effect config agg label next := by
  cases label with
  | tryEnqueue producer =>
      simp only [step, Option.ite_none_left_eq_some, Option.some.injEq] at stepped
      exact stepped.2 ▸ .called producer
  | load call =>
      simp only [step] at stepped
      split at stepped
      · rename_i found
        rw [Option.some.injEq] at stepped
        exact stepped ▸ .retried call _ _ found (.inl rfl)
      · simp at stepped
  | compareExchange call spurious =>
      simp only [step] at stepped
      split at stepped
      · rename_i cur found
        split at stepped
        · rw [Option.some.injEq] at stepped
          exact stepped ▸ .dropped call cur found
        · rename_i room
          split at stepped
          · rename_i same
            rw [Option.some.injEq] at stepped
            rw [← same.1] at found room stepped
            exact stepped ▸ .admitted call found (UInt64.not_le.mp room)
          · rw [Option.some.injEq] at stepped
            exact stepped ▸ .retried call _ _ found (.inr ⟨cur, rfl⟩)
      · simp at stepped
  | enqueue call =>
      simp only [step] at stepped
      split at stepped
      · rename_i found
        rw [Option.some.injEq] at stepped
        exact stepped ▸ .inserted call found
      · simp at stepped
  | count call =>
      simp only [step] at stepped
      split at stepped
      · rename_i found
        rw [Option.some.injEq] at stepped
        exact stepped ▸ .counted call found
      · simp at stepped
  | consume taken => exact .ofConsume stepped
  | requestStop =>
      simp only [step, Option.ite_none_right_eq_some, Option.some.injEq] at stepped
      exact stepped.2 ▸ .stopRequested stepped.1
  | join =>
      simp only [step, Option.ite_none_right_eq_some, Option.some.injEq] at stepped
      exact stepped.2 ▸ .joined stepped.1.1 stepped.1.2
  | start =>
      simp only [step, Option.ite_none_right_eq_some, Option.some.injEq] at stepped
      exact stepped.2 ▸ .restarted stepped.1

def isAdmitted (phase : CallPhase) : Bool :=
  phase = .admitted

def holding (phase : ConsumerPhase) : Nat :=
  if phase = .counting ∨ phase = .countingRest then 1 else 0

structure Sized (config : AggregatorConfig) (agg : Aggregator) : Prop where
  size : agg.currentSize.toNat =
    agg.queue.length + countCalls agg.calls isAdmitted + holding agg.consumer
  bound : agg.currentSize ≤ config.queueCapacity.toUInt64

def leaving (phase : ConsumerPhase) : Bool :=
  phase = .draining || phase = .countingRest || phase = .finishing || phase = .exited

structure Staged (agg : Aggregator) : Prop where
  flag : agg.stopRequested = decide (agg.owner ≠ .running)
  left : leaving agg.consumer = true → agg.stopRequested = true
  stopped : agg.owner = .stopped → agg.consumer = .exited
  exited : agg.consumer = .exited → agg.batch = []

theorem Taking.holding {phase : ConsumerPhase} (taking : agg.Taking config phase) :
    Aggregator.holding agg.consumer = 0 ∧ Aggregator.holding phase = 1 := by
  rcases taking with ⟨now, rfl⟩ | ⟨now, _, rfl⟩ | ⟨now, rfl⟩ <;> rw [now] <;> exact ⟨rfl, rfl⟩

theorem Passing.holding {phase : ConsumerPhase} (passing : agg.Passing config phase) :
    Aggregator.holding agg.consumer = 0 ∧ Aggregator.holding phase = 0 := by
  rcases passing with ⟨now, rfl⟩ | ⟨now, rfl⟩ | ⟨now, rfl⟩ | ⟨now, rfl, _⟩ | ⟨now, rfl, _⟩ |
    ⟨now, rfl, _⟩ <;> rw [now]
  · cases agg.stopRequested <;> exact ⟨rfl, rfl⟩
  all_goals exact ⟨rfl, rfl⟩

theorem Publishing.holding {phase : ConsumerPhase} (publishing : agg.Publishing config phase) :
    Aggregator.holding agg.consumer = 0 ∧ Aggregator.holding phase = 0 := by
  rcases publishing with ⟨now, rfl, _⟩ | ⟨now, rfl, _⟩ <;> rw [now] <;> exact ⟨rfl, rfl⟩

theorem Taking.leaving {phase : ConsumerPhase} (taking : agg.Taking config phase) :
    Aggregator.leaving phase = Aggregator.leaving agg.consumer ∧ agg.consumer ≠ .exited ∧
      phase ≠ .exited := by
  rcases taking with ⟨now, rfl⟩ | ⟨now, _, rfl⟩ | ⟨now, rfl⟩ <;> rw [now] <;> decide

theorem Passing.leaving {phase : ConsumerPhase} (passing : agg.Passing config phase) :
    (Aggregator.leaving phase = true →
        Aggregator.leaving agg.consumer = true ∨ agg.stopRequested = true) ∧
      agg.consumer ≠ .exited ∧ (phase = .exited → agg.batch = []) := by
  rcases passing with ⟨now, rfl⟩ | ⟨now, rfl⟩ | ⟨now, rfl⟩ | ⟨now, rfl, _⟩ | ⟨now, rfl, _⟩ |
    ⟨now, rfl, empty⟩ <;> rw [now]
  · cases flag : agg.stopRequested with
    | true => exact ⟨fun _ => .inr rfl, by decide, nofun⟩
    | false => exact ⟨nofun, by decide, nofun⟩
  · exact ⟨nofun, by decide, nofun⟩
  · exact ⟨nofun, by decide, nofun⟩
  · exact ⟨nofun, by decide, nofun⟩
  · exact ⟨fun _ => .inl rfl, by decide, nofun⟩
  · exact ⟨fun _ => .inl rfl, by decide, fun _ => empty⟩

theorem Publishing.leaving {phase : ConsumerPhase} (publishing : agg.Publishing config phase) :
    (Aggregator.leaving phase = true → Aggregator.leaving agg.consumer = true) ∧
      agg.consumer ≠ .exited := by
  rcases publishing with ⟨now, rfl, _⟩ | ⟨now, rfl, _⟩ <;> rw [now] <;> decide

theorem Staged.step (staged : Staged agg) (effect : Effect config agg label next) :
    Staged next := by
  obtain ⟨flag, left, stopped, exited⟩ := staged
  cases effect with
  | took index call phase found taking =>
      obtain ⟨same, before, after⟩ := taking.leaving
      refine ⟨flag, ?_, fun settled => absurd (stopped settled) before,
        fun now => absurd now after⟩
      dsimp only
      rwa [same]
  | subtracted phase counting =>
      rcases counting with ⟨now, rfl⟩ | ⟨now, rfl⟩
      · refine ⟨flag, nofun, fun settled => ?_, nofun⟩
        exact absurd ((stopped settled).symm.trans now) (by decide)
      · refine ⟨flag, fun _ => left (by rw [now]; rfl), fun settled => ?_, nofun⟩
        exact absurd ((stopped settled).symm.trans now) (by decide)
  | passed phase passing =>
      obtain ⟨leaves, before, empty⟩ := passing.leaving
      exact ⟨flag, fun now => (leaves now).elim left id,
        fun settled => absurd (stopped settled) before, empty⟩
  | published phase publishing =>
      obtain ⟨leaves, before⟩ := publishing.leaving
      exact ⟨flag, fun now => left (leaves now),
        fun settled => absurd (stopped settled) before, fun _ => rfl⟩
  | stopRequested running => exact ⟨rfl, fun _ => rfl, nofun, exited⟩
  | joined joining settled =>
      refine ⟨?_, left, fun _ => settled, exited⟩
      rw [flag, joining]
      rfl
  | restarted settled => exact ⟨rfl, nofun, nofun, nofun⟩
  | _ => exact ⟨flag, left, stopped, exited⟩

theorem Sized.step (sized : Sized config agg) (staged : Staged agg)
    (effect : Effect config agg label next) :
    Sized config next := by
  obtain ⟨size, bound⟩ := sized
  cases effect with
  | called producer =>
      refine ⟨?_, bound⟩
      simpa [countCalls, isAdmitted] using size
  | retried call old cur found searching =>
      refine ⟨?_, bound⟩
      dsimp only
      rw [countCalls_stay found (.comparing cur)]
      · exact size
      · rcases searching with rfl | ⟨seen, rfl⟩ <;> rfl
  | dropped call seen found =>
      refine ⟨?_, bound⟩
      dsimp only
      rw [countCalls_stay found .dropped rfl]
      exact size
  | admitted call found room =>
      have moved := countCalls_enter isAdmitted found .admitted rfl rfl
      have small := UInt64.lt_iff_toNat_lt.mp room
      have wide := config.queueCapacity.toUInt64.toNat_lt
      have grown : (agg.currentSize + 1).toNat = agg.currentSize.toNat + 1 := by
        rw [UInt64.toNat_add, UInt64.toNat_one]
        omega
      constructor
      · dsimp only
        omega
      · rw [UInt64.le_iff_toNat_le, grown]
        exact small
  | inserted call found =>
      have moved := countCalls_leave isAdmitted found .inserted rfl rfl
      refine ⟨?_, bound⟩
      dsimp only
      rw [List.length_append, List.length_singleton]
      omega
  | counted call found =>
      refine ⟨?_, bound⟩
      dsimp only
      rw [countCalls_stay found .accepted rfl]
      exact size
  | took index call phase found taking =>
      obtain ⟨here, _⟩ := List.getElem?_eq_some_iff.mp found
      have removed := List.length_eraseIdx_add_one here
      obtain ⟨before, after⟩ := taking.holding
      refine ⟨?_, bound⟩
      dsimp only
      omega
  | subtracted phase counting =>
      have held : holding agg.consumer = 1 ∧ holding phase = 0 := by
        rcases counting with ⟨now, rfl⟩ | ⟨now, rfl⟩ <;> rw [now] <;> exact ⟨rfl, rfl⟩
      have positive : 1 ≤ agg.currentSize := by
        rw [UInt64.le_iff_toNat_le, UInt64.toNat_one]
        omega
      have shrunk := UInt64.toNat_sub_of_le _ _ positive
      rw [UInt64.toNat_one] at shrunk
      rw [UInt64.le_iff_toNat_le] at bound
      constructor
      · dsimp only [subtract]
        omega
      · dsimp only [subtract]
        rw [UInt64.le_iff_toNat_le]
        omega
  | passed phase passing =>
      obtain ⟨before, after⟩ := passing.holding
      refine ⟨?_, bound⟩
      dsimp only
      omega
  | published phase publishing =>
      obtain ⟨before, after⟩ := publishing.holding
      refine ⟨?_, bound⟩
      dsimp only [publishBatch]
      omega
  | stopRequested running => exact ⟨size, bound⟩
  | joined joining exited => exact ⟨size, bound⟩
  | restarted settled =>
      have nothing : holding agg.consumer = 0 := by
        rw [staged.stopped settled]
        rfl
      refine ⟨?_, bound⟩
      dsimp only
      rw [size, nothing]
      rfl

structure Accounted (agg : Aggregator) : Prop where
  enqueued : agg.enqueuedCount = UInt64.ofNat (countCalls agg.calls fun phase => phase = .accepted)
  dropped : agg.droppedCount = UInt64.ofNat (countCalls agg.calls fun phase => phase = .dropped)

theorem Accounted.step (accounted : Accounted agg) (effect : Effect config agg label next) :
    Accounted next := by
  obtain ⟨enqueued, dropped⟩ := accounted
  cases effect with
  | called producer =>
      constructor
      · simpa [countCalls] using enqueued
      · simpa [countCalls] using dropped
  | retried call old cur found searching =>
      have searches : old ≠ .accepted ∧ old ≠ .dropped := by
        rcases searching with rfl | ⟨seen, rfl⟩ <;> exact ⟨nofun, nofun⟩
      constructor
      · dsimp only
        rw [enqueued, countCalls_stay found (.comparing cur) (by simp [searches.1])]
      · dsimp only
        rw [dropped, countCalls_stay found (.comparing cur) (by simp [searches.2])]
  | dropped call seen found =>
      constructor
      · dsimp only
        rw [enqueued, countCalls_stay found .dropped rfl]
      · dsimp only
        rw [dropped, countCalls_enter _ found .dropped rfl rfl]
        simp
  | admitted call found room =>
      constructor
      · dsimp only
        rw [enqueued, countCalls_stay found .admitted rfl]
      · dsimp only
        rw [dropped, countCalls_stay found .admitted rfl]
  | inserted call found =>
      constructor
      · dsimp only
        rw [enqueued, countCalls_stay found .inserted rfl]
      · dsimp only
        rw [dropped, countCalls_stay found .inserted rfl]
  | counted call found =>
      constructor
      · dsimp only
        rw [enqueued, countCalls_enter _ found .accepted rfl rfl]
        simp
      · dsimp only
        rw [dropped, countCalls_stay found .accepted rfl]
  | _ => exact ⟨enqueued, dropped⟩

theorem returned_add (calls : List Call)
    (returned : ∀ call ∈ calls, call.phase.returned = true) :
    countCalls calls (fun phase => phase = .accepted) +
      countCalls calls (fun phase => phase = .dropped) = calls.length := by
  induction calls with
  | nil => rfl
  | cons call calls ih =>
      rw [List.forall_mem_cons] at returned
      have rest := ih returned.2
      obtain ⟨producer, phase⟩ := call
      have ends := returned.1
      simp only [CallPhase.returned, Bool.or_eq_true, decide_eq_true_eq] at ends
      simp only [countCalls, List.countP_cons, List.length_cons] at rest ⊢
      rcases ends with rfl | rfl <;> simp <;> omega

theorem Accounted.total (accounted : Accounted agg) (quiet : agg.Quiet) :
    agg.enqueuedCount + agg.droppedCount = UInt64.ofNat agg.calls.length := by
  rw [accounted.enqueued, accounted.dropped, ← UInt64.ofNat_add, returned_add _ quiet]

def inside (agg : Aggregator) : List Nat :=
  agg.publishedItems ++ agg.batch ++ agg.queue

structure Conserved (agg : Aggregator) : Prop where
  kept : agg.inside.Perm agg.entered
  distinct : agg.entered.Nodup
  member : ∀ call, call ∈ agg.entered ↔
    ∃ phase, phase? agg.calls call = some phase ∧ phase.handedOver = true

theorem publishedItems_publishBatch (agg : Aggregator) (phase : ConsumerPhase) :
    (agg.publishBatch phase).publishedItems = agg.publishedItems ++ agg.batch := by
  simp [publishedItems, batches, publishBatch]

end Aggregator

theorem phase?_append (calls : List Call) (entry : Call) (call : Nat) :
    phase? (calls ++ [entry]) call =
      if call = calls.length then some entry.phase else phase? calls call := by
  rw [phase?, List.getElem?_append, phase?]
  by_cases last : call = calls.length
  · simp [last]
  · by_cases bound : call < calls.length
    · simp [bound, last]
    · rw [if_neg bound, if_neg last, List.getElem?_eq_none (Nat.le_of_not_lt bound),
        List.getElem?_eq_none (by simp; omega)]

theorem handedOver_setPhase {calls : List Call} {call : Nat} {old : CallPhase}
    (found : phase? calls call = some old) (phase : CallPhase)
    (same : phase.handedOver = old.handedOver) (other : Nat) :
    (∃ now, phase? (setPhase calls call phase) other = some now ∧ now.handedOver = true) ↔
      ∃ now, phase? calls other = some now ∧ now.handedOver = true := by
  rw [phase?_setPhase found]
  by_cases here : other = call
  · subst here
    simp [found, same]
  · simp [here]

namespace Aggregator

theorem Conserved.step (conserved : Conserved agg) (staged : Staged agg)
    (effect : Effect config agg label next) : Conserved next := by
  obtain ⟨kept, distinct, member⟩ := conserved
  cases effect with
  | called producer =>
      refine ⟨kept, distinct, fun call => ?_⟩
      dsimp only
      rw [member, phase?_append]
      by_cases last : call = agg.calls.length
      · simp [last, phase?, CallPhase.handedOver]
      · simp [last]
  | retried call old cur found searching =>
      refine ⟨kept, distinct, fun other => (member other).trans
        (handedOver_setPhase found (.comparing cur) ?_ other).symm⟩
      rcases searching with rfl | ⟨seen, rfl⟩ <;> rfl
  | dropped call seen found =>
      exact ⟨kept, distinct, fun other => (member other).trans
        (handedOver_setPhase found .dropped rfl other).symm⟩
  | admitted call found room =>
      exact ⟨kept, distinct, fun other => (member other).trans
        (handedOver_setPhase found .admitted rfl other).symm⟩
  | inserted call found =>
      have absent : call ∉ agg.entered := by
        rw [member, found]
        rintro ⟨_, ⟨⟩, handed⟩
        exact Bool.false_ne_true handed
      refine ⟨?_, ?_, fun other => ?_⟩
      · have grown := kept.append_right [call]
        rwa [inside, List.append_assoc _ agg.queue] at grown
      · refine List.nodup_append.mpr ⟨distinct, by simp, ?_⟩
        rintro other earlier _ here rfl
        exact absent (List.mem_singleton.mp here ▸ earlier)
      · dsimp only
        rw [List.mem_append, member, phase?_setPhase found, List.mem_singleton]
        by_cases here : other = call
        · simp [here, CallPhase.handedOver]
        · simp [here]
  | counted call found =>
      exact ⟨kept, distinct, fun other => (member other).trans
        (handedOver_setPhase found .accepted rfl other).symm⟩
  | took index call phase found taking =>
      refine ⟨?_, distinct, member⟩
      obtain ⟨bound, same⟩ := List.getElem?_eq_some_iff.mp found
      have moved := List.getElem_cons_eraseIdx_perm bound
      rw [same] at moved
      have whole := moved.append_left (agg.publishedItems ++ agg.batch)
      refine List.Perm.trans ?_ (whole.trans kept)
      rw [inside]
      dsimp only
      rw [← List.append_assoc, List.append_assoc _ [call]]
      rfl
  | published phase publishing =>
      refine ⟨?_, distinct, member⟩
      rw [inside, publishedItems_publishBatch]
      simpa [publishBatch, inside] using kept
  | restarted settled =>
      refine ⟨?_, distinct, member⟩
      have empty := staged.exited (staged.stopped settled)
      rw [inside, empty] at kept
      simpa [inside, publishedItems, batches] using kept
  | _ => exact ⟨kept, distinct, member⟩

end Aggregator

def producerOf (calls : List Call) (call : Nat) : Option Nat :=
  (calls.map Call.producer)[call]?

def fromProducer (calls : List Call) (producer : Nat) (items : List Nat) : List Nat :=
  items.filter fun call => producerOf calls call = some producer

theorem fromProducer_setPhase (calls : List Call) (call : Nat) (phase : CallPhase)
    (producer : Nat) (items : List Nat) :
    fromProducer (setPhase calls call phase) producer items =
      fromProducer calls producer items := by
  have same : producerOf (setPhase calls call phase) = producerOf calls := by
    funext other
    rw [producerOf, producer_setPhase, producerOf]
  rw [fromProducer, same, fromProducer]

theorem fromProducer_append_call {calls : List Call} {items : List Nat}
    (known : ∀ call ∈ items, call < calls.length) (entry : Call) (producer : Nat) :
    fromProducer (calls ++ [entry]) producer items = fromProducer calls producer items := by
  refine List.filter_congr fun call member => ?_
  rw [producerOf, List.map_append, List.getElem?_append_left (by simpa using known call member)]
  rfl

theorem filter_eraseIdx_of_not {α : Type} (chosen : α → Bool) {items : List α} {index : Nat}
    {item : α} (found : items[index]? = some item) (skipped : chosen item = false) :
    (items.eraseIdx index).filter chosen = items.filter chosen := by
  obtain ⟨bound, rfl⟩ := List.getElem?_eq_some_iff.mp found
  conv_rhs => rw [← List.take_append_drop index items, List.drop_eq_getElem_cons bound]
  rw [List.eraseIdx_eq_take_drop_succ, List.filter_append, List.filter_append,
    List.filter_cons_of_neg (by simp [skipped])]

theorem filter_eraseIdx_of_first {α : Type} (chosen : α → Bool) {items : List α} {index : Nat}
    {item : α} (found : items[index]? = some item) (taken : chosen item = true)
    (first : ∀ other ∈ items.take index, chosen other = false) :
    items.filter chosen = item :: (items.eraseIdx index).filter chosen := by
  obtain ⟨bound, rfl⟩ := List.getElem?_eq_some_iff.mp found
  have nothing : (items.take index).filter chosen = [] := by
    rw [List.filter_eq_nil_iff]
    intro other member
    simp [first other member]
  conv_lhs => rw [← List.take_append_drop index items, List.drop_eq_getElem_cons bound]
  rw [List.eraseIdx_eq_take_drop_succ, List.filter_append, List.filter_append, nothing,
    List.filter_cons_of_pos taken]
  rfl

namespace Aggregator

/-- The queue is first in, first out for each producer. -/
def fifo (agg : Aggregator) : AggregatorStep → Bool
  | .consume (some index) =>
      (agg.queue.take index).all fun other =>
        agg.queue[index]?.all fun call => producerOf agg.calls other != producerOf agg.calls call
  | _ => true

def Ordered (agg : Aggregator) : Prop :=
  ∀ producer, fromProducer agg.calls producer agg.inside =
    fromProducer agg.calls producer agg.entered

theorem Conserved.known (conserved : Conserved agg) : ∀ call ∈ agg.entered,
    call < agg.calls.length := by
  intro call member
  obtain ⟨phase, found, _⟩ := (conserved.member call).mp member
  obtain ⟨producer, listed⟩ := exists_of_phase? found
  exact (List.getElem?_eq_some_iff.mp listed).1

theorem Ordered.step (ordered : Ordered agg) (conserved : Conserved agg) (staged : Staged agg)
    (fair : agg.fifo label = true) (effect : Effect config agg label next) : Ordered next := by
  intro producer
  have order := ordered producer
  cases effect with
  | called other =>
      have known := conserved.known
      have knownInside : ∀ call ∈ agg.inside, call < agg.calls.length :=
        fun call member => known call (conserved.kept.mem_iff.mp member)
      exact (fromProducer_append_call knownInside _ _).trans
        (order.trans (fromProducer_append_call known _ _).symm)
  | retried call old cur found searching =>
      simp only [fromProducer_setPhase]
      exact order
  | dropped call seen found =>
      simp only [fromProducer_setPhase]
      exact order
  | admitted call found room =>
      simp only [fromProducer_setPhase]
      exact order
  | inserted call found =>
      simp only [fromProducer_setPhase]
      simp only [fromProducer, inside] at order ⊢
      change List.filter _ (agg.publishedItems ++ agg.batch ++ (agg.queue ++ [call])) = _
      rw [← List.append_assoc, List.filter_append, order, List.filter_append]
  | counted call found =>
      simp only [fromProducer_setPhase]
      exact order
  | took index call phase found taking =>
      rw [← order]
      simp only [fromProducer, inside]
      change List.filter _ (agg.publishedItems ++ (agg.batch ++ [call]) ++
        agg.queue.eraseIdx index) = _
      by_cases own : producerOf agg.calls call = some producer
      · have first : ∀ other ∈ agg.queue.take index,
            decide (producerOf agg.calls other = some producer) = false := by
          intro other member
          have differs := List.all_eq_true.mp fair other member
          rw [found, Option.all_some, bne_iff_ne, own] at differs
          exact decide_eq_false differs
        have front := filter_eraseIdx_of_first
          (fun call => producerOf agg.calls call = some producer) found
          (decide_eq_true own) first
        simp [front, own]
      · have kept := filter_eraseIdx_of_not
          (fun call => producerOf agg.calls call = some producer) found
          (decide_eq_false own)
        simp [kept, own]
  | published phase publishing =>
      rw [inside, publishedItems_publishBatch]
      simp only [inside, publishBatch, List.append_nil] at order ⊢
      exact order
  | restarted settled =>
      have empty := staged.exited (staged.stopped settled)
      rw [inside, empty] at order
      simpa [inside, publishedItems, batches] using order
  | _ => exact order

def oddBatches (config : AggregatorConfig) (published : List Batch) : Nat :=
  published.countP fun batch => batch.items.length ≠ config.batchSize.toNat

theorem oddBatches_publishBatch (phase : ConsumerPhase) :
    oddBatches config (agg.publishBatch phase).published =
      oddBatches config agg.published +
        if agg.batch.length = config.batchSize.toNat then 0 else 1 := by
  rw [oddBatches, publishBatch, List.countP_append, oddBatches, List.countP_singleton]
  by_cases whole : agg.batch.length = config.batchSize.toNat <;> simp [whole]

def oddLimit (consumer : ConsumerPhase) (stopRequested : Bool) : Nat :=
  if consumer = .exited then 2
  else if leaving consumer = true ∨ consumer = .checking ∧ stopRequested = true then 1
  else 0

structure Shaped (config : AggregatorConfig) (agg : Aggregator) : Prop where
  whole : ∀ batch ∈ agg.batches, batch.items ≠ [] ∧
    (batch.stopRequested = false → batch.items.length = config.batchSize.toNat)
  short : agg.consumer = .checking ∨ agg.consumer = .waiting →
    agg.batch.length < config.batchSize.toNat
  fits : leaving agg.consumer = false → agg.batch.length ≤ config.batchSize.toNat
  odd : oddBatches config agg.published ≤ oddLimit agg.consumer agg.stopRequested

theorem Shaped.publish (shaped : Shaped config agg) (staged : Staged agg)
    {phase : ConsumerPhase} (publishing : agg.Publishing config phase)
    (positive : 0 < config.batchSize.toNat) : Shaped config (agg.publishBatch phase) := by
  obtain ⟨whole, short, fits, odd⟩ := shaped
  have whole' : (agg.batch ≠ [] ∧
      (agg.stopRequested = false → agg.batch.length = config.batchSize.toNat)) →
      ∀ batch ∈ (agg.publishBatch phase).batches, batch.items ≠ [] ∧
        (batch.stopRequested = false → batch.items.length = config.batchSize.toNat) := by
    intro fresh batch member
    simp only [batches, publishBatch, ← List.append_assoc, List.mem_append,
      List.mem_singleton] at member
    rcases member with before | rfl
    · exact whole batch (List.mem_append.mpr before)
    · exact fresh
  rcases publishing with ⟨now, rfl, due⟩ | ⟨now, rfl, rest⟩
  · have limit : oddLimit agg.consumer agg.stopRequested = 0 := by simp [oddLimit, now, leaving]
    have room := fits (by rw [now]; rfl)
    rw [limit] at odd
    have full : agg.batch.length ≠ config.batchSize.toNat → agg.stopRequested = true := by
      rcases due with reached | ⟨requested, _⟩
      · exact fun differs => absurd (le_antisymm room reached) differs
      · exact fun _ => requested
    refine ⟨whole' ⟨?_, ?_⟩, fun _ => positive, fun _ => Nat.zero_le _, ?_⟩
    · rcases due with reached | ⟨_, filled⟩
      · rw [← List.length_pos_iff]
        omega
      · exact filled
    · intro running
      by_contra differs
      rw [full differs] at running
      exact Bool.true_eq_false.mp running
    · rw [oddBatches_publishBatch]
      by_cases differs : agg.batch.length = config.batchSize.toNat
      · rw [if_pos differs]
        exact odd.trans (Nat.zero_le _)
      · have limit' : oddLimit .checking agg.stopRequested = 1 := by simp [oddLimit, full differs]
        change _ ≤ oddLimit .checking agg.stopRequested
        rw [if_neg differs, limit']
        omega
  · have requested := staged.left (by rw [now]; rfl)
    have limit : oddLimit agg.consumer agg.stopRequested = 1 := by simp [oddLimit, now, leaving]
    rw [limit] at odd
    refine ⟨whole' ⟨rest, fun running => ?_⟩, nofun, nofun, ?_⟩
    · rw [requested] at running
      exact absurd running (by decide)
    · rw [oddBatches_publishBatch]
      change _ ≤ 2
      split <;> omega

theorem Shaped.moved (shaped : Shaped config agg) (earlier : next.earlier = agg.earlier)
    (published : next.published = agg.published)
    (short : next.consumer = .checking ∨ next.consumer = .waiting →
      next.batch.length < config.batchSize.toNat)
    (fits : leaving next.consumer = false → next.batch.length ≤ config.batchSize.toNat)
    (limit : oddLimit agg.consumer agg.stopRequested ≤
      oddLimit next.consumer next.stopRequested) : Shaped config next := by
  refine ⟨?_, short, fits, ?_⟩
  · rw [batches, earlier, published]
    exact shaped.whole
  · rw [published]
    exact shaped.odd.trans limit

theorem Shaped.step (shaped : Shaped config agg) (staged : Staged agg)
    (positive : 0 < config.batchSize.toNat) (effect : Effect config agg label next) :
    Shaped config next := by
  cases effect with
  | published phase publishing => exact shaped.publish staged publishing positive
  | took index call phase found taking =>
      rcases taking with ⟨now, rfl⟩ | ⟨now, room, rfl⟩ | ⟨now, rfl⟩
      · refine shaped.moved rfl rfl nofun ?_ ?_
        · intro _
          rw [List.length_append]
          exact shaped.short (.inr now)
        · simp [oddLimit, now, leaving]
      · refine shaped.moved rfl rfl nofun ?_ ?_
        · intro _
          rw [List.length_append]
          exact room
        · simp [oddLimit, now, leaving]
      · refine shaped.moved rfl rfl nofun nofun ?_
        simp [oddLimit, now, leaving]
  | subtracted phase counting =>
      rcases counting with ⟨now, rfl⟩ | ⟨now, rfl⟩
      · refine shaped.moved rfl rfl nofun ?_ ?_
        · exact fun _ => shaped.fits (by rw [now]; rfl)
        · simp [oddLimit, now, leaving, subtract]
      · refine shaped.moved rfl rfl nofun nofun ?_
        simp [oddLimit, now, leaving, subtract]
  | passed phase passing =>
      rcases passing with ⟨now, rfl⟩ | ⟨now, rfl⟩ | ⟨now, rfl⟩ | ⟨now, rfl, room, _⟩ |
        ⟨now, rfl, _⟩ | ⟨now, rfl, _⟩
      · have room := shaped.short (.inl now)
        cases flag : agg.stopRequested with
        | true =>
            refine shaped.moved rfl rfl nofun nofun ?_
            simp [oddLimit, now, leaving, flag]
        | false =>
            refine shaped.moved rfl rfl (fun _ => room) (fun _ => room.le) ?_
            simp [oddLimit, now, leaving, flag]
      · refine shaped.moved rfl rfl nofun ?_ ?_
        · exact fun _ => shaped.fits (by rw [now]; rfl)
        · simp [oddLimit, now, leaving]
      · refine shaped.moved rfl rfl nofun ?_ ?_
        · exact fun _ => shaped.fits (by rw [now]; rfl)
        · simp [oddLimit, now, leaving]
      · refine shaped.moved rfl rfl (fun _ => room) (fun _ => room.le) ?_
        simp [oddLimit, now, leaving]
      · refine shaped.moved rfl rfl nofun nofun ?_
        simp [oddLimit, now, leaving]
      · refine shaped.moved rfl rfl nofun nofun ?_
        simp [oddLimit, now, leaving]
  | stopRequested running =>
      refine shaped.moved rfl rfl shaped.short shaped.fits ?_
      simp only [oddLimit]
      split
      · exact le_refl 2
      · split
        · rename_i limited
          rw [if_pos (limited.imp_right fun checking => ⟨checking.1, trivial⟩)]
        · exact Nat.zero_le _
  | restarted settled =>
      obtain ⟨whole, short, fits, odd⟩ := shaped
      refine ⟨?_, fun _ => positive, fun _ => Nat.zero_le _, Nat.zero_le _⟩
      simpa [batches] using whole
  | joined joining settled => exact ⟨shaped.whole, shaped.short, shaped.fits, shaped.odd⟩
  | _ => exact ⟨shaped.whole, shaped.short, shaped.fits, shaped.odd⟩

def hasDrained (phase : ConsumerPhase) : Bool :=
  phase = .finishing || phase = .exited

/-- No item enters the queue after the last look of the consumer. -/
def inTime (agg : Aggregator) : AggregatorStep → Bool
  | .enqueue _ => !hasDrained agg.consumer
  | _ => true

def Drained (agg : Aggregator) : Prop :=
  hasDrained agg.consumer = true → agg.queue = []

theorem Drained.step (drained : Drained agg) (timely : agg.inTime label = true)
    (effect : Effect config agg label next) : Drained next := by
  cases effect with
  | inserted call found =>
      intro ended
      rw [inTime, show hasDrained agg.consumer = true from ended] at timely
      exact absurd timely (by decide)
  | took index call phase found taking =>
      rcases taking with ⟨_, rfl⟩ | ⟨_, _, rfl⟩ | ⟨_, rfl⟩ <;> exact nofun
  | subtracted phase counting => rcases counting with ⟨_, rfl⟩ | ⟨_, rfl⟩ <;> exact nofun
  | passed phase passing =>
      rcases passing with ⟨_, rfl⟩ | ⟨_, rfl⟩ | ⟨_, rfl⟩ | ⟨_, rfl, _⟩ | ⟨_, _, empty⟩ |
        ⟨now, _, _⟩
      · cases flag : agg.stopRequested <;> exact nofun
      · exact nofun
      · exact nofun
      · exact nofun
      · exact fun _ => empty
      · exact fun _ => drained (by rw [now]; rfl)
  | published phase publishing =>
      rcases publishing with ⟨_, rfl, _⟩ | ⟨now, _, _⟩
      · exact nofun
      · exact fun _ => drained (by rw [now]; rfl)
  | restarted settled => exact nofun
  | _ => exact drained

theorem staged_started : Staged started :=
  ⟨rfl, nofun, nofun, nofun⟩

theorem conserved_started : Conserved started :=
  ⟨List.Perm.refl _, List.nodup_nil, fun call => by simp [started, phase?]⟩

theorem invariants (reachable : (machine config).Reachable agg) :
    Staged agg ∧ Sized config agg ∧ Accounted agg ∧ Conserved agg := by
  refine reachable.invariant
    (fun agg => Staged agg ∧ Sized config agg ∧ Accounted agg ∧ Conserved agg) ?_ ?_
  · rintro _ rfl
    exact ⟨staged_started, ⟨rfl, UInt64.zero_le⟩, ⟨rfl, rfl⟩, conserved_started⟩
  · intro agg label next held stepped
    obtain ⟨staged, sized, accounted, conserved⟩ := held
    have effect := step_effect stepped
    exact ⟨staged.step effect, sized.step staged effect, accounted.step effect,
      conserved.step staged effect⟩

theorem drained_of_inTime
    (reachable : (machine config).ReachableUnder (fun agg label => inTime agg label = true) agg) :
    Drained agg := by
  refine reachable.invariant Drained ?_ ?_
  · rintro _ rfl ended
    rfl
  · intro agg label next earlier drained timely stepped
    exact drained.step timely (step_effect stepped)

theorem ordered_of_fifo
    (reachable : (machine config).ReachableUnder (fun agg label => fifo agg label = true) agg) :
    Ordered agg := by
  refine reachable.invariant Ordered ?_ ?_
  · rintro _ rfl producer
    rfl
  · intro agg label next earlier ordered fair stepped
    obtain ⟨staged, _, _, conserved⟩ := invariants earlier.reachable
    exact ordered.step conserved staged fair (step_effect stepped)

theorem shaped_of_positive (positive : 0 < config.batchSize.toNat)
    (reachable : (machine config).Reachable agg) : Shaped config agg := by
  refine Machine.ReachableUnder.invariant (Shaped config) ?_ ?_ reachable
  · rintro _ rfl
    exact ⟨nofun, fun _ => positive, fun _ => Nat.zero_le _, Nat.zero_le _⟩
  · intro agg label next earlier shaped _ stepped
    exact shaped.step (invariants earlier).1 positive (step_effect stepped)

/-- Each accepted item is in exactly one published batch, and nothing else is in any. -/
theorem publishedOnce_of_inTime
    (reachable : (machine config).ReachableUnder (fun agg label => inTime agg label = true) agg)
    (stopped : agg.owner = .stopped) (quiet : agg.Quiet) (call : Nat) :
    agg.publishedItems.count call = if phase? agg.calls call = some .accepted then 1 else 0 := by
  obtain ⟨staged, _, _, conserved⟩ := invariants reachable.reachable
  have settled := staged.stopped stopped
  have kept := conserved.kept
  rw [inside, staged.exited settled, drained_of_inTime reachable (by rw [settled]; rfl),
    List.append_nil, List.append_nil] at kept
  rw [kept.count_eq, conserved.distinct.count]
  refine if_congr ((conserved.member call).trans ⟨?_, fun found => ⟨_, found, rfl⟩⟩) rfl rfl
  rintro ⟨phase, found, handed⟩
  obtain ⟨producer, listed⟩ := exists_of_phase? found
  have returned := quiet _ (List.mem_of_getElem? listed)
  cases phase <;> simp_all [CallPhase.returned, CallPhase.handedOver]

theorem publishedOnce_of_inTime_run : ∃ agg : Aggregator,
    agg.publishedItems = [0, 1] ∧ agg.publishedItems.count 1 = 1 := by
  have ran : ((machine ⟨2, 8⟩).run (fun agg label => inTime agg label = true) started
      [.tryEnqueue 0, .load 0, .compareExchange 0 false, .enqueue 0, .count 0, .tryEnqueue 1,
        .load 1, .compareExchange 1 false, .requestStop, .consume none, .enqueue 1, .count 1,
        .consume (some 0), .consume none, .consume (some 0), .consume none, .consume none,
        .consume none, .join]).map
      (fun agg => (agg.publishedItems, agg.owner, agg.calls)) =
        some ([0, 1], .stopped, [⟨0, .accepted⟩, ⟨1, .accepted⟩]) := by
    decide +kernel
  obtain ⟨agg, ran, ends⟩ := Option.map_eq_some_iff.mp ran
  simp only [Prod.mk.injEq] at ends
  obtain ⟨items, stopped, calls⟩ := ends
  have quiet : agg.Quiet := by
    rw [Quiet, calls]
    decide
  have once := publishedOnce_of_inTime
    (Machine.ReachableUnder.run (Machine.ReachableUnder.start rfl) ran) stopped quiet 1
  rw [calls] at once
  exact ⟨agg, items, once⟩

theorem acceptedItemLost : ¬ ∀ (config : AggregatorConfig) (agg : Aggregator),
    (machine config).Reachable agg → agg.owner = .stopped → agg.Quiet →
    ∀ call, agg.publishedItems.count call =
      if phase? agg.calls call = some .accepted then 1 else 0 := by
  intro universal
  have ran : ((machine ⟨2, 8⟩).run (fun _ _ => True) started
      [.tryEnqueue 0, .load 0, .compareExchange 0 false, .requestStop, .consume none,
        .consume none, .consume none, .join, .enqueue 0, .count 0]).map
      (fun agg => (agg.publishedItems, agg.owner, agg.calls)) =
        some ([], .stopped, [⟨0, .accepted⟩]) := by
    decide +kernel
  obtain ⟨agg, ran, ends⟩ := Option.map_eq_some_iff.mp ran
  simp only [Prod.mk.injEq] at ends
  obtain ⟨items, stopped, calls⟩ := ends
  have quiet : agg.Quiet := by
    rw [Quiet, calls]
    decide
  have once := universal ⟨2, 8⟩ agg
    (Machine.ReachableUnder.run (Machine.ReachableUnder.start rfl) ran) stopped quiet 0
  rw [items, calls] at once
  exact absurd once (by decide)

/-- Capacity, accounting, the shape of the batches and the order inside them. -/
theorem keepsAccounts (positive : 0 < config.batchSize.toNat)
    (reachable : (machine config).ReachableUnder (fun agg label => fifo agg label = true) agg) :
    (agg.queue.length ≤ agg.currentSize.toNat ∧
        agg.currentSize.toNat ≤ config.queueCapacity.toNat) ∧
      (agg.Quiet →
        agg.enqueuedCount + agg.droppedCount = UInt64.ofNat agg.calls.length) ∧
      (∀ batch ∈ agg.batches, batch.items ≠ [] ∧
        (batch.stopRequested = false → batch.items.length = config.batchSize.toNat)) ∧
      oddBatches config agg.published ≤ 2 ∧
      ∀ producer, fromProducer agg.calls producer agg.publishedItems <+:
        fromProducer agg.calls producer agg.entered := by
  obtain ⟨staged, sized, accounted, conserved⟩ := invariants reachable.reachable
  have shaped := shaped_of_positive positive reachable.reachable
  refine ⟨⟨?_, ?_⟩, accounted.total, shaped.whole, shaped.odd.trans ?_, fun producer => ?_⟩
  · rw [sized.size]
    omega
  · exact UInt64.le_iff_toNat_le.mp sized.bound
  · rw [oddLimit]
    split
    · exact le_rfl
    · split <;> omega
  · rw [← ordered_of_fifo reachable producer, inside, List.append_assoc, fromProducer,
      fromProducer, List.filter_append]
    exact List.prefix_append _ _

theorem keepsAccounts_twoProducers : ∃ agg : Aggregator,
    agg.currentSize = 1 ∧ agg.batches = [⟨[1, 0], false⟩] ∧
      agg.queue.length ≤ agg.currentSize.toNat := by
  have ran : ((machine ⟨2, 3⟩).run (fun agg label => fifo agg label = true) started
      [.tryEnqueue 0, .load 0, .compareExchange 0 false, .enqueue 0, .count 0, .tryEnqueue 1,
        .load 1, .compareExchange 1 false, .enqueue 1, .count 1, .consume none,
        .consume (some 1), .consume none, .consume (some 0), .tryEnqueue 0, .load 2,
        .compareExchange 2 false, .enqueue 2, .consume none, .consume none, .consume none]).map
      (fun agg => (agg.currentSize, agg.batches)) = some (1, [⟨[1, 0], false⟩]) := by
    decide +kernel
  obtain ⟨agg, ran, ends⟩ := Option.map_eq_some_iff.mp ran
  simp only [Prod.mk.injEq] at ends
  exact ⟨agg, ends.1, ends.2, (keepsAccounts (by decide)
    (Machine.ReachableUnder.run (Machine.ReachableUnder.start rfl) ran)).1.1⟩

end Aggregator

end Iq9Pipeline.MultiCam
