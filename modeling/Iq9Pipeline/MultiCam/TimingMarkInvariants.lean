import Iq9Pipeline.MultiCam.TimingMarkRuntime
import Mathlib.Algebra.Ring.Nat

/-!
What a step of the timing marks keeps: the counts of events, the references of channels,
the ledger of what was submitted, and the recorders.
-/

namespace Iq9Pipeline.MultiCam.TimingMarks

variable {system next : System} {label : Step}

theorem more_apply (counts : UInt32 → Nat) (channelId other : UInt32) :
    more counts channelId other =
      if other = channelId then counts other + 1 else counts other := by
  rw [more, Function.update_apply]
  split
  · rename_i same
    rw [same]
  · rfl

theorem fewer_apply (counts : UInt32 → Nat) (channelId other : UInt32) :
    fewer counts channelId other =
      if other = channelId then counts other - 1 else counts other := by
  rw [fewer, Function.update_apply]
  split
  · rename_i same
    rw [same]
  · rfl

/-- No counter is at its end; a channel is erased when nobody registered it since the call
decided to and none of its events is queued; and a recorder is closed when the worker is not
about to call it. -/
def Quiet (system : System) : Step → Prop
  | .registerChannel config _ => ∀ state ∈ system.runtime.channels config.channelId,
      state.refCount.toNat + 1 < 2 ^ 32
  | .submit event => system.runtime.inFlight event.channelId + 1 < 2 ^ 64
  | .eraseChannel channelId => ∀ state ∈ system.runtime.channels channelId,
      state.refCount ≤ 1 ∧ ∀ event ∈ system.runtime.events, event.channelId ≠ channelId
  | .close recorder =>
      ∀ held ∈ system.runtime.worker.inHand, held.2 ≠ some recorder
  | _ => True

def eventsOf (channelId : UInt32) (events : List StageEvent) : Nat :=
  events.countP fun event => event.channelId = channelId

theorem eventsOf_append (channelId : UInt32) (front back : List StageEvent) :
    eventsOf channelId (front ++ back) = eventsOf channelId front + eventsOf channelId back :=
  List.countP_append

theorem eventsOf_singleton (channelId : UInt32) (event : StageEvent) :
    eventsOf channelId [event] = if event.channelId = channelId then 1 else 0 := by
  simp [eventsOf]

def System.pendingEvents (system : System) (channelId : UInt32) : Nat :=
  eventsOf channelId system.runtime.events + eventsOf channelId system.runtime.worker.event

def Counted (system : System) : Prop :=
  ∀ channelId, system.runtime.inFlight channelId = system.pendingEvents channelId

theorem toNat_countDown (counts : UInt32 → Option UInt64) (channelId other : UInt32) :
    ((TimingMarkRuntime.countDown counts channelId other).getD 0).toNat =
      if other = channelId then ((counts other).getD 0).toNat - 1
      else ((counts other).getD 0).toNat := by
  rw [TimingMarkRuntime.countDown]
  cases present : counts channelId with
  | none =>
      split
      · rename_i same
        simp [same, present]
      · rfl
  | some count =>
      simp only [Function.update_apply]
      split
      · rename_i same
        subst same
        rw [present, Option.getD_some]
        by_cases some_left : 0 < count
        · have down : (count - 1).toNat = count.toNat - 1 := by
            apply UInt64.toNat_sub_of_le
            exact some_left
          rw [if_pos some_left, ← down]
          split
          · rename_i none_left
            rw [none_left]
            rfl
          · rfl
        · obtain rfl : count = 0 := by
            simpa using some_left
          rfl
      · rfl

theorem Counted.effect (counted : Counted system) (quiet : Quiet system label)
    (effect : Effect system label next) : Counted next := by
  intro channelId
  have before := counted channelId
  simp only [TimingMarkRuntime.inFlight, System.pendingEvents] at before ⊢
  cases effect with
  | refused => simpa using before
  | registeredAgain => simpa [TimingMarkRuntime.setChannel] using before
  | registeredNew => simpa [TimingMarkRuntime.setChannel] using before
  | @submitted event state present =>
      have room : ((system.runtime.inFlightCounts event.channelId).getD 0).toNat + 1 < 2 ^ 64 :=
        quiet
      simp only [Function.update_apply, eventsOf_append, eventsOf_singleton]
      by_cases same : event.channelId = channelId
      · subst same
        rw [if_pos rfl, if_pos rfl, Option.getD_some, UInt64.toNat_add, UInt64.toNat_one,
          Nat.mod_eq_of_lt room]
        omega
      · rw [if_neg (Ne.symm same), if_neg same, before]
        rfl
  | @taken event rest waiting queued =>
      rw [queued, waiting] at before
      have idle : eventsOf channelId Worker.waiting.event = 0 := rfl
      rw [before, idle, Nat.add_zero, ← List.singleton_append, eventsOf_append, Nat.add_comm]
      rfl
  | recorded held =>
      rw [held] at before
      exact before
  | @finished event _ held =>
      rw [held] at before
      simp only [Worker.event, eventsOf_singleton] at before
      rw [toNat_countDown, before]
      by_cases same : event.channelId = channelId
      · rw [if_pos same, if_pos same.symm]
        rfl
      · rw [if_neg same, if_neg (Ne.symm same)]
        rfl
  | _ => exact before

def System.pendingErasures (system : System) (channelId : UInt32) : Nat :=
  system.waiting channelId + system.leaving channelId

def Referenced (system : System) : Prop :=
  ∀ channelId, match system.runtime.channels channelId with
    | none => system.unregistered channelId = system.registered channelId ∧
        system.pendingErasures channelId = 0
    | some state =>
        state.refCount.toNat + system.unregistered channelId =
            system.registered channelId + system.pendingErasures channelId ∧
          system.pendingErasures channelId ≤ 1 ∧ 0 < state.refCount.toNat

theorem Referenced.of_none (referenced : Referenced system) {channelId : UInt32}
    (absent : system.runtime.channels channelId = none) :
    system.unregistered channelId = system.registered channelId ∧
      system.pendingErasures channelId = 0 := by
  have holds := referenced channelId
  rwa [absent] at holds

theorem Referenced.of_some (referenced : Referenced system) {channelId : UInt32}
    {state : ChannelState} (present : system.runtime.channels channelId = some state) :
    state.refCount.toNat + system.unregistered channelId =
        system.registered channelId + system.pendingErasures channelId ∧
      system.pendingErasures channelId ≤ 1 ∧ 0 < state.refCount.toNat := by
  have holds := referenced channelId
  rwa [present] at holds

theorem toNat_add_one {count : UInt32} (room : count.toNat + 1 < 2 ^ 32) :
    (count + 1).toNat = count.toNat + 1 := by
  rw [UInt32.toNat_add, UInt32.toNat_one, Nat.mod_eq_of_lt room]

theorem toNat_sub_one {count : UInt32} (several : 1 < count) :
    (count - 1).toNat = count.toNat - 1 := by
  apply UInt32.toNat_sub_of_le
  exact UInt32.le_of_lt several

theorem Referenced.at (referenced : Referenced system) (channelId : UInt32)
    (elsewhere : ∀ other, other ≠ channelId →
      next.runtime.channels other = system.runtime.channels other ∧
        next.registered other = system.registered other ∧
        next.unregistered other = system.unregistered other ∧
        next.pendingErasures other = system.pendingErasures other)
    (here : match next.runtime.channels channelId with
      | none => next.unregistered channelId = next.registered channelId ∧
          next.pendingErasures channelId = 0
      | some state =>
          state.refCount.toNat + next.unregistered channelId =
              next.registered channelId + next.pendingErasures channelId ∧
            next.pendingErasures channelId ≤ 1 ∧ 0 < state.refCount.toNat) :
    Referenced next := by
  intro other
  by_cases same : other = channelId
  · rw [same]
    exact here
  · obtain ⟨channels, registered, unregistered, pending⟩ := elsewhere other same
    rw [channels, registered, unregistered, pending]
    exact referenced other

theorem Referenced.effect (referenced : Referenced system) (quiet : Quiet system label)
    (effect : Effect system label next) : Referenced next := by
  cases effect with
  | refused =>
      intro channelId
      simpa [System.pendingErasures] using referenced channelId
  | @registeredAgain config initializes state present =>
      obtain ⟨balanced, single, positive⟩ := referenced.of_some present
      have room := toNat_add_one (quiet state present)
      apply referenced.at config.channelId
      · intro other different
        simp [TimingMarkRuntime.setChannel, more_apply, different, System.pendingErasures]
      · simp only [TimingMarkRuntime.setChannel, Function.update_self, more_apply, if_true]
        refine ⟨?_, single, ?_⟩
        · rw [room]
          simp only [System.pendingErasures] at balanced ⊢
          omega
        · omega
  | @registeredNew config initializes absent =>
      obtain ⟨balanced, none_pending⟩ := referenced.of_none absent
      apply referenced.at config.channelId
      · intro other different
        simp [TimingMarkRuntime.setChannel, more_apply, different, System.pendingErasures]
      · simp only [TimingMarkRuntime.setChannel, Function.update_self, more_apply, if_true]
        simp only [System.pendingErasures] at none_pending ⊢
        refine ⟨?_, by omega, by decide⟩
        rw [UInt32.toNat_one]
        omega
  | @unknown channelId outstanding absent =>
      have balanced := (referenced.of_none absent).1
      omega
  | @counted channelId state outstanding present several =>
      obtain ⟨balanced, single, _⟩ := referenced.of_some present
      have less := toNat_sub_one several
      have more_than_one : 1 < state.refCount.toNat := several
      apply referenced.at channelId
      · intro other different
        simp [TimingMarkRuntime.setChannel, more_apply, different, System.pendingErasures]
      · simp only [TimingMarkRuntime.setChannel, Function.update_self, more_apply, if_true]
        refine ⟨?_, single, ?_⟩
        · rw [less]
          simp only [System.pendingErasures] at balanced ⊢
          omega
        · omega
  | @decided channelId state outstanding present last =>
      obtain ⟨balanced, single, positive⟩ := referenced.of_some present
      have one : state.refCount.toNat ≤ 1 := by
        simpa [UInt32.lt_iff_toNat_lt] using last
      apply referenced.at channelId
      · intro other different
        simp [more_apply, different, System.pendingErasures]
      · simp only [present, more_apply, if_true, System.pendingErasures] at balanced single ⊢
        omega
  | @waited channelId waiting _ =>
      intro other
      have pending : fewer system.waiting channelId other + more system.leaving channelId other =
          system.pendingErasures other := by
        rw [fewer_apply, more_apply, System.pendingErasures]
        split
        · rename_i same
          subst same
          omega
        · rfl
      simp only [System.pendingErasures, pending]
      exact referenced other
  | @erasedBefore channelId leaving absent =>
      have none_pending := (referenced.of_none absent).2
      simp only [System.pendingErasures] at none_pending
      omega
  | @erased channelId state leaving present =>
      obtain ⟨balanced, single, positive⟩ := referenced.of_some present
      have one : state.refCount.toNat ≤ 1 := (quiet state present).1
      apply referenced.at channelId
      · intro other different
        simp [TimingMarkRuntime.setChannel, fewer_apply, different, System.pendingErasures]
      · simp only [TimingMarkRuntime.setChannel, Function.update_self]
        simp only [System.pendingErasures, fewer_apply, if_true] at balanced single ⊢
        omega
  | _ => exact referenced

def RecorderCall.recorded : RecorderCall → Option (StageEvent × Nat)
  | .recordStageTimestamp recorder event => some (event, recorder)
  | .close _ => none

def RecorderCall.closed : RecorderCall → Option Nat
  | .recordStageTimestamp .. => none
  | .close recorder => some recorder

namespace System

def delivered (system : System) : List (StageEvent × Nat) :=
  system.calls.filterMap RecorderCall.recorded

def closed (system : System) : List Nat :=
  system.calls.filterMap RecorderCall.closed

def undelivered (system : System) : List (StageEvent × Option Nat) :=
  system.runtime.worker.inHand ++
    system.runtime.events.map fun event =>
      (event, recorderOf system.runtime.channels event.channelId)

end System

def withRecorder (entry : StageEvent × Nat) : StageEvent × Option Nat :=
  (entry.1, some entry.2)

def Ledgered (system : System) : Prop :=
  system.submitted.map withRecorder =
    system.delivered.map withRecorder ++ system.undelivered

theorem Ledgered.registered_of_queued (ledgered : Ledgered system) {event : StageEvent}
    (queued : event ∈ system.runtime.events) :
    ∃ state, system.runtime.channels event.channelId = some state := by
  have listed : (event, recorderOf system.runtime.channels event.channelId) ∈
      system.submitted.map withRecorder := by
    rw [ledgered]
    exact List.mem_append_right _ (List.mem_append_right _ (List.mem_map_of_mem queued))
  obtain ⟨entry, _, same⟩ := List.mem_map.mp listed
  obtain ⟨state, present, _⟩ := Option.map_eq_some_iff.mp (congrArg Prod.snd same).symm
  exact ⟨state, present⟩

theorem Ledgered.inHand (ledgered : Ledgered system) {event : StageEvent} {recorder : Option Nat}
    (held : system.runtime.worker = .recording event recorder) :
    ∃ found, recorder = some found := by
  have listed : (event, recorder) ∈ system.submitted.map withRecorder := by
    rw [ledgered, System.undelivered, held]
    simp [Worker.inHand]
  obtain ⟨entry, _, same⟩ := List.mem_map.mp listed
  exact ⟨entry.2, (congrArg Prod.snd same).symm⟩

theorem Ledgered.of_channels (ledgered : Ledgered system)
    (submitted : next.submitted = system.submitted) (calls : next.calls = system.calls)
    (events : next.runtime.events = system.runtime.events)
    (inHand : next.runtime.worker.inHand = system.runtime.worker.inHand)
    (recorders : ∀ event ∈ system.runtime.events,
      recorderOf next.runtime.channels event.channelId =
        recorderOf system.runtime.channels event.channelId) :
    Ledgered next := by
  have same : next.undelivered = system.undelivered := by
    rw [System.undelivered, System.undelivered, events, inHand]
    congr 1
    apply List.map_congr_left
    intro event queued
    rw [recorders event queued]
  rw [Ledgered, submitted, System.delivered, calls, same]
  exact ledgered

theorem Ledgered.effect (ledgered : Ledgered system) (quiet : Quiet system label)
    (effect : Effect system label next) : Ledgered next := by
  cases effect with
  | refused =>
      apply ledgered.of_channels
      · rfl
      · rfl
      · simp
      · simp
      · simp [recorderOf]
  | @registeredAgain config initializes state present =>
      apply ledgered.of_channels
      · rfl
      · rfl
      · simp [TimingMarkRuntime.setChannel]
      · simp [TimingMarkRuntime.setChannel]
      · intro event _
        rw [TimingMarkRuntime.setChannel, TimingMarkRuntime.ensureWorkerLocked_channels,
          recorderOf_recount present]
  | @registeredNew config initializes absent =>
      apply ledgered.of_channels
      · rfl
      · rfl
      · simp [TimingMarkRuntime.setChannel]
      · simp [TimingMarkRuntime.setChannel]
      · intro event queued
        obtain ⟨state, present⟩ := ledgered.registered_of_queued queued
        have different : event.channelId ≠ config.channelId := by
          intro same
          rw [same, absent] at present
          cases present
        simp [recorderOf, TimingMarkRuntime.setChannel, different]
  | @counted channelId state outstanding present several =>
      apply ledgered.of_channels
      · rfl
      · rfl
      · rfl
      · rfl
      · intro event _
        rw [TimingMarkRuntime.setChannel, recorderOf_recount present]
  | @erased channelId state leaving present =>
      apply ledgered.of_channels
      · rfl
      · rfl
      · rfl
      · rfl
      · intro event queued
        have different := (quiet state present).2 event queued
        simp [recorderOf, TimingMarkRuntime.setChannel, different]
  | @closed recorder waits =>
      have same : (system.calls ++ [RecorderCall.close recorder]).filterMap RecorderCall.recorded =
          system.delivered := by
        rw [List.filterMap_append]
        exact List.append_nil _
      rw [Ledgered] at ledgered ⊢
      rw [System.delivered, same]
      exact ledgered
  | @submitted event state present =>
      have found : (event, recorderOf system.runtime.channels event.channelId) =
          withRecorder (event, state.recorder) := by
        simp [recorderOf, present, withRecorder]
      rw [Ledgered] at ledgered
      simp only [Ledgered, List.map_append, ledgered, List.map_singleton, ← found]
      simp only [System.undelivered, List.map_append, List.append_assoc, List.map_singleton]
      rfl
  | @taken event rest waiting queued =>
      rw [Ledgered] at ledgered ⊢
      simpa [System.delivered, System.undelivered, waiting, queued, Worker.inHand] using ledgered
  | @recorded event recorder held =>
      obtain ⟨found, rfl⟩ := ledgered.inHand held
      rw [Ledgered] at ledgered ⊢
      rw [ledgered]
      simp [System.delivered, System.undelivered, held, Worker.inHand, RecorderCall.recorded,
        withRecorder]
  | @finished event _ held =>
      rw [Ledgered] at ledgered ⊢
      simpa [System.delivered, System.undelivered, held, Worker.inHand] using ledgered
  | _ => exact ledgered

structure Recorders (system : System) : Prop where
  initialized : ∀ recorder ∈ system.closing ++ system.closed,
    recorder < system.runtime.initialized
  own : ∀ channelId recorder, recorderOf system.runtime.channels channelId = some recorder →
    recorder < system.runtime.initialized ∧ recorder ∉ system.closing ++ system.closed
  apart : ∀ channelId other recorder, recorderOf system.runtime.channels channelId = some recorder →
    recorderOf system.runtime.channels other = some recorder → channelId = other
  inHand : ∀ held ∈ system.runtime.worker.inHand, ∀ recorder ∈ held.2,
    recorder ∉ system.closed
  ordered : system.calls.Pairwise fun first second =>
    ∀ recorder event, first = .close recorder → second ≠ .recordStageTimestamp recorder event

theorem mem_closed {recorder : Nat} :
    recorder ∈ system.closed ↔ RecorderCall.close recorder ∈ system.calls := by
  rw [System.closed, List.mem_filterMap]
  constructor
  · rintro ⟨call, made, closes⟩
    cases call with
    | recordStageTimestamp _ _ => cases closes
    | close other =>
        obtain rfl := Option.some.inj closes
        exact made
  · intro made
    exact ⟨_, made, rfl⟩

theorem Recorders.of_recorderOf (recorders : Recorders system)
    (channels : recorderOf next.runtime.channels = recorderOf system.runtime.channels)
    (initialized : next.runtime.initialized = system.runtime.initialized)
    (inHand : next.runtime.worker.inHand = system.runtime.worker.inHand)
    (closing : next.closing = system.closing) (calls : next.calls = system.calls) :
    Recorders next := by
  have closed : next.closed = system.closed := by rw [System.closed, calls, System.closed]
  constructor
  · rw [closing, closed, initialized]
    exact recorders.initialized
  · rw [channels, closing, closed, initialized]
    exact recorders.own
  · rw [channels]
    exact recorders.apart
  · rw [inHand, closed]
    exact recorders.inHand
  · rw [calls]
    exact recorders.ordered

theorem Recorders.registeredNew (recorders : Recorders system) (config : Config)
    (registered : UInt32 → Nat) :
    Recorders { system with
      runtime := { system.runtime.ensureWorkerLocked.setChannel config.channelId
          (some ⟨config, system.runtime.initialized, 1⟩) with
        initialized := system.runtime.initialized + 1 }
      registered := registered } := by
  have found (channelId recorder : _)
      (has : recorderOf (Function.update system.runtime.channels config.channelId
        (some ⟨config, system.runtime.initialized, 1⟩)) channelId = some recorder) :
      channelId = config.channelId ∧ recorder = system.runtime.initialized ∨
        channelId ≠ config.channelId ∧
          recorderOf system.runtime.channels channelId = some recorder := by
    simp only [recorderOf, Function.update_apply] at has
    split at has
    · rename_i same
      exact Or.inl ⟨same, (Option.some.inj has).symm⟩
    · rename_i different
      exact Or.inr ⟨different, has⟩
  constructor
  · intro recorder given
    exact Nat.lt_succ_of_lt (recorders.initialized recorder given)
  · intro channelId recorder has
    simp only [TimingMarkRuntime.setChannel,
      TimingMarkRuntime.ensureWorkerLocked_channels] at has
    rcases found _ _ has with ⟨_, rfl⟩ | ⟨_, earlier⟩
    · refine ⟨Nat.lt_succ_self _, ?_⟩
      intro given
      exact Nat.lt_irrefl _ (recorders.initialized _ given)
    · obtain ⟨below, kept⟩ := recorders.own _ _ earlier
      exact ⟨Nat.lt_succ_of_lt below, kept⟩
  · intro channelId other recorder has also
    simp only [TimingMarkRuntime.setChannel,
      TimingMarkRuntime.ensureWorkerLocked_channels] at has also
    rcases found _ _ has with ⟨rfl, rfl⟩ | ⟨_, earlier⟩
    · rcases found _ _ also with ⟨rfl, _⟩ | ⟨_, earlier⟩
      · rfl
      · exact absurd (recorders.own _ _ earlier).1 (Nat.lt_irrefl _)
    · rcases found _ _ also with ⟨_, rfl⟩ | ⟨_, also_earlier⟩
      · exact absurd (recorders.own _ _ earlier).1 (Nat.lt_irrefl _)
      · exact recorders.apart _ _ _ earlier also_earlier
  · intro held in_hand
    simp only [TimingMarkRuntime.setChannel,
      TimingMarkRuntime.ensureWorkerLocked_inHand] at in_hand
    exact recorders.inHand held in_hand
  · exact recorders.ordered

theorem Recorders.erased (recorders : Recorders system) {channelId : UInt32}
    {state : ChannelState} (present : system.runtime.channels channelId = some state)
    (leaving : UInt32 → Nat) :
    Recorders { system with
      runtime := system.runtime.setChannel channelId none
      leaving := leaving
      closing := system.closing ++ [state.recorder] } := by
  have had : recorderOf system.runtime.channels channelId = some state.recorder := by
    rw [recorderOf, present, Option.map_some]
  have found (other recorder : _)
      (has : recorderOf (Function.update system.runtime.channels channelId none) other =
        some recorder) :
      other ≠ channelId ∧ recorderOf system.runtime.channels other = some recorder := by
    simp only [recorderOf, Function.update_apply] at has
    split at has
    · cases has
    · rename_i different
      exact ⟨different, has⟩
  constructor
  · intro recorder given
    rcases List.mem_append.mp given with closing | closed
    · rcases List.mem_append.mp closing with before | now
      · exact recorders.initialized _ (List.mem_append_left _ before)
      · obtain rfl := List.mem_singleton.mp now
        exact (recorders.own _ _ had).1
    · exact recorders.initialized _ (List.mem_append_right _ closed)
  · intro other recorder has
    obtain ⟨different, earlier⟩ := found _ _ has
    obtain ⟨below, kept⟩ := recorders.own _ _ earlier
    refine ⟨below, ?_⟩
    intro given
    rcases List.mem_append.mp given with closing | closed
    · rcases List.mem_append.mp closing with before | now
      · exact kept (List.mem_append_left _ before)
      · obtain rfl := List.mem_singleton.mp now
        exact different (recorders.apart _ _ _ earlier had)
    · exact kept (List.mem_append_right _ closed)
  · intro other another recorder has also
    exact recorders.apart _ _ _ (found _ _ has).2 (found _ _ also).2
  · exact recorders.inHand
  · exact recorders.ordered

theorem Recorders.closed (recorders : Recorders system) {recorder : Nat}
    (waits : recorder ∈ system.closing)
    (free : ∀ held ∈ system.runtime.worker.inHand, held.2 ≠ some recorder) :
    Recorders { system with
      closing := system.closing.erase recorder
      calls := system.calls ++ [.close recorder] } := by
  have closes : (system.calls ++ [RecorderCall.close recorder]).filterMap RecorderCall.closed =
      system.closed ++ [recorder] := by
    rw [List.filterMap_append]
    rfl
  have known (other : Nat)
      (given : other ∈ system.closing.erase recorder ++ (system.closed ++ [recorder])) :
      other ∈ system.closing ++ system.closed := by
    rcases List.mem_append.mp given with closing | closed
    · exact List.mem_append_left _ (List.mem_of_mem_erase closing)
    · rcases List.mem_append.mp closed with before | now
      · exact List.mem_append_right _ before
      · obtain rfl := List.mem_singleton.mp now
        exact List.mem_append_left _ waits
  constructor
  · intro other given
    rw [System.closed, closes] at given
    exact recorders.initialized _ (known other given)
  · intro channelId other has
    obtain ⟨below, kept⟩ := recorders.own _ _ has
    refine ⟨below, ?_⟩
    intro given
    rw [System.closed, closes] at given
    exact kept (known other given)
  · exact recorders.apart
  · intro held in_hand other found given
    rw [System.closed, closes] at given
    rcases List.mem_append.mp given with before | now
    · exact recorders.inHand held in_hand other found before
    · obtain rfl := List.mem_singleton.mp now
      exact free held in_hand found
  · apply List.pairwise_append.mpr
    refine ⟨recorders.ordered, List.pairwise_singleton _ _, ?_⟩
    intro first _ second last other event _
    obtain rfl := List.mem_singleton.mp last
    exact RecorderCall.noConfusion

theorem Recorders.recorded (recorders : Recorders system) {event : StageEvent}
    {recorder : Option Nat} (held : system.runtime.worker = .recording event recorder) :
    Recorders { system with
      runtime := { system.runtime with worker := .recorded event }
      calls := system.calls ++
        recorder.toList.map fun recorder => .recordStageTimestamp recorder event } := by
  have closes : (system.calls ++ recorder.toList.map fun recorder =>
      RecorderCall.recordStageTimestamp recorder event).filterMap RecorderCall.closed =
        system.closed := by
    cases recorder with
    | none => simp [System.closed]
    | some found =>
        rw [List.filterMap_append]
        exact List.append_nil _
  constructor
  · rw [System.closed, closes]
    exact recorders.initialized
  · rw [System.closed, closes]
    exact recorders.own
  · exact recorders.apart
  · nofun
  · apply List.pairwise_append.mpr
    refine ⟨recorders.ordered, ?_, ?_⟩
    · cases recorder with
      | none => exact List.Pairwise.nil
      | some found => exact List.pairwise_singleton _ _
    · intro first made second last other recorded closes records
      subst closes
      obtain ⟨found, given, rfl⟩ := List.mem_map.mp last
      injection records with same _
      subst same
      have in_hand : (event, recorder) ∈ system.runtime.worker.inHand := by
        rw [held]
        exact List.mem_singleton_self _
      exact recorders.inHand _ in_hand found (Option.mem_toList.mp given) (mem_closed.mpr made)

theorem Recorders.effect (recorders : Recorders system) (quiet : Quiet system label)
    (effect : Effect system label next) : Recorders next := by
  cases effect with
  | refused => apply recorders.of_recorderOf <;> simp
  | registeredAgain present =>
      apply recorders.of_recorderOf
      · rw [TimingMarkRuntime.setChannel, TimingMarkRuntime.ensureWorkerLocked_channels,
          recorderOf_recount present]
      · simp [TimingMarkRuntime.setChannel]
      · simp [TimingMarkRuntime.setChannel]
      · rfl
      · rfl
  | registeredNew => exact recorders.registeredNew _ _
  | counted _ present _ =>
      apply recorders.of_recorderOf
      · rw [TimingMarkRuntime.setChannel, recorderOf_recount present]
      · rfl
      · rfl
      · rfl
      · rfl
  | erased _ present => exact recorders.erased present _
  | closed waits => exact recorders.closed waits quiet
  | taken waiting queued =>
      refine { recorders with inHand := ?_ }
      intro held in_hand recorder found given
      obtain rfl := List.mem_singleton.mp in_hand
      exact (recorders.own _ _ found).2 (List.mem_append_right _ given)
  | recorded held => exact recorders.recorded held
  | finished held => exact { recorders with inHand := nofun }
  | _ => exact { recorders with }

end Iq9Pipeline.MultiCam.TimingMarks
