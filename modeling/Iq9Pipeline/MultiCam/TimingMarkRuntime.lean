import Iq9Pipeline.Foundation.Machine
import Mathlib.Data.List.Basic

/-!
The timing marks of the channels (`TimingMarkRuntime.cpp`): the runtime that all channels
share, its worker, and the threads that call it. A step is one hold of the mutex or one
call of a recorder, which is made outside of it.
-/

namespace Iq9Pipeline.MultiCam.TimingMarks

open Foundation

inductive LatencyStage
  | h264ParseSrc
  | v4L2DecCapsSrc
  | yoloQnnSink
  | yoloQnnSrc
  | yoloPostprocessSrc
  | trackerSink
  | trackerSrc
  | faceInferSink
  | faceInferSrc
deriving DecidableEq

structure StageEvent where
  channelId : UInt32
  stage : LatencyStage
  frameKey : UInt64
  timestampNs : UInt64
deriving DecidableEq

structure Config where
  channelId : UInt32
  outputDir : String
  sampleEveryN : UInt32
  flushPerSample : Bool

/-- The recorders are numbered in the order in which they were initialized. -/
structure ChannelState where
  config : Config
  recorder : Nat
  refCount : UInt32

inductive Worker
  | notStarted
  | waiting
  | recording (event : StageEvent) (recorder : Option Nat)
  | recorded (event : StageEvent)
deriving DecidableEq

structure TimingMarkRuntime where
  channels : UInt32 → Option ChannelState
  inFlightCounts : UInt32 → Option UInt64
  events : List StageEvent
  worker : Worker
  activeWorkers : UInt32
  initialized : Nat

namespace TimingMarkRuntime

def ensureWorkerLocked (runtime : TimingMarkRuntime) : TimingMarkRuntime :=
  match runtime.worker with
  | .notStarted => { runtime with worker := .waiting }
  | _ => runtime

def setChannel (runtime : TimingMarkRuntime) (channelId : UInt32) (state : Option ChannelState) :
    TimingMarkRuntime :=
  { runtime with channels := Function.update runtime.channels channelId state }

def registerChannel (runtime : TimingMarkRuntime) (config : Config) (initializes : Bool) :
    Bool × TimingMarkRuntime :=
  if config.outputDir = "" then (false, runtime)
  else
    let running := runtime.ensureWorkerLocked
    match running.channels config.channelId with
    | some state =>
        (true, running.setChannel config.channelId
          (some { state with refCount := state.refCount + 1 }))
    | none =>
        if initializes then
          (true, { running.setChannel config.channelId (some ⟨config, running.initialized, 1⟩) with
            initialized := running.initialized + 1 })
        else (false, running)

def unregisterChannel (runtime : TimingMarkRuntime) (channelId : UInt32) :
    Bool × TimingMarkRuntime :=
  match runtime.channels channelId with
  | none => (false, runtime)
  | some state =>
      if 1 < state.refCount then
        (false, runtime.setChannel channelId (some { state with refCount := state.refCount - 1 }))
      else (true, runtime)

def isIdle (runtime : TimingMarkRuntime) (channelId : UInt32) : Bool :=
  match runtime.inFlightCounts channelId with
  | none => true
  | some count => count = 0

def eraseChannel (runtime : TimingMarkRuntime) (channelId : UInt32) :
    Option Nat × TimingMarkRuntime :=
  match runtime.channels channelId with
  | none => (none, runtime)
  | some state => (some state.recorder, runtime.setChannel channelId none)

def submit (runtime : TimingMarkRuntime) (event : StageEvent) : Option Nat × TimingMarkRuntime :=
  if event.timestampNs = 0 then (none, runtime)
  else match runtime.channels event.channelId with
    | none => (none, runtime)
    | some state =>
        (some state.recorder, { runtime with
          inFlightCounts := Function.update runtime.inFlightCounts event.channelId
            (some ((runtime.inFlightCounts event.channelId).getD 0 + 1))
          events := runtime.events ++ [event] })

def takeEvent (runtime : TimingMarkRuntime) : Option TimingMarkRuntime :=
  match runtime.worker, runtime.events with
  | .waiting, event :: rest =>
      some { runtime with
        events := rest
        worker := .recording event ((runtime.channels event.channelId).map ChannelState.recorder)
        activeWorkers := runtime.activeWorkers + 1 }
  | _, _ => none

def countDown (counts : UInt32 → Option UInt64) (channelId : UInt32) : UInt32 → Option UInt64 :=
  match counts channelId with
  | none => counts
  | some count =>
      let left := if 0 < count then count - 1 else count
      Function.update counts channelId (if left = 0 then none else some left)

def finishEvent (runtime : TimingMarkRuntime) : Option TimingMarkRuntime :=
  match runtime.worker with
  | .recorded event =>
      some { runtime with
        worker := .waiting
        inFlightCounts := countDown runtime.inFlightCounts event.channelId
        activeWorkers :=
          if 0 < runtime.activeWorkers then runtime.activeWorkers - 1 else runtime.activeWorkers }
  | _ => none

end TimingMarkRuntime

inductive RecorderCall
  | recordStageTimestamp (recorder : Nat) (event : StageEvent)
  | close (recorder : Nat)

/-- The runtime, how many calls of `UnregisterChannel` on each channel wait or are past
the wait, the recorders that are to be closed, and the history. -/
structure System where
  runtime : TimingMarkRuntime
  waiting : UInt32 → Nat
  leaving : UInt32 → Nat
  closing : List Nat
  registered : UInt32 → Nat
  unregistered : UInt32 → Nat
  submitted : List (StageEvent × Nat)
  calls : List RecorderCall

inductive Step
  | registerChannel (config : Config) (initializes : Bool)
  | unregisterChannel (channelId : UInt32)
  | waited (channelId : UInt32)
  | eraseChannel (channelId : UInt32)
  | close (recorder : Nat)
  | submit (event : StageEvent)
  | takeEvent
  | recordEvent
  | finishEvent

def more (counts : UInt32 → Nat) (channelId : UInt32) : UInt32 → Nat :=
  Function.update counts channelId (counts channelId + 1)

def fewer (counts : UInt32 → Nat) (channelId : UInt32) : UInt32 → Nat :=
  Function.update counts channelId (counts channelId - 1)

namespace System

def registerChannel (system : System) (config : Config) (initializes : Bool) : System :=
  match system.runtime.registerChannel config initializes with
  | (false, runtime) => { system with runtime := runtime }
  | (true, runtime) =>
      { system with runtime := runtime, registered := more system.registered config.channelId }

/-- Only after an earlier registration that succeeded. -/
def unregisterChannel (system : System) (channelId : UInt32) : Option System :=
  if system.unregistered channelId < system.registered channelId then
    let started := { system with unregistered := more system.unregistered channelId }
    match system.runtime.unregisterChannel channelId with
    | (false, runtime) => some { started with runtime := runtime }
    | (true, runtime) =>
        some { started with runtime := runtime, waiting := more system.waiting channelId }
  else none

def waited (system : System) (channelId : UInt32) : Option System :=
  if 0 < system.waiting channelId ∧ system.runtime.isIdle channelId then
    some { system with
      waiting := fewer system.waiting channelId
      leaving := more system.leaving channelId }
  else none

def eraseChannel (system : System) (channelId : UInt32) : Option System :=
  if 0 < system.leaving channelId then
    let erased := system.runtime.eraseChannel channelId
    some { system with
      runtime := erased.2
      leaving := fewer system.leaving channelId
      closing := system.closing ++ erased.1.toList }
  else none

def close (system : System) (recorder : Nat) : Option System :=
  if recorder ∈ system.closing then
    some { system with
      closing := system.closing.erase recorder
      calls := system.calls ++ [.close recorder] }
  else none

def submit (system : System) (event : StageEvent) : System :=
  let taken := system.runtime.submit event
  { system with
    runtime := taken.2
    submitted := system.submitted ++ taken.1.toList.map fun recorder => (event, recorder) }

def recordEvent (system : System) : Option System :=
  match system.runtime.worker with
  | .recording event recorder =>
      some { system with
        runtime := { system.runtime with worker := .recorded event }
        calls := system.calls ++
          recorder.toList.map fun recorder => .recordStageTimestamp recorder event }
  | _ => none

def step (system : System) : Step → Option System
  | .registerChannel config initializes => some (system.registerChannel config initializes)
  | .unregisterChannel channelId => system.unregisterChannel channelId
  | .waited channelId => system.waited channelId
  | .eraseChannel channelId => system.eraseChannel channelId
  | .close recorder => system.close recorder
  | .submit event => some (system.submit event)
  | .takeEvent => system.runtime.takeEvent.map fun runtime => { system with runtime := runtime }
  | .recordEvent => system.recordEvent
  | .finishEvent => system.runtime.finishEvent.map fun runtime => { system with runtime := runtime }

end System

def initial : System where
  runtime := ⟨fun _ => none, fun _ => none, [], .notStarted, 0, 0⟩
  waiting := fun _ => 0
  leaving := fun _ => 0
  closing := []
  registered := fun _ => 0
  unregistered := fun _ => 0
  submitted := []
  calls := []

def machine : Machine System Step where
  start system := system = initial
  step := System.step

namespace Worker

def event : Worker → List StageEvent
  | .recording event _ => [event]
  | .recorded event => [event]
  | _ => []

def inHand : Worker → List (StageEvent × Option Nat)
  | .recording event recorder => [(event, recorder)]
  | _ => []

end Worker

def recorderOf (channels : UInt32 → Option ChannelState) (channelId : UInt32) : Option Nat :=
  (channels channelId).map ChannelState.recorder

theorem recorderOf_recount {channels : UInt32 → Option ChannelState} {channelId : UInt32}
    {state : ChannelState} (present : channels channelId = some state) (refCount : UInt32) :
    recorderOf (Function.update channels channelId (some { state with refCount := refCount })) =
      recorderOf channels := by
  funext other
  simp only [recorderOf, Function.update_apply]
  split
  · rename_i same
    rw [same, present]
    rfl
  · rfl

namespace TimingMarkRuntime

variable (runtime : TimingMarkRuntime)

def inFlight (channelId : UInt32) : Nat :=
  ((runtime.inFlightCounts channelId).getD 0).toNat

@[simp] theorem ensureWorkerLocked_channels :
    runtime.ensureWorkerLocked.channels = runtime.channels := by
  rw [ensureWorkerLocked]
  split <;> rfl

@[simp] theorem ensureWorkerLocked_inFlightCounts :
    runtime.ensureWorkerLocked.inFlightCounts = runtime.inFlightCounts := by
  rw [ensureWorkerLocked]
  split <;> rfl

@[simp] theorem ensureWorkerLocked_events :
    runtime.ensureWorkerLocked.events = runtime.events := by
  rw [ensureWorkerLocked]
  split <;> rfl

@[simp] theorem ensureWorkerLocked_initialized :
    runtime.ensureWorkerLocked.initialized = runtime.initialized := by
  rw [ensureWorkerLocked]
  split <;> rfl

@[simp] theorem ensureWorkerLocked_event :
    runtime.ensureWorkerLocked.worker.event = runtime.worker.event := by
  rw [ensureWorkerLocked]
  split
  · rename_i idle
    rw [idle]
    rfl
  · rfl

@[simp] theorem ensureWorkerLocked_inHand :
    runtime.ensureWorkerLocked.worker.inHand = runtime.worker.inHand := by
  rw [ensureWorkerLocked]
  split
  · rename_i idle
    rw [idle]
    rfl
  · rfl

theorem ensureWorkerLocked_started : runtime.ensureWorkerLocked.worker ≠ .notStarted := by
  rw [ensureWorkerLocked]
  split
  · exact Worker.noConfusion
  · rename_i running
    exact running

end TimingMarkRuntime

inductive Effect (system : System) : Step → System → Prop
  | unchanged {label} : Effect system label system
  | refused {config initializes} :
      Effect system (.registerChannel config initializes)
        { system with runtime := system.runtime.ensureWorkerLocked }
  | registeredAgain {config initializes state} :
      system.runtime.channels config.channelId = some state →
      Effect system (.registerChannel config initializes)
        { system with
          runtime := system.runtime.ensureWorkerLocked.setChannel config.channelId
            (some { state with refCount := state.refCount + 1 })
          registered := more system.registered config.channelId }
  | registeredNew {config initializes} : system.runtime.channels config.channelId = none →
      Effect system (.registerChannel config initializes)
        { system with
          runtime := { system.runtime.ensureWorkerLocked.setChannel config.channelId
              (some ⟨config, system.runtime.initialized, 1⟩) with
            initialized := system.runtime.initialized + 1 }
          registered := more system.registered config.channelId }
  | unknown {channelId} : system.unregistered channelId < system.registered channelId →
      system.runtime.channels channelId = none →
      Effect system (.unregisterChannel channelId)
        { system with unregistered := more system.unregistered channelId }
  | counted {channelId state} : system.unregistered channelId < system.registered channelId →
      system.runtime.channels channelId = some state → 1 < state.refCount →
      Effect system (.unregisterChannel channelId)
        { system with
          unregistered := more system.unregistered channelId
          runtime := system.runtime.setChannel channelId
            (some { state with refCount := state.refCount - 1 }) }
  | decided {channelId state} : system.unregistered channelId < system.registered channelId →
      system.runtime.channels channelId = some state → ¬1 < state.refCount →
      Effect system (.unregisterChannel channelId)
        { system with
          unregistered := more system.unregistered channelId
          waiting := more system.waiting channelId }
  | waited {channelId} : 0 < system.waiting channelId →
      system.runtime.isIdle channelId = true →
      Effect system (.waited channelId)
        { system with
          waiting := fewer system.waiting channelId
          leaving := more system.leaving channelId }
  | erasedBefore {channelId} : 0 < system.leaving channelId →
      system.runtime.channels channelId = none →
      Effect system (.eraseChannel channelId)
        { system with leaving := fewer system.leaving channelId }
  | erased {channelId state} : 0 < system.leaving channelId →
      system.runtime.channels channelId = some state →
      Effect system (.eraseChannel channelId)
        { system with
          runtime := system.runtime.setChannel channelId none
          leaving := fewer system.leaving channelId
          closing := system.closing ++ [state.recorder] }
  | closed {recorder} : recorder ∈ system.closing →
      Effect system (.close recorder)
        { system with
          closing := system.closing.erase recorder
          calls := system.calls ++ [.close recorder] }
  | submitted {event state} : system.runtime.channels event.channelId = some state →
      Effect system (.submit event)
        { system with
          runtime := { system.runtime with
            inFlightCounts := Function.update system.runtime.inFlightCounts event.channelId
              (some ((system.runtime.inFlightCounts event.channelId).getD 0 + 1))
            events := system.runtime.events ++ [event] }
          submitted := system.submitted ++ [(event, state.recorder)] }
  | taken {event rest} : system.runtime.worker = .waiting →
      system.runtime.events = event :: rest →
      Effect system .takeEvent
        { system with
          runtime := { system.runtime with
            events := rest
            worker := .recording event (recorderOf system.runtime.channels event.channelId)
            activeWorkers := system.runtime.activeWorkers + 1 } }
  | recorded {event recorder} : system.runtime.worker = .recording event recorder →
      Effect system .recordEvent
        { system with
          runtime := { system.runtime with worker := .recorded event }
          calls := system.calls ++
            recorder.toList.map fun recorder => .recordStageTimestamp recorder event }
  | finished {event activeWorkers} : system.runtime.worker = .recorded event →
      Effect system .finishEvent
        { system with
          runtime := { system.runtime with
            worker := .waiting
            inFlightCounts :=
              TimingMarkRuntime.countDown system.runtime.inFlightCounts event.channelId
            activeWorkers := activeWorkers } }

variable {system next : System} {label : Step}

theorem effect_registerChannel (config : Config) (initializes : Bool) :
    Effect system (.registerChannel config initializes)
      (system.registerChannel config initializes) := by
  rw [System.registerChannel, TimingMarkRuntime.registerChannel]
  by_cases nowhere : config.outputDir = ""
  · rw [if_pos nowhere]
    exact .unchanged
  · simp only [if_neg nowhere, TimingMarkRuntime.ensureWorkerLocked_channels,
      TimingMarkRuntime.ensureWorkerLocked_initialized]
    cases present : system.runtime.channels config.channelId with
    | some state => exact .registeredAgain present
    | none =>
        cases initializes with
        | true => exact .registeredNew present
        | false => exact .refused

theorem effect_unregisterChannel {channelId : UInt32}
    (stepped : system.unregisterChannel channelId = some next) :
    Effect system (.unregisterChannel channelId) next := by
  rw [System.unregisterChannel] at stepped
  split at stepped
  · rename_i outstanding
    simp only [TimingMarkRuntime.unregisterChannel] at stepped
    cases present : system.runtime.channels channelId with
    | none =>
        simp only [present, Option.some.injEq] at stepped
        subst stepped
        exact .unknown outstanding present
    | some state =>
        simp only [present] at stepped
        by_cases several : 1 < state.refCount
        · simp only [if_pos several, Option.some.injEq] at stepped
          subst stepped
          exact .counted outstanding present several
        · simp only [if_neg several, Option.some.injEq] at stepped
          subst stepped
          exact .decided outstanding present several
  · cases stepped

theorem effect_eraseChannel {channelId : UInt32}
    (stepped : system.eraseChannel channelId = some next) :
    Effect system (.eraseChannel channelId) next := by
  rw [System.eraseChannel] at stepped
  split at stepped
  · rename_i leaving
    simp only [TimingMarkRuntime.eraseChannel] at stepped
    cases present : system.runtime.channels channelId with
    | none =>
        simp only [present, Option.toList_none, List.append_nil, Option.some.injEq] at stepped
        subst stepped
        exact .erasedBefore leaving present
    | some state =>
        simp only [present, Option.toList_some, Option.some.injEq] at stepped
        subst stepped
        exact .erased leaving present
  · cases stepped

theorem effect_submit (event : StageEvent) :
    Effect system (.submit event) (system.submit event) := by
  rw [System.submit, TimingMarkRuntime.submit]
  split
  · simpa using Effect.unchanged
  · cases present : system.runtime.channels event.channelId with
    | none => simpa using Effect.unchanged
    | some state => exact .submitted present

theorem effect_takeEvent {runtime : TimingMarkRuntime}
    (stepped : system.runtime.takeEvent = some runtime) :
    Effect system .takeEvent { system with runtime := runtime } := by
  rw [TimingMarkRuntime.takeEvent] at stepped
  split at stepped
  · rename_i waiting queued
    simp only [Option.some.injEq] at stepped
    subst stepped
    exact .taken waiting queued
  · cases stepped

theorem effect_of_step (stepped : system.step label = some next) : Effect system label next := by
  cases label with
  | registerChannel config initializes =>
      obtain rfl := Option.some.inj stepped
      exact effect_registerChannel config initializes
  | unregisterChannel channelId => exact effect_unregisterChannel stepped
  | waited channelId =>
      simp only [System.step, System.waited] at stepped
      split at stepped
      · rename_i idle
        obtain rfl := Option.some.inj stepped
        exact .waited idle.1 idle.2
      · cases stepped
  | eraseChannel channelId => exact effect_eraseChannel stepped
  | close recorder =>
      simp only [System.step, System.close] at stepped
      split at stepped
      · rename_i waits
        obtain rfl := Option.some.inj stepped
        exact .closed waits
      · cases stepped
  | submit event =>
      obtain rfl := Option.some.inj stepped
      exact effect_submit event
  | takeEvent =>
      obtain ⟨runtime, taken, rfl⟩ := Option.map_eq_some_iff.mp stepped
      exact effect_takeEvent taken
  | recordEvent =>
      simp only [System.step, System.recordEvent] at stepped
      split at stepped
      · rename_i held
        obtain rfl := Option.some.inj stepped
        exact .recorded held
      · cases stepped
  | finishEvent =>
      obtain ⟨runtime, finished, rfl⟩ := Option.map_eq_some_iff.mp stepped
      rw [TimingMarkRuntime.finishEvent] at finished
      split at finished
      · rename_i held
        obtain rfl := Option.some.inj finished
        exact .finished held
      · cases finished

end Iq9Pipeline.MultiCam.TimingMarks
