import Iq9Pipeline.MultiCam.TimingMarkRuntime
import Mathlib.Data.List.AList

/-!
The latency recorder of a channel (`LatencyRecorder.cpp`): for each frame the time at which it
came to a stage, and the metrics between two stages, each of which is emitted once. Frames
that are old or have all their metrics are forgotten when there are too many.
-/

namespace Iq9Pipeline.MultiCam.Latency

open TimingMarks (LatencyStage Config)

inductive MetricKind
  | faceInferToEmbedding
  | byteTrack
  | fileToDec
  | decToYolo
  | decToTracker
  | decToFace
  | yoloQnnInfer
deriving DecidableEq

def kMetricCount : UInt8 := 7
def kMaxTrackedFrames : Nat := 8192
def kStaleOrderWindow : UInt64 := 8192
def kHardMapLimit : Nat := 20000
def kFrameReuseResetNs : UInt64 := 1000000000
def kResourceSampleIntervalNs : UInt64 := 200000000

structure FrameTiming where
  stamps : LatencyStage → Option UInt64 := fun _ => none
  emitted : MetricKind → Bool := fun _ => false
  emittedCount : UInt8 := 0
  lastSeenOrder : UInt64 := 0

/-- A line of the file, without `latency_ms`, which is `latency_ns` again. -/
structure Line where
  tsEpochMs : UInt64
  channelId : UInt32
  metric : MetricKind
  frameKey : UInt64
  latencyNs : UInt64
  startNs : UInt64
  endNs : UInt64
  gpuPct : Int
  rssKb : Int
deriving DecidableEq

inductive RecorderEvent
  | emitted (frameKey : UInt64) (kind : MetricKind) (line : Option Line)
  | reset (frameKey : UInt64)
  | evicted (frameKey : UInt64)
  | cleared
deriving DecidableEq

structure Readings where
  realtimeEpochMs : UInt64
  monotonicNowNs : UInt64
  gpuLoadPct : Int
  rssKb : Int

structure StageCall where
  stage : Option LatencyStage
  frameKey : UInt64
  timestampNs : UInt64
  readings : MetricKind → Readings

/-- The members, and in `trace` what has happened to the entries so far. -/
structure LatencyRecorder where
  frameTimings : AList fun _ : UInt64 => FrameTiming
  metricSeenCount : MetricKind → UInt64
  eventOrder : UInt64
  channelId : UInt32
  sampleEveryN : UInt32
  cachedGpuPct : Int
  cachedRssKb : Int
  lastResourceSampleNs : UInt64
  trace : List RecorderEvent

def FrameTiming.stamp (timing : FrameTiming) (stage : Option LatencyStage)
    (timestampNs : UInt64) : FrameTiming :=
  match stage with
  | some named => { timing with stamps := Function.update timing.stamps named (some timestampNs) }
  | none => timing

def MetricKind.stages : MetricKind → LatencyStage × LatencyStage
  | .faceInferToEmbedding => (.faceInferSink, .faceInferSrc)
  | .byteTrack => (.trackerSink, .trackerSrc)
  | .fileToDec => (.h264ParseSrc, .v4L2DecCapsSrc)
  | .yoloQnnInfer => (.yoloQnnSink, .yoloQnnSrc)
  | .decToYolo => (.v4L2DecCapsSrc, .yoloPostprocessSrc)
  | .decToTracker => (.v4L2DecCapsSrc, .trackerSrc)
  | .decToFace => (.v4L2DecCapsSrc, .faceInferSrc)

def MetricKind.asked : List MetricKind :=
  [.faceInferToEmbedding, .byteTrack, .fileToDec, .yoloQnnInfer, .decToYolo, .decToTracker,
    .decToFace]

namespace LatencyRecorder

def initialized (config : Config) : LatencyRecorder where
  frameTimings := ∅
  metricSeenCount _ := 0
  eventOrder := 0
  channelId := config.channelId
  sampleEveryN := if 0 < config.sampleEveryN then config.sampleEveryN else 1
  cachedGpuPct := -1
  cachedRssKb := -1
  lastResourceSampleNs := 0
  trace := []

def note (recorder : LatencyRecorder) (event : RecorderEvent) : LatencyRecorder :=
  { recorder with trace := recorder.trace ++ [event] }

def shouldSample (recorder : LatencyRecorder) (kind : MetricKind) : Bool × LatencyRecorder :=
  let ordinal := recorder.metricSeenCount kind + 1
  ((ordinal - 1) % recorder.sampleEveryN.toUInt64 = 0,
    { recorder with metricSeenCount := Function.update recorder.metricSeenCount kind ordinal })

def refreshResourceSamples (recorder : LatencyRecorder) (readings : Readings) : LatencyRecorder :=
  let now := readings.monotonicNowNs
  if now = 0 ∨ now - recorder.lastResourceSampleNs < kResourceSampleIntervalNs then recorder
  else
    { recorder with
      lastResourceSampleNs := now
      cachedGpuPct := readings.gpuLoadPct
      cachedRssKb := readings.rssKb }

def emitMetric (recorder : LatencyRecorder) (readings : Readings) (frameKey : UInt64)
    (kind : MetricKind) (startNs endNs : UInt64) (timing : FrameTiming) :
    LatencyRecorder × FrameTiming :=
  if timing.emitted kind then (recorder, timing)
  else
    let timing := { timing with
      emitted := Function.update timing.emitted kind true
      emittedCount :=
        if timing.emittedCount < kMetricCount then timing.emittedCount + 1
        else timing.emittedCount }
    if endNs < startNs then (recorder.note (.emitted frameKey kind none), timing)
    else
      let (sampled, recorder) := recorder.shouldSample kind
      if sampled then
        let recorder := recorder.refreshResourceSamples readings
        let line : Line := {
          tsEpochMs := readings.realtimeEpochMs
          channelId := recorder.channelId
          metric := kind
          frameKey := frameKey
          latencyNs := endNs - startNs
          startNs := startNs
          endNs := endNs
          gpuPct := recorder.cachedGpuPct
          rssKb := recorder.cachedRssKb }
        (recorder.note (.emitted frameKey kind (some line)), timing)
      else (recorder.note (.emitted frameKey kind none), timing)

def maybeEmit (readings : MetricKind → Readings) (frameKey : UInt64)
    (entry : LatencyRecorder × FrameTiming) (kind : MetricKind) : LatencyRecorder × FrameTiming :=
  match entry.2.stamps kind.stages.1, entry.2.stamps kind.stages.2 with
  | some startNs, some endNs =>
      entry.1.emitMetric (readings kind) frameKey kind startNs endNs entry.2
  | _, _ => entry

def maybeEmitMetrics (recorder : LatencyRecorder) (readings : MetricKind → Readings)
    (frameKey : UInt64) (timing : FrameTiming) : LatencyRecorder × FrameTiming :=
  MetricKind.asked.foldl (maybeEmit readings frameKey) (recorder, timing)

def resetTimingForFrameReuse (recorder : LatencyRecorder) (nowNs : UInt64) : FrameTiming :=
  { stamps := fun stage => if stage = .h264ParseSrc then some nowNs else none
    lastSeenOrder := recorder.eventOrder }

def stale (recorder : LatencyRecorder) (timing : FrameTiming) : Bool :=
  recorder.eventOrder > timing.lastSeenOrder ∧
    recorder.eventOrder - timing.lastSeenOrder > kStaleOrderWindow

def completed (timing : FrameTiming) : Bool :=
  timing.emittedCount ≥ kMetricCount

def erase (recorder : LatencyRecorder) : LatencyRecorder :=
  let erased (entry : (_ : UInt64) × FrameTiming) : Bool :=
    recorder.stale entry.2 || completed entry.2
  let entries := recorder.frameTimings.entries
  { recorder with
    frameTimings := ⟨entries.filter (!erased ·),
      recorder.frameTimings.nodupKeys.sublist List.filter_sublist⟩
    trace := recorder.trace ++ (entries.filter erased).map fun entry => .evicted entry.1 }

def pruneIfNeeded (recorder : LatencyRecorder) : LatencyRecorder :=
  if recorder.frameTimings.entries.length ≤ kMaxTrackedFrames then recorder
  else
    let recorder := recorder.erase
    if recorder.frameTimings.entries.length > kHardMapLimit then
      { recorder.note .cleared with frameTimings := ∅ }
    else recorder

/-- A frame that comes back after more than a second is a new one. -/
def reused (timing : FrameTiming) (call : StageCall) : Bool :=
  match call.stage, timing.stamps .h264ParseSrc with
  | some .h264ParseSrc, some earlier =>
      call.timestampNs > earlier ∧ call.timestampNs - earlier > kFrameReuseResetNs
  | _, _ => false

def enter (recorder : LatencyRecorder) (call : StageCall) : LatencyRecorder × FrameTiming :=
  let found := recorder.frameTimings.lookup call.frameKey
  let recorder := { recorder with eventOrder := recorder.eventOrder + 1 }
  let timing := { found.getD {} with lastSeenOrder := recorder.eventOrder }
  if found.isSome ∧ reused timing call then
    (recorder.note (.reset call.frameKey), recorder.resetTimingForFrameReuse call.timestampNs)
  else (recorder, timing)

def recordStageTimestamp (recorder : LatencyRecorder) (call : StageCall) : LatencyRecorder :=
  if call.timestampNs = 0 then recorder
  else
    let (recorder, timing) := recorder.enter call
    let (recorder, timing) := recorder.maybeEmitMetrics call.readings call.frameKey
      (timing.stamp call.stage call.timestampNs)
    { recorder with
      frameTimings := recorder.frameTimings.insert call.frameKey timing }.pruneIfNeeded

def run (config : Config) (calls : List StageCall) : LatencyRecorder :=
  calls.foldl recordStageTimestamp (initialized config)

end LatencyRecorder

end Iq9Pipeline.MultiCam.Latency
