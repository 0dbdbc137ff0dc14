import Iq9Pipeline.Consumer.ThreadPoolRuns
import Iq9Pipeline.RuleProcess.RelayFraming
import Mathlib.Data.List.Forall2

/-!
The VLM path of the consumer (`consumer_demo.cpp`, `jsonl_logger.cpp`): every frame from the
relay becomes a task of the thread pool that captures the fields of the packet and of the
metadata, and every task that runs appends one line to the log.
-/

namespace Iq9Pipeline.Consumer

open Foundation RuleProcess

def ruleKey : List UInt8 :=
  ascii "\"rule\":"

def behind (pattern text : List UInt8) : Option (List UInt8) :=
  (text.tails.find? fun rest => pattern.isPrefixOf rest).map fun rest => rest.drop pattern.length

def extractRuleName (metadataJson : List UInt8) : List UInt8 :=
  match (behind ruleKey metadataJson).bind (behind [0x22]) with
  | some rest => if 0x22 ∈ rest then rest.takeWhile fun byte => byte ≠ 0x22 else []
  | none => []

structure VlmTask where
  metadataJson : List UInt8
  sourceId : Int
  ruleName : List UInt8
  timestampNs : UInt64
  frameNumber : Nat
deriving DecidableEq

def captureTask (frameNumber : Nat) (frame : List UInt8 × IQ9TaskPacket) : VlmTask where
  metadataJson := frame.1
  sourceId := castInt frame.2.slotIndex
  ruleName := extractRuleName frame.1
  timestampNs := frame.2.timestampNs
  frameNumber := frameNumber

structure VlmOutcome where
  vlmResponse : List UInt8
  vlmSuccess : Bool
  vlmError : List UInt8
  encodeMs : Float
  httpMs : Float
  totalMs : Float
  jpegSizeBytes : Nat

/-- A line of the log by its members; `dets` is absent where the text is no JSON. -/
structure VlmLine where
  ts : UInt64
  src : Int
  rule : List UInt8
  dets : Option Json
  resp : List UInt8
  ok : Bool
  err : List UInt8
  encMs : Float
  httpMs : Float
  totalMs : Float
  frame : Nat
  jpegBytes : Nat

def logLine (parse : List UInt8 → Option Json) (task : VlmTask) (outcome : VlmOutcome) :
    VlmLine where
  ts := task.timestampNs
  src := task.sourceId
  rule := task.ruleName
  dets := if task.metadataJson = [] then some (.array []) else parse task.metadataJson
  resp := outcome.vlmResponse
  ok := outcome.vlmSuccess
  err := outcome.vlmError
  encMs := outcome.encodeMs
  httpMs := outcome.httpMs
  totalMs := outcome.totalMs
  frame := task.frameNumber
  jpegBytes := outcome.jpegSizeBytes

structure VlmConsumer where
  received : Nat
  vlmFrameNum : Nat
  pool : ThreadPool VlmTask
  log : List VlmLine

inductive VlmStep
  | frame
  | finish (worker : Nat) (outcome : VlmOutcome)
  | makeRoom
  | retry
  | wake (worker : Nat)
  | drain
  | destroy
  | join

structure VlmConfig where
  pool : PoolConfig
  dropOldest : Bool
  logOpen : Bool

namespace VlmConsumer

section

variable (parse : List UInt8 → Option Json) (config : VlmConfig)
  (frames : List (List UInt8 × IQ9TaskPacket))

/-- The loop body on a frame that is mapped: a refused task waits for the drop-oldest path,
or is dropped. -/
def onFrame (consumer : VlmConsumer) (frame : List UInt8 × IQ9TaskPacket) : VlmConsumer :=
  if frame.2.dataType = PixelFormat.rgb24.code then
    let task := captureTask consumer.vlmFrameNum frame
    let submitted := consumer.pool.submit config.pool task
    { consumer with
      received := consumer.received + 1
      vlmFrameNum := consumer.vlmFrameNum + 1
      pool :=
        if submitted.1 then submitted.2
        else if config.dropOldest then { consumer.pool with owner := .refused task }
        else consumer.pool }
  else { consumer with received := consumer.received + 1 }

def onPool (consumer : VlmConsumer) (label : PoolStep VlmTask) : Option VlmConsumer :=
  (consumer.pool.step config.pool label).map fun pool => { consumer with pool := pool }

def step (consumer : VlmConsumer) : VlmStep → Option VlmConsumer
  | .frame =>
      match consumer.pool.owner, frames[consumer.received]? with
      | .outside, some frame => some (consumer.onFrame config frame)
      | _, _ => none
  | .finish worker outcome =>
      match consumer.pool.workers[worker]? with
      | some (.running task) =>
          (consumer.pool.step config.pool (.finish worker)).map fun pool =>
            { consumer with
              pool := pool
              log := consumer.log ++ if config.logOpen then [logLine parse task outcome] else [] }
      | _ => none
  | .makeRoom => consumer.onPool config .makeRoom
  | .retry => consumer.onPool config .retry
  | .wake worker => consumer.onPool config (.wake worker)
  | .drain => consumer.onPool config .drain
  | .destroy => consumer.onPool config .destroy
  | .join => consumer.onPool config .join

end

def launched (config : VlmConfig) : VlmConsumer where
  received := 0
  vlmFrameNum := 0
  pool := .constructed config.pool
  log := []

def machine (parse : List UInt8 → Option Json) (config : VlmConfig)
    (frames : List (List UInt8 × IQ9TaskPacket)) : Machine VlmConsumer VlmStep where
  start consumer := consumer = launched config
  step := step parse config frames

end VlmConsumer

end Iq9Pipeline.Consumer
