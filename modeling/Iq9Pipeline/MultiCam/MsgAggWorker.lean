import Iq9Pipeline.MultiCam.BatchText
import Iq9Pipeline.Foundation.Machine

/-!
The message aggregator around its worker (`gstmsgagg.cpp`): chain and event calls on the
pads, the passes of the worker task with its two waits, and the changes of state that start
and end an active period. A step is what happens under one hold of the lock, or what the
worker pushes without it; a wake-up may be real or spurious, a deadline may pass or not.
-/

namespace Iq9Pipeline.MultiCam

open Foundation

structure GstMsgAggDataPad where
  queue : DataPad
  eos : Bool
  /-- What has been chained on the pad in this active period. -/
  chained : List (List UInt8)
deriving DecidableEq

namespace GstMsgAggDataPad

def chain (pad : GstMsgAggDataPad) (buffer : List UInt8) : GstMsgAggDataPad :=
  { pad with queue := dataChain pad.queue buffer, chained := pad.chained ++ [cString buffer] }

def receiveEos (pad : GstMsgAggDataPad) : GstMsgAggDataPad :=
  { pad with eos := true }

def popHead (pad : GstMsgAggDataPad) : GstMsgAggDataPad :=
  { pad with queue := pad.queue.tail }

def clear (_pad : GstMsgAggDataPad) : GstMsgAggDataPad :=
  ⟨[], false, []⟩

end GstMsgAggDataPad

def allPadsHaveData (datapads : List GstMsgAggDataPad) : Bool :=
  !datapads.isEmpty && datapads.all fun pad => pad.eos || !pad.queue.isEmpty

def allPadsEos (datapads : List GstMsgAggDataPad) : Bool :=
  !datapads.isEmpty && datapads.all GstMsgAggDataPad.eos

def anyPadHasData (datapads : List GstMsgAggDataPad) : Bool :=
  datapads.any fun pad => !pad.queue.isEmpty

structure Placeholders where
  total : UInt64
  eos : UInt64
  timeout : UInt64
deriving DecidableEq

def Placeholders.count (counts : Placeholders) (pad : GstMsgAggDataPad) : Placeholders :=
  if !pad.queue.isEmpty then counts
  else if pad.eos then ⟨counts.total + 1, counts.eos + 1, counts.timeout⟩
  else ⟨counts.total + 1, counts.eos, counts.timeout + 1⟩

/-- Where the worker stands: between two passes, in one of the waits, or pushing. -/
inductive WorkerPhase
  | idle
  | waiting
  | waitingUntil
  | pushing (text : List UInt8)
  | pushingEos
deriving DecidableEq

inductive TaskState
  | started
  | paused
  | stopped
deriving DecidableEq

inductive SrcPush
  | streamStart
  | caps
  | segment
  | buffer (text : List UInt8)
  | eos
deriving DecidableEq

structure PoppedBatch where
  items : List (Option (List UInt8))
  text : List UInt8
deriving DecidableEq

structure GstMsgAgg where
  datapads : List GstMsgAggDataPad
  active : Bool
  started : Bool
  batchesPushed : UInt64
  timeoutCount : UInt64
  placeholders : Placeholders
  worker : WorkerPhase
  task : TaskState
  srcpad : List SrcPush
  batches : List PoppedBatch
  /-- The pads and the passes as the worker found them when it decided to push EOS. -/
  decided : Option (List GstMsgAggDataPad × List PoppedBatch)
deriving DecidableEq

inductive MsgAggStep
  | chain (pad : Nat) (buffer : List UInt8)
  | eos (pad : Nat)
  | enter
  | wake
  | wakeUntil (timedOut : Bool)
  | push
  | pausedToReady
  | joined
  | readyToPaused
deriving DecidableEq

namespace GstMsgAgg

section Worker

variable (glib : JsonGlib) (merge : Bool)

def phase3 (agg : GstMsgAgg) : GstMsgAgg :=
  let items := agg.datapads.map fun pad => pad.queue.head?
  let text :=
    if merge then (buildSceneMerge glib (agg.datapads.map GstMsgAggDataPad.queue)).1
    else batchText items
  { agg with
    datapads := agg.datapads.map GstMsgAggDataPad.popHead
    placeholders :=
      if merge then agg.placeholders else agg.datapads.foldl Placeholders.count agg.placeholders
    batchesPushed := agg.batchesPushed + 1
    worker := .pushing text
    batches := agg.batches ++ [⟨items, text⟩] }

def endWait (agg : GstMsgAgg) : GstMsgAgg :=
  if !agg.active then { agg with worker := .idle }
  else if allPadsHaveData agg.datapads then agg.phase3 glib merge
  else ({ agg with timeoutCount := agg.timeoutCount + 1 } : GstMsgAgg).phase3 glib merge

def phase2 (agg : GstMsgAgg) (timedOut : Bool) : GstMsgAgg :=
  if agg.active && !allPadsHaveData agg.datapads && !allPadsEos agg.datapads && !timedOut then
    { agg with worker := .waitingUntil }
  else agg.endWait glib merge

def phase1 (agg : GstMsgAgg) : GstMsgAgg :=
  if agg.active && !anyPadHasData agg.datapads && !allPadsEos agg.datapads then
    { agg with worker := .waiting }
  else if !agg.active then { agg with worker := .idle }
  else if allPadsEos agg.datapads && !anyPadHasData agg.datapads then
    { agg with worker := .pushingEos, decided := some (agg.datapads, agg.batches) }
  else if allPadsHaveData agg.datapads then agg.phase3 glib merge
  else agg.phase2 glib merge false

end Worker

def preamble (agg : GstMsgAgg) : List SrcPush :=
  if agg.started then [] else [.streamStart, .caps, .segment]

def pushBuffer (agg : GstMsgAgg) (text : List UInt8) : GstMsgAgg :=
  { agg with
    srcpad := agg.srcpad ++ agg.preamble ++ [.buffer text]
    started := true
    worker := .idle }

def pushEos (agg : GstMsgAgg) : GstMsgAgg :=
  { agg with
    srcpad := agg.srcpad ++ agg.preamble ++ [.eos]
    started := true
    worker := .idle
    task := .paused }

def step (glib : JsonGlib) (merge : Bool) (agg : GstMsgAgg) : MsgAggStep → Option GstMsgAgg
  | .chain pad buffer =>
      if pad < agg.datapads.length then
        some { agg with datapads := agg.datapads.modify pad fun entry => entry.chain buffer }
      else none
  | .eos pad =>
      if pad < agg.datapads.length then
        some { agg with datapads := agg.datapads.modify pad GstMsgAggDataPad.receiveEos }
      else none
  | .enter =>
      if agg.worker = .idle ∧ agg.task = .started then some (agg.phase1 glib merge) else none
  | .wake => if agg.worker = .waiting then some (agg.phase1 glib merge) else none
  | .wakeUntil timedOut =>
      if agg.worker = .waitingUntil then some (agg.phase2 glib merge timedOut) else none
  | .push =>
      match agg.worker with
      | .pushing text => some (agg.pushBuffer text)
      | .pushingEos => some agg.pushEos
      | _ => none
  | .pausedToReady =>
      if agg.active then some { agg with active := false, task := .paused } else none
  | .joined =>
      if agg.active = false ∧ agg.task = .paused ∧ agg.worker = .idle then
        some { agg with
          datapads := agg.datapads.map GstMsgAggDataPad.clear
          started := false
          batchesPushed := 0
          timeoutCount := 0
          placeholders := ⟨0, 0, 0⟩
          task := .stopped
          srcpad := []
          batches := []
          decided := none }
      else none
  | .readyToPaused =>
      if agg.task = .stopped then some { agg with active := true, task := .started } else none

def requested (pads : Nat) : GstMsgAgg where
  datapads := List.replicate pads ⟨[], false, []⟩
  active := false
  started := false
  batchesPushed := 0
  timeoutCount := 0
  placeholders := ⟨0, 0, 0⟩
  worker := .idle
  task := .stopped
  srcpad := []
  batches := []
  decided := none

def machine (glib : JsonGlib) (merge : Bool) : Machine GstMsgAgg MsgAggStep where
  start agg := ∃ pads, agg = requested pads
  step := step glib merge

end GstMsgAgg

end Iq9Pipeline.MultiCam
