import Iq9Pipeline.Foundation.Machine
import Mathlib.Data.List.Perm.Basic

/-!
The aggregator (`aggregator/Aggregator.cpp`): producers that reserve room on a counter
before they enqueue, one consumer thread that fills batches, and the owner that starts
and stops it. The queue is linearizable; which item a dequeue answers with is a choice
of the environment. An item goes by the index of the call that offers it.
-/

namespace Iq9Pipeline.MultiCam

open Foundation

structure AggregatorConfig where
  batchSize : UInt32
  queueCapacity : UInt32

inductive CallPhase
  | loading
  | comparing (cur : UInt64)
  | admitted
  | inserted
  | accepted
  | dropped
deriving DecidableEq, Repr

structure Call where
  producer : Nat
  phase : CallPhase
deriving DecidableEq, Repr

inductive ConsumerPhase
  | checking
  | waiting
  | counting
  | filling
  | deciding
  | draining
  | countingRest
  | finishing
  | exited
deriving DecidableEq, Repr

inductive OwnerPhase
  | running
  | joining
  | stopped
deriving DecidableEq, Repr

structure Batch where
  items : List Nat
  stopRequested : Bool
deriving DecidableEq, Repr

structure Aggregator where
  calls : List Call
  queue : List Nat
  currentSize : UInt64
  enqueuedCount : UInt64
  droppedCount : UInt64
  batchesSent : UInt64
  stopRequested : Bool
  consumer : ConsumerPhase
  batch : List Nat
  owner : OwnerPhase
  published : List Batch
  earlier : List Batch
  entered : List Nat
deriving DecidableEq, Repr

inductive AggregatorStep
  | tryEnqueue (producer : Nat)
  | load (call : Nat)
  | compareExchange (call : Nat) (spurious : Bool)
  | enqueue (call : Nat)
  | count (call : Nat)
  | consume (taken : Option Nat)
  | requestStop
  | join
  | start
deriving DecidableEq, Repr

namespace CallPhase

def returned (phase : CallPhase) : Bool :=
  phase = .accepted || phase = .dropped

def handedOver (phase : CallPhase) : Bool :=
  phase = .inserted || phase = .accepted

end CallPhase

def phase? (calls : List Call) (call : Nat) : Option CallPhase :=
  calls[call]?.map Call.phase

def setPhase (calls : List Call) (call : Nat) (phase : CallPhase) : List Call :=
  calls.modify call fun entry => { entry with phase := phase }

namespace Aggregator

def take (agg : Aggregator) (index : Nat) (next : ConsumerPhase) : Option Aggregator :=
  agg.queue[index]?.map fun call =>
    { agg with
      queue := agg.queue.eraseIdx index
      batch := agg.batch ++ [call]
      consumer := next }

def subtract (agg : Aggregator) (next : ConsumerPhase) : Aggregator :=
  { agg with currentSize := agg.currentSize - 1, consumer := next }

def publishBatch (agg : Aggregator) (next : ConsumerPhase) : Aggregator :=
  { agg with
    published := agg.published ++ [⟨agg.batch, agg.stopRequested⟩]
    batchesSent := agg.batchesSent + 1
    batch := []
    consumer := next }

/-- One step of `ConsumerLoop`; `taken` is the place in the queue of the item that a
dequeue answers with, `none` where it answers with nothing. -/
def consume (config : AggregatorConfig) (agg : Aggregator) (taken : Option Nat) :
    Option Aggregator :=
  match agg.consumer, taken with
  | .checking, none =>
      some { agg with consumer := if agg.stopRequested then .draining else .waiting }
  | .waiting, some index => agg.take index .counting
  | .waiting, none => some { agg with consumer := .deciding }
  | .counting, none => some (agg.subtract .filling)
  | .filling, some index =>
      if agg.batch.length < config.batchSize.toNat then agg.take index .counting else none
  | .filling, none =>
      if agg.batch.length < config.batchSize.toNat ∧ agg.queue ≠ [] then none
      else some { agg with consumer := .deciding }
  | .deciding, none =>
      if config.batchSize.toNat ≤ agg.batch.length ∨ agg.stopRequested = true ∧ agg.batch ≠ [] then
        some (agg.publishBatch .checking)
      else some { agg with consumer := .checking }
  | .draining, some index => agg.take index .countingRest
  | .draining, none => if agg.queue = [] then some { agg with consumer := .finishing } else none
  | .countingRest, none => some (agg.subtract .draining)
  | .finishing, none =>
      some (if agg.batch ≠ [] then agg.publishBatch .exited else { agg with consumer := .exited })
  | _, _ => none

def step (config : AggregatorConfig) (agg : Aggregator) : AggregatorStep → Option Aggregator
  | .tryEnqueue producer =>
      if agg.calls.any fun call => call.producer = producer && !call.phase.returned then none
      else some { agg with calls := agg.calls ++ [⟨producer, .loading⟩] }
  | .load call =>
      match phase? agg.calls call with
      | some .loading =>
          some { agg with calls := setPhase agg.calls call (.comparing agg.currentSize) }
      | _ => none
  | .compareExchange call spurious =>
      match phase? agg.calls call with
      | some (.comparing cur) =>
          if config.queueCapacity.toUInt64 ≤ cur then
            some { agg with
              calls := setPhase agg.calls call .dropped
              droppedCount := agg.droppedCount + 1 }
          else if agg.currentSize = cur ∧ spurious = false then
            some { agg with calls := setPhase agg.calls call .admitted, currentSize := cur + 1 }
          else some { agg with calls := setPhase agg.calls call (.comparing agg.currentSize) }
      | _ => none
  | .enqueue call =>
      match phase? agg.calls call with
      | some .admitted =>
          some { agg with
            calls := setPhase agg.calls call .inserted
            queue := agg.queue ++ [call]
            entered := agg.entered ++ [call] }
      | _ => none
  | .count call =>
      match phase? agg.calls call with
      | some .inserted =>
          some { agg with
            calls := setPhase agg.calls call .accepted
            enqueuedCount := agg.enqueuedCount + 1 }
      | _ => none
  | .consume taken => agg.consume config taken
  | .requestStop =>
      if agg.owner = .running then some { agg with stopRequested := true, owner := .joining }
      else none
  | .join =>
      if agg.owner = .joining ∧ agg.consumer = .exited then some { agg with owner := .stopped }
      else none
  | .start =>
      if agg.owner = .stopped then
        some { agg with
          stopRequested := false
          consumer := .checking
          batch := []
          owner := .running
          published := []
          earlier := agg.earlier ++ agg.published }
      else none

def started : Aggregator where
  calls := []
  queue := []
  currentSize := 0
  enqueuedCount := 0
  droppedCount := 0
  batchesSent := 0
  stopRequested := false
  consumer := .checking
  batch := []
  owner := .running
  published := []
  earlier := []
  entered := []

def machine (config : AggregatorConfig) : Machine Aggregator AggregatorStep where
  start agg := agg = started
  step := step config

def batches (agg : Aggregator) : List Batch :=
  agg.earlier ++ agg.published

def publishedItems (agg : Aggregator) : List Nat :=
  agg.batches.flatMap Batch.items

def Quiet (agg : Aggregator) : Prop :=
  ∀ call ∈ agg.calls, call.phase.returned = true

instance (agg : Aggregator) : Decidable agg.Quiet :=
  inferInstanceAs (Decidable (∀ call ∈ agg.calls, _))

end Aggregator

end Iq9Pipeline.MultiCam
