import Iq9Pipeline.Foundation.Machine
import Mathlib.Data.List.Perm.Basic

/-!
The thread pool of the consumer (`thread_pool.cpp`) with its worker threads, calls from any
thread, and the thread that owns it: the loop of `consumer_demo.cpp`, which submits with the
drop-oldest retry and destroys the pool in the end. A step is one hold of the mutex, or a
task that returns together with the hold that follows it.
-/

namespace Iq9Pipeline.Consumer

open Foundation

structure PoolConfig where
  numThreads : UInt64
  maxQueueSize : UInt64

inductive WorkerThread (Task : Type)
  | waiting
  | running (task : Task)
  | returned
deriving DecidableEq

inductive PoolOwner (Task : Type)
  | outside
  | refused (task : Task)
  | evicted (task : Task)
  | joining
  | destroyed
deriving DecidableEq

structure ThreadPool (Task : Type) where
  queue : List Task
  stop : Bool
  active : UInt64
  completed : UInt64
  workers : List (WorkerThread Task)
  owner : PoolOwner Task
  accepted : List Task
  /-- The tasks that have left the queue, in this order, and whether a worker took them. -/
  removed : List (Task × Bool)
  ended : List Task

inductive PoolStep (Task : Type)
  | submit (task : Task)
  | evictOldest
  | drain
  | wake (worker : Nat)
  | finish (worker : Nat)
  | offer (task : Task)
  | makeRoom
  | retry
  | destroy
  | join

namespace WorkerThread

variable {Task : Type}

def task? : WorkerThread Task → Option Task
  | .running task => some task
  | _ => none

def isReturned : WorkerThread Task → Bool
  | .returned => true
  | _ => false

end WorkerThread

namespace ThreadPool

variable {Task : Type}

def submit (config : PoolConfig) (pool : ThreadPool Task) (task : Task) :
    Bool × ThreadPool Task :=
  if pool.stop then (false, pool)
  else if config.maxQueueSize.toNat ≤ pool.queue.length then (false, pool)
  else (true,
    { pool with queue := pool.queue ++ [task], accepted := pool.accepted ++ [task] })

def evictOldest (pool : ThreadPool Task) : ThreadPool Task :=
  match pool.queue with
  | [] => pool
  | task :: queue => { pool with queue := queue, removed := pool.removed ++ [(task, false)] }

def wake (pool : ThreadPool Task) (worker : Nat) : Option (ThreadPool Task) :=
  match pool.queue with
  | [] =>
      if pool.stop then some { pool with workers := pool.workers.set worker .returned } else none
  | task :: queue =>
      some { pool with
        queue := queue
        active := pool.active + 1
        workers := pool.workers.set worker (.running task)
        removed := pool.removed ++ [(task, true)] }

def finish (pool : ThreadPool Task) (worker : Nat) (task : Task) : ThreadPool Task :=
  { pool with
    active := pool.active - 1
    completed := pool.completed + 1
    workers := pool.workers.set worker .waiting
    ended := pool.ended ++ [task] }

def call (config : PoolConfig) (pool : ThreadPool Task) :
    PoolStep Task → Option (ThreadPool Task)
  | .submit task => some (pool.submit config task).2
  | .evictOldest => some pool.evictOldest
  | .drain => if pool.queue.isEmpty ∧ pool.active = 0 then some pool else none
  | .wake worker =>
      match pool.workers[worker]? with
      | some .waiting => pool.wake worker
      | _ => none
  | .finish worker =>
      match pool.workers[worker]? with
      | some (.running task) => some (pool.finish worker task)
      | _ => none
  | .offer task =>
      match pool.owner with
      | .outside =>
          if (pool.submit config task).1 then some (pool.submit config task).2
          else some { pool with owner := .refused task }
      | _ => none
  | .makeRoom =>
      match pool.owner with
      | .refused task => some { pool.evictOldest with owner := .evicted task }
      | _ => none
  | .retry =>
      match pool.owner with
      | .evicted task => some { (pool.submit config task).2 with owner := .outside }
      | _ => none
  | .destroy =>
      match pool.owner with
      | .outside => some { pool with stop := true, owner := .joining }
      | _ => none
  | .join =>
      match pool.owner with
      | .joining =>
          if pool.workers.all WorkerThread.isReturned then some { pool with owner := .destroyed }
          else none
      | _ => none

def step (config : PoolConfig) (pool : ThreadPool Task) (label : PoolStep Task) :
    Option (ThreadPool Task) :=
  match pool.owner with
  | .destroyed => none
  | _ => pool.call config label

def constructed (config : PoolConfig) : ThreadPool Task where
  queue := []
  stop := false
  active := 0
  completed := 0
  workers := List.replicate config.numThreads.toNat .waiting
  owner := .outside
  accepted := []
  removed := []
  ended := []

def machine (Task : Type) (config : PoolConfig) : Machine (ThreadPool Task) (PoolStep Task) where
  start pool := pool = constructed config
  step := step config

def running (pool : ThreadPool Task) : List Task :=
  pool.workers.filterMap WorkerThread.task?

def started (pool : ThreadPool Task) : List Task :=
  (pool.removed.filter fun entry => entry.2).map Prod.fst

def evictions (pool : ThreadPool Task) : List Task :=
  (pool.removed.filter fun entry => !entry.2).map Prod.fst

end ThreadPool

end Iq9Pipeline.Consumer
