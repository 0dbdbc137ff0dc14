import Iq9Pipeline.Consumer.ThreadPool

/-!
What every run of the thread pool keeps: the tasks against the places where they are, the
counters against the tasks, and what holds when a call of the pool returns.
-/

namespace Iq9Pipeline.Consumer

open Foundation

variable {Task : Type} {config : PoolConfig} {pool next : ThreadPool Task} {label : PoolStep Task}

namespace ThreadPool

def Stays (config : PoolConfig) (pool : ThreadPool Task) (owner : PoolOwner Task) : Prop :=
  owner = pool.owner ∨
    (∃ task, pool.owner = .outside ∧ owner = .refused task) ∨
    (∃ task, pool.owner = .refused task ∧ owner = .evicted task ∧ pool.queue = []) ∨
    (∃ task, pool.owner = .evicted task ∧ owner = .outside ∧
      (pool.stop = true ∨ config.maxQueueSize.toNat ≤ pool.queue.length))

inductive Effect (config : PoolConfig) (pool : ThreadPool Task) :
    PoolStep Task → ThreadPool Task → Prop
  | stayed {step : PoolStep Task} (owner : PoolOwner Task) (stays : Stays config pool owner) :
      Effect config pool step { pool with owner := owner }
  | pushed {step : PoolStep Task} (task : Task) (owner : PoolOwner Task)
      (running : pool.stop = false) (room : pool.queue.length < config.maxQueueSize.toNat)
      (moves : owner = pool.owner ∧ (step = .submit task ∨ owner = .outside) ∨
        pool.owner = .evicted task ∧ owner = .outside) :
      Effect config pool step
        { pool with
          queue := pool.queue ++ [task]
          accepted := pool.accepted ++ [task]
          owner := owner }
  | evicted {step : PoolStep Task} (task : Task) (queue : List Task) (owner : PoolOwner Task)
      (oldest : pool.queue = task :: queue)
      (moves : owner = pool.owner ∨
        ∃ newest, pool.owner = .refused newest ∧ owner = .evicted newest) :
      Effect config pool step
        { pool with
          queue := queue
          removed := pool.removed ++ [(task, false)]
          owner := owner }
  | took (worker : Nat) (task : Task) (queue : List Task) (oldest : pool.queue = task :: queue)
      (waiting : pool.workers[worker]? = some .waiting) :
      Effect config pool (.wake worker)
        { pool with
          queue := queue
          active := pool.active + 1
          workers := pool.workers.set worker (.running task)
          removed := pool.removed ++ [(task, true)] }
  | left (worker : Nat) (stopped : pool.stop = true) (empty : pool.queue = [])
      (waiting : pool.workers[worker]? = some .waiting) :
      Effect config pool (.wake worker)
        { pool with workers := pool.workers.set worker .returned }
  | finished (worker : Nat) (task : Task) (busy : pool.workers[worker]? = some (.running task)) :
      Effect config pool (.finish worker) (pool.finish worker task)
  | destroying (outside : pool.owner = .outside) :
      Effect config pool .destroy { pool with stop := true, owner := .joining }
  | joined (joining : pool.owner = .joining)
      (returned : pool.workers.all WorkerThread.isReturned = true) :
      Effect config pool .join { pool with owner := .destroyed }

theorem submit_cases (config : PoolConfig) (pool : ThreadPool Task) (task : Task) :
    (pool.submit config task = (false, pool) ∧
        (pool.stop = true ∨ config.maxQueueSize.toNat ≤ pool.queue.length)) ∨
      pool.stop = false ∧ pool.queue.length < config.maxQueueSize.toNat ∧
        pool.submit config task = (true,
          { pool with queue := pool.queue ++ [task], accepted := pool.accepted ++ [task] }) := by
  rw [submit]
  cases stopped : pool.stop with
  | true => exact .inl ⟨if_pos rfl, .inl rfl⟩
  | false =>
      by_cases full : config.maxQueueSize.toNat ≤ pool.queue.length
      · exact .inl ⟨by simp [full], .inr full⟩
      · exact .inr ⟨rfl, Nat.lt_of_not_le full, by simp [full]⟩

theorem Effect.ofSubmit (task : Task) :
    Effect config pool (.submit task) (pool.submit config task).2 := by
  rcases submit_cases config pool task with ⟨refused, _⟩ | ⟨running, room, accepted⟩
  · rw [refused]
    exact .stayed pool.owner (.inl rfl)
  · rw [accepted]
    exact .pushed task pool.owner running room (.inl ⟨rfl, .inl rfl⟩)

theorem Effect.ofOffer {task : Task} (outside : pool.owner = .outside) :
    Effect config pool (.offer task)
      (if (pool.submit config task).1 then (pool.submit config task).2
        else { pool with owner := .refused task }) := by
  rcases submit_cases config pool task with ⟨refused, _⟩ | ⟨running, room, accepted⟩
  · rw [refused]
    exact .stayed _ (.inr (.inl ⟨task, outside, rfl⟩))
  · rw [accepted]
    exact .pushed task pool.owner running room (.inl ⟨rfl, .inr outside⟩)

theorem Effect.ofMakeRoom {task : Task} (refused : pool.owner = .refused task) :
    Effect config pool .makeRoom { pool.evictOldest with owner := .evicted task } := by
  rw [evictOldest]
  split
  · rename_i empty
    exact .stayed _ (.inr (.inr (.inl ⟨task, refused, rfl, empty⟩)))
  · rename_i oldest queue found
    exact .evicted oldest queue _ found (.inr ⟨task, refused, rfl⟩)

theorem Effect.ofRetry {task : Task} (evicted : pool.owner = .evicted task) :
    Effect config pool .retry { (pool.submit config task).2 with owner := .outside } := by
  rcases submit_cases config pool task with ⟨refused, full⟩ | ⟨running, room, accepted⟩
  · rw [refused]
    exact .stayed _ (.inr (.inr (.inr ⟨task, evicted, rfl, full⟩)))
  · rw [accepted]
    exact .pushed task _ running room (.inr ⟨evicted, rfl⟩)

theorem call_effect (called : pool.call config label = some next) :
    Effect config pool label next := by
  cases label with
  | submit task =>
      simp only [call, Option.some.injEq] at called
      exact called ▸ .ofSubmit task
  | evictOldest =>
      simp only [call, evictOldest, Option.some.injEq] at called
      split at called
      · exact called ▸ .stayed pool.owner (.inl rfl)
      · rename_i task queue found
        exact called ▸ .evicted task queue pool.owner found (.inl rfl)
  | drain =>
      simp only [call, Option.ite_none_right_eq_some, Option.some.injEq] at called
      exact called.2 ▸ .stayed pool.owner (.inl rfl)
  | wake worker =>
      simp only [call] at called
      split at called
      · rename_i waiting
        simp only [wake] at called
        split at called
        · rename_i empty
          rw [Option.ite_none_right_eq_some, Option.some.injEq] at called
          exact called.2 ▸ .left worker called.1 empty waiting
        · rename_i task queue found
          rw [Option.some.injEq] at called
          exact called ▸ .took worker task queue found waiting
      · simp at called
  | finish worker =>
      simp only [call] at called
      split at called
      · rename_i task busy
        rw [Option.some.injEq] at called
        exact called ▸ .finished worker task busy
      · simp at called
  | offer task =>
      simp only [call] at called
      split at called
      · rename_i outside
        rw [← apply_ite some, Option.some.injEq] at called
        exact called ▸ .ofOffer outside
      · simp at called
  | makeRoom =>
      simp only [call] at called
      split at called
      · rename_i task refused
        rw [Option.some.injEq] at called
        exact called ▸ .ofMakeRoom refused
      · simp at called
  | retry =>
      simp only [call] at called
      split at called
      · rename_i task evicted
        rw [Option.some.injEq] at called
        exact called ▸ .ofRetry evicted
      · simp at called
  | destroy =>
      simp only [call] at called
      split at called
      · rename_i outside
        rw [Option.some.injEq] at called
        exact called ▸ .destroying outside
      · simp at called
  | join =>
      simp only [call] at called
      split at called
      · rename_i joining
        rw [Option.ite_none_right_eq_some, Option.some.injEq] at called
        exact called.2 ▸ .joined joining called.1
      · simp at called

theorem step_effect (stepped : pool.step config label = some next) :
    Effect config pool label next := by
  rw [step] at stepped
  split at stepped
  · simp at stepped
  · exact call_effect stepped

section Workers

variable {workers : List (WorkerThread Task)} {worker : Nat} {old : WorkerThread Task}

theorem tasks_set (found : workers[worker]? = some old) (phase : WorkerThread Task) :
    ∃ others : List Task,
      (workers.filterMap WorkerThread.task?).Perm (old.task?.toList ++ others) ∧
        ((workers.set worker phase).filterMap WorkerThread.task?).Perm
          (phase.task?.toList ++ others) := by
  obtain ⟨bound, rfl⟩ := List.getElem?_eq_some_iff.mp found
  have cons (head : WorkerThread Task) (rest : List (WorkerThread Task)) :
      (head :: rest).filterMap WorkerThread.task? =
        head.task?.toList ++ rest.filterMap WorkerThread.task? := by
    cases head <;> rfl
  refine ⟨(workers.eraseIdx worker).filterMap WorkerThread.task?, ?_, ?_⟩
  · rw [← cons]
    exact ((List.getElem_cons_eraseIdx_perm bound).filterMap _).symm
  · rw [← cons]
    exact (List.set_perm_cons_eraseIdx bound phase).filterMap _

theorem tasks_stay (found : workers[worker]? = some old) {phase : WorkerThread Task}
    (before : old.task? = none) (after : phase.task? = none) :
    ((workers.set worker phase).filterMap WorkerThread.task?).Perm
      (workers.filterMap WorkerThread.task?) := by
  obtain ⟨others, here, there⟩ := tasks_set found phase
  rw [before] at here
  rw [after] at there
  exact there.trans here.symm

end Workers

structure Placed (config : PoolConfig) (pool : ThreadPool Task) : Prop where
  order : pool.removed.map Prod.fst ++ pool.queue = pool.accepted
  taken : (pool.running ++ pool.ended).Perm pool.started
  bound : pool.queue.length ≤ config.maxQueueSize.toNat

theorem started_append (removed : List (Task × Bool)) (task : Task) (taken : Bool) :
    ((removed ++ [(task, taken)]).filter fun entry => entry.2).map Prod.fst =
      (removed.filter fun entry => entry.2).map Prod.fst ++ if taken then [task] else [] := by
  cases taken <;> simp

theorem Placed.step (placed : Placed config pool) (effect : Effect config pool label next) :
    Placed config next := by
  obtain ⟨order, taken, bound⟩ := placed
  cases effect with
  | stayed owner stays => exact ⟨order, taken, bound⟩
  | pushed task owner running room moves =>
      refine ⟨?_, taken, ?_⟩
      · dsimp only
        rw [← List.append_assoc, order]
      · dsimp only
        rw [List.length_append]
        exact room
  | evicted task queue owner oldest moves =>
      rw [oldest] at order bound
      refine ⟨?_, ?_, Nat.le_of_succ_le bound⟩
      · simpa using order
      · rw [started, started_append, if_neg Bool.false_ne_true, List.append_nil]
        exact taken
  | took worker task queue oldest waiting =>
      rw [oldest] at order bound
      refine ⟨?_, ?_, Nat.le_of_succ_le bound⟩
      · simpa using order
      · obtain ⟨others, here, there⟩ := tasks_set waiting (.running task)
        rw [started] at taken ⊢
        rw [started_append]
        have moved : ((pool.workers.set worker (.running task)).filterMap
            WorkerThread.task?).Perm (task :: pool.running) :=
          there.trans (here.symm.cons task)
        refine (moved.append_right _).trans ?_
        rw [List.cons_append]
        exact (taken.cons task).trans (List.perm_append_singleton task _).symm
  | left worker stopped empty waiting =>
      refine ⟨order, ?_, bound⟩
      exact ((tasks_stay waiting (by rfl) (by rfl)).append_right _).trans taken
  | finished worker task busy =>
      refine ⟨order, ?_, bound⟩
      obtain ⟨others, here, there⟩ := tasks_set busy .waiting
      refine List.Perm.trans ?_ taken
      change (((pool.workers.set worker .waiting).filterMap WorkerThread.task?) ++
        (pool.ended ++ [task])).Perm (pool.running ++ pool.ended)
      refine (there.append_right _).trans (List.Perm.trans ?_ (here.append_right _).symm)
      rw [← List.append_assoc]
      exact List.perm_append_singleton task _
  | destroying outside => exact ⟨order, taken, bound⟩
  | joined joining returned => exact ⟨order, taken, bound⟩

structure Counted (config : PoolConfig) (pool : ThreadPool Task) : Prop where
  workers : pool.workers.length = config.numThreads.toNat
  active : pool.active.toNat = pool.running.length
  completed : pool.completed = UInt64.ofNat pool.ended.length

theorem Counted.step (counted : Counted config pool) (effect : Effect config pool label next) :
    Counted config next := by
  obtain ⟨workers, active, completed⟩ := counted
  cases effect with
  | took worker task queue oldest waiting =>
      obtain ⟨others, here, there⟩ := tasks_set waiting (.running task)
      refine ⟨by simpa using workers, ?_, completed⟩
      have before : pool.running.length = others.length := here.length_eq
      have after : ((pool.workers.set worker (.running task)).filterMap
          WorkerThread.task?).length = others.length + 1 := by
        simpa [WorkerThread.task?, Nat.add_comm] using there.length_eq
      have most := List.length_filterMap_le WorkerThread.task?
        (pool.workers.set worker (.running task))
      rw [List.length_set, workers] at most
      have wide := config.numThreads.toNat_lt
      change (pool.active + 1).toNat =
        ((pool.workers.set worker (.running task)).filterMap WorkerThread.task?).length
      rw [UInt64.toNat_add, UInt64.toNat_one]
      omega
  | left worker stopped empty waiting =>
      refine ⟨by simpa using workers, ?_, completed⟩
      rw [active]
      exact (tasks_stay waiting (by rfl) (by rfl)).length_eq.symm
  | finished worker task busy =>
      obtain ⟨others, here, there⟩ := tasks_set busy .waiting
      refine ⟨by simpa [finish] using workers, ?_, ?_⟩
      · have before : pool.running.length = others.length + 1 := by
          simpa [WorkerThread.task?, Nat.add_comm, running] using here.length_eq
        have after : ((pool.workers.set worker .waiting).filterMap
            WorkerThread.task?).length = others.length := by
          simpa [WorkerThread.task?] using there.length_eq
        have positive : 1 ≤ pool.active := by
          rw [UInt64.le_iff_toNat_le, UInt64.toNat_one]
          omega
        have shrunk := UInt64.toNat_sub_of_le _ _ positive
        rw [UInt64.toNat_one] at shrunk
        dsimp only [finish, running]
        omega
      · simp [finish, completed]
  | _ => exact ⟨workers, active, completed⟩

structure Staffed (pool : ThreadPool Task) : Prop where
  stop : pool.stop = true ↔ pool.owner = .joining ∨ pool.owner = .destroyed
  returned : ∀ worker : Nat, pool.workers[worker]? = some .returned →
    pool.stop = true ∧ pool.queue = []
  destroyed : pool.owner = .destroyed → pool.workers.all WorkerThread.isReturned = true

theorem Staffed.alive (staffed : Staffed pool) {worker : Nat} {phase : WorkerThread Task}
    (found : pool.workers[worker]? = some phase) (working : phase.isReturned = false) :
    pool.owner ≠ .destroyed := by
  intro gone
  have all := List.all_eq_true.mp (staffed.destroyed gone) phase (List.mem_of_getElem? found)
  rw [working] at all
  exact Bool.false_ne_true all

theorem returned_set {workers : List (WorkerThread Task)} {worker other : Nat}
    {phase : WorkerThread Task} (working : phase.isReturned = false)
    (found : (workers.set worker phase)[other]? = some .returned) :
    workers[other]? = some .returned := by
  rw [List.getElem?_set] at found
  split at found
  · split at found
    · obtain rfl : phase = .returned := Option.some.inj found
      cases working
    · simp at found
  · exact found

theorem Staffed.step (staffed : Staffed pool) (effect : Effect config pool label next) :
    Staffed next := by
  have alive {worker : Nat} {phase : WorkerThread Task}
      (found : pool.workers[worker]? = some phase) (working : phase.isReturned = false) :=
    staffed.alive found working
  obtain ⟨stop, returned, destroyed⟩ := staffed
  cases effect with
  | stayed owner stays =>
      rcases stays with rfl | ⟨task, now, rfl⟩ | ⟨task, now, rfl, _⟩ | ⟨task, now, rfl, _⟩
      · exact ⟨stop, returned, destroyed⟩
      · exact ⟨by simpa [now] using stop, returned, nofun⟩
      · exact ⟨by simpa [now] using stop, returned, nofun⟩
      · exact ⟨by simpa [now] using stop, returned, nofun⟩
  | pushed task owner running room moves =>
      refine ⟨?_, fun worker found => absurd (returned worker found).1 (by simp [running]), ?_⟩
      · rcases moves with ⟨rfl, _⟩ | ⟨now, rfl⟩
        · exact stop
        · simpa [now] using stop
      · rcases moves with ⟨rfl, _⟩ | ⟨now, rfl⟩
        · exact destroyed
        · exact nofun
  | evicted task queue owner oldest moves =>
      refine ⟨?_, fun worker found => absurd (returned worker found).2 (by simp [oldest]), ?_⟩
      · rcases moves with rfl | ⟨newest, now, rfl⟩
        · exact stop
        · simpa [now] using stop
      · rcases moves with rfl | ⟨newest, now, rfl⟩
        · exact destroyed
        · exact nofun
  | took worker task queue oldest waiting =>
      refine ⟨stop, fun other found => ?_, fun gone => absurd gone (alive waiting rfl)⟩
      have empty := (returned other (returned_set rfl found)).2
      exact absurd empty (by simp [oldest])
  | left worker stopped empty waiting =>
      exact ⟨stop, fun other found => ⟨stopped, empty⟩, fun gone => absurd gone (alive waiting rfl)⟩
  | finished worker task busy =>
      exact ⟨stop, fun other found => returned other (returned_set rfl found),
        fun gone => absurd gone (alive busy rfl)⟩
  | destroying outside =>
      exact ⟨by simp, fun worker found => ⟨rfl, (returned worker found).2⟩, nofun⟩
  | joined joining all => exact ⟨by simp [stop, joining], returned, fun _ => all⟩

theorem invariants (reachable : (machine Task config).Reachable pool) :
    Placed config pool ∧ Counted config pool ∧ Staffed pool := by
  refine reachable.invariant
    (fun pool => Placed config pool ∧ Counted config pool ∧ Staffed pool) ?_ ?_
  · rintro _ rfl
    have idle : (List.replicate config.numThreads.toNat
        (.waiting : WorkerThread Task)).filterMap WorkerThread.task? = [] := by
      rw [List.filterMap_replicate_of_none rfl]
    refine ⟨⟨rfl, ?_, Nat.zero_le _⟩, ⟨List.length_replicate .., ?_, rfl⟩,
      ⟨by simp [constructed], fun worker found => ?_, nofun⟩⟩
    · rw [running, constructed, idle]
      rfl
    · rw [running, constructed, idle]
      rfl
    · rw [constructed, List.getElem?_replicate] at found
      split at found <;> simp at found
  · intro pool label next held stepped
    obtain ⟨placed, counted, staffed⟩ := held
    have effect := step_effect stepped
    exact ⟨placed.step effect, counted.step effect, staffed.step effect⟩

def singleSubmitter : PoolStep Task → Bool
  | .submit _ => false
  | _ => true

def Roomy (config : PoolConfig) (pool : ThreadPool Task) : Prop :=
  ∀ task, pool.owner = .evicted task → pool.queue.length < config.maxQueueSize.toNat

theorem Roomy.step (roomy : Roomy config pool)
    (bound : pool.queue.length ≤ config.maxQueueSize.toNat)
    (positive : 0 < config.maxQueueSize.toNat) (single : singleSubmitter label = true)
    (effect : Effect config pool label next) : Roomy config next := by
  intro newest now
  cases effect with
  | stayed owner stays =>
      rcases stays with rfl | ⟨task, _, rfl⟩ | ⟨task, _, _, empty⟩ | ⟨task, _, rfl, _⟩
      · exact roomy newest now
      · exact absurd now nofun
      · dsimp only
        rwa [empty]
      · exact absurd now nofun
  | pushed task owner running room moves =>
      rcases moves with ⟨rfl, rfl | outside⟩ | ⟨_, rfl⟩
      · exact absurd single Bool.false_ne_true
      · exact absurd (outside.symm.trans now) nofun
      · exact absurd now nofun
  | evicted task queue owner oldest moves =>
      rw [oldest] at bound
      exact bound
  | took worker task queue oldest waiting =>
      rw [oldest] at bound
      exact bound
  | left worker stopped empty waiting => exact roomy newest now
  | finished worker task busy => exact roomy newest now
  | destroying outside => exact absurd now nofun
  | joined joining returned => exact absurd now nofun

theorem roomy_of_singleSubmitter (positive : 0 < config.maxQueueSize.toNat)
    (reachable : (machine Task config).ReachableUnder
      (fun _ label => singleSubmitter label = true) pool) : Roomy config pool := by
  refine reachable.invariant (Roomy config) ?_ ?_
  · rintro _ rfl task
    exact nofun
  · intro pool label next earlier roomy single stepped
    exact roomy.step (invariants earlier.reachable).1.bound positive single (step_effect stepped)

/-- What the pool owes to the tasks that it has accepted. -/
structure Conserves (config : PoolConfig) (pool : ThreadPool Task) : Prop where
  placed : (pool.queue ++ pool.running ++ pool.ended ++ pool.evictions).Perm pool.accepted
  counted : pool.accepted.length =
    pool.queue.length + pool.active.toNat + pool.ended.length + pool.evictions.length
  completed : pool.completed = UInt64.ofNat pool.ended.length
  bounded : pool.queue.length ≤ config.maxQueueSize.toNat
  order : pool.removed.map Prod.fst ++ pool.queue = pool.accepted
  startedInOrder : pool.started.Sublist pool.accepted
  drained : ∀ next, pool.step config .drain = some next →
    (pool.ended ++ pool.evictions).Perm pool.accepted
  destroyed : pool.owner = .destroyed → (pool.ended ++ pool.evictions).Perm pool.accepted
  newest : 0 < config.maxQueueSize.toNat →
    (machine Task config).ReachableUnder (fun _ label => singleSubmitter label = true) pool →
    ∀ task, pool.owner = .evicted task →
      ∃ next, pool.step config .retry = some next ∧ next.queue = pool.queue ++ [task]

theorem Placed.placed (placed : Placed config pool) :
    (pool.queue ++ pool.running ++ pool.ended ++ pool.evictions).Perm pool.accepted := by
  have parted : (pool.started ++ pool.evictions).Perm (pool.removed.map Prod.fst) := by
    rw [started, evictions, ← List.map_append]
    exact (List.filter_append_perm _ _).map _
  rw [← placed.order, List.append_assoc pool.queue, List.append_assoc pool.queue]
  refine List.perm_append_comm.trans ?_
  exact ((placed.taken.append_right _).trans parted).append_right _

theorem settled_of_idle (placed : Placed config pool) (empty : pool.queue = [])
    (idle : pool.running = []) : (pool.ended ++ pool.evictions).Perm pool.accepted := by
  have all := placed.placed
  rwa [empty, idle] at all

theorem running_of_returned (returned : pool.workers.all WorkerThread.isReturned = true) :
    pool.running = [] := by
  rw [running, List.filterMap_eq_nil_iff]
  intro worker member
  have back := List.all_eq_true.mp returned worker member
  cases worker with
  | returned => rfl
  | _ => cases back

theorem retry_of_roomy (staffed : Staffed pool) (roomy : Roomy config pool) {task : Task}
    (evicted : pool.owner = .evicted task) :
    ∃ next, pool.step config .retry = some next ∧ next.queue = pool.queue ++ [task] := by
  have running : pool.stop = false := by
    rw [← Bool.not_eq_true, staffed.stop, evicted]
    rintro (now | now) <;> cases now
  have room := Nat.not_le.mpr (roomy task evicted)
  refine ⟨{ (pool.submit config task).2 with owner := .outside }, ?_, ?_⟩
  · simp [step, call, evicted]
  · simp [submit, running, room]

/-- The tasks are kept for as long as there is a worker, or the queue takes none. -/
theorem conserves_of_staffed (staffable : 0 < config.numThreads.toNat ∨
    config.maxQueueSize.toNat = 0) (reachable : (machine Task config).Reachable pool) :
    Conserves config pool := by
  obtain ⟨placed, counted, staffed⟩ := invariants reachable
  have all := placed.placed
  refine ⟨all, ?_, counted.completed, placed.bound, placed.order, ?_, fun next drained => ?_,
    fun gone => ?_, fun positive single task evicted =>
      retry_of_roomy staffed (roomy_of_singleSubmitter positive single) evicted⟩
  · have length := all.length_eq
    rw [List.length_append, List.length_append, List.length_append, ← counted.active] at length
    exact length.symm
  · rw [← placed.order]
    exact (List.filter_sublist.map _).trans (List.sublist_append_left _ _)
  · have idle : pool.queue.isEmpty = true ∧ pool.active = 0 := by
      rw [step] at drained
      split at drained
      · cases drained
      · simp only [call, Option.ite_none_right_eq_some] at drained
        exact drained.1
    refine settled_of_idle placed (List.isEmpty_iff.mp idle.1) ?_
    rw [← List.length_eq_zero_iff, ← counted.active, idle.2]
    rfl
  · have returned := staffed.destroyed gone
    refine settled_of_idle placed ?_ (running_of_returned returned)
    rcases staffable with threads | closed
    · rw [← counted.workers] at threads
      have back := List.all_eq_true.mp returned _ (List.getElem_mem threads)
      cases phase : pool.workers[0] with
      | returned =>
          exact (staffed.returned 0 (phase ▸ List.getElem?_eq_getElem threads)).2
      | _ =>
          rw [phase] at back
          cases back
    · have short := placed.bound
      rw [closed] at short
      exact List.length_eq_zero_iff.mp (Nat.le_zero.mp short)

/-- Without a worker, the destructor leaves an accepted task behind. -/
theorem abandoned_of_unstaffed (task : Task) (unstaffed : config.numThreads.toNat = 0)
    (positive : 0 < config.maxQueueSize.toNat) :
    ∃ pool, (machine Task config).Reachable pool ∧ ¬ Conserves config pool := by
  have ran : (machine Task config).run (fun _ _ => True) (constructed config)
      [.submit task, .destroy, .join] = some { constructed config with
        queue := [task], accepted := [task], stop := true, owner := .destroyed } := by
    have room := Nat.ne_of_gt positive
    simp [Machine.run, machine, step, call, submit, constructed, unstaffed, room]
  refine ⟨_, Machine.ReachableUnder.run (Machine.ReachableUnder.start rfl) ran, ?_⟩
  intro conserves
  have kept := (conserves.destroyed rfl).length_eq
  exact absurd kept (by simp [constructed, evictions])

/-- Every task is run or evicted, and in order, if and only if there is a worker to run it
or no place to put it. -/
theorem conserves_iff (config : PoolConfig) (task : Task) :
    (∀ pool, (machine Task config).Reachable pool → Conserves config pool) ↔
      0 < config.numThreads.toNat ∨ config.maxQueueSize.toNat = 0 := by
  constructor
  · intro conserves
    by_contra neither
    rw [not_or, Nat.not_lt, Nat.le_zero] at neither
    obtain ⟨pool, reachable, lost⟩ :=
      abandoned_of_unstaffed task neither.1 (Nat.pos_of_ne_zero neither.2)
    exact lost (conserves pool reachable)
  · exact fun staffable pool reachable => conserves_of_staffed staffable reachable

/-- A pool made with `--vlm-threads 0`. -/
theorem taskAbandoned : ¬ ∀ (config : PoolConfig) (pool : ThreadPool Nat),
    (machine Nat config).Reachable pool → Conserves config pool := by
  intro universal
  have ran : ((machine Nat ⟨0, 1⟩).run (fun _ _ => True) (constructed ⟨0, 1⟩)
      [.submit 7, .destroy, .join]).map
      (fun pool => (pool.owner, pool.ended ++ pool.evictions, pool.accepted)) =
        some (.destroyed, [], [7]) := by
    decide +kernel
  obtain ⟨pool, ran, ends⟩ := Option.map_eq_some_iff.mp ran
  simp only [Prod.mk.injEq] at ends
  have kept := (universal ⟨0, 1⟩ pool
    (Machine.ReachableUnder.run (Machine.ReachableUnder.start rfl) ran)).destroyed ends.1
  rw [ends.2.1, ends.2.2] at kept
  exact absurd kept.length_eq (by decide)

end ThreadPool

end Iq9Pipeline.Consumer
