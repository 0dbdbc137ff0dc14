import Iq9Pipeline.Consumer.VlmTasks
import Iq9Pipeline.Foundation.JsonLexeme

/-!
The lines of the VLM log against the relayed pairs: a line is written for one frame, no
frame has two lines, and what the line says of its frame.
-/

namespace Iq9Pipeline.Consumer

open Foundation RuleProcess

namespace ThreadPool

variable {Task : Type} {config : PoolConfig} {pool next : ThreadPool Task} {label : PoolStep Task}

def inPath (pool : ThreadPool Task) : List Task :=
  match pool.owner with
  | .refused task => [task]
  | .evicted task => [task]
  | _ => []

def offered (pool : ThreadPool Task) : List Task :=
  pool.accepted ++ pool.inPath

def offers : PoolStep Task → Bool
  | .submit _ => true
  | .offer _ => true
  | _ => false

theorem wake_accepted {worker : Nat} (woken : pool.wake worker = some next) :
    next.accepted = pool.accepted ∧ next.owner = pool.owner := by
  rw [wake] at woken
  split at woken
  · rw [Option.ite_none_right_eq_some, Option.some.injEq] at woken
    exact woken.2 ▸ ⟨rfl, rfl⟩
  · rw [Option.some.injEq] at woken
    exact woken ▸ ⟨rfl, rfl⟩

theorem evictOldest_accepted (pool : ThreadPool Task) :
    pool.evictOldest.accepted = pool.accepted := by
  rw [evictOldest]
  split <;> rfl

theorem offered_call (called : pool.call config label = some next) (quiet : offers label = false) :
    next.offered.Sublist pool.offered := by
  cases label with
  | submit task => cases quiet
  | offer task => cases quiet
  | evictOldest =>
      simp only [call, Option.some.injEq] at called
      rw [← called, evictOldest]
      split <;> exact List.Sublist.refl _
  | drain =>
      simp only [call, Option.ite_none_right_eq_some, Option.some.injEq] at called
      exact called.2 ▸ List.Sublist.refl _
  | wake worker =>
      simp only [call] at called
      split at called
      · obtain ⟨accepted, owner⟩ := wake_accepted called
        rw [offered, offered, inPath, inPath, accepted, owner]
      · simp at called
  | finish worker =>
      simp only [call] at called
      split at called
      · rw [Option.some.injEq] at called
        exact called ▸ List.Sublist.refl _
      · simp at called
  | makeRoom =>
      simp only [call] at called
      split at called
      · rename_i task refused
        rw [Option.some.injEq] at called
        rw [← called, offered, offered, inPath, inPath, refused]
        dsimp only
        rw [evictOldest_accepted]
      · simp at called
  | retry =>
      simp only [call] at called
      split at called
      · rename_i task evicted
        rw [Option.some.injEq] at called
        rw [← called, offered, offered, inPath, inPath, evicted]
        dsimp only
        rcases submit_cases config pool task with ⟨answer, _⟩ | ⟨_, _, answer⟩
        · rw [answer, List.append_nil]
          exact List.sublist_append_left _ _
        · rw [answer, List.append_nil]
      · simp at called
  | destroy =>
      simp only [call] at called
      split at called
      · rename_i outside
        rw [Option.some.injEq] at called
        rw [← called, offered, offered, inPath, inPath, outside]
      · simp at called
  | join =>
      simp only [call] at called
      split at called
      · rename_i joining
        rw [Option.ite_none_right_eq_some, Option.some.injEq] at called
        rw [← called.2, offered, offered, inPath, inPath, joining]
      · simp at called

theorem offered_step (stepped : pool.step config label = some next)
    (quiet : offers label = false) : next.offered.Sublist pool.offered := by
  rw [step] at stepped
  split at stepped
  · simp at stepped
  · exact offered_call stepped quiet

theorem ended_step (stepped : pool.step config label = some next)
    (other : ∀ worker, label ≠ .finish worker) : next.ended = pool.ended := by
  cases step_effect stepped with
  | finished worker task busy => exact absurd rfl (other worker)
  | _ => rfl

theorem ended_finish {worker : Nat} {task : Task}
    (busy : pool.workers[worker]? = some (.running task))
    (stepped : pool.step config (.finish worker) = some next) :
    next.ended = pool.ended ++ [task] := by
  rw [step] at stepped
  split at stepped
  · simp at stepped
  · rw [call, busy, Option.some.injEq] at stepped
    exact stepped ▸ rfl

end ThreadPool

namespace VlmConsumer

variable {parse : List UInt8 → Option Json} {config : VlmConfig}
  {frames : List (List UInt8 × IQ9TaskPacket)} {consumer next : VlmConsumer} {label : VlmStep}

def Captured (frames : List (List UInt8 × IQ9TaskPacket)) (task : VlmTask) : Prop :=
  ∃ frame, frames[task.frameNumber]? = some frame ∧ task = captureTask task.frameNumber frame

structure Tracked (parse : List UInt8 → Option Json)
    (frames : List (List UInt8 × IQ9TaskPacket)) (consumer : VlmConsumer) : Prop where
  numbered : consumer.vlmFrameNum = consumer.received
  captured : ∀ task ∈ consumer.pool.offered,
    task.frameNumber < consumer.vlmFrameNum ∧ Captured frames task
  distinct : (consumer.pool.offered.map VlmTask.frameNumber).Nodup
  logged : ∃ tasks, List.Sublist tasks consumer.pool.ended ∧
    List.Forall₂ (fun task line => ∃ outcome, line = logLine parse task outcome) tasks
      consumer.log

theorem offered_onFrame (config : VlmConfig) {frame : List UInt8 × IQ9TaskPacket}
    (outside : consumer.pool.owner = .outside) (rgb : frame.2.dataType = PixelFormat.rgb24.code) :
    (consumer.onFrame config frame).pool.offered.Sublist
        (consumer.pool.offered ++ [captureTask consumer.vlmFrameNum frame]) ∧
      (consumer.onFrame config frame).pool.ended = consumer.pool.ended := by
  have idle : consumer.pool.inPath = [] := by rw [ThreadPool.inPath, outside]
  rw [onFrame, if_pos rgb]
  dsimp only
  rcases ThreadPool.submit_cases config.pool consumer.pool
    (captureTask consumer.vlmFrameNum frame) with ⟨answer, _⟩ | ⟨_, _, answer⟩
  · rw [answer]
    cases config.dropOldest with
    | true =>
        refine ⟨?_, rfl⟩
        rw [ThreadPool.offered, ThreadPool.offered, idle, List.append_nil]
        exact List.Sublist.refl _
    | false => exact ⟨List.sublist_append_left _ _, rfl⟩
  · rw [answer]
    refine ⟨?_, rfl⟩
    rw [ThreadPool.offered, ThreadPool.offered, idle, ThreadPool.inPath]
    simp [outside]

theorem pool_onFrame {frame : List UInt8 × IQ9TaskPacket}
    (outside : consumer.pool.owner = .outside) (rgb : frame.2.dataType = PixelFormat.rgb24.code) :
    (consumer.onFrame config frame).pool = consumer.pool ∨
      consumer.pool.step config.pool (.offer (captureTask consumer.vlmFrameNum frame)) =
        some (consumer.onFrame config frame).pool := by
  rw [onFrame, if_pos rgb, ThreadPool.step, outside]
  dsimp only
  rw [ThreadPool.call, outside]
  dsimp only
  cases accepted : (consumer.pool.submit config.pool
    (captureTask consumer.vlmFrameNum frame)).1 with
  | true => exact .inr rfl
  | false =>
      cases config.dropOldest with
      | true => exact .inr rfl
      | false => exact .inl rfl

theorem step_cases (stepped : consumer.step parse config frames label = some next) :
    (∃ frame, consumer.pool.owner = .outside ∧ frames[consumer.received]? = some frame ∧
        next = consumer.onFrame config frame) ∨
      (∃ worker outcome task pool, consumer.pool.workers[worker]? = some (.running task) ∧
        consumer.pool.step config.pool (.finish worker) = some pool ∧
        next = { consumer with
          pool := pool
          log := consumer.log ++
            if config.logOpen then [logLine parse task outcome] else [] }) ∨
      ∃ move pool, ThreadPool.offers move = false ∧ (∀ worker, move ≠ .finish worker) ∧
        consumer.pool.step config.pool move = some pool ∧
        next = { consumer with pool := pool } := by
  have moved (move : PoolStep VlmTask) (quiet : ThreadPool.offers move = false)
      (other : ∀ worker, move ≠ .finish worker)
      (stepped : consumer.onPool config move = some next) :
      ∃ move pool, ThreadPool.offers move = false ∧ (∀ worker, move ≠ .finish worker) ∧
        consumer.pool.step config.pool move = some pool ∧
        next = { consumer with pool := pool } := by
    obtain ⟨pool, found, rfl⟩ := Option.map_eq_some_iff.mp stepped
    exact ⟨move, pool, quiet, other, found, rfl⟩
  cases label with
  | frame =>
      simp only [step] at stepped
      split at stepped
      · rename_i frame outside found
        rw [Option.some.injEq] at stepped
        exact .inl ⟨frame, outside, found, stepped.symm⟩
      · simp at stepped
  | finish worker outcome =>
      simp only [step] at stepped
      split at stepped
      · rename_i task busy
        obtain ⟨pool, found, rfl⟩ := Option.map_eq_some_iff.mp stepped
        exact .inr (.inl ⟨worker, outcome, task, pool, busy, found, rfl⟩)
      · simp at stepped
  | makeRoom => exact .inr (.inr (moved _ rfl (by simp) stepped))
  | retry => exact .inr (.inr (moved _ rfl (by simp) stepped))
  | wake worker => exact .inr (.inr (moved _ rfl (by simp) stepped))
  | drain => exact .inr (.inr (moved _ rfl (by simp) stepped))
  | destroy => exact .inr (.inr (moved _ rfl (by simp) stepped))
  | join => exact .inr (.inr (moved _ rfl (by simp) stepped))

theorem Tracked.step (rgb : ∀ frame ∈ frames, frame.2.dataType = PixelFormat.rgb24.code)
    (tracked : Tracked parse frames consumer)
    (stepped : consumer.step parse config frames label = some next) :
    Tracked parse frames next := by
  obtain ⟨numbered, captured, distinct, tasks, ended, lines⟩ := tracked
  rcases step_cases stepped with ⟨frame, outside, found, rfl⟩ |
    ⟨worker, outcome, task, pool, busy, moved, rfl⟩ | ⟨move, pool, quiet, other, moved, rfl⟩
  · have plain := rgb frame (List.mem_of_getElem? found)
    obtain ⟨offered, same⟩ := offered_onFrame config outside plain
    have number : (consumer.onFrame config frame).vlmFrameNum = consumer.vlmFrameNum + 1 := by
      rw [onFrame, if_pos plain]
    refine ⟨?_, fun task member => ?_, ?_, tasks, ?_, ?_⟩
    · rw [number, numbered, onFrame, if_pos plain]
    · rw [number]
      rcases List.mem_append.mp (offered.subset member) with before | new
      · exact ⟨Nat.lt_succ_of_lt (captured task before).1, (captured task before).2⟩
      · obtain rfl := List.mem_singleton.mp new
        exact ⟨Nat.lt_succ_self _, frame, by rw [captureTask, numbered]; exact found, rfl⟩
    · refine (offered.map VlmTask.frameNumber).nodup ?_
      rw [List.map_append, List.map_singleton, List.nodup_append]
      refine ⟨distinct, by simp, ?_⟩
      intro first earlier second new same
      obtain ⟨task, member, rfl⟩ := List.mem_map.mp earlier
      rw [List.mem_singleton.mp new] at same
      exact absurd same (Nat.ne_of_lt (captured task member).1)
    · rw [same]
      exact ended
    · rw [onFrame, if_pos plain]
      exact lines
  · have offered := ThreadPool.offered_step moved rfl
    have grown := ThreadPool.ended_finish busy moved
    refine ⟨numbered, fun task member => captured task (offered.subset member),
      (offered.map VlmTask.frameNumber).nodup distinct, ?_⟩
    dsimp only
    rw [grown]
    cases config.logOpen with
    | true =>
        exact ⟨tasks ++ [task], ended.append (List.Sublist.refl _),
          List.rel_append lines (.cons ⟨outcome, rfl⟩ .nil)⟩
    | false =>
        refine ⟨tasks, ended.trans (List.sublist_append_left _ _), ?_⟩
        rw [if_neg Bool.false_ne_true, List.append_nil]
        exact lines
  · have offered := ThreadPool.offered_step moved quiet
    have same := ThreadPool.ended_step moved other
    refine ⟨numbered, fun task member => captured task (offered.subset member),
      (offered.map VlmTask.frameNumber).nodup distinct, tasks, ?_, lines⟩
    dsimp only
    rw [same]
    exact ended

theorem tracked_of_reachable (rgb : ∀ frame ∈ frames, frame.2.dataType = PixelFormat.rgb24.code)
    (reachable : (machine parse config frames).Reachable consumer) :
    Tracked parse frames consumer := by
  refine reachable.invariant (Tracked parse frames) ?_ ?_
  · rintro _ rfl
    exact ⟨rfl, nofun, List.nodup_nil, [], List.Sublist.refl _, .nil⟩
  · exact fun consumer label next tracked stepped => tracked.step rgb stepped

theorem pool_reachable (rgb : ∀ frame ∈ frames, frame.2.dataType = PixelFormat.rgb24.code)
    (reachable : (machine parse config frames).Reachable consumer) :
    (ThreadPool.machine VlmTask config.pool).Reachable consumer.pool := by
  refine reachable.project VlmConsumer.pool ?_ ?_
  · rintro _ rfl
    rfl
  · intro consumer label next stepped
    rcases step_cases stepped with ⟨frame, outside, found, rfl⟩ |
      ⟨worker, outcome, task, pool, busy, moved, rfl⟩ | ⟨move, pool, quiet, other, moved, rfl⟩
    · exact (pool_onFrame outside (rgb frame (List.mem_of_getElem? found))).imp_right
        fun offered => ⟨_, offered⟩
    · exact .inr ⟨_, moved⟩
    · exact .inr ⟨_, moved⟩

theorem written_of_lines {tasks : List VlmTask} {log : List VlmLine}
    (lines : List.Forall₂ (fun task line => ∃ outcome, line = logLine parse task outcome)
      tasks log) :
    tasks.map VlmTask.frameNumber = log.map VlmLine.frame ∧
      ∀ line ∈ log, ∃ task ∈ tasks, ∃ outcome, line = logLine parse task outcome := by
  induction lines with
  | nil => exact ⟨rfl, nofun⟩
  | @cons task line tasks log head lines ih =>
      obtain ⟨outcome, rfl⟩ := head
      refine ⟨by rw [List.map_cons, List.map_cons, ih.1]; rfl, ?_⟩
      rw [List.forall_mem_cons]
      refine ⟨⟨task, List.mem_cons_self .., outcome, rfl⟩, fun line member => ?_⟩
      obtain ⟨earlier, before, written⟩ := ih.2 line member
      exact ⟨earlier, List.mem_cons_of_mem _ before, written⟩

theorem lines_of_frames (rgb : ∀ frame ∈ frames, frame.2.dataType = PixelFormat.rgb24.code)
    (reachable : (machine parse config frames).Reachable consumer) :
    (consumer.log.map VlmLine.frame).Nodup ∧
      ∀ line ∈ consumer.log, ∃ frame outcome, frames[line.frame]? = some frame ∧
        line = logLine parse (captureTask line.frame frame) outcome := by
  obtain ⟨_, captured, distinct, tasks, ended, lines⟩ := tracked_of_reachable rgb reachable
  have placed := (ThreadPool.invariants (pool_reachable rgb reachable)).1.placed
  have accepted : (consumer.pool.accepted.map VlmTask.frameNumber).Nodup :=
    ((List.sublist_append_left _ _).map VlmTask.frameNumber).nodup distinct
  have inside : List.Sublist consumer.pool.ended (consumer.pool.queue ++ consumer.pool.running ++
      consumer.pool.ended ++ consumer.pool.evictions) :=
    (List.sublist_append_right _ _).trans (List.sublist_append_left _ _)
  obtain ⟨numbers, written⟩ := written_of_lines lines
  refine ⟨?_, fun line member => ?_⟩
  · rw [← numbers]
    exact ((ended.trans inside).map _).nodup ((placed.map _).nodup_iff.mpr accepted)
  · obtain ⟨task, run, outcome, rfl⟩ := written line member
    have taken : task ∈ consumer.pool.offered :=
      List.mem_append_left _ (placed.subset ((ended.trans inside).subset run))
    obtain ⟨_, frame, found, same⟩ := captured task taken
    exact ⟨frame, outcome, found, congrArg (fun task => logLine parse task outcome) same⟩

end VlmConsumer

section Relay

variable {dump : Json → List UInt8} {parse : List UInt8 → Option Json}
  {sends : Nat → Nat → Nat → Nat} {reads peeks : Nat → Nat} {fuel limit : Nat}
  {items : List (Alert × EventMeta)} {config : VlmConfig} {consumer : VlmConsumer}

theorem frames_of_relayStream (objectText : ∀ members, dump (.object members) ≠ [])
    {socket : Socket} (bytes : socket.bytes = relayStream dump sends items)
    (fits : ∀ item ∈ items, (relayedItem dump item).1.length < 65536) :
    receiveRelay fuel limit socket <+: items.map (relayedItem dump) := by
  induction items generalizing sends limit fuel socket with
  | nil =>
      cases fuel with
      | zero => simp [receiveRelay]
      | succ fuel =>
          cases limit with
          | zero => simp [receiveRelay]
          | succ limit => simp [receiveRelay, relayTurn_ended bytes]
  | cons item items ih =>
      rw [List.forall_mem_cons] at fits
      cases fuel with
      | zero => simp [receiveRelay]
      | succ fuel =>
          cases limit with
          | zero => simp [receiveRelay]
          | succ limit =>
              by_cases full : 4 ≤ socket.peeks 0
              · obtain ⟨final, turned, rest, _⟩ :=
                  relayTurn_sendItem objectText bytes fits.1 full
                simp only [receiveRelay, turned, List.map_cons]
                exact List.cons_prefix_cons.mpr ⟨rfl, ih rest fits.2⟩
              · simp [receiveRelay, relayTurn_shortPeek (Nat.lt_of_not_le full)]

def relayFrames (dump : Json → List UInt8) (sends : Nat → Nat → Nat → Nat)
    (reads peeks : Nat → Nat) (fuel limit : Nat) (items : List (Alert × EventMeta)) :
    List (List UInt8 × IQ9TaskPacket) :=
  receiveRelay fuel limit ⟨relayStream dump sends items, reads, peeks⟩

/-- Each line is written for a pair of its own, with the time of the pair's event, the
number of its slot, and the rule and the whole of the metadata that were sent with it. -/
theorem lines_of_pairs (objectText : ∀ members, dump (.object members) ≠ [])
    (fits : ∀ item ∈ items, (relayedItem dump item).1.length < 65536)
    (reachable : (VlmConsumer.machine parse config
      (relayFrames dump sends reads peeks fuel limit items)).Reachable consumer) :
    (consumer.log.map VlmLine.frame).Nodup ∧
      ∀ line ∈ consumer.log, ∃ item, items[line.frame]? = some item ∧
        line.ts = item.2.timestampNs ∧ line.src = castInt item.2.slotIndex ∧
        line.rule = extractRuleName (dump (relayMetadata item.1 item.2)) ∧
        line.dets = parse (dump (relayMetadata item.1 item.2)) := by
  have sent : relayFrames dump sends reads peeks fuel limit items <+:
      items.map (relayedItem dump) := frames_of_relayStream objectText rfl fits
  have rgb : ∀ frame ∈ relayFrames dump sends reads peeks fuel limit items,
      frame.2.dataType = PixelFormat.rgb24.code := by
    intro frame member
    obtain ⟨item, _, rfl⟩ := List.mem_map.mp (sent.subset member)
    rfl
  obtain ⟨distinct, written⟩ := VlmConsumer.lines_of_frames rgb reachable
  refine ⟨distinct, fun line member => ?_⟩
  obtain ⟨frame, outcome, found, same⟩ := written line member
  obtain ⟨bound, read⟩ := List.getElem?_eq_some_iff.mp found
  have listed := List.prefix_iff_getElem?.mp sent line.frame bound
  rw [read, List.getElem?_map] at listed
  obtain ⟨item, taken, rfl⟩ := Option.map_eq_some_iff.mp listed
  refine ⟨item, taken, ?_⟩
  rw [same]
  exact ⟨rfl, rfl, rfl, if_neg (objectText _)⟩

structure Attributed (item : Alert × EventMeta) (line : VlmLine) : Prop where
  src : line.src = item.2.sourceIdNum.toInt
  ts : line.ts = item.2.timestampNs
  rule : line.rule = JsonText.utf8 item.1.ruleName
  dets : line.dets = (relayMetadata item.1 item.2).find "detections"

/-- The lines belong to pairs of their own and say what they should of them. -/
def Attributes (items : List (Alert × EventMeta)) (log : List VlmLine) : Prop :=
  ∃ picks : List Nat, picks.Nodup ∧
    List.Forall₂ (fun pick line => ∃ item, items[pick]? = some item ∧ Attributed item line)
      picks log

/-- The detections of a line are a whole metadata object, never a list. -/
theorem not_attributed (objectText : ∀ members, dump (.object members) ≠ [])
    (objectParse : ∀ members, ∃ parsed, parse (dump (.object members)) = some (.object parsed))
    (fits : ∀ item ∈ items, (relayedItem dump item).1.length < 65536)
    (reachable : (VlmConsumer.machine parse config
      (relayFrames dump sends reads peeks fuel limit items)).Reachable consumer)
    {line : VlmLine} (member : line ∈ consumer.log) (item : Alert × EventMeta) :
    ¬ Attributed item line := by
  intro attributed
  obtain ⟨sent, _, _, _, _, dets⟩ := (lines_of_pairs objectText fits reachable).2 line member
  obtain ⟨parsed, whole⟩ := objectParse [
    ("detections", .array (sent.2.detections.map fun detection => .object [
      ("class", .string detection.className),
      ("confidence", .numberFloat (.ofFloat detection.confidence.toFloat)),
      ("track_id", .numberInteger detection.trackId.toInt64)])),
    ("rule", .string sent.1.ruleName),
    ("source_id", .numberInteger sent.2.slotIndex.toInt32.toInt64)]
  rw [relayMetadata, whole, attributed.dets] at dets
  simp [relayMetadata, Json.find] at dets

theorem eq_nil_of_attributes (objectText : ∀ members, dump (.object members) ≠ [])
    (objectParse : ∀ members, ∃ parsed, parse (dump (.object members)) = some (.object parsed))
    (fits : ∀ item ∈ items, (relayedItem dump item).1.length < 65536)
    (reachable : (VlmConsumer.machine parse config
      (relayFrames dump sends reads peeks fuel limit items)).Reachable consumer)
    (attributes : Attributes items consumer.log) : consumer.log = [] := by
  obtain ⟨picks, _, lines⟩ := attributes
  cases log : consumer.log with
  | nil => rfl
  | cons line rest =>
      rw [log] at lines
      obtain ⟨pick, earlier, ⟨item, _, attributed⟩, _⟩ := List.forall₂_cons_right_iff.mp lines
      have member : line ∈ consumer.log := log ▸ List.mem_cons_self ..
      exact absurd attributed
        (not_attributed objectText objectParse fits reachable member item)

/-- No line is ever right, so that only an empty log is. -/
theorem attributes_iff (objectText : ∀ members, dump (.object members) ≠ [])
    (objectParse : ∀ members, ∃ parsed, parse (dump (.object members)) = some (.object parsed))
    (fits : ∀ item ∈ items, (relayedItem dump item).1.length < 65536)
    (reachable : (VlmConsumer.machine parse config
      (relayFrames dump sends reads peeks fuel limit items)).Reachable consumer) :
    Attributes items consumer.log ↔ consumer.log = [] := by
  constructor
  · exact eq_nil_of_attributes objectText objectParse fits reachable
  · intro empty
    rw [empty]
    exact ⟨[], List.nodup_nil, .nil⟩

end Relay

def oneWorker : VlmConfig where
  pool := ⟨1, 16⟩
  dropOldest := false
  logOpen := true

def answered : VlmOutcome where
  vlmResponse := ascii "yes"
  vlmSuccess := true
  vlmError := []
  encodeMs := 1
  httpMs := 2
  totalMs := 3
  jpegSizeBytes := 4096

def shortValue : Json :=
  .object [("detections", .array []), ("rule", .string "open_trunk"),
    ("source_id", .numberUnsigned 3)]

theorem shortText_fits : ∀ item ∈ [(trunkAlert, eventWith [])],
    (relayedItem (fun _ => shortText) item).1.length < 65536 :=
  fun _ _ => (by decide : shortText.length < 65536)

theorem oneLine_reachable : ∃ consumer : VlmConsumer, consumer.log.length = 1 ∧
    (VlmConsumer.machine (fun _ => some shortValue) oneWorker
      (relayFrames (fun _ => shortText) (fun _ _ _ => 4096) (fun _ => 4096) (fun _ => 4) 2 1
        [(trunkAlert, eventWith [])])).Reachable consumer := by
  have ran : ((VlmConsumer.machine (fun _ => some shortValue) oneWorker
      (relayFrames (fun _ => shortText) (fun _ _ _ => 4096) (fun _ => 4096) (fun _ => 4) 2 1
        [(trunkAlert, eventWith [])])).run (fun _ _ => True) (VlmConsumer.launched oneWorker)
      [.frame, .wake 0, .finish 0 answered]).map (fun consumer => consumer.log.length) =
        some 1 := by
    decide +kernel
  obtain ⟨consumer, ran, lines⟩ := Option.map_eq_some_iff.mp ran
  exact ⟨consumer, lines, Machine.ReachableUnder.run (Machine.ReachableUnder.start rfl) ran⟩

theorem attributes_iff_oneLine : ∃ consumer : VlmConsumer, consumer.log.length = 1 ∧
    (Attributes [(trunkAlert, eventWith [])] consumer.log ↔ consumer.log = []) := by
  obtain ⟨consumer, lines, reachable⟩ := oneLine_reachable
  exact ⟨consumer, lines, attributes_iff (fun _ => by decide) (fun _ => ⟨_, rfl⟩)
    shortText_fits reachable⟩

/-- A line with the slot for the camera and the metadata for the detections. -/
theorem answerMisattributed : ¬ ∀ (dump : Json → List UInt8) (parse : List UInt8 → Option Json)
    (sends : Nat → Nat → Nat → Nat) (reads peeks : Nat → Nat) (fuel limit : Nat)
    (items : List (Alert × EventMeta)) (config : VlmConfig) (consumer : VlmConsumer),
    (∀ members, dump (.object members) ≠ []) →
    (∀ members, ∃ parsed, parse (dump (.object members)) = some (.object parsed)) →
    (∀ item ∈ items, (relayedItem dump item).1.length < 65536) →
    (VlmConsumer.machine parse config
      (relayFrames dump sends reads peeks fuel limit items)).Reachable consumer →
    Attributes items consumer.log := by
  intro universal
  obtain ⟨consumer, lines, reachable⟩ := oneLine_reachable
  have empty := eq_nil_of_attributes (fun _ => by decide) (fun _ => ⟨_, rfl⟩)
    shortText_fits reachable
    (universal _ _ _ _ _ _ _ _ _ _ (fun _ => by decide) (fun _ => ⟨_, rfl⟩) shortText_fits
      reachable)
  rw [empty] at lines
  exact absurd lines (by decide)

end Iq9Pipeline.Consumer
