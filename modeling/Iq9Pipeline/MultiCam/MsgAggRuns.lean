import Iq9Pipeline.MultiCam.MsgAggWorker

/-!
What every run of the message aggregator keeps: each pad's items against the passes that
took them, the passes against what was pushed, and the state in which EOS is decided.
-/

namespace Iq9Pipeline.MultiCam

open Foundation

variable {glib : JsonGlib} {merge : Bool} {agg next : GstMsgAgg} {label : MsgAggStep}

namespace GstMsgAgg

def InPass (agg : GstMsgAgg) : Prop :=
  agg.worker = .idle ∧ agg.task = .started ∨ agg.worker = .waiting ∨ agg.worker = .waitingUntil

inductive Effect (glib : JsonGlib) (merge : Bool) (agg : GstMsgAgg) :
    MsgAggStep → GstMsgAgg → Prop
  | chained (pad : Nat) (buffer : List UInt8) :
      Effect glib merge agg (.chain pad buffer)
        { agg with datapads := agg.datapads.modify pad fun entry => entry.chain buffer }
  | receivedEos (pad : Nat) :
      Effect glib merge agg (.eos pad)
        { agg with datapads := agg.datapads.modify pad GstMsgAggDataPad.receiveEos }
  | moved {step : MsgAggStep} (phase : WorkerPhase) (within : agg.InPass)
      (waits : phase = .idle ∧ agg.active = false ∨ phase = .waiting ∨ phase = .waitingUntil) :
      Effect glib merge agg step { agg with worker := phase }
  | popped {step : MsgAggStep} (timeouts : UInt64) (within : agg.InPass) :
      Effect glib merge agg step
        (({ agg with timeoutCount := timeouts } : GstMsgAgg).phase3 glib merge)
  | settled {step : MsgAggStep} (within : agg.InPass) (eos : allPadsEos agg.datapads = true)
      (empty : anyPadHasData agg.datapads = false) :
      Effect glib merge agg step
        { agg with worker := .pushingEos, decided := some (agg.datapads, agg.batches) }
  | pushed (text : List UInt8) (pushing : agg.worker = .pushing text) :
      Effect glib merge agg .push (agg.pushBuffer text)
  | pushedEos (pushing : agg.worker = .pushingEos) : Effect glib merge agg .push agg.pushEos
  | deactivated :
      Effect glib merge agg .pausedToReady { agg with active := false, task := .paused }
  | joined (inactive : agg.active = false) (idle : agg.worker = .idle) :
      Effect glib merge agg .joined
        { agg with
          datapads := agg.datapads.map GstMsgAggDataPad.clear
          started := false
          batchesPushed := 0
          timeoutCount := 0
          placeholders := ⟨0, 0, 0⟩
          task := .stopped
          srcpad := []
          batches := []
          decided := none }
  | activated (stopped : agg.task = .stopped) :
      Effect glib merge agg .readyToPaused { agg with active := true, task := .started }

theorem Effect.ofEndWait (within : agg.InPass) :
    Effect glib merge agg label (agg.endWait glib merge) := by
  rw [endWait]
  split
  · rename_i inactive
    exact .moved _ within (.inl ⟨rfl, by simpa using inactive⟩)
  · split
    · exact .popped agg.timeoutCount within
    · exact .popped _ within

theorem Effect.ofPhase2 (timedOut : Bool) (within : agg.InPass) :
    Effect glib merge agg label (agg.phase2 glib merge timedOut) := by
  rw [phase2]
  split
  · exact .moved _ within (.inr (.inr rfl))
  · exact .ofEndWait within

theorem Effect.ofPhase1 (within : agg.InPass) :
    Effect glib merge agg label (agg.phase1 glib merge) := by
  rw [phase1]
  split
  · exact .moved _ within (.inr (.inl rfl))
  · split
    · rename_i inactive
      exact .moved _ within (.inl ⟨rfl, by simpa using inactive⟩)
    · split
      · rename_i ended
        rw [Bool.and_eq_true, Bool.not_eq_true'] at ended
        exact .settled within ended.1 ended.2
      · split
        · exact .popped agg.timeoutCount within
        · exact .ofPhase2 false within

theorem step_effect (stepped : agg.step glib merge label = some next) :
    Effect glib merge agg label next := by
  cases label with
  | chain pad buffer =>
      simp only [step, Option.ite_none_right_eq_some, Option.some.injEq] at stepped
      exact stepped.2 ▸ .chained pad buffer
  | eos pad =>
      simp only [step, Option.ite_none_right_eq_some, Option.some.injEq] at stepped
      exact stepped.2 ▸ .receivedEos pad
  | enter =>
      simp only [step, Option.ite_none_right_eq_some, Option.some.injEq] at stepped
      exact stepped.2 ▸ .ofPhase1 (.inl stepped.1)
  | wake =>
      simp only [step, Option.ite_none_right_eq_some, Option.some.injEq] at stepped
      exact stepped.2 ▸ .ofPhase1 (.inr (.inl stepped.1))
  | wakeUntil timedOut =>
      simp only [step, Option.ite_none_right_eq_some, Option.some.injEq] at stepped
      exact stepped.2 ▸ .ofPhase2 timedOut (.inr (.inr stepped.1))
  | push =>
      simp only [step] at stepped
      split at stepped
      · rename_i text pushing
        rw [Option.some.injEq] at stepped
        exact stepped ▸ .pushed text pushing
      · rename_i pushing
        rw [Option.some.injEq] at stepped
        exact stepped ▸ .pushedEos pushing
      · simp at stepped
  | pausedToReady =>
      simp only [step, Option.ite_none_right_eq_some, Option.some.injEq] at stepped
      exact stepped.2 ▸ .deactivated
  | joined =>
      simp only [step, Option.ite_none_right_eq_some, Option.some.injEq] at stepped
      exact stepped.2 ▸ .joined stepped.1.1 stepped.1.2.2
  | readyToPaused =>
      simp only [step, Option.ite_none_right_eq_some, Option.some.injEq] at stepped
      exact stepped.2 ▸ .activated stepped.1

def takenFrom (pad : Nat) (batches : List PoppedBatch) : List (List UInt8) :=
  batches.filterMap fun batch => batch.items[pad]?.join

/-- Each item that was chained was taken by a pass, in order, or is still queued. -/
def Kept (agg : GstMsgAgg) : Prop :=
  ∀ pad entry, agg.datapads[pad]? = some entry →
    takenFrom pad agg.batches ++ entry.queue = entry.chained

theorem Kept.modify (kept : Kept agg) (pad : Nat) {change : GstMsgAggDataPad → GstMsgAggDataPad}
    (held : ∀ taken entry, taken ++ entry.queue = entry.chained →
      taken ++ (change entry).queue = (change entry).chained) :
    Kept { agg with datapads := agg.datapads.modify pad change } := by
  intro other entry found
  rw [List.getElem?_modify] at found
  obtain ⟨before, listed, rfl⟩ := Option.map_eq_some_iff.mp found
  by_cases same : pad = other
  · subst same
    simpa using held _ before (kept pad before listed)
  · simpa [same] using kept other before listed

theorem Kept.step (kept : Kept agg) (effect : Effect glib merge agg label next) : Kept next := by
  cases effect with
  | chained pad buffer =>
      refine kept.modify pad fun taken entry held => ?_
      simp only [GstMsgAggDataPad.chain, dataChain]
      rw [← List.append_assoc, held]
  | receivedEos pad => exact kept.modify pad fun _ _ held => held
  | popped timeouts within =>
      intro pad entry found
      simp only [phase3, List.getElem?_map] at found
      obtain ⟨before, listed, rfl⟩ := Option.map_eq_some_iff.mp found
      have held := kept pad before listed
      simp only [phase3, takenFrom, List.filterMap_append, GstMsgAggDataPad.popHead]
      rw [← held, List.append_assoc, takenFrom]
      cases queue : before.queue with
      | nil => simp [listed, queue]
      | cons head tail => simp [listed, queue]
  | joined inactive idle =>
      intro pad entry found
      dsimp only at found
      rw [List.getElem?_map] at found
      obtain ⟨before, listed, rfl⟩ := Option.map_eq_some_iff.mp found
      rfl
  | _ => exact kept

def buffers (pushed : List SrcPush) : List (List UInt8) :=
  pushed.filterMap fun push =>
    match push with
    | .buffer text => some text
    | _ => none

def inHand : WorkerPhase → List (List UInt8)
  | .pushing text => [text]
  | _ => []

structure Spelled (glib : JsonGlib) (merge : Bool) (agg : GstMsgAgg) : Prop where
  width : ∀ batch ∈ agg.batches, batch.items.length = agg.datapads.length
  text : ∀ batch ∈ agg.batches,
    batch.text = if merge then mergeText glib batch.items else batchText batch.items
  pushed : buffers agg.srcpad ++ inHand agg.worker = agg.batches.map PoppedBatch.text

theorem inHand_of_inPass (within : agg.InPass) : inHand agg.worker = [] := by
  rcases within with ⟨now, _⟩ | now | now <;> rw [now] <;> rfl

theorem buffers_preamble (agg : GstMsgAgg) : buffers agg.preamble = [] := by
  rw [preamble]
  cases agg.started <;> rfl

theorem buffers_append (pushed more : List SrcPush) :
    buffers (pushed ++ more) = buffers pushed ++ buffers more :=
  List.filterMap_append

theorem Spelled.step (spelled : Spelled glib merge agg)
    (effect : Effect glib merge agg label next) : Spelled glib merge next := by
  obtain ⟨width, text, pushed⟩ := spelled
  cases effect with
  | chained pad buffer => exact ⟨by simpa using width, text, pushed⟩
  | receivedEos pad => exact ⟨by simpa using width, text, pushed⟩
  | moved phase within waits =>
      refine ⟨width, text, ?_⟩
      have nothing : inHand phase = [] := by rcases waits with ⟨rfl, _⟩ | rfl | rfl <;> rfl
      rw [inHand_of_inPass within] at pushed
      dsimp only
      rw [nothing, pushed]
  | popped timeouts within =>
      rw [inHand_of_inPass within, List.append_nil] at pushed
      refine ⟨fun batch member => ?_, fun batch member => ?_, ?_⟩
      · rcases List.mem_append.mp member with earlier | new
        · simpa [phase3] using width batch earlier
        · rw [List.mem_singleton.mp new]
          simp [phase3]
      · rcases List.mem_append.mp member with earlier | new
        · exact text batch earlier
        · rw [List.mem_singleton.mp new]
          dsimp only
          rw [buildSceneMerge_eq, List.map_map]
          rfl
      · simp [phase3, inHand, pushed]
  | settled within eos empty =>
      refine ⟨width, text, ?_⟩
      rw [inHand_of_inPass within] at pushed
      exact pushed
  | pushed batch pushing =>
      refine ⟨width, text, ?_⟩
      rw [pushing] at pushed
      simp only [pushBuffer, buffers_append, buffers_preamble, ← pushed]
      simp [buffers, inHand]
  | pushedEos pushing =>
      refine ⟨width, text, ?_⟩
      rw [pushing] at pushed
      simp only [pushEos, buffers_append, buffers_preamble, ← pushed]
      simp [buffers, inHand]
  | deactivated => exact ⟨width, text, pushed⟩
  | joined inactive idle =>
      refine ⟨nofun, nofun, ?_⟩
      simp [idle, buffers, inHand]
  | activated stopped => exact ⟨width, text, pushed⟩

end GstMsgAgg

def Placeholders.Balanced (counts : Placeholders) : Prop :=
  counts.total = counts.eos + counts.timeout

theorem Placeholders.Balanced.count {counts : Placeholders} (balanced : counts.Balanced)
    (pad : GstMsgAggDataPad) : (counts.count pad).Balanced := by
  rw [Balanced] at balanced
  rw [Placeholders.count]
  split
  · exact balanced
  · split
    · rw [Balanced, balanced, UInt64.add_assoc, UInt64.add_assoc, UInt64.add_comm counts.timeout]
    · rw [Balanced, balanced, UInt64.add_assoc]

theorem Placeholders.Balanced.foldl {counts : Placeholders} (balanced : counts.Balanced)
    (pads : List GstMsgAggDataPad) : (pads.foldl Placeholders.count counts).Balanced := by
  induction pads generalizing counts with
  | nil => exact balanced
  | cons pad pads ih => exact ih (balanced.count pad)

namespace GstMsgAgg

theorem balanced_step (balanced : agg.placeholders.Balanced)
    (effect : Effect glib merge agg label next) : next.placeholders.Balanced := by
  cases effect with
  | popped timeouts within =>
      rw [phase3]
      dsimp only
      split
      · exact balanced
      · exact balanced.foldl agg.datapads
  | joined inactive idle => rfl
  | _ => exact balanced

structure Decided (agg : GstMsgAgg) : Prop where
  unchanged : ∀ pads batches, agg.decided = some (pads, batches) → batches = agg.batches ∧
    allPadsEos pads = true ∧ anyPadHasData pads = false ∧
    ∀ pad entry, pads[pad]? = some entry → takenFrom pad batches = entry.chained
  emptied : agg.decided.isSome = true →
    agg.worker = .pushingEos ∨ agg.worker = .idle ∧ agg.task ≠ .started
  pushing : agg.worker = .pushingEos → agg.decided.isSome = true
  pushed : SrcPush.eos ∈ agg.srcpad → agg.decided.isSome = true
  parked : agg.active = true → agg.task = .paused → agg.decided.isSome = true
  stopped : agg.task = .stopped → agg.worker = .idle ∧ agg.decided = none

theorem eos_notMem_preamble (agg : GstMsgAgg) : SrcPush.eos ∉ agg.preamble := by
  rw [preamble]
  cases agg.started <;> decide

theorem takenFrom_of_empty (kept : Kept agg) (empty : anyPadHasData agg.datapads = false)
    {pad : Nat} {entry : GstMsgAggDataPad} (found : agg.datapads[pad]? = some entry) :
    takenFrom pad agg.batches = entry.chained := by
  have held := kept pad entry found
  have nothing := List.any_eq_false.mp empty entry (List.mem_of_getElem? found)
  rw [Bool.not_eq_true, Bool.not_eq_false', List.isEmpty_iff] at nothing
  rwa [nothing, List.append_nil] at held

theorem Decided.unset (decided : Decided agg) (within : agg.InPass) : agg.decided = none := by
  rw [← Option.not_isSome_iff_eq_none]
  intro waiting
  rcases decided.emptied waiting with ending | ⟨idle, resting⟩
  · rcases within with ⟨now, _⟩ | now | now <;> exact absurd (ending.symm.trans now) nofun
  · rcases within with ⟨_, now⟩ | now | now
    · exact resting now
    · exact absurd (idle.symm.trans now) nofun
    · exact absurd (idle.symm.trans now) nofun

theorem Decided.step (decided : Decided agg) (kept : Kept agg)
    (effect : Effect glib merge agg label next) : Decided next := by
  have unset (within : agg.InPass) : agg.decided = none := decided.unset within
  obtain ⟨unchanged, emptied, pushing, pushed, parked, stopped⟩ := decided
  have running (within : agg.InPass) : agg.task ≠ .stopped := by
    intro now
    rcases within with ⟨_, task⟩ | worker | worker
    · exact absurd (task.symm.trans now) (by decide)
    · exact absurd (worker.symm.trans (stopped now).1) (by decide)
    · exact absurd (worker.symm.trans (stopped now).1) (by decide)
  cases effect with
  | chained pad buffer => exact ⟨unchanged, emptied, pushing, pushed, parked, stopped⟩
  | receivedEos pad => exact ⟨unchanged, emptied, pushing, pushed, parked, stopped⟩
  | moved phase within waits =>
      have unset := unset within
      refine ⟨unchanged, fun waiting => ?_, fun now => ?_, pushed, parked,
        fun now => absurd now (running within)⟩
      · simp [unset] at waiting
      · rcases waits with ⟨rfl, _⟩ | rfl | rfl <;> exact absurd now nofun
  | popped timeouts within =>
      have unset := unset within
      refine ⟨fun pads batches waiting => ?_, fun waiting => ?_, nofun, pushed, parked,
        fun now => absurd now (running within)⟩
      · simp [phase3, unset] at waiting
      · simp [phase3, unset] at waiting
  | settled within eos empty =>
      refine ⟨?_, fun _ => ?_, fun _ => rfl, fun _ => rfl, fun _ _ => rfl,
        fun now => absurd now (running within)⟩
      · rintro pads batches ⟨⟩
        exact ⟨rfl, eos, empty, fun pad entry => takenFrom_of_empty kept empty⟩
      · exact .inl rfl
  | pushed text making =>
      have early : ¬ agg.decided.isSome = true := by
        intro waiting
        rcases emptied waiting with ending | ⟨idle, _⟩
        · exact absurd (making.symm.trans ending) nofun
        · exact absurd (making.symm.trans idle) nofun
      refine ⟨unchanged, fun waiting => absurd waiting early, nofun, fun member => ?_, parked,
        fun now => absurd (making.symm.trans (stopped now).1) nofun⟩
      simp only [pushBuffer, List.mem_append, List.mem_singleton, reduceCtorEq, or_false] at member
      exact member.elim pushed fun here => absurd here (eos_notMem_preamble agg)
  | pushedEos ending =>
      have waiting := pushing ending
      exact ⟨unchanged, fun _ => .inr ⟨rfl, nofun⟩, nofun, fun _ => waiting, fun _ _ => waiting,
        nofun⟩
  | deactivated =>
      exact ⟨unchanged,
        fun waiting => (emptied waiting).imp_right fun resting => ⟨resting.1, nofun⟩,
        pushing, pushed, nofun, nofun⟩
  | joined inactive idle => exact ⟨nofun, nofun, fun now => absurd (idle.symm.trans now) nofun,
      nofun, fun now => absurd (inactive.symm.trans now) nofun, fun _ => ⟨idle, rfl⟩⟩
  | activated ended =>
      obtain ⟨idle, unset⟩ := stopped ended
      refine ⟨unchanged, fun waiting => ?_, pushing, pushed, nofun, nofun⟩
      simp [unset] at waiting

theorem invariants (reachable : (machine glib merge).Reachable agg) :
    Kept agg ∧ Spelled glib merge agg ∧ agg.placeholders.Balanced ∧ Decided agg := by
  refine reachable.invariant
    (fun agg => Kept agg ∧ Spelled glib merge agg ∧ agg.placeholders.Balanced ∧ Decided agg) ?_ ?_
  · rintro _ ⟨pads, rfl⟩
    refine ⟨fun pad entry found => ?_, ⟨nofun, nofun, rfl⟩, rfl,
      ⟨nofun, nofun, nofun, nofun, nofun, fun _ => ⟨rfl, rfl⟩⟩⟩
    simp only [requested, List.getElem?_replicate, Option.ite_none_right_eq_some,
      Option.some.injEq] at found
    obtain ⟨_, rfl⟩ := found
    rfl
  · intro agg label next held stepped
    obtain ⟨kept, spelled, balanced, decided⟩ := held
    have effect := step_effect stepped
    exact ⟨kept.step effect, spelled.step effect, balanced_step balanced effect,
      decided.step kept effect⟩

/-- Nothing is lost, doubled or reordered, and EOS is decided on when nothing is queued. -/
theorem keepsItems (reachable : (machine glib merge).Reachable agg) :
    (∀ pad entry, agg.datapads[pad]? = some entry →
        takenFrom pad agg.batches ++ entry.queue = entry.chained) ∧
      (∀ batch ∈ agg.batches, batch.items.length = agg.datapads.length ∧
        batch.text = if merge then mergeText glib batch.items else batchText batch.items) ∧
      buffers agg.srcpad ++ inHand agg.worker = agg.batches.map PoppedBatch.text ∧
      (agg.worker = .pushingEos ∨ SrcPush.eos ∈ agg.srcpad →
        ∃ pads, agg.decided = some (pads, agg.batches) ∧ allPadsEos pads = true ∧
          anyPadHasData pads = false ∧
          ∀ (pad : Nat) (before entry : GstMsgAggDataPad), pads[pad]? = some before →
            agg.datapads[pad]? = some entry → before.chained ++ entry.queue = entry.chained) ∧
      agg.placeholders.total = agg.placeholders.eos + agg.placeholders.timeout := by
  obtain ⟨kept, spelled, balanced, decided⟩ := invariants reachable
  refine ⟨kept, fun batch member => ⟨spelled.width batch member, spelled.text batch member⟩,
    spelled.pushed, fun ending => ?_, balanced⟩
  obtain ⟨⟨pads, batches⟩, found⟩ :=
    Option.isSome_iff_exists.mp (ending.elim decided.pushing decided.pushed)
  obtain ⟨rfl, eos, empty, before⟩ := decided.unchanged pads batches found
  refine ⟨pads, found, eos, empty, fun pad old entry held now => ?_⟩
  rw [← before pad old held]
  exact kept pad entry now

theorem keepsItems_twoPads : ∃ agg : GstMsgAgg,
    agg.batches.map PoppedBatch.text = [[0x7b, 0x61, 0x2c, 0x7b, 0x7d, 0x7d]] ∧
      agg.placeholders.total = agg.placeholders.eos + agg.placeholders.timeout := by
  have ran : ((machine JsonGlib.verbatim false).run (fun _ _ => True) (requested 2)
      [.readyToPaused, .enter, .chain 0 [0x61], .wake, .wakeUntil true, .push]).map
      (fun agg => agg.batches.map PoppedBatch.text) =
        some [[0x7b, 0x61, 0x2c, 0x7b, 0x7d, 0x7d]] := by
    decide +kernel
  obtain ⟨agg, ran, texts⟩ := Option.map_eq_some_iff.mp ran
  exact ⟨agg, texts, (keepsItems
    (Machine.ReachableUnder.run (Machine.ReachableUnder.start ⟨2, rfl⟩) ran)).2.2.2.2⟩

/-- An item may be chained between the decision on EOS and its push. -/
theorem eosPushedOverItem : ¬ ∀ (glib : JsonGlib) (merge : Bool) (agg next : GstMsgAgg),
    (machine glib merge).Reachable agg → agg.worker = .pushingEos →
    agg.step glib merge .push = some next →
    ∀ pad ∈ agg.datapads, pad.eos = true ∧ pad.queue = [] := by
  intro universal
  have ran : ((machine JsonGlib.verbatim false).run (fun _ _ => True) (requested 1)
      [.readyToPaused, .eos 0, .enter, .chain 0 [0x61]]).map
      (fun agg => (agg.worker, agg.datapads)) =
        some (.pushingEos, [⟨[[0x61]], true, [[0x61]]⟩]) := by
    decide +kernel
  obtain ⟨agg, ran, ends⟩ := Option.map_eq_some_iff.mp ran
  rw [Prod.mk.injEq] at ends
  obtain ⟨ending, pads⟩ := ends
  have stepped : agg.step JsonGlib.verbatim false .push = some agg.pushEos := by
    simp only [step, ending]
  have all := universal JsonGlib.verbatim false agg agg.pushEos
    (Machine.ReachableUnder.run (Machine.ReachableUnder.start ⟨1, rfl⟩) ran) ending stepped
  rw [pads] at all
  exact absurd (all _ (List.mem_singleton.mpr rfl)).2 (by decide)

/-- Nothing is chained after the worker's decision on EOS. -/
def undecided (agg : GstMsgAgg) : MsgAggStep → Bool
  | .chain _ _ => agg.decided.isNone
  | _ => true

theorem empty_step (empty : agg.decided.isSome = true → anyPadHasData agg.datapads = false)
    (decided : Decided agg) (allowed : agg.undecided label = true)
    (effect : Effect glib merge agg label next) :
    next.decided.isSome = true → anyPadHasData next.datapads = false := by
  cases effect with
  | chained pad buffer =>
      intro waiting
      rw [undecided, Option.isNone_iff_eq_none] at allowed
      simp [allowed] at waiting
  | receivedEos pad =>
      intro waiting
      have before := empty waiting
      rw [anyPadHasData, List.any_eq_false] at before ⊢
      intro entry member
      obtain ⟨index, found⟩ := List.mem_iff_getElem?.mp member
      rw [List.getElem?_modify] at found
      obtain ⟨old, listed, rfl⟩ := Option.map_eq_some_iff.mp found
      have same : (if pad = index then old.receiveEos else old).queue = old.queue := by
        split <;> rfl
      simpa only [same] using before old (List.mem_of_getElem? listed)
  | popped timeouts within =>
      intro waiting
      simp [phase3, decided.unset within] at waiting
  | settled within eos drained => exact fun _ => drained
  | joined inactive idle => exact nofun
  | _ => exact empty

/-- The worker is not parked over data as long as nothing is chained after its decision. -/
theorem empty_of_parked
    (reachable : (machine glib merge).ReachableUnder
      (fun agg label => undecided agg label = true) agg)
    (active : agg.active = true) (parked : agg.task = .paused) :
    anyPadHasData agg.datapads = false := by
  have decided := (invariants reachable.reachable).2.2.2
  refine reachable.invariant
    (fun agg => agg.decided.isSome = true → anyPadHasData agg.datapads = false) ?_ ?_
    (decided.parked active parked)
  · rintro _ ⟨pads, rfl⟩
    exact nofun
  · intro agg label next earlier empty allowed stepped
    exact empty_step empty (invariants earlier.reachable).2.2.2 allowed (step_effect stepped)

theorem empty_of_parked_onePass : ∃ agg : GstMsgAgg,
    agg.batches.length = 1 ∧ agg.task = .paused ∧ anyPadHasData agg.datapads = false := by
  have ran : ((machine JsonGlib.verbatim false).run (fun agg label => undecided agg label = true)
      (requested 1) [.readyToPaused, .chain 0 [0x61], .eos 0, .enter, .push, .enter, .push]).map
      (fun agg => (agg.batches.length, agg.active, agg.task)) = some (1, true, .paused) := by
    decide +kernel
  obtain ⟨agg, ran, ends⟩ := Option.map_eq_some_iff.mp ran
  simp only [Prod.mk.injEq] at ends
  exact ⟨agg, ends.1, ends.2.2, empty_of_parked
    (Machine.ReachableUnder.run (Machine.ReachableUnder.start ⟨1, rfl⟩) ran) ends.2.1 ends.2.2⟩

/-- The second round of a looped video finds the worker parked and the pad still at EOS. -/
theorem parkedOverItem : ¬ ∀ (glib : JsonGlib) (merge : Bool) (agg : GstMsgAgg),
    (machine glib merge).Reachable agg → agg.active = true → agg.task = .paused →
    anyPadHasData agg.datapads = false := by
  intro universal
  have ran : ((machine JsonGlib.verbatim false).run (fun _ _ => True) (requested 1)
      [.readyToPaused, .chain 0 [0x61], .eos 0, .enter, .push, .enter, .push,
        .chain 0 [0x61]]).map
      (fun agg => (agg.active, agg.task, agg.datapads.map GstMsgAggDataPad.queue)) =
        some (true, .paused, [[[0x61]]]) := by
    decide +kernel
  obtain ⟨agg, ran, ends⟩ := Option.map_eq_some_iff.mp ran
  simp only [Prod.mk.injEq] at ends
  obtain ⟨active, parked, queues⟩ := ends
  have drained := universal JsonGlib.verbatim false agg
    (Machine.ReachableUnder.run (Machine.ReachableUnder.start ⟨1, rfl⟩) ran) active parked
  obtain ⟨pad, pads, queue⟩ := List.map_eq_singleton_iff.mp queues
  rw [pads, anyPadHasData, List.any_cons, queue] at drained
  exact absurd drained (by decide)

end GstMsgAgg

end Iq9Pipeline.MultiCam
