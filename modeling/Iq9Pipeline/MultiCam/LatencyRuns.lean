import Iq9Pipeline.Foundation.Renewal
import Iq9Pipeline.MultiCam.LatencyRecorder
import Mathlib.Order.Interval.Finset.Nat

/-!
What the latency recorder keeps over any sequence of calls: as many frames as the window of
its counter has numbers, and each metric once for each life of an entry.
-/

namespace Iq9Pipeline.MultiCam.Latency

open Foundation

namespace LatencyRecorder

section Emissions

variable {frameKey : UInt64} {readings : MetricKind → Readings} {kind : MetricKind}
  {before after : LatencyRecorder × FrameTiming}

structure Emits (frameKey : UInt64) (kind : MetricKind) (line : Option Line)
    (before after : LatencyRecorder × FrameTiming) : Prop where
  due : before.2.emitted kind = false
  frameTimings : after.1.frameTimings = before.1.frameTimings
  eventOrder : after.1.eventOrder = before.1.eventOrder
  trace : after.1.trace = before.1.trace ++ [.emitted frameKey kind line]
  lastSeenOrder : after.2.lastSeenOrder = before.2.lastSeenOrder
  emitted : after.2.emitted = Function.update before.2.emitted kind true

theorem refreshResourceSamples_keeps (recorder : LatencyRecorder) (readings : Readings) :
    (recorder.refreshResourceSamples readings).frameTimings = recorder.frameTimings ∧
      (recorder.refreshResourceSamples readings).eventOrder = recorder.eventOrder ∧
      (recorder.refreshResourceSamples readings).trace = recorder.trace := by
  simp only [refreshResourceSamples]
  split
  · exact ⟨rfl, rfl, rfl⟩
  · exact ⟨rfl, rfl, rfl⟩

theorem emitMetric_cases (recorder : LatencyRecorder) (readings : Readings) (frameKey : UInt64)
    (kind : MetricKind) (startNs endNs : UInt64) (timing : FrameTiming) :
    let after := recorder.emitMetric readings frameKey kind startNs endNs timing
    after = (recorder, timing) ∨ ∃ line, Emits frameKey kind line (recorder, timing) after := by
  intro after
  cases given : timing.emitted kind with
  | true => exact .inl (if_pos given)
  | false =>
      right
      simp only [after, emitMetric, given, Bool.false_eq_true, if_false]
      split
      · exact ⟨none, given, rfl, rfl, rfl, rfl, rfl⟩
      · split
        · obtain ⟨table, order, trace⟩ :=
            refreshResourceSamples_keeps (recorder.shouldSample kind).2 readings
          exact ⟨_, given, table, order, congrArg (· ++ [_]) trace, rfl, rfl⟩
        · exact ⟨none, given, rfl, rfl, rfl, rfl, rfl⟩

theorem maybeEmit_cases (readings : MetricKind → Readings) (frameKey : UInt64)
    (before : LatencyRecorder × FrameTiming) (kind : MetricKind) :
    maybeEmit readings frameKey before kind = before ∨
      ∃ line, Emits frameKey kind line before (maybeEmit readings frameKey before kind) := by
  rw [maybeEmit]
  split
  · exact emitMetric_cases _ _ _ _ _ _ _
  · exact .inl rfl

/-- What every emission keeps, all of them together keep. -/
theorem maybeEmitMetrics_invariant {holds : LatencyRecorder × FrameTiming → Prop}
    {recorder : LatencyRecorder} {timing : FrameTiming}
    (kept : ∀ before kind line after, holds before → Emits frameKey kind line before after →
      holds after) (start : holds (recorder, timing)) :
    holds (recorder.maybeEmitMetrics readings frameKey timing) := by
  rw [maybeEmitMetrics]
  generalize MetricKind.asked = kinds
  generalize (recorder, timing) = entry at start
  induction kinds generalizing entry with
  | nil => exact start
  | cons kind kinds ih =>
      apply ih
      rcases maybeEmit_cases readings frameKey entry kind with same | ⟨line, emits⟩
      · rwa [same]
      · exact kept entry kind line _ start emits

end Emissions

section Calls

variable {recorder : LatencyRecorder} {call : StageCall} {calls : List StageCall}

structure Enters (recorder : LatencyRecorder) (frameKey : UInt64)
    (entry : LatencyRecorder × FrameTiming) : Prop where
  frameTimings : entry.1.frameTimings = recorder.frameTimings
  eventOrder : entry.1.eventOrder = recorder.eventOrder + 1
  lastSeenOrder : entry.2.lastSeenOrder = recorder.eventOrder + 1
  life : entry.1.trace = recorder.trace ∧
      entry.2.emitted = ((recorder.frameTimings.lookup frameKey).getD {}).emitted ∨
    entry.1.trace = recorder.trace ++ [.reset frameKey]

theorem enters_stamp (recorder : LatencyRecorder) (call : StageCall) :
    Enters recorder call.frameKey ((recorder.enter call).1,
      (recorder.enter call).2.stamp call.stage call.timestampNs) := by
  have kept (timing : FrameTiming) :
      (timing.stamp call.stage call.timestampNs).lastSeenOrder = timing.lastSeenOrder ∧
        (timing.stamp call.stage call.timestampNs).emitted = timing.emitted := by
    cases call.stage <;> exact ⟨rfl, rfl⟩
  simp only [enter]
  split
  · exact ⟨rfl, rfl, (kept _).1, .inr rfl⟩
  · exact ⟨rfl, rfl, (kept _).1, .inl ⟨rfl, (kept _).2⟩⟩

/-- What holds when the frame is found and is kept by every emission holds when the entry is
put back, before the pruning. -/
theorem recordStageTimestamp_cases (recorder : LatencyRecorder) (call : StageCall) :
    recorder.recordStageTimestamp call = recorder ∨
      ∃ entry : LatencyRecorder × FrameTiming,
        (∀ holds : LatencyRecorder × FrameTiming → Prop,
          (∀ found, Enters recorder call.frameKey found → holds found) →
          (∀ before kind line after, holds before → Emits call.frameKey kind line before after →
            holds after) → holds entry) ∧
        recorder.recordStageTimestamp call = pruneIfNeeded { entry.1 with
          frameTimings := entry.1.frameTimings.insert call.frameKey entry.2 } := by
  by_cases zero : call.timestampNs = 0
  · exact .inl (if_pos zero)
  · refine .inr ⟨_, fun holds entered kept => ?_, if_neg zero⟩
    exact maybeEmitMetrics_invariant kept (entered _ (enters_stamp recorder call))

theorem run_concat (config : TimingMarks.Config) (calls : List StageCall) (call : StageCall) :
    run config (calls ++ [call]) = (run config calls).recordStageTimestamp call :=
  List.foldl_concat ..

end Calls

section Window

variable {recorder : LatencyRecorder} {config : TimingMarks.Config} {call : StageCall}
  {calls : List StageCall}

def orders (recorder : LatencyRecorder) : List UInt64 :=
  recorder.frameTimings.entries.map fun entry => entry.2.lastSeenOrder

/-- No two entries have the number of one call, there are no more of them than the window has
numbers, and they have never been forgotten together. -/
structure Bounded (recorder : LatencyRecorder) : Prop where
  distinct : recorder.orders.Nodup
  size : recorder.frameTimings.entries.length ≤ 8193
  uncleared : .cleared ∉ recorder.trace

structure Ordered (recorder : LatencyRecorder) : Prop where
  distinct : recorder.orders.Nodup
  made : ∀ order ∈ recorder.orders, order.toNat ≤ recorder.eventOrder.toNat

theorem ordered_initialized : (initialized config).Ordered :=
  ⟨List.nodup_nil, nofun⟩

theorem length_le_of_window {orders : List UInt64} {first last : Nat} (distinct : orders.Nodup)
    (within : ∀ order ∈ orders, first ≤ order.toNat ∧ order.toNat ≤ last) :
    orders.length ≤ last + 1 - first := by
  have numbers : (orders.map UInt64.toNat).Nodup :=
    distinct.map fun _ _ same => UInt64.toNat_inj.mp same
  have subset : (orders.map UInt64.toNat).toFinset ⊆ Finset.Icc first last := by
    intro number listed
    obtain ⟨order, member, rfl⟩ := List.mem_map.mp (List.mem_toFinset.mp listed)
    exact Finset.mem_Icc.mpr (within order member)
  calc orders.length = (orders.map UInt64.toNat).toFinset.card := by
        rw [List.toFinset_card_of_nodup numbers, List.length_map]
    _ ≤ (Finset.Icc first last).card := Finset.card_le_card subset
    _ = last + 1 - first := Nat.card_Icc first last

theorem Ordered.insert (ordered : recorder.Ordered) {after : LatencyRecorder} {frameKey : UInt64}
    {timing : FrameTiming} (room : recorder.eventOrder.toNat + 1 < 2 ^ 64)
    (table : after.frameTimings = recorder.frameTimings.insert frameKey timing)
    (order : after.eventOrder = recorder.eventOrder + 1)
    (seen : timing.lastSeenOrder = recorder.eventOrder + 1) : after.Ordered := by
  have next : (recorder.eventOrder + 1).toNat = recorder.eventOrder.toNat + 1 := by
    rw [UInt64.toNat_add, UInt64.toNat_one, Nat.mod_eq_of_lt room]
  have others : ((recorder.frameTimings.entries.kerase frameKey).map
      fun entry => entry.2.lastSeenOrder).Sublist recorder.orders :=
    (List.kerase_sublist _ _).map _
  have split : after.orders = (recorder.eventOrder + 1) ::
      (recorder.frameTimings.entries.kerase frameKey).map fun entry => entry.2.lastSeenOrder := by
    rw [orders, table, AList.entries_insert, List.map_cons, seen]
  refine ⟨?_, fun number listed => ?_⟩
  · rw [split]
    refine List.nodup_cons.mpr ⟨fun listed => ?_, ordered.distinct.sublist others⟩
    have earlier := ordered.made _ (others.subset listed)
    omega
  · rw [order, next]
    rw [split] at listed
    rcases List.mem_cons.mp listed with rfl | other
    · exact next.le
    · exact Nat.le_succ_of_le (ordered.made number (others.subset other))

theorem Ordered.erase (ordered : recorder.Ordered) : recorder.erase.Ordered := by
  have fewer : recorder.erase.orders.Sublist recorder.orders := List.filter_sublist.map _
  exact ⟨ordered.distinct.sublist fewer, fun order listed =>
    ordered.made order (fewer.subset listed)⟩

theorem Ordered.length_erase (ordered : recorder.Ordered) :
    recorder.erase.frameTimings.entries.length ≤ 8193 := by
  have within : ∀ order ∈ recorder.erase.orders,
      recorder.eventOrder.toNat - 8192 ≤ order.toNat ∧ order.toNat ≤ recorder.eventOrder.toNat := by
    intro order listed
    refine ⟨?_, ordered.erase.made order listed⟩
    obtain ⟨entry, kept, rfl⟩ := List.mem_map.mp listed
    obtain ⟨_, fresh⟩ := List.mem_filter.mp kept
    simp only [stale, kStaleOrderWindow, Bool.not_or, Bool.and_eq_true, Bool.not_eq_true',
      decide_eq_false_iff_not, not_and, gt_iff_lt, UInt64.not_lt] at fresh
    by_cases later : entry.2.lastSeenOrder < recorder.eventOrder
    · have distance : recorder.eventOrder.toNat - entry.2.lastSeenOrder.toNat ≤ 8192 := by
        rw [← UInt64.toNat_sub_of_le _ _ (UInt64.le_of_lt later)]
        exact UInt64.le_iff_toNat_le.mp (fresh.1 later)
      omega
    · exact (Nat.sub_le _ _).trans (UInt64.le_iff_toNat_le.mp (UInt64.not_lt.mp later))
  calc recorder.erase.frameTimings.entries.length = recorder.erase.orders.length :=
        (List.length_map _).symm
    _ ≤ recorder.eventOrder.toNat + 1 - (recorder.eventOrder.toNat - 8192) :=
        length_le_of_window ordered.erase.distinct within
    _ ≤ 8193 := by omega

/-- The pruning never comes to forget all entries. -/
theorem Ordered.bounded_pruneIfNeeded (ordered : recorder.Ordered)
    (uncleared : .cleared ∉ recorder.trace) :
    recorder.pruneIfNeeded.Ordered ∧ recorder.pruneIfNeeded.Bounded ∧
      recorder.pruneIfNeeded.eventOrder = recorder.eventOrder := by
  by_cases few : recorder.frameTimings.entries.length ≤ kMaxTrackedFrames
  · rw [pruneIfNeeded, if_pos few]
    exact ⟨ordered, ⟨ordered.distinct, few.trans (by decide), uncleared⟩, rfl⟩
  · have size := ordered.length_erase
    have limit : ¬recorder.erase.frameTimings.entries.length > kHardMapLimit :=
      Nat.not_lt.mpr (size.trans (by decide))
    rw [pruneIfNeeded, if_neg few]
    simp only [if_neg limit]
    refine ⟨ordered.erase, ⟨ordered.erase.distinct, size, fun listed => ?_⟩, rfl⟩
    rcases List.mem_append.mp listed with earlier | now
    · exact uncleared earlier
    · obtain ⟨_, _, other⟩ := List.mem_map.mp now
      exact absurd other nofun

theorem bounded_recordStageTimestamp (recorder : LatencyRecorder) (call : StageCall)
    (room : recorder.eventOrder.toNat + 1 < 2 ^ 64) (ordered : recorder.Ordered)
    (bounded : recorder.Bounded) :
    (recorder.recordStageTimestamp call).Ordered ∧ (recorder.recordStageTimestamp call).Bounded ∧
      (recorder.recordStageTimestamp call).eventOrder.toNat ≤ recorder.eventOrder.toNat + 1 := by
  rcases recordStageTimestamp_cases recorder call with same | ⟨entry, invariant, after⟩
  · rw [same]
    exact ⟨ordered, bounded, Nat.le_succ _⟩
  · obtain ⟨table, order, seen, uncleared⟩ := invariant (fun entry =>
        entry.1.frameTimings = recorder.frameTimings ∧
          entry.1.eventOrder = recorder.eventOrder + 1 ∧
          entry.2.lastSeenOrder = recorder.eventOrder + 1 ∧ .cleared ∉ entry.1.trace)
      (fun found enters => by
        refine ⟨enters.frameTimings, enters.eventOrder, enters.lastSeenOrder, ?_⟩
        rcases enters.life with ⟨same, _⟩ | reset
        · exact same ▸ bounded.uncleared
        · rw [reset]
          simpa using bounded.uncleared)
      (fun before kind line after ⟨table, order, seen, uncleared⟩ emits => by
        refine ⟨emits.frameTimings.trans table, emits.eventOrder.trans order,
          emits.lastSeenOrder.trans seen, ?_⟩
        rw [emits.trace]
        simpa using uncleared)
    have inserted : Ordered { entry.1 with
        frameTimings := entry.1.frameTimings.insert call.frameKey entry.2 } :=
      ordered.insert room (by rw [table]) order seen
    obtain ⟨kept, within, made⟩ := inserted.bounded_pruneIfNeeded uncleared
    rw [after]
    refine ⟨kept, within, ?_⟩
    rw [made]
    exact (congrArg UInt64.toNat order).trans_le
      ((UInt64.toNat_add ..).trans_le (Nat.mod_le _ _))

theorem bounded_run (config : TimingMarks.Config) (calls : List StageCall)
    (few : calls.length < 2 ^ 64) :
    (run config calls).Ordered ∧ (run config calls).Bounded ∧
      (run config calls).eventOrder.toNat ≤ calls.length := by
  induction calls using List.reverseRecOn with
  | nil => exact ⟨ordered_initialized, ⟨List.nodup_nil, Nat.zero_le _, nofun⟩, Nat.zero_le _⟩
  | append_singleton calls call ih =>
      rw [List.length_append, List.length_singleton] at few ⊢
      obtain ⟨ordered, bounded, made⟩ := ih (Nat.lt_of_succ_lt few)
      rw [run_concat]
      obtain ⟨kept, within, next⟩ := bounded_recordStageTimestamp (run config calls) call
        (by omega) ordered bounded
      exact ⟨kept, within, by omega⟩

end Window

section Lives

variable {recorder : LatencyRecorder} {config : TimingMarks.Config} {frameKey : UInt64}
  {table : AList fun _ : UInt64 => FrameTiming} {trace : List RecorderEvent}

def announces : RecorderEvent → UInt64 × MetricKind → Prop
  | .emitted frameKey kind _, item => item = (frameKey, kind)
  | _, _ => False

def renews : RecorderEvent → UInt64 × MetricKind → Prop
  | .reset frameKey, item => item.1 = frameKey
  | .evicted frameKey, item => item.1 = frameKey
  | .cleared, _ => True
  | .emitted .., _ => False

structure Flagged (table : AList fun _ : UInt64 => FrameTiming) (trace : List RecorderEvent) :
    Prop where
  once : ∀ item, Once announces renews trace item
  flag : ∀ item, Outstanding announces renews trace item →
    ∃ timing ∈ table.lookup item.1, timing.emitted item.2 = true

theorem flagged_initialized : Flagged ∅ [] :=
  ⟨fun _ => once_nil, fun _ outstanding => absurd outstanding not_outstanding_nil⟩

theorem Flagged.enter {entry : LatencyRecorder × FrameTiming}
    (flagged : Flagged recorder.frameTimings recorder.trace)
    (enters : Enters recorder frameKey entry) :
    Flagged (entry.1.frameTimings.insert frameKey entry.2) entry.1.trace := by
  have other (item : UInt64 × MetricKind) (different : item.1 ≠ frameKey) :
      (entry.1.frameTimings.insert frameKey entry.2).lookup item.1 =
        recorder.frameTimings.lookup item.1 := by
    rw [AList.lookup_insert_ne different, enters.frameTimings]
  rcases enters.life with ⟨same, flags⟩ | reset
  · rw [same]
    refine ⟨flagged.once, fun item outstanding => ?_⟩
    obtain ⟨timing, found, given⟩ := flagged.flag item outstanding
    by_cases own : item.1 = frameKey
    · refine ⟨entry.2, own ▸ AList.lookup_insert _, ?_⟩
      rw [flags, ← own, Option.mem_def.mp found]
      exact given
    · exact ⟨timing, (other item own).symm ▸ found, given⟩
  · rw [reset]
    refine ⟨fun item => (flagged.once item).concat (fun silent => silent.elim),
      fun item outstanding => ?_⟩
    rcases outstanding.of_concat with silent | ⟨earlier, different⟩
    · exact silent.elim
    · obtain ⟨timing, found, given⟩ := flagged.flag item earlier
      exact ⟨timing, (other item different).symm ▸ found, given⟩

/-- A metric that is emitted had no flag, so that it was not outstanding. -/
theorem Flagged.emit {before after : LatencyRecorder × FrameTiming} {kind : MetricKind}
    {line : Option Line}
    (flagged : Flagged (before.1.frameTimings.insert frameKey before.2) before.1.trace)
    (emits : Emits frameKey kind line before after) :
    Flagged (after.1.frameTimings.insert frameKey after.2) after.1.trace := by
  rw [emits.trace, emits.frameTimings]
  refine ⟨fun item => (flagged.once item).concat ?_, fun item outstanding => ?_⟩
  · rintro rfl outstanding
    obtain ⟨timing, found, given⟩ := flagged.flag _ outstanding
    rw [Option.mem_def, AList.lookup_insert, Option.some_inj] at found
    rw [← found, emits.due] at given
    exact absurd given nofun
  · rcases outstanding.of_concat with rfl | ⟨earlier, _⟩
    · exact ⟨after.2, AList.lookup_insert _, by rw [emits.emitted, Function.update_self]⟩
    · obtain ⟨timing, found, given⟩ := flagged.flag item earlier
      by_cases own : item.1 = frameKey
      · rw [Option.mem_def, own, AList.lookup_insert, Option.some_inj] at found
        refine ⟨after.2, own ▸ AList.lookup_insert _, ?_⟩
        rw [emits.emitted, found]
        by_cases same : item.2 = kind
        · rw [same, Function.update_self]
        · rwa [Function.update_of_ne same]
      · rw [AList.lookup_insert_ne own] at found ⊢
        exact ⟨timing, found, given⟩

theorem Flagged.erase (flagged : Flagged recorder.frameTimings recorder.trace) :
    Flagged recorder.erase.frameTimings recorder.erase.trace := by
  have silent : ∀ event ∈ (recorder.frameTimings.entries.filter fun entry =>
      recorder.stale entry.2 || completed entry.2).map fun entry => RecorderEvent.evicted entry.1,
      ∀ item, ¬announces event item := by
    rintro event listed item announced
    obtain ⟨entry, _, rfl⟩ := List.mem_map.mp listed
    exact announced
  refine ⟨fun item => (flagged.once item).append (silent · · item), fun item outstanding => ?_⟩
  obtain ⟨earlier, quiet⟩ := outstanding.of_append (silent · · item)
  obtain ⟨timing, found, given⟩ := flagged.flag item earlier
  have listed := AList.mem_lookup_iff.mp found
  refine ⟨timing, AList.mem_lookup_iff.mpr (List.mem_filter.mpr ⟨listed, ?_⟩), given⟩
  by_contra erased
  refine quiet (.evicted item.1) (List.mem_map.mpr ⟨⟨item.1, timing⟩, ?_, rfl⟩) rfl
  rw [Bool.not_eq_true', Bool.not_eq_false] at erased
  exact List.mem_filter.mpr ⟨listed, erased⟩

theorem Flagged.pruneIfNeeded (flagged : Flagged recorder.frameTimings recorder.trace) :
    Flagged recorder.pruneIfNeeded.frameTimings recorder.pruneIfNeeded.trace := by
  simp only [LatencyRecorder.pruneIfNeeded]
  split
  · exact flagged
  · split
    · refine ⟨fun item => (flagged.erase.once item).concat (fun silent => silent.elim),
        fun item outstanding => ?_⟩
      rcases outstanding.of_concat with silent | ⟨_, kept⟩
      · exact silent.elim
      · exact absurd trivial kept
    · exact flagged.erase

theorem Flagged.recordStageTimestamp (call : StageCall)
    (flagged : Flagged recorder.frameTimings recorder.trace) :
    Flagged (recorder.recordStageTimestamp call).frameTimings
      (recorder.recordStageTimestamp call).trace := by
  rcases recordStageTimestamp_cases recorder call with same | ⟨entry, invariant, after⟩
  · rwa [same]
  · rw [after]
    apply Flagged.pruneIfNeeded
    exact invariant (fun entry =>
        Flagged (entry.1.frameTimings.insert call.frameKey entry.2) entry.1.trace)
      (fun _ enters => flagged.enter enters) (fun _ _ _ _ flagged emits => flagged.emit emits)

theorem flagged_run (config : TimingMarks.Config) (calls : List StageCall) :
    Flagged (run config calls).frameTimings (run config calls).trace := by
  induction calls using List.reverseRecOn with
  | nil => exact flagged_initialized
  | append_singleton calls call ih =>
      rw [run_concat]
      exact ih.recordStageTimestamp call

end Lives

/-- As long as `event_order_` has not wrapped, the entries have distinct numbers, are no more
than the window has numbers, and are never forgotten together. Whatever the calls, a metric is
emitted again for a frame only after its entry was reset or evicted. -/
theorem latencyRecorder_bounded (config : TimingMarks.Config) (calls : List StageCall) :
    (calls.length < 2 ^ 64 → (run config calls).Bounded) ∧
      ∀ item, Once announces renews (run config calls).trace item :=
  ⟨fun few => (bounded_run config calls few).2.1, (flagged_run config calls).once⟩

section Wrapped

variable {recorder : LatencyRecorder} {calls size frame : Nat} {order : Nat → Nat}

def sighting (frame : Nat) : StageCall :=
  ⟨some .trackerSink, UInt64.ofNat frame, 1, fun _ => ⟨0, 0, 0, 0⟩⟩

theorem latencyRecorder_bounded_twice :
    [sighting 5, sighting 5].length < 2 ^ 64 ∧
      (run ⟨0, "out", 1, false⟩ [sighting 5, sighting 5]).Bounded :=
  ⟨by decide, (latencyRecorder_bounded _ _).1 (by decide)⟩

def seen (order : UInt64) : FrameTiming :=
  { stamps := Function.update (fun _ => none) .trackerSink (some 1)
    lastSeenOrder := order }

def sighted (recorder : LatencyRecorder) (frame : Nat) : LatencyRecorder :=
  { recorder with
    eventOrder := recorder.eventOrder + 1
    frameTimings := recorder.frameTimings.insert (UInt64.ofNat frame)
      (seen (recorder.eventOrder + 1)) }

theorem enter_sighting (waiting : ∀ timing ∈ recorder.frameTimings.lookup (UInt64.ofNat frame),
      ∃ order, timing = seen order) :
    (recorder.enter (sighting frame)).1 =
        { recorder with eventOrder := recorder.eventOrder + 1 } ∧
      (recorder.enter (sighting frame)).2.stamp (some .trackerSink) 1 =
        seen (recorder.eventOrder + 1) := by
  simp only [enter, sighting, reused, Bool.false_eq_true, and_false, if_false, true_and]
  cases found : recorder.frameTimings.lookup (UInt64.ofNat frame) with
  | none => rfl
  | some timing =>
      obtain ⟨order, rfl⟩ := waiting timing found
      simp only [Option.getD_some, FrameTiming.stamp, seen, Function.update_idem]

theorem maybeEmitMetrics_seen (recorder : LatencyRecorder) (readings : MetricKind → Readings)
    (frameKey order : UInt64) :
    recorder.maybeEmitMetrics readings frameKey (seen order) = (recorder, seen order) := by
  have quiet (kind : MetricKind) :
      maybeEmit readings frameKey (recorder, seen order) kind = (recorder, seen order) := by
    cases kind <;> rfl
  simp only [maybeEmitMetrics, MetricKind.asked, List.foldl_cons, List.foldl_nil, quiet]

theorem recordStageTimestamp_sighting
    (waiting : ∀ timing ∈ recorder.frameTimings.lookup (UInt64.ofNat frame),
      ∃ order, timing = seen order) :
    recorder.recordStageTimestamp (sighting frame) = (recorder.sighted frame).pruneIfNeeded := by
  obtain ⟨made, stamped⟩ := enter_sighting waiting
  have step : recorder.recordStageTimestamp (sighting frame) =
      let entry := (recorder.enter (sighting frame)).1.maybeEmitMetrics (sighting frame).readings
        (UInt64.ofNat frame) ((recorder.enter (sighting frame)).2.stamp (some .trackerSink) 1)
      pruneIfNeeded { entry.1 with
        frameTimings := entry.1.frameTimings.insert (UInt64.ofNat frame) entry.2 } :=
    if_neg (by decide : ¬(1 : UInt64) = 0)
  rw [step, stamped, maybeEmitMetrics_seen, made]
  rfl

structure Watched (recorder : LatencyRecorder) (calls size : Nat) (order : Nat → Nat) : Prop where
  eventOrder : recorder.eventOrder = UInt64.ofNat calls
  length : recorder.frameTimings.entries.length = size
  lookup_eq : ∀ key, recorder.frameTimings.lookup key =
    if key.toNat < size then some (seen (UInt64.ofNat (order key.toNat))) else none

def Fresh (calls size : Nat) (order : Nat → Nat) : Prop :=
  ∀ frame < size, calls % 2 ^ 64 ≤ order frame % 2 ^ 64 + 8192

theorem watched_initialized (config : TimingMarks.Config) (order : Nat → Nat) :
    Watched (initialized config) 0 0 order :=
  ⟨rfl, rfl, fun _ => rfl⟩

theorem Watched.of_lookup (watched : Watched recorder calls size order) {key : UInt64}
    {timing : FrameTiming} (found : timing ∈ recorder.frameTimings.lookup key) :
    key.toNat < size ∧ timing = seen (UInt64.ofNat (order key.toNat)) := by
  rw [watched.lookup_eq, Option.mem_def, Option.ite_none_right_eq_some] at found
  exact ⟨found.1, (Option.some.inj found.2).symm⟩

theorem Watched.erase_eq (watched : Watched recorder calls size order)
    (fresh : Fresh calls size order) : recorder.erase.frameTimings = recorder.frameTimings := by
  apply AList.ext
  apply List.filter_eq_self.mpr
  intro entry listed
  obtain ⟨low, same⟩ := watched.of_lookup (AList.mem_lookup_iff.mpr listed)
  have recent := fresh _ low
  have unfinished : completed entry.2 = false := same ▸ rfl
  have kept : recorder.stale entry.2 = false := by
    rw [same]
    simp only [stale, kStaleOrderWindow, decide_eq_false_iff_not, not_and, gt_iff_lt]
    intro later
    rw [UInt64.not_lt, UInt64.le_iff_toNat_le, UInt64.toNat_sub_of_le _ _ (UInt64.le_of_lt later),
      watched.eventOrder, seen, UInt64.toNat_ofNat', UInt64.toNat_ofNat']
    change _ ≤ 8192
    omega
  simp only [kept, unfinished, Bool.or_self, Bool.not_false]

theorem pruneIfNeeded_keeps (recorder : LatencyRecorder)
    (few : recorder.frameTimings.entries.length ≤ 20000)
    (kept : recorder.frameTimings.entries.length ≤ 8192 ∨
      recorder.erase.frameTimings = recorder.frameTimings) :
    recorder.pruneIfNeeded.frameTimings = recorder.frameTimings ∧
      recorder.pruneIfNeeded.eventOrder = recorder.eventOrder := by
  by_cases small : recorder.frameTimings.entries.length ≤ kMaxTrackedFrames
  · rw [pruneIfNeeded, if_pos small]
    exact ⟨rfl, rfl⟩
  · have whole := kept.resolve_left small
    have limit : ¬recorder.erase.frameTimings.entries.length > kHardMapLimit := by
      rw [whole]
      exact Nat.not_lt.mpr few
    rw [pruneIfNeeded, if_neg small]
    simp only [if_neg limit]
    exact ⟨whole, rfl⟩

theorem pruneIfNeeded_clears (many : 20000 < recorder.frameTimings.entries.length)
    (whole : recorder.erase.frameTimings = recorder.frameTimings) :
    .cleared ∈ recorder.pruneIfNeeded.trace := by
  have large : ¬recorder.frameTimings.entries.length ≤ kMaxTrackedFrames :=
    Nat.not_le.mpr (Nat.lt_trans (by decide) many)
  have limit : recorder.erase.frameTimings.entries.length > kHardMapLimit := by
    rw [whole]
    exact many
  rw [pruneIfNeeded, if_neg large]
  simp only [if_pos limit]
  exact List.mem_append_right _ List.mem_cons_self

theorem length_insert (table : AList fun _ : UInt64 => FrameTiming) (frameKey : UInt64)
    (timing : FrameTiming) :
    (table.insert frameKey timing).entries.length =
      if frameKey ∈ table then table.entries.length else table.entries.length + 1 := by
  have keys (table : AList fun _ : UInt64 => FrameTiming) :
      table.entries.length = table.keys.length := (List.length_map _).symm
  rw [keys, keys, AList.keys_insert, List.length_cons]
  by_cases listed : frameKey ∈ table
  · rw [if_pos listed, List.length_erase_add_one (AList.mem_keys.mp listed)]
  · rw [if_neg listed, List.erase_of_not_mem (mt AList.mem_keys.mpr listed)]

theorem Watched.sighted (watched : Watched recorder calls size order) (near : frame ≤ size)
    (small : size < 2 ^ 64) :
    Watched (recorder.sighted frame) (calls + 1) (max size (frame + 1))
      (Function.update order frame (calls + 1)) := by
  have number : (UInt64.ofNat frame).toNat = frame :=
    UInt64.toNat_ofNat_of_lt' (near.trans_lt small)
  have made : recorder.eventOrder + 1 = UInt64.ofNat (calls + 1) := by
    rw [watched.eventOrder, UInt64.ofNat_add]
    rfl
  have listed : UInt64.ofNat frame ∈ recorder.frameTimings ↔ frame < size := by
    rw [← AList.lookup_isSome, watched.lookup_eq, number]
    by_cases low : frame < size
    · rw [if_pos low]
      exact iff_of_true rfl low
    · rw [if_neg low]
      exact iff_of_false nofun low
  refine ⟨made, ?_, fun key => ?_⟩
  · rw [LatencyRecorder.sighted, length_insert, watched.length]
    by_cases low : frame < size
    · rw [if_pos (listed.mpr low), Nat.max_eq_left low]
    · rw [if_neg (mt listed.mp low)]
      omega
  · by_cases own : key = UInt64.ofNat frame
    · rw [LatencyRecorder.sighted, own, AList.lookup_insert, number, Function.update_self, made,
        if_pos (by omega)]
    · have other : key.toNat ≠ frame := fun same =>
        own (UInt64.toNat_inj.mp (same.trans number.symm))
      have same : key.toNat < max size (frame + 1) ↔ key.toNat < size := by omega
      rw [LatencyRecorder.sighted, AList.lookup_insert_ne own, watched.lookup_eq,
        Function.update_of_ne other]
      simp only [same]

theorem Watched.sight (watched : Watched recorder calls size order) (near : frame ≤ size)
    (few : size < 20000)
    (kept : max size (frame + 1) ≤ 8192 ∨
      Fresh (calls + 1) (max size (frame + 1)) (Function.update order frame (calls + 1))) :
    Watched (recorder.recordStageTimestamp (sighting frame)) (calls + 1) (max size (frame + 1))
      (Function.update order frame (calls + 1)) := by
  have sighted := watched.sighted near (few.trans (by decide))
  rw [recordStageTimestamp_sighting fun _ found => ⟨_, (watched.of_lookup found).2⟩]
  obtain ⟨table, made⟩ := pruneIfNeeded_keeps (recorder.sighted frame)
    (by rw [sighted.length]; omega) (kept.imp (sighted.length.trans_le ·) sighted.erase_eq)
  exact ⟨made.trans sighted.eventOrder, table ▸ sighted.length, table ▸ sighted.lookup_eq⟩

theorem Watched.again (watched : Watched recorder calls size order) (small : size ≤ 8192)
    {times : Nat} (repeated : 0 < times) :
    Watched ((List.replicate times (sighting 0)).foldl recordStageTimestamp recorder)
      (calls + times) (max size 1) (Function.update order 0 (calls + times)) := by
  induction times, repeated using Nat.le_induction with
  | base => exact watched.sight (Nat.zero_le size) (by omega) (.inl (by omega))
  | succ times _ ih =>
      have next := ih.sight (Nat.zero_le _) (by omega) (.inl (by omega))
      rw [List.replicate_succ', List.foldl_concat]
      rwa [Function.update_idem, Nat.zero_add, Nat.max_assoc, Nat.max_self] at next

def newFrames (first count : Nat) : List StageCall :=
  (List.range count).map fun frame => sighting (first + frame)

def numbered (calls size : Nat) (order : Nat → Nat) (frame : Nat) : Nat :=
  if frame < size then order frame else calls + (frame - size) + 1

theorem update_numbered (calls size count : Nat) (order : Nat → Nat) :
    Function.update (numbered calls size order) (size + count) (calls + count + 1) =
      numbered calls size order := by
  refine Function.update_eq_self_iff.mpr ?_
  rw [numbered, if_neg (by omega), Nat.add_sub_cancel_left]

theorem Watched.grow (watched : Watched recorder calls size order) {count : Nat}
    (few : size + count ≤ 20000)
    (kept : ∀ more ≤ count, size + more ≤ 8192 ∨
      Fresh (calls + more) (size + more) (numbered calls size order)) :
    Watched ((newFrames size count).foldl recordStageTimestamp recorder) (calls + count)
      (size + count) (numbered calls size order) := by
  induction count with
  | zero =>
      refine ⟨watched.eventOrder, watched.length, fun key => (watched.lookup_eq key).trans ?_⟩
      rw [Nat.add_zero]
      by_cases low : key.toNat < size
      · rw [numbered, if_pos low, if_pos low, if_pos low]
      · rw [if_neg low, if_neg low]
  | succ count ih =>
      have grown := ih (by omega) fun more earlier => kept more (Nat.le_succ_of_le earlier)
      have one : max (size + count) (size + count + 1) = size + (count + 1) := by omega
      have next := grown.sight (Nat.le_refl _) (by omega)
        (by rw [one, update_numbered]; exact kept _ (Nat.le_refl _))
      rw [one, update_numbered] at next
      rw [newFrames, List.range_succ, List.map_append, List.map_singleton, List.foldl_concat]
      exact next

/-- Frame zero comes until the counter is about to wrap, then a table full of new frames, then
frame zero until it is about to wrap again, and then new frames only. -/
def wrappedCalls : List StageCall :=
  List.replicate (2 ^ 64 - 8192) (sighting 0) ++ newFrames 1 8191 ++
    (List.replicate (2 ^ 64 - 8191) (sighting 0) ++ newFrames 8192 11808)

def wrappedOrder : Nat → Nat :=
  numbered (2 ^ 65 - 8192) 8192
    (Function.update (numbered (2 ^ 64 - 8192) 1 fun _ => 2 ^ 64 - 8192) 0 (2 ^ 65 - 8192))

theorem wrappedOrder_fresh {more : Nat} (few : more ≤ 11809) :
    Fresh (2 ^ 65 - 8192 + more) (8192 + more) wrappedOrder := by
  intro frame low
  by_cases late : frame < 8192
  · by_cases zero : frame = 0
    · rw [wrappedOrder, numbered, if_pos late, zero, Function.update_self]
      omega
    · rw [wrappedOrder, numbered, if_pos late, Function.update_of_ne zero, numbered,
        if_neg (by omega)]
      omega
  · rw [wrappedOrder, numbered, if_neg late]
    omega

theorem watched_wrappedCalls (config : TimingMarks.Config) :
    Watched (run config wrappedCalls) (2 ^ 65 + 3616) 20000 wrappedOrder := by
  have started := (watched_initialized config fun _ => 2 ^ 64 - 8192).again (Nat.zero_le _)
    (by decide : 0 < 2 ^ 64 - 8192)
  rw [Nat.zero_add, Function.update_eq_self_iff.mpr rfl] at started
  have filled := started.grow (by decide : 1 + 8191 ≤ 20000) fun more few => .inl (by omega)
  have again := filled.again (by decide) (by decide : 0 < 2 ^ 64 - 8191)
  have grown := again.grow (by decide : 8192 + 11808 ≤ 20000) fun more few =>
    .inr (wrappedOrder_fresh (few.trans (by decide)))
  rw [run, wrappedCalls, List.foldl_append, List.foldl_append, List.foldl_append]
  exact grown

theorem wrappedCalls_unbounded :
    ¬(run ⟨0, "out", 1, false⟩ wrappedCalls).orders.Nodup ∧
      8193 < (run ⟨0, "out", 1, false⟩ wrappedCalls).frameTimings.entries.length ∧
      .cleared ∈ (run ⟨0, "out", 1, false⟩ (wrappedCalls ++ [sighting 20000])).trace := by
  have watched := watched_wrappedCalls ⟨0, "out", 1, false⟩
  have entry (frame : Nat) (low : frame < 20000) :
      ⟨UInt64.ofNat frame, seen (UInt64.ofNat (wrappedOrder frame))⟩ ∈
        (run ⟨0, "out", 1, false⟩ wrappedCalls).frameTimings.entries := by
    have number : (UInt64.ofNat frame).toNat = frame :=
      UInt64.toNat_ofNat_of_lt' (low.trans (by decide))
    rw [← AList.mem_lookup_iff, Option.mem_def, watched.lookup_eq, number, if_pos low]
  refine ⟨fun distinct => ?_, by rw [watched.length]; decide, ?_⟩
  · have same := List.inj_on_of_nodup_map distinct (entry 1 (by decide)) (entry 8192 (by decide))
      (by decide)
    exact absurd (congrArg Sigma.fst same) (by decide)
  · have sighted := watched.sighted (Nat.le_refl 20000) (by decide)
    have order : Function.update wrappedOrder 20000 (2 ^ 65 + 3616 + 1) = wrappedOrder :=
      update_numbered (2 ^ 65 - 8192) 8192 11808 _
    rw [run_concat, recordStageTimestamp_sighting fun _ found => ⟨_, (watched.of_lookup found).2⟩]
    apply pruneIfNeeded_clears
    · rw [sighted.length]
      decide
    · apply sighted.erase_eq
      rw [order]
      exact wrappedOrder_fresh (Nat.le_refl 11809)

end Wrapped

end LatencyRecorder

end Iq9Pipeline.MultiCam.Latency
