import Iq9Pipeline.RuleProcess.AlertHistory
import Iq9Pipeline.RuleProcess.DedupKeys
import Iq9Pipeline.RuleProcess.LeftItemTimer
import Iq9Pipeline.RuleProcess.Routing

/-!
The left-item rule behind the alert manager. The rule latches an item when it proposes
the alert, and the manager decides afterwards whether the alert is emitted: a proposal
that falls into the cooldown is lost for the whole stretch.
-/

namespace Iq9Pipeline.RuleProcess

namespace AlertManager

variable {cooldownUs now : UInt64} {log alerts : List Alert} {key : String}

/-- One call's alerts share their timestamp, so that a key is emitted when one of them
has it and no alert of the log blocks it. -/
theorem exists_referenceAlerts_iff (stamped : ∀ alert ∈ alerts, alert.timestamp = now)
    (past : ∀ alert ∈ log, alert.timestamp ≤ now) :
    (∃ alert ∈ referenceAlerts cooldownUs log alerts, alert.dedupKey = key) ↔
      (∃ alert ∈ alerts, alert.dedupKey = key) ∧ ∀ earlier ∈ log, earlier.dedupKey = key →
        earlier.timestamp.toNat + cooldownUs.toNat ≤ now.toNat := by
  induction alerts generalizing log with
  | nil => simp [referenceAlerts]
  | cons alert alerts ih =>
      rw [List.forall_mem_cons] at stamped
      have blocked : coolsDown cooldownUs log alert = true ↔ ∃ earlier ∈ log,
          earlier.dedupKey = alert.dedupKey ∧
            ¬ earlier.timestamp.toNat + cooldownUs.toNat ≤ now.toNat := by
        simp only [coolsDown, List.any_eq_true, decide_eq_true_eq, stamped.1, Nat.not_le]
        constructor
        · rintro ⟨earlier, member, same, _, recent⟩
          exact ⟨earlier, member, same, recent⟩
        · rintro ⟨earlier, member, same, recent⟩
          exact ⟨earlier, member, same, past earlier member, recent⟩
      rw [referenceAlerts]
      split
      · rename_i cools
        rw [ih stamped.2 past]
        obtain ⟨earlier, member, same, recent⟩ := blocked.mp cools
        constructor
        · rintro ⟨⟨other, listed, named⟩, rested⟩
          exact ⟨⟨other, List.mem_cons_of_mem _ listed, named⟩, rested⟩
        · rintro ⟨⟨other, listed, named⟩, rested⟩
          refine ⟨?_, rested⟩
          rcases List.mem_cons.mp listed with rfl | later
          · exact absurd (rested earlier member (same.trans named)) recent
          · exact ⟨other, later, named⟩
      · rename_i free
        have unblocked := mt blocked.mpr free
        simp only [not_exists, not_and, not_not] at unblocked
        have later : ∀ earlier ∈ log ++ [alert], earlier.timestamp ≤ now := by
          rw [List.forall_mem_append]
          exact ⟨past, by simp [stamped.1]⟩
        simp only [List.mem_cons, exists_eq_or_imp, ih stamped.2 later]
        by_cases named : alert.dedupKey = key
        · simp only [named, true_or, true_and, true_iff]
          rw [← named]
          exact unblocked
        · simp [named, or_imp, forall_and]

theorem mem_of_mem_referenceAlerts {alert : Alert}
    (member : alert ∈ referenceAlerts cooldownUs log alerts) : alert ∈ alerts := by
  induction alerts generalizing log with
  | nil => simp [referenceAlerts] at member
  | cons first alerts ih =>
      rw [referenceAlerts] at member
      split at member
      · exact List.mem_cons_of_mem _ (ih member)
      · rcases List.mem_cons.mp member with rfl | later
        · exact List.mem_cons_self
        · exact List.mem_cons_of_mem _ (ih later)

theorem Simulates.processAlerts {manager : AlertManager} {clock : Nat}
    {byPriority : StdSort Alert.rank} {byAge : StdSort Entry.rank} {rawAlerts : List Alert}
    (simulates : Simulates manager clock log) (later : clock ≤ now.toNat)
    (stamped : ∀ alert ∈ rawAlerts, alert.timestamp = now)
    (spared : (manager.processAlerts byPriority byAge rawAlerts).evicted = []) :
    let outcome := manager.processAlerts byPriority byAge rawAlerts
    outcome.finalAlerts = referenceAlerts manager.cooldownUs log (byPriority.sort rawAlerts) ∧
      outcome.manager.cooldownUs = manager.cooldownUs ∧
      Simulates outcome.manager now.toNat (log ++ outcome.finalAlerts) := by
  have sorted : ∀ alert ∈ byPriority.sort rawAlerts, alert.timestamp = now :=
    fun alert member => stamped alert ((byPriority.perm rawAlerts).mem_iff.mp member)
  have cleans := processAlerts_cleans byPriority byAge manager rawAlerts
  rw [processAlerts_filtered, spared] at cleans
  have cooldown := manager.filterAlerts_cooldownUs 0 (byPriority.sort rawAlerts)
  obtain ⟨emitted, filtered⟩ := simulates.filterAlerts 0 (byPriority.sort rawAlerts)
    (fun alert member => by rw [sorted alert member]; exact later)
    (List.pairwise_of_forall_mem_list fun first inFirst second inSecond => by
      rw [sorted first inFirst, sorted second inSecond]
      exact UInt64.le_refl _)
  refine ⟨emitted, cleans.cooldownUs.trans cooldown, ?_⟩
  have ended : clockAfter clock (byPriority.sort rawAlerts) ≤ now.toNat :=
    le_clockAfter later fun alert member => by rw [sorted alert member]
  refine (filtered.advance ended).cleanup cleans ?_ (by simp)
  rw [filterAlerts_currentTimeUs, UInt64.toNat_zero]
  exact Nat.le_trans (clockAfter_zero_le clock _) ended

end AlertManager

variable {Number : Type}

namespace LeftItemRule

def itemKey (rule : LeftItemRule Number) (source : String) (trackId : Int32) : String :=
  (Incident.ofItem source trackId).dedupKey rule.name

/-- The calls that an event of the source makes: one for each time the rule lists it. -/
def turns (rule : LeftItemRule Number) (source : String) (event : RuleEvent Number) :
    List (RuleEvent Number) :=
  List.replicate (rule.targetSources.count source) event

theorem turns_eq_cons (rule : LeftItemRule Number) {source : String}
    (listed : source ∈ rule.targetSources) (event : RuleEvent Number) :
    ∃ more, rule.turns source event = event :: more := by
  have positive := List.count_pos_iff.mpr listed
  obtain ⟨count, counted⟩ := Nat.exists_eq_succ_of_ne_zero (Nat.ne_of_gt positive)
  exact ⟨List.replicate count event, by rw [turns, counted, List.replicate_succ]⟩

theorem turns_positive {rule : LeftItemRule Number} {source : String}
    {events : List (RuleEvent Number)} (positive : ∀ event ∈ events, event.timestamp ≠ 0) :
    ∀ event ∈ events.flatMap (rule.turns source), event.timestamp ≠ 0 := by
  intro event member
  obtain ⟨own, inEvents, turn⟩ := List.mem_flatMap.mp member
  rw [turns, List.mem_replicate] at turn
  rw [turn.2]
  exact positive own inEvents

theorem turns_ordered {rule : LeftItemRule Number} {source : String}
    {events : List (RuleEvent Number)}
    (ordered : events.Pairwise fun first second => first.timestamp ≤ second.timestamp) :
    (events.flatMap (rule.turns source)).Pairwise fun first second =>
      first.timestamp ≤ second.timestamp := by
  rw [List.pairwise_flatMap]
  refine ⟨?_, ordered.imp ?_⟩
  · intro event _
    exact List.pairwise_replicate.mpr (.inr (UInt64.le_refl _))
  · intro first second before own inFirst other inSecond
    rw [turns, List.mem_replicate] at inFirst inSecond
    rw [inFirst.2, inSecond.2]
    exact before

theorem itemKey_inj (rule : LeftItemRule Number) {source : String} {first second : Int32} :
    rule.itemKey source first = rule.itemKey source second ↔ first = second := by
  constructor
  · intro same
    have incidents := RuleInstance.Concerns.dedupKey_inj
      (RuleInstance.concerns_ofItem rule {} source first)
      (RuleInstance.concerns_ofItem rule {} source second) same
    simp only [Incident.ofItem] at incidents
    split at incidents <;> split at incidents <;> simp_all
  · rintro rfl
    rfl

variable [Scalar Number]

theorem eq_itemAlert_of_apply {rule : LeftItemRule Number} {state : LeftItemState Number}
    {event : RuleEvent Number} {alert : Alert} (member : alert ∈ (rule.apply state event).1) :
    alert = rule.itemAlert event alert.trackId := by
  obtain ⟨trackId, item, _, raised⟩ := rule.mem_apply _ _ |>.mp member
  have built := rule.eq_itemAlert_of_decision raised
  rw [built, itemAlert_trackId]

theorem visits_map_event (rule : LeftItemRule Number) (state : LeftItemState Number)
    (events : List (RuleEvent Number)) : (rule.visits state events).map Visit.event = events := by
  induction events generalizing state with
  | nil => rfl
  | cons event events ih => rw [visits, List.map_cons, ih]

theorem event_of_mem_visits {rule : LeftItemRule Number} {state : LeftItemState Number}
    {events : List (RuleEvent Number)} {visit : Visit Number}
    (member : visit ∈ rule.visits state events) : visit.event ∈ events := by
  have mapped := List.mem_map_of_mem (f := Visit.event) member
  rwa [visits_map_event] at mapped

theorem applyRoute_turns (rule : LeftItemRule Number) (state : LeftItemState Number)
    (event : RuleEvent Number) (count : Nat) :
    Dispatcher.applyRoute event (List.replicate count 0) [.leftItem rule state] =
      ((rule.visits state (List.replicate count event)).map fun visit =>
          (0, (rule.apply visit.state visit.event).1),
        [.leftItem rule (rule.after state (List.replicate count event))]) := by
  induction count generalizing state with
  | zero => rfl
  | succ count ih =>
      simp only [List.replicate_succ, Dispatcher.applyRoute, List.getElem?_cons_zero,
        RuleInstance.apply, List.set_cons_zero, ih, visits, after, List.map_cons,
        List.foldl_cons]

end LeftItemRule

namespace RuleEngine

structure Watches (rule : LeftItemRule Number) (source : String) (cooldownUs : UInt64)
    (engine : RuleEngine Number) (state : LeftItemState Number) (now : UInt64)
    (log : List Alert) : Prop where
  rules : engine.rules = [.leftItem rule state]
  routes : engine.routes source = List.replicate (rule.targetSources.count source) 0
  cooldown : engine.alertManager.cooldownUs = cooldownUs
  simulates : AlertManager.Simulates engine.alertManager now.toNat log
  keyed : ∀ alert ∈ log, alert.dedupKey = rule.itemKey source alert.trackId

theorem trackId_iff_dedupKey {rule : LeftItemRule Number} {source : String} {alerts : List Alert}
    (keyed : ∀ alert ∈ alerts, alert.dedupKey = rule.itemKey source alert.trackId)
    (trackId : Int32) :
    (∃ alert ∈ alerts, alert.trackId = trackId) ↔
      ∃ alert ∈ alerts, alert.dedupKey = rule.itemKey source trackId := by
  refine exists_congr fun alert => and_congr_right fun member => ?_
  rw [keyed alert member, rule.itemKey_inj]

variable [Scalar Number]

def emitted (byPriority : StdSort Alert.rank) (byAge : StdSort Entry.rank)
    (engine : RuleEngine Number) : List (RuleEvent Number) → List Alert
  | [] => []
  | event :: events =>
      let processed := engine.processEvent byPriority byAge event
      processed.1 ++ processed.2.emitted byPriority byAge events

def EvictsNothing (byPriority : StdSort Alert.rank) (byAge : StdSort Entry.rank)
    (engine : RuleEngine Number) : List (RuleEvent Number) → Prop
  | [] => True
  | event :: events =>
      (engine.alertManager.processAlerts byPriority byAge (engine.candidates event)).evicted = [] ∧
        (engine.processEvent byPriority byAge event).2.EvictsNothing byPriority byAge events

namespace Watches

variable {rule : LeftItemRule Number} {source : String} {cooldownUs now : UInt64}
  {engine : RuleEngine Number} {state : LeftItemState Number} {log : List Alert}
  {byPriority : StdSort Alert.rank} {byAge : StdSort Entry.rank} {event : RuleEvent Number}

theorem applied (watches : Watches rule source cooldownUs engine state now log)
    (ofSource : event.sourceId = source) :
    engine.candidates event = (rule.visits state (rule.turns source event)).flatMap
        (fun visit => (rule.apply visit.state visit.event).1) ∧
      (engine.applied event).2 = [.leftItem rule (rule.after state (rule.turns source event))] := by
  simp only [candidates, RuleEngine.applied, ofSource, watches.routes, watches.rules,
    LeftItemRule.applyRoute_turns, LeftItemRule.turns, List.map_map, List.flatMap, and_true]
  rfl

theorem candidate (watches : Watches rule source cooldownUs engine state now log)
    (ofSource : event.sourceId = source) {alert : Alert}
    (member : alert ∈ engine.candidates event) :
    alert.timestamp = event.timestamp ∧ alert.dedupKey = rule.itemKey source alert.trackId := by
  rw [(watches.applied ofSource).1, List.mem_flatMap] at member
  obtain ⟨visit, visited, raised⟩ := member
  have turn := LeftItemRule.event_of_mem_visits visited
  rw [LeftItemRule.turns, List.mem_replicate] at turn
  rw [LeftItemRule.eq_itemAlert_of_apply raised, LeftItemRule.itemAlert_timestamp,
    LeftItemRule.itemAlert_dedupKey, LeftItemRule.itemAlert_trackId, turn.2, ofSource]
  exact ⟨rfl, rfl⟩

theorem exists_candidate_iff (watches : Watches rule source cooldownUs engine state now log)
    (ofSource : event.sourceId = source) (trackId : Int32) :
    (∃ alert ∈ engine.candidates event, alert.trackId = trackId) ↔
      ∃ visit ∈ rule.visits state (rule.turns source event), rule.raises trackId visit = true := by
  simp only [(watches.applied ofSource).1, List.mem_flatMap, LeftItemRule.raises,
    List.any_eq_true, decide_eq_true_eq]
  constructor
  · rintro ⟨alert, ⟨visit, visited, raised⟩, named⟩
    exact ⟨visit, visited, alert, raised, named⟩
  · rintro ⟨visit, visited, alert, raised, named⟩
    exact ⟨alert, ⟨visit, visited, raised⟩, named⟩

theorem step (watches : Watches rule source cooldownUs engine state now log)
    (ofSource : event.sourceId = source) (later : now ≤ event.timestamp)
    (spared : (engine.alertManager.processAlerts byPriority byAge
      (engine.candidates event)).evicted = []) :
    Watches rule source cooldownUs (engine.processEvent byPriority byAge event).2
        (rule.after state (rule.turns source event)) event.timestamp
        (log ++ (engine.processEvent byPriority byAge event).1) ∧
      ∀ trackId, (∃ alert ∈ (engine.processEvent byPriority byAge event).1,
          alert.trackId = trackId) ↔
        (∃ visit ∈ rule.visits state (rule.turns source event),
            rule.raises trackId visit = true) ∧
          ∀ earlier ∈ log, earlier.trackId = trackId →
            earlier.timestamp.toNat + cooldownUs.toNat ≤ event.timestamp.toNat := by
  obtain ⟨emitted, cooldown, simulates⟩ := watches.simulates.processAlerts
    (UInt64.le_iff_toNat_le.mp later)
    (fun alert member => (watches.candidate ofSource member).1) spared
  have sorted : ∀ alert ∈ byPriority.sort (engine.candidates event),
      alert ∈ engine.candidates event :=
    fun alert member => (byPriority.perm _).mem_iff.mp member
  have keyed : ∀ alert ∈ (engine.processEvent byPriority byAge event).1,
      alert.dedupKey = rule.itemKey source alert.trackId := by
    intro alert member
    rw [processEvent, emitted] at member
    exact (watches.candidate ofSource
      (sorted alert (AlertManager.mem_of_mem_referenceAlerts member))).2
  refine ⟨⟨(watches.applied ofSource).2, watches.routes, cooldown.trans watches.cooldown,
    simulates, ?_⟩, ?_⟩
  · rw [List.forall_mem_append]
    exact ⟨watches.keyed, keyed⟩
  · intro trackId
    have past : ∀ earlier ∈ log, earlier.timestamp ≤ event.timestamp := by
      intro earlier member
      have before := watches.simulates.past earlier member
      exact UInt64.le_trans (UInt64.le_iff_toNat_le.mpr before) later
    have listed : (∃ alert ∈ byPriority.sort (engine.candidates event),
        alert.dedupKey = rule.itemKey source trackId) ↔
          ∃ alert ∈ engine.candidates event, alert.dedupKey = rule.itemKey source trackId :=
      exists_congr fun alert => and_congr_left fun _ => (byPriority.perm _).mem_iff
    rw [trackId_iff_dedupKey keyed, processEvent, emitted, watches.cooldown,
      AlertManager.exists_referenceAlerts_iff
        (fun alert member => (watches.candidate ofSource (sorted alert member)).1) past,
      listed, ← trackId_iff_dedupKey fun alert member => (watches.candidate ofSource member).2,
      watches.exists_candidate_iff ofSource]
    refine and_congr_right fun _ => forall_congr' fun earlier => forall_congr' fun member => ?_
    rw [watches.keyed earlier member, rule.itemKey_inj]

theorem mem_raisedAt_turns {trackId : Int32} {due : UInt64} :
    due ∈ rule.raisedAt trackId (rule.visits state (rule.turns source event)) ↔
      (∃ visit ∈ rule.visits state (rule.turns source event),
        rule.raises trackId visit = true) ∧ due = event.timestamp := by
  have turn : ∀ visit ∈ rule.visits state (rule.turns source event), visit.event = event := by
    intro visit visited
    have member := LeftItemRule.event_of_mem_visits visited
    rw [LeftItemRule.turns, List.mem_replicate] at member
    exact member.2
  simp only [LeftItemRule.raisedAt, List.mem_map, List.mem_filter]
  constructor
  · rintro ⟨visit, ⟨visited, raised⟩, rfl⟩
    exact ⟨⟨visit, visited, raised⟩, by rw [turn visit visited]⟩
  · rintro ⟨⟨visit, visited, raised⟩, rfl⟩
    exact ⟨visit, ⟨visited, raised⟩, by rw [turn visit visited]⟩

/-- Over a run of calls, an item's alert is emitted when it is proposed at a time at
which no alert of the log for it is still cooling down. -/
theorem emitted_iff (watches : Watches rule source cooldownUs engine state now log)
    {events : List (RuleEvent Number)} (ofSource : ∀ event ∈ events, event.sourceId = source)
    (ordered : events.Pairwise fun first second => first.timestamp ≤ second.timestamp)
    (later : ∀ event ∈ events, now ≤ event.timestamp)
    (spared : engine.EvictsNothing byPriority byAge events) (trackId : Int32) :
    (∃ alert ∈ engine.emitted byPriority byAge events, alert.trackId = trackId) ↔
      ∃ due ∈ rule.raisedAt trackId (rule.visits state (events.flatMap (rule.turns source))),
        ∀ earlier ∈ log, earlier.trackId = trackId →
          earlier.timestamp.toNat + cooldownUs.toNat ≤ due.toNat := by
  induction events generalizing engine state now log with
  | nil => simp [RuleEngine.emitted, LeftItemRule.visits, LeftItemRule.raisedAt]
  | cons event events ih =>
      rw [List.forall_mem_cons] at ofSource later
      rw [List.pairwise_cons] at ordered
      obtain ⟨next, now_iff⟩ := watches.step ofSource.1 later.1 spared.1
      have rest := ih next ofSource.2 ordered.2 ordered.1 spared.2
      have split : rule.raisedAt trackId
          (rule.visits state ((event :: events).flatMap (rule.turns source))) =
            rule.raisedAt trackId (rule.visits state (rule.turns source event)) ++
              rule.raisedAt trackId (rule.visits (rule.after state (rule.turns source event))
                (events.flatMap (rule.turns source))) := by
        rw [List.flatMap_cons, LeftItemRule.visits_append, LeftItemRule.raisedAt,
          List.filter_append, List.map_append]
        rfl
      simp only [RuleEngine.emitted, split, List.mem_append, or_and_right, exists_or, rest,
        mem_raisedAt_turns]
      by_cases raised : ∃ alert ∈ (engine.processEvent byPriority byAge event).1,
          alert.trackId = trackId
      · obtain ⟨proposed, rested⟩ := (now_iff trackId).mp raised
        simp only [raised, true_or, true_iff]
        exact .inl ⟨event.timestamp, ⟨proposed, rfl⟩, rested⟩
      · have silent := mt (now_iff trackId).mpr raised
        have others : ∀ due : UInt64, (∀ earlier ∈ log ++ (engine.processEvent byPriority byAge
            event).1, earlier.trackId = trackId →
              earlier.timestamp.toNat + cooldownUs.toNat ≤ due.toNat) ↔
            ∀ earlier ∈ log, earlier.trackId = trackId →
              earlier.timestamp.toNat + cooldownUs.toNat ≤ due.toNat := by
          intro due
          rw [List.forall_mem_append, and_iff_left_iff_imp]
          intro _ earlier member named
          exact absurd ⟨earlier, member, named⟩ raised
        simp only [raised, false_or, ← List.mem_append, others]
        constructor
        · exact .inr
        · rintro (⟨due, ⟨proposed, rfl⟩, rested⟩ | later)
          · exact absurd ⟨proposed, rested⟩ silent
          · exact later

theorem run (watches : Watches rule source cooldownUs engine state now log)
    {events : List (RuleEvent Number)} (ofSource : ∀ event ∈ events, event.sourceId = source)
    (ordered : events.Pairwise fun first second => first.timestamp ≤ second.timestamp)
    (later : ∀ event ∈ events, now ≤ event.timestamp)
    (spared : engine.EvictsNothing byPriority byAge events) :
    ∃ ended, Watches rule source cooldownUs (engine.after byPriority byAge events)
        (rule.after state (events.flatMap (rule.turns source))) ended
        (log ++ engine.emitted byPriority byAge events) ∧
      (ended = now ∨ ∃ event ∈ events, ended = event.timestamp) := by
  induction events generalizing engine state now log with
  | nil => exact ⟨now, by simpa [RuleEngine.after, LeftItemRule.after, RuleEngine.emitted]
      using watches, .inl rfl⟩
  | cons event events ih =>
      rw [List.forall_mem_cons] at ofSource later
      rw [List.pairwise_cons] at ordered
      obtain ⟨next, _⟩ := watches.step ofSource.1 later.1 spared.1
      obtain ⟨ended, watched, when⟩ := ih next ofSource.2 ordered.2 ordered.1 spared.2
      refine ⟨ended, ?_, ?_⟩
      · simpa [RuleEngine.after, LeftItemRule.after, RuleEngine.emitted] using watched
      · rcases when with rfl | ⟨last, member, rfl⟩
        · exact .inr ⟨event, List.mem_cons_self, rfl⟩
        · exact .inr ⟨last, List.mem_cons_of_mem _ member, rfl⟩

theorem create {files : String → FaceFile} {alertParams : AlertManagerParams}
    {config : RuleConfig Number} {rule : LeftItemRule Number}
    (accepted : acceptRule files config = some (.leftItem rule {})) (source : String) :
    Watches rule source (AlertManager.init alertParams).cooldownUs
      (RuleEngine.create files alertParams [config]) {} 0 [] where
  rules := by simp [RuleEngine.create, accepted]
  routes := by
    simp [RuleEngine.create, accepted, Dispatcher.routes_eq, Dispatcher.routeFrom,
      RuleInstance.targetSources, RuleInstance.config]
  cooldown := rfl
  simulates := by
    refine ⟨by simp, ?_, by simp [Foundation.Covers]⟩
    intro key last found
    simp [RuleEngine.create, AlertManager.memory_init] at found
  keyed := by simp

theorem emitted_iff_runsOut (watches : Watches rule source cooldownUs engine state now log)
    (grace : rule.gracePeriodUs ≠ 0) (listed : source ∈ rule.targetSources)
    {first : RuleEvent Number} {rest : List (RuleEvent Number)}
    (ofSource : ∀ event ∈ first :: rest, event.sourceId = source)
    (positive : ∀ event ∈ first :: rest, event.timestamp ≠ 0)
    (ordered : (first :: rest).Pairwise fun first second => first.timestamp ≤ second.timestamp)
    (later : ∀ event ∈ first :: rest, now ≤ event.timestamp)
    (spared : engine.EvictsNothing byPriority byAge (first :: rest)) {trackId : Int32}
    (fresh : state.timer trackId = {})
    (unowned : ∀ visit ∈ rule.visits state ((first :: rest).flatMap (rule.turns source)),
      rule.Unowned trackId visit) :
    (∃ alert ∈ engine.emitted byPriority byAge (first :: rest), alert.trackId = trackId) ↔
      ∃ due ∈ runsOut rule.gracePeriodUs (some first.timestamp) (rule.calls trackId
          (rule.visits state ((first :: rest).flatMap (rule.turns source)))),
        ∀ alert ∈ log, alert.trackId = trackId →
          alert.timestamp.toNat + cooldownUs.toNat ≤ due.toNat := by
  obtain ⟨more, turns⟩ := rule.turns_eq_cons listed first
  have calls : (first :: rest).flatMap (rule.turns source) =
      first :: (more ++ rest.flatMap (rule.turns source)) := by
    rw [List.flatMap_cons, turns, List.cons_append]
  have positives : ∀ event ∈ (first :: rest).flatMap (rule.turns source), event.timestamp ≠ 0 :=
    LeftItemRule.turns_positive positive
  have inOrder : ((first :: rest).flatMap (rule.turns source)).Pairwise fun first second =>
      first.timestamp ≤ second.timestamp := LeftItemRule.turns_ordered ordered
  rw [watches.emitted_iff ofSource ordered later spared]
  rw [calls] at unowned positives inOrder ⊢
  rw [LeftItemRule.raisedAt_of_fresh grace fresh unowned positives inOrder]

end Watches

theorem evictsNothing_append {byPriority : StdSort Alert.rank} {byAge : StdSort Entry.rank}
    {engine : RuleEngine Number} {events more : List (RuleEvent Number)} :
    engine.EvictsNothing byPriority byAge (events ++ more) ↔
      engine.EvictsNothing byPriority byAge events ∧
        (engine.after byPriority byAge events).EvictsNothing byPriority byAge more := by
  induction events generalizing engine with
  | nil => simp [EvictsNothing, RuleEngine.after]
  | cons event events ih => simp [EvictsNothing, ih, RuleEngine.after, and_assoc]

theorem Watches.reach {files : String → FaceFile} {alertParams : AlertManagerParams}
    {config : RuleConfig Number} {rule : LeftItemRule Number}
    (accepted : acceptRule files config = some (.leftItem rule {}))
    {byPriority : StdSort Alert.rank} {byAge : StdSort Entry.rank} {source : String}
    {earlier more : List (RuleEvent Number)}
    (ofSource : ∀ event ∈ earlier, event.sourceId = source)
    (ordered : (earlier ++ more).Pairwise fun first second =>
      first.timestamp ≤ second.timestamp)
    (spared : (RuleEngine.create files alertParams [config]).EvictsNothing byPriority byAge
      (earlier ++ more)) :
    let engine := RuleEngine.create files alertParams [config]
    ∃ now, Watches rule source (AlertManager.init alertParams).cooldownUs
        (engine.after byPriority byAge earlier)
        (rule.after {} (earlier.flatMap (rule.turns source))) now
        (engine.emitted byPriority byAge earlier) ∧
      ∀ event ∈ more, now ≤ event.timestamp := by
  rw [List.pairwise_append] at ordered
  rw [evictsNothing_append] at spared
  obtain ⟨now, watches, when⟩ := (Watches.create accepted source).run ofSource ordered.1
    (fun _ _ => UInt64.zero_le) spared.1
  refine ⟨now, watches, ?_⟩
  intro event member
  rcases when with rfl | ⟨last, inEarlier, rfl⟩
  · exact UInt64.zero_le
  · exact ordered.2.2 last inEarlier event member

structure UnownedStretch (rule : LeftItemRule Number) (source : String) (trackId : Int32)
    (earlier stretch : List (RuleEvent Number)) : Prop where
  before : ∀ visit ∈ (rule.visits {} (earlier.flatMap (rule.turns source))).getLast?,
    ¬ rule.Unowned trackId visit
  unowned : ∀ visit ∈ rule.visits (rule.after {} (earlier.flatMap (rule.turns source)))
    (stretch.flatMap (rule.turns source)), rule.Unowned trackId visit

/-- The times of a stretch at which its grace period runs out, counted from its first
event or from the last removal notice for the item. -/
def dueTimes (rule : LeftItemRule Number) (source : String) (trackId : Int32)
    (earlier : List (RuleEvent Number)) (first : RuleEvent Number)
    (rest : List (RuleEvent Number)) : List UInt64 :=
  runsOut rule.gracePeriodUs (some first.timestamp)
    (rule.calls trackId (rule.visits (rule.after {} (earlier.flatMap (rule.turns source)))
      ((first :: rest).flatMap (rule.turns source))))

/-- The alarm of an unowned stretch is emitted exactly where its grace period runs out at
a time at which every alert emitted for the item before is at least a cooldown old. -/
theorem emitted_iff_rested {files : String → FaceFile} {alertParams : AlertManagerParams}
    {config : RuleConfig Number} {rule : LeftItemRule Number}
    (accepted : acceptRule files config = some (.leftItem rule {}))
    (byPriority : StdSort Alert.rank) (byAge : StdSort Entry.rank) {source : String}
    (listed : source ∈ config.targetSources) {earlier rest : List (RuleEvent Number)}
    {first : RuleEvent Number}
    (ofSource : ∀ event ∈ earlier ++ first :: rest, event.sourceId = source)
    (positive : ∀ event ∈ earlier ++ first :: rest, event.timestamp ≠ 0)
    (ordered : (earlier ++ first :: rest).Pairwise fun first second =>
      first.timestamp ≤ second.timestamp)
    (spared : (create files alertParams [config]).EvictsNothing byPriority byAge
      (earlier ++ first :: rest))
    {trackId : Int32} (stretch : UnownedStretch rule source trackId earlier (first :: rest)) :
    let engine := create files alertParams [config]
    (∃ alert ∈ (engine.after byPriority byAge earlier).emitted byPriority byAge (first :: rest),
        alert.trackId = trackId) ↔
      ∃ due ∈ dueTimes rule source trackId earlier first rest,
        ∀ alert ∈ engine.emitted byPriority byAge earlier, alert.trackId = trackId →
          alert.timestamp.toNat + (AlertManager.init alertParams).cooldownUs.toNat ≤
            due.toNat := by
  intro engine
  rw [List.forall_mem_append] at ofSource positive
  obtain ⟨created, valid⟩ := acceptRule_eq_some_iff.mp accepted
  obtain ⟨now, watches, later⟩ := Watches.reach accepted ofSource.1 ordered spared
  have targets : rule.targetSources = config.targetSources :=
    congrArg RuleConfig.targetSources (createRule_config created)
  have fresh := LeftItemRule.timer_after_of_not_unowned (fun _ => rfl) stretch.before
  exact watches.emitted_iff_runsOut (LeftItemRule.gracePeriodUs_ne_zero valid)
    (targets ▸ listed) ofSource.2 positive.2 (List.pairwise_append.mp ordered).2.1 later
    (evictsNothing_append.mp spared).2 fresh stretch.unowned

theorem emitted_of_cooldown_le_gracePeriod {files : String → FaceFile}
    {alertParams : AlertManagerParams} {config : RuleConfig Number} {rule : LeftItemRule Number}
    (accepted : acceptRule files config = some (.leftItem rule {}))
    (short : (AlertManager.init alertParams).cooldownUs ≤ rule.gracePeriodUs)
    (byPriority : StdSort Alert.rank) (byAge : StdSort Entry.rank) {source : String}
    (listed : source ∈ config.targetSources) {earlier rest : List (RuleEvent Number)}
    {first : RuleEvent Number}
    (ofSource : ∀ event ∈ earlier ++ first :: rest, event.sourceId = source)
    (positive : ∀ event ∈ earlier ++ first :: rest, event.timestamp ≠ 0)
    (ordered : (earlier ++ first :: rest).Pairwise fun first second =>
      first.timestamp ≤ second.timestamp)
    (spared : (create files alertParams [config]).EvictsNothing byPriority byAge
      (earlier ++ first :: rest))
    {trackId : Int32} (stretch : UnownedStretch rule source trackId earlier (first :: rest))
    (kept : ∀ visit ∈ rule.visits (rule.after {} (earlier.flatMap (rule.turns source)))
      ((first :: rest).flatMap (rule.turns source)), rule.erases trackId visit = false)
    (long : ∃ last ∈ rest, first.timestamp.toNat + rule.gracePeriodUs.toNat ≤
      last.timestamp.toNat) :
    ∃ alert ∈ ((create files alertParams [config]).after byPriority byAge earlier).emitted
      byPriority byAge (first :: rest), alert.trackId = trackId := by
  rw [List.forall_mem_append] at ofSource positive
  obtain ⟨created, valid⟩ := acceptRule_eq_some_iff.mp accepted
  obtain ⟨now, watches, later⟩ := Watches.reach accepted ofSource.1 ordered spared
  have targets : rule.targetSources = config.targetSources :=
    congrArg RuleConfig.targetSources (createRule_config created)
  have fresh := LeftItemRule.timer_after_of_not_unowned (fun _ => rfl) stretch.before
  rw [watches.emitted_iff_runsOut (LeftItemRule.gracePeriodUs_ne_zero valid)
    (targets ▸ listed) ofSource.2 positive.2 (List.pairwise_append.mp ordered).2.1 later
    (evictsNothing_append.mp spared).2 fresh stretch.unowned]
  have unrestarted : ∀ call ∈ rule.calls trackId
      (rule.visits (rule.after {} (earlier.flatMap (rule.turns source)))
        ((first :: rest).flatMap (rule.turns source))), call.2 = false := by
    rw [LeftItemRule.calls, List.forall_mem_map]
    exact kept
  obtain ⟨due, runs, reached⟩ := exists_runsOut unrestarted (by
    obtain ⟨last, member, late⟩ := long
    obtain ⟨more, turns⟩ := rule.turns_eq_cons (targets ▸ listed) last
    have called : last ∈ (first :: rest).flatMap (rule.turns source) :=
      List.mem_flatMap.mpr ⟨last, List.mem_cons_of_mem _ member, by simp [turns]⟩
    have visited := rule.visits_map_event (rule.after {} (earlier.flatMap (rule.turns source)))
      ((first :: rest).flatMap (rule.turns source))
    rw [← visited, List.mem_map] at called
    obtain ⟨visit, inVisits, rfl⟩ := called
    exact ⟨_, List.mem_map_of_mem inVisits, late⟩)
  refine ⟨due, runs, fun alert emitted _ => ?_⟩
  have before := watches.simulates.past alert emitted
  have begun := UInt64.le_iff_toNat_le.mp (later first List.mem_cons_self)
  have bound := UInt64.le_iff_toNat_le.mp short
  omega

def bagWatch : RuleConfig Float32 where
  name := "LeftItemRule"
  priority := 1
  targetSources := ["source_001"]
  targetClasses := ["bag"]
  params := [("grace_period_sec", 1), ("item_owner_iou_threshold", 0.5)]
  strParams := []

theorem bagWatch_accepted : acceptRule (fun _ => .missing) bagWatch =
    some (.leftItem (LeftItemRule.ofConfig bagWatch) {}) :=
  acceptRule_eq_some_iff.mpr ⟨rfl, by decide +kernel⟩

def unattendedAt (timestamp : UInt64) : RuleEvent Float32 :=
  ⟨"source_001", timestamp, [], [⟨"bag", [0, 0, 0.4, 0.4], 7, 1, []⟩]⟩

def attendedAt (timestamp : UInt64) : RuleEvent Float32 :=
  ⟨"source_001", timestamp, [], [⟨"bag", [0, 0, 0.4, 0.4], 7, 1, []⟩,
    ⟨"person", [0, 0, 0.4, 0.4], 3, 1, []⟩]⟩

theorem emitted_iff_rested_late :
    let earlier := [unattendedAt 1000000, unattendedAt 2000000, attendedAt 2500000]
    let first := unattendedAt 7000000
    let rest := [unattendedAt 8000000, unattendedAt 13000000]
    let engine := create (fun _ => .missing) {} [bagWatch]
    (∃ alert ∈ (engine.after (.insertion _) (.insertion _) earlier).emitted (.insertion _)
        (.insertion _) (first :: rest), alert.trackId = 7) ↔
      ∃ due ∈ dueTimes (LeftItemRule.ofConfig bagWatch) "source_001" 7 earlier first rest,
        ∀ alert ∈ engine.emitted (.insertion _) (.insertion _) earlier, alert.trackId = 7 →
          alert.timestamp.toNat + (AlertManager.init {}).cooldownUs.toNat ≤ due.toNat := by
  intro earlier first rest engine
  have spared : engine.EvictsNothing (.insertion _) (.insertion _) (earlier ++ first :: rest) :=
    ⟨by decide +kernel, by decide +kernel, by decide +kernel, by decide +kernel,
      by decide +kernel, by decide +kernel, trivial⟩
  exact emitted_iff_rested bagWatch_accepted _ _ (by decide) (by decide +kernel)
    (by decide +kernel) (by decide +kernel) spared ⟨by decide +kernel, by decide +kernel⟩

/-- The owner comes back for a moment, so that the second alarm is due two seconds after
the first one. -/
theorem alarm_swallowed :
    ¬ ∀ (alertParams : AlertManagerParams) (config : RuleConfig Float32)
        (rule : LeftItemRule Float32) (source : String)
        (earlier : List (RuleEvent Float32)) (first last : RuleEvent Float32)
        (rest : List (RuleEvent Float32)) (trackId : Int32),
      0 ≤ alertParams.cooldownSeconds →
      acceptRule (fun _ => .missing) config = some (.leftItem rule {}) →
      source ∈ config.targetSources →
      (∀ event ∈ earlier ++ first :: rest ++ [last],
        event.sourceId = source ∧ event.timestamp ≠ 0) →
      ((earlier ++ first :: rest ++ [last]).Pairwise fun first second =>
        first.timestamp ≤ second.timestamp) →
      (create (fun _ => .missing) alertParams [config]).EvictsNothing (.insertion _)
        (.insertion _) (earlier ++ first :: rest ++ [last]) →
      UnownedStretch rule source trackId earlier (first :: rest ++ [last]) →
      first.timestamp.toNat + rule.gracePeriodUs.toNat +
          (AlertManager.init alertParams).cooldownUs.toNat ≤ last.timestamp.toNat →
        ∃ alert ∈ ((create (fun _ => .missing) alertParams [config]).after (.insertion _)
            (.insertion _) earlier).emitted (.insertion _) (.insertion _)
              (first :: rest ++ [last]), alert.trackId = trackId := by
  intro universal
  have raised := universal {} bagWatch (LeftItemRule.ofConfig bagWatch) "source_001"
    [unattendedAt 1000000, unattendedAt 2000000, attendedAt 2500000] (unattendedAt 3000000)
    (unattendedAt 10000000) [unattendedAt 4000000] 7 (by decide) bagWatch_accepted (by decide)
    (by decide +kernel) (by decide +kernel)
    ⟨by decide +kernel, by decide +kernel, by decide +kernel, by decide +kernel,
      by decide +kernel, by decide +kernel, trivial⟩
    ⟨by decide +kernel, by decide +kernel⟩ (by decide +kernel)
  revert raised
  decide +kernel

end RuleEngine

end Iq9Pipeline.RuleProcess
