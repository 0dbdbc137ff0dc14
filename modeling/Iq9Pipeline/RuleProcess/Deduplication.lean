import Iq9Pipeline.Foundation.Machine
import Iq9Pipeline.RuleProcess.DedupKeys
import Mathlib.Data.List.Perm.Basic

/-!
What deduplication merges. Every candidate alert of a run is kept with the rule
instance that proposed it and with what it is about, so that a dropped one can be
compared with the alert that stood in its way.
-/

namespace Iq9Pipeline.RuleProcess

open Foundation

structure Proposal where
  rule : Nat
  incident : Incident
  alert : Alert
deriving DecidableEq

namespace AlertManager

def sift (manager : AlertManager) : List Proposal → List Proposal × List Proposal
  | [] => ([], [])
  | proposal :: proposals =>
      if manager.isInCooldown proposal.alert.dedupKey proposal.alert.timestamp then
        let rest := sift manager proposals
        (rest.1, proposal :: rest.2)
      else
        let rest := sift
          (manager.updateCooldown proposal.alert.dedupKey proposal.alert.timestamp) proposals
        (proposal :: rest.1, rest.2)

theorem sift_emitted (manager : AlertManager) (currentTimeUs : UInt64)
    (proposals : List Proposal) :
    (manager.sift proposals).1.map Proposal.alert =
      (manager.filterAlerts currentTimeUs (proposals.map Proposal.alert)).finalAlerts := by
  induction proposals generalizing manager currentTimeUs with
  | nil => rfl
  | cons proposal proposals ih =>
      simp only [sift, List.map_cons, filterAlerts]
      split
      · exact ih manager _
      · simp only [List.map_cons, ih _ proposal.alert.timestamp]

theorem mem_of_mem_sift {manager : AlertManager} {proposals : List Proposal} {proposal : Proposal}
    (member : proposal ∈ (manager.sift proposals).1 ∨ proposal ∈ (manager.sift proposals).2) :
    proposal ∈ proposals := by
  induction proposals generalizing manager with
  | nil => simp [sift] at member
  | cons first proposals ih =>
      simp only [sift] at member
      split at member
      · simp only [List.mem_cons] at member ⊢
        rcases member with emitted | rfl | dropped
        · exact .inr (ih (.inl emitted))
        · exact .inl rfl
        · exact .inr (ih (.inr dropped))
      · simp only [List.mem_cons] at member ⊢
        rcases member with (rfl | emitted) | dropped
        · exact .inl rfl
        · exact .inr (ih (.inl emitted))
        · exact .inr (ih (.inr dropped))

def Remembers (manager : AlertManager) (log : List Proposal) : Prop :=
  ∀ key last, manager.memory key = some last →
    ∃ earlier ∈ log, earlier.alert.dedupKey = key ∧ earlier.alert.timestamp.toNat = last

def Blocks (cooldownUs : UInt64) (earlier later : Proposal) : Prop :=
  earlier.alert.dedupKey = later.alert.dedupKey ∧
    earlier.alert.timestamp ≤ later.alert.timestamp ∧
    later.alert.timestamp.toNat < earlier.alert.timestamp.toNat + cooldownUs.toNat

instance (cooldownUs : UInt64) (earlier later : Proposal) :
    Decidable (Blocks cooldownUs earlier later) :=
  inferInstanceAs (Decidable (_ ∧ _ ∧ _))

theorem Remembers.emit {manager : AlertManager} {log : List Proposal}
    (remembers : manager.Remembers log) (proposal : Proposal) :
    (manager.updateCooldown proposal.alert.dedupKey proposal.alert.timestamp).Remembers
      (log ++ [proposal]) := by
  intro key last found
  rw [memory_updateCooldown] at found
  by_cases same : key = proposal.alert.dedupKey
  · rw [same, Function.update_self, Option.some.injEq] at found
    exact ⟨proposal, by simp, same.symm, found⟩
  · rw [Function.update_of_ne same] at found
    obtain ⟨earlier, member, named⟩ := remembers key last found
    exact ⟨earlier, List.mem_append_left _ member, named⟩

theorem Remembers.blocked {manager : AlertManager} {log : List Proposal}
    (remembers : manager.Remembers log) {proposal : Proposal}
    (past : ∀ earlier ∈ log, earlier.alert.timestamp ≤ proposal.alert.timestamp)
    (cooling : manager.isInCooldown proposal.alert.dedupKey proposal.alert.timestamp = true) :
    ∃ earlier ∈ log, Blocks manager.cooldownUs earlier proposal := by
  have ordered : ∀ last, manager.memory proposal.alert.dedupKey = some last →
      last ≤ proposal.alert.timestamp.toNat := by
    intro last found
    obtain ⟨earlier, member, _, stamped⟩ := remembers _ last found
    have before := UInt64.le_iff_toNat_le.mp (past earlier member)
    omega
  have checked := (isInCooldown_eq_false_iff ordered).not
  rw [Bool.not_eq_false] at checked
  have blocked := checked.mp cooling
  simp only [not_forall] at blocked
  obtain ⟨last, found, recent⟩ := blocked
  obtain ⟨earlier, member, named, stamped⟩ := remembers _ last found
  exact ⟨earlier, member, named, past earlier member, by omega⟩

theorem Remembers.sift {manager : AlertManager} {log : List Proposal}
    (remembers : manager.Remembers log) {now : UInt64} (currentTimeUs : UInt64)
    {proposals : List Proposal} (stamped : ∀ proposal ∈ proposals, proposal.alert.timestamp = now)
    (past : ∀ earlier ∈ log, earlier.alert.timestamp ≤ now) :
    (manager.filterAlerts currentTimeUs (proposals.map Proposal.alert)).manager.Remembers
        (log ++ (manager.sift proposals).1) ∧
      ∀ dropped ∈ (manager.sift proposals).2,
        ∃ earlier ∈ log ++ (manager.sift proposals).1,
          Blocks manager.cooldownUs earlier dropped := by
  induction proposals generalizing manager log currentTimeUs with
  | nil => simpa [AlertManager.sift, filterAlerts] using remembers
  | cons proposal proposals ih =>
      rw [List.forall_mem_cons] at stamped
      simp only [AlertManager.sift, List.map_cons, filterAlerts]
      split
      · rename_i cooling
        obtain ⟨kept, blocked⟩ := ih remembers proposal.alert.timestamp stamped.2 past
        refine ⟨kept, ?_⟩
        rw [List.forall_mem_cons]
        refine ⟨?_, blocked⟩
        obtain ⟨earlier, member, blocks⟩ := remembers.blocked (by rw [stamped.1]; exact past)
          cooling
        exact ⟨earlier, List.mem_append_left _ member, blocks⟩
      · have later : ∀ earlier ∈ log ++ [proposal], earlier.alert.timestamp ≤ now := by
          rw [List.forall_mem_append]
          exact ⟨past, by simp [stamped.1]⟩
        have rest := ih (remembers.emit proposal) proposal.alert.timestamp stamped.2 later
        simp only [List.append_assoc, List.singleton_append] at rest
        exact rest

end AlertManager

variable {Number : Type}

def Proposal.GenuineIn (proposal : Proposal) (rules : List (RuleInstance Number)) : Prop :=
  ∃ rule, rules[proposal.rule]? = some rule ∧ rule.Concerns proposal.incident ∧
    proposal.alert.dedupKey = proposal.incident.dedupKey rule.config.name

theorem Proposal.GenuineIn.incident_eq {rules : List (RuleInstance Number)}
    {first second : Proposal} (genuine : first.GenuineIn rules) (genuine' : second.GenuineIn rules)
    (sameRule : first.rule = second.rule)
    (sameKey : first.alert.dedupKey = second.alert.dedupKey) :
    first.incident = second.incident := by
  obtain ⟨rule, found, concerns, key⟩ := genuine
  obtain ⟨rule', found', concerns', key'⟩ := genuine'
  rw [← sameRule, found, Option.some.injEq] at found'
  subst found'
  exact concerns.dedupKey_inj concerns' (key.symm.trans (sameKey.trans key'))

variable [Scalar Number]

namespace Dispatcher

def proposals (event : RuleEvent Number) :
    List Nat → List (RuleInstance Number) → List Proposal
  | [], _ => []
  | index :: route, rules =>
      match rules[index]? with
      | some rule =>
          ((rule.proposed event).map fun proposed => ⟨index, proposed.1, proposed.2⟩) ++
            proposals event route (rules.set index (rule.apply event).2)
      | none => proposals event route rules

theorem proposals_alerts (event : RuleEvent Number) (route : List Nat)
    (rules : List (RuleInstance Number)) :
    (proposals event route rules).map Proposal.alert =
      ((applyRoute event route rules).1.map Prod.snd).flatten := by
  induction route generalizing rules with
  | nil => rfl
  | cons index route ih =>
      cases found : rules[index]? with
      | none => simpa only [proposals, applyRoute, found] using ih rules
      | some rule =>
          simp only [proposals, applyRoute, found, List.map_append, List.map_map, List.map_cons,
            List.flatten_cons, ih, ← RuleInstance.proposed_alerts]
          rfl

theorem genuineIn_set_apply {event : RuleEvent Number} {rules : List (RuleInstance Number)}
    {index : Nat} {rule : RuleInstance Number} (found : rules[index]? = some rule)
    (proposal : Proposal) :
    proposal.GenuineIn (rules.set index (rule.apply event).2) ↔ proposal.GenuineIn rules := by
  by_cases same : index = proposal.rule
  · obtain ⟨inRange, there⟩ := List.getElem?_eq_some_iff.mp found
    simp [Proposal.GenuineIn, ← same, inRange, there, RuleInstance.apply_config,
      RuleInstance.Concerns.apply]
  · simp [Proposal.GenuineIn, List.getElem?_set_ne same]

theorem genuineIn_applyRoute (event : RuleEvent Number) (route : List Nat)
    (rules : List (RuleInstance Number)) (proposal : Proposal) :
    proposal.GenuineIn (applyRoute event route rules).2 ↔ proposal.GenuineIn rules := by
  induction route generalizing rules with
  | nil => rfl
  | cons index route ih =>
      rw [applyRoute]
      split
      · rename_i rule found
        exact (ih _).trans (genuineIn_set_apply found proposal)
      · exact ih rules

theorem proposals_genuine {event : RuleEvent Number} {route : List Nat}
    {rules : List (RuleInstance Number)} {proposal : Proposal}
    (member : proposal ∈ proposals event route rules) :
    proposal.GenuineIn rules ∧ proposal.alert.timestamp = event.timestamp := by
  induction route generalizing rules with
  | nil => simp [proposals] at member
  | cons index route ih =>
      rw [proposals] at member
      split at member
      · rename_i rule found
        rcases List.mem_append.mp member with own | later
        · obtain ⟨proposed, built, rfl⟩ := List.mem_map.mp own
          obtain ⟨concerns, key, stamped⟩ := RuleInstance.proposed_genuine built
          exact ⟨⟨rule, found, concerns, key⟩, stamped⟩
        · obtain ⟨genuine, stamped⟩ := ih later
          exact ⟨(genuineIn_set_apply found proposal).mp genuine, stamped⟩
      · exact ih member

end Dispatcher

namespace RuleEngine

def proposals (engine : RuleEngine Number) (event : RuleEvent Number) : List Proposal :=
  Dispatcher.proposals event (engine.routes event.sourceId) engine.rules

theorem proposals_alerts (engine : RuleEngine Number) (event : RuleEvent Number) :
    (engine.proposals event).map Proposal.alert = engine.candidates event :=
  Dispatcher.proposals_alerts event _ _

end RuleEngine

structure Docket (Number : Type) where
  engine : RuleEngine Number
  clock : UInt64
  log : List Proposal
  dropped : List Proposal

structure Hearing (Number : Type) where
  event : RuleEvent Number
  sorted : List Proposal

namespace Docket

variable {byPriority : StdSort Alert.rank} {byAge : StdSort Entry.rank}

/-- For every dropped candidate, the same rule instance has an alert for the same
incident among those emitted, less than the cooldown before. -/
def MergesRepeats (docket : Docket Number) : Prop :=
  ∀ dropped ∈ docket.dropped, ∃ emitted ∈ docket.log,
    emitted.rule = dropped.rule ∧ emitted.incident = dropped.incident ∧
      emitted.alert.timestamp ≤ dropped.alert.timestamp ∧
      dropped.alert.timestamp.toNat <
        emitted.alert.timestamp.toNat + docket.engine.alertManager.cooldownUs.toNat

/-- No candidate of the event has the dedup key of another rule instance's candidate of
the event, or of another rule instance's alert that is less than the cooldown old. -/
def Unshared (docket : Docket Number) (event : RuleEvent Number) : Prop :=
  ∀ proposal ∈ docket.engine.proposals event,
    ∀ other ∈ docket.log ++ docket.engine.proposals event,
      AlertManager.Blocks docket.engine.alertManager.cooldownUs other proposal →
        other.rule = proposal.rule

def inOrder (docket : Docket Number) (hearing : Hearing Number) : Prop :=
  docket.clock ≤ hearing.event.timestamp

def allowed (docket : Docket Number) (hearing : Hearing Number) : Prop :=
  docket.inOrder hearing ∧ docket.Unshared hearing.event

instance (docket : Docket Number) (hearing : Hearing Number) :
    Decidable (docket.inOrder hearing) :=
  inferInstanceAs (Decidable (_ ≤ _))

instance (docket : Docket Number) (hearing : Hearing Number) :
    Decidable (docket.allowed hearing) :=
  inferInstanceAs (Decidable (_ ∧ ∀ _ ∈ _, ∀ _ ∈ _, _ → _))

def step (byPriority : StdSort Alert.rank) (byAge : StdSort Entry.rank) (docket : Docket Number)
    (hearing : Hearing Number) : Option (Docket Number) :=
  let event := hearing.event
  if hearing.sorted.Perm (docket.engine.proposals event) ∧
      hearing.sorted.map Proposal.alert = byPriority.sort (docket.engine.candidates event) then
    let sifted := docket.engine.alertManager.sift hearing.sorted
    some {
      engine := (docket.engine.processEvent byPriority byAge event).2
      clock := event.timestamp
      log := docket.log ++ sifted.1
      dropped := sifted.2 }
  else none

def machine (files : String → FaceFile) (alertParams : AlertManagerParams)
    (configs : List (RuleConfig Number)) (byPriority : StdSort Alert.rank)
    (byAge : StdSort Entry.rank) : Machine (Docket Number) (Hearing Number) where
  start docket := docket =
    { engine := RuleEngine.create files alertParams configs, clock := 0, log := [], dropped := [] }
  step := step byPriority byAge

theorem step_emitted {docket next : Docket Number} {hearing : Hearing Number}
    (stepped : step byPriority byAge docket hearing = some next) :
    ∃ emitted, next.log = docket.log ++ emitted ∧ emitted.map Proposal.alert =
      (docket.engine.processEvent byPriority byAge hearing.event).1 := by
  simp only [step] at stepped
  split at stepped
  · rename_i arranged
    rw [← Option.some.inj stepped]
    refine ⟨_, rfl, ?_⟩
    rw [AlertManager.sift_emitted _ 0, arranged.2]
    rfl
  · simp at stepped

theorem exists_hearing (byPriority : StdSort Alert.rank) (byAge : StdSort Entry.rank)
    (docket : Docket Number) (event : RuleEvent Number) :
    ∃ sorted, (step byPriority byAge docket ⟨event, sorted⟩).isSome := by
  have perm := byPriority.perm (docket.engine.candidates event)
  have carried : List.Forall₂ (fun alert proposal => alert = Proposal.alert proposal)
      (docket.engine.candidates event) (docket.engine.proposals event) := by
    rw [← RuleEngine.proposals_alerts, List.forall₂_map_left_iff, List.forall₂_same]
    exact fun _ _ => rfl
  obtain ⟨sorted, same, arranged⟩ := List.perm_comp_forall₂ perm carried
  have alerts : sorted.map Proposal.alert =
      byPriority.sort (docket.engine.candidates event) := by
    rw [← List.forall₂_eq_eq_eq, List.forall₂_map_left_iff]
    exact same.flip.imp fun _ _ => Eq.symm
  exact ⟨sorted, by simp [step, arranged, alerts]⟩

structure Invariant (docket : Docket Number) : Prop where
  genuine : ∀ proposal ∈ docket.log, proposal.GenuineIn docket.engine.rules
  past : ∀ proposal ∈ docket.log, proposal.alert.timestamp ≤ docket.clock
  remembers : docket.engine.alertManager.Remembers docket.log
  merges : docket.MergesRepeats

theorem Invariant.step {docket next : Docket Number} {hearing : Hearing Number}
    (invariant : Invariant docket) (permitted : docket.allowed hearing)
    (stepped : step byPriority byAge docket hearing = some next) : Invariant next := by
  simp only [Docket.step] at stepped
  split at stepped
  · rename_i arranged
    obtain ⟨later, unshared⟩ := permitted
    obtain ⟨perm, sorted⟩ := arranged
    have own : ∀ proposal ∈ hearing.sorted,
        proposal ∈ docket.engine.proposals hearing.event :=
      fun proposal member => perm.mem_iff.mp member
    have genuine : ∀ proposal ∈ docket.log ++ docket.engine.proposals hearing.event,
        proposal.GenuineIn docket.engine.rules := by
      rw [List.forall_mem_append]
      exact ⟨invariant.genuine, fun proposal member =>
        (Dispatcher.proposals_genuine member).1⟩
    have stamped : ∀ proposal ∈ hearing.sorted,
        proposal.alert.timestamp = hearing.event.timestamp :=
      fun proposal member => (Dispatcher.proposals_genuine (own proposal member)).2
    have past : ∀ proposal ∈ docket.log, proposal.alert.timestamp ≤ hearing.event.timestamp :=
      fun proposal member => UInt64.le_trans (invariant.past proposal member) later
    obtain ⟨remembers, blocked⟩ := invariant.remembers.sift 0 stamped past
    have cleans := AlertManager.processAlerts_cleans byPriority byAge
      docket.engine.alertManager (docket.engine.candidates hearing.event)
    rw [AlertManager.processAlerts_filtered, ← sorted] at cleans
    have emitted : ∀ proposal ∈ (docket.engine.alertManager.sift hearing.sorted).1,
        proposal ∈ hearing.sorted := fun _ member => AlertManager.mem_of_mem_sift (.inl member)
    rw [← Option.some.inj stepped]
    refine ⟨?_, ?_, ?_, ?_⟩
    · intro proposal member
      refine (Dispatcher.genuineIn_applyRoute hearing.event _ _ proposal).mpr ?_
      rcases List.mem_append.mp member with old | new
      · exact invariant.genuine proposal old
      · exact genuine proposal (List.mem_append_right _ (own proposal (emitted proposal new)))
    · intro proposal member
      rcases List.mem_append.mp member with old | new
      · exact past proposal old
      · exact UInt64.le_of_eq (stamped proposal (emitted proposal new))
    · intro key last found
      exact remembers key last (cleans.kept key last found)
    · intro dropped member
      have proposed := own dropped (AlertManager.mem_of_mem_sift (.inr member))
      obtain ⟨earlier, listed, blocks⟩ := blocked dropped member
      have candidate : earlier ∈ docket.log ++ docket.engine.proposals hearing.event := by
        rcases List.mem_append.mp listed with old | new
        · exact List.mem_append_left _ old
        · exact List.mem_append_right _ (own earlier (emitted earlier new))
      have sameRule := unshared dropped proposed earlier candidate blocks
      have sameIncident := (genuine earlier candidate).incident_eq
        (genuine dropped (List.mem_append_right _ proposed)) sameRule blocks.1
      have cooldownUs := cleans.cooldownUs
      rw [AlertManager.filterAlerts_cooldownUs] at cooldownUs
      refine ⟨earlier, listed, sameRule, sameIncident, blocks.2.1, ?_⟩
      rw [RuleEngine.processEvent, cooldownUs]
      exact blocks.2.2
  · simp at stepped

theorem invariant_of_start {files : String → FaceFile} {alertParams : AlertManagerParams}
    {configs : List (RuleConfig Number)} {docket : Docket Number}
    (started : (machine files alertParams configs byPriority byAge).start docket) :
    Invariant docket := by
  rw [started]
  refine ⟨by simp, by simp, ?_, by simp [MergesRepeats]⟩
  intro key last found
  simp [RuleEngine.create, AlertManager.memory_init] at found

/-- In every run with timestamps in order in which no two rule instances share a dedup
key within a cooldown, what is dropped repeats an alert of its own rule and incident. -/
theorem mergesRepeats_of_unshared (files : String → FaceFile) (alertParams : AlertManagerParams)
    (configs : List (RuleConfig Number)) (byPriority : StdSort Alert.rank)
    (byAge : StdSort Entry.rank) {docket : Docket Number}
    (reachable : (machine files alertParams configs byPriority byAge).ReachableUnder allowed
      docket) : docket.MergesRepeats := by
  have invariant : Invariant docket := reachable.invariant Invariant
    (fun _ started => invariant_of_start started)
    (fun _ _ _ _ invariant permitted stepped => invariant.step permitted stepped)
  exact invariant.merges

def graded (priority : Int32) (gracePeriod : Float32) : RuleConfig Float32 where
  name := "LeftItemRule"
  priority := priority
  targetSources := ["source_000"]
  targetClasses := ["bag"]
  params := [("grace_period_sec", gracePeriod), ("item_owner_iou_threshold", 0.5)]
  strParams := []

def bagAt (timestamp : UInt64) : RuleEvent Float32 :=
  ⟨"source_000", timestamp, [], [⟨"bag", [0, 0, 1, 1], 7, 1, []⟩]⟩

def gradedProposal (rule : Nat) (priority : Int32) (timestamp : UInt64) : Proposal :=
  ⟨rule, .item "source_000" 7,
    ⟨"LeftItemRule", priority, "source_000_LeftItemRule_7", 7, timestamp⟩⟩

theorem alarm_dropped_for_warning :
    ¬ ∀ (configs : List (RuleConfig Float32)) (docket : Docket Float32),
      (machine (fun _ => .missing) {} configs (.insertion _) (.insertion _)).ReachableUnder
        inOrder docket → docket.MergesRepeats := by
  intro universal
  have ran : ((machine (fun _ => .missing) {} [graded 1 1, graded 0 3] (.insertion _)
      (.insertion _)).run inOrder
        { engine := RuleEngine.create (fun _ => .missing) {} [graded 1 1, graded 0 3]
          clock := 0, log := [], dropped := [] }
        [⟨bagAt 1000000, []⟩, ⟨bagAt 2000000, [gradedProposal 0 1 2000000]⟩,
          ⟨bagAt 4000000, [gradedProposal 1 0 4000000]⟩]).map
        (fun docket => (docket.log, docket.dropped)) =
      some ([gradedProposal 0 1 2000000], [gradedProposal 1 0 4000000]) := by
    decide +kernel
  obtain ⟨docket, ran, outcome⟩ := Option.map_eq_some_iff.mp ran
  rw [Prod.mk.injEq] at outcome
  obtain ⟨emitted, listed, sameRule, _⟩ := universal _ docket
    (Machine.ReachableUnder.run (Machine.ReachableUnder.start rfl) ran)
    (gradedProposal 1 0 4000000) (by simp [outcome.2])
  rw [outcome.1, List.mem_singleton] at listed
  subst listed
  exact absurd sameRule (by decide)

theorem mergesRepeats_of_unshared_run : ∃ docket : Docket Float32,
    docket.dropped = [gradedProposal 0 1 4000000] ∧ docket.MergesRepeats := by
  have ran : ((machine (fun _ => .missing) {} [graded 1 1] (.insertion _) (.insertion _)).run
      allowed { engine := RuleEngine.create (fun _ => .missing) {} [graded 1 1]
                clock := 0, log := [], dropped := [] }
        [⟨bagAt 1000000, []⟩, ⟨bagAt 2000000, [gradedProposal 0 1 2000000]⟩,
          ⟨⟨"source_000", 2500000, [7], []⟩, []⟩, ⟨bagAt 3000000, []⟩,
          ⟨bagAt 4000000, [gradedProposal 0 1 4000000]⟩]).map Docket.dropped =
      some [gradedProposal 0 1 4000000] := by
    decide +kernel
  obtain ⟨docket, ran, dropped⟩ := Option.map_eq_some_iff.mp ran
  exact ⟨docket, dropped, mergesRepeats_of_unshared _ _ _ _ _
    (Machine.ReachableUnder.run (Machine.ReachableUnder.start rfl) ran)⟩

end Docket

end Iq9Pipeline.RuleProcess
