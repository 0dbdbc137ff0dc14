import Iq9Pipeline.Foundation.Cooldown
import Iq9Pipeline.Foundation.Machine
import Iq9Pipeline.RuleProcess.AlertManager

/-!
The cooldown over whole runs of the alert manager, with timestamps in any order.
The check subtracts without a sign, so that an alert older than the remembered
one is let through; the events of several cameras share one manager, and nothing
orders their clocks.
-/

namespace Iq9Pipeline.RuleProcess

open Foundation

def Alert.event (alert : Alert) : String × Nat :=
  (alert.dedupKey, alert.timestamp.toNat)

namespace AlertManager

structure History where
  manager : AlertManager
  emitted : List Alert
  horizon : String → Nat

def Outcome.horizon (outcome : Outcome) (earlier : String → Nat) (key : String) : Nat :=
  if (outcome.filtered.manager.memory key).isSome ∧ outcome.manager.memory key = none then
    max (earlier key) outcome.filtered.currentTimeUs.toNat
  else earlier key

def machine (params : AlertManagerParams) (byPriority : StdSort Alert.rank)
    (byAge : StdSort Entry.rank) : Machine History (List Alert) where
  start history := history = ⟨init params, [], fun _ => 0⟩
  step history rawAlerts :=
    let outcome := history.manager.processAlerts byPriority byAge rawAlerts
    some {
      manager := outcome.manager
      emitted := history.emitted ++ outcome.finalAlerts
      horizon := outcome.horizon history.horizon }

/-- The time below which an alert of the key comes late: the remembered time of
its key, or else the clock of the cleanup that dropped it. -/
def lateBefore (manager : AlertManager) (horizon : String → Nat) (key : String) : Nat :=
  (manager.memory key).getD (horizon key)

def inOrder (manager : AlertManager) (horizon : String → Nat) : List Alert → Bool
  | [] => true
  | alert :: alerts =>
      decide (manager.lateBefore horizon alert.dedupKey ≤ alert.timestamp.toNat) &&
        if manager.isInCooldown alert.dedupKey alert.timestamp then
          manager.inOrder horizon alerts
        else
          (manager.updateCooldown alert.dedupKey alert.timestamp).inOrder horizon alerts

def EvictsNothing (byPriority : StdSort Alert.rank) (byAge : StdSort Entry.rank)
    (history : History) (rawAlerts : List Alert) : Prop :=
  (history.manager.processAlerts byPriority byAge rawAlerts).evicted = []

instance (byPriority : StdSort Alert.rank) (byAge : StdSort Entry.rank) (history : History)
    (rawAlerts : List Alert) : Decidable (EvictsNothing byPriority byAge history rawAlerts) :=
  inferInstanceAs (Decidable (_ = []))

def Timely (byPriority : StdSort Alert.rank) (byAge : StdSort Entry.rank)
    (history : History) (rawAlerts : List Alert) : Prop :=
  EvictsNothing byPriority byAge history rawAlerts ∧
    history.manager.inOrder history.horizon (byPriority.sort rawAlerts) = true

instance (byPriority : StdSort Alert.rank) (byAge : StdSort Entry.rank) (history : History)
    (rawAlerts : List Alert) : Decidable (Timely byPriority byAge history rawAlerts) :=
  inferInstanceAs (Decidable (_ ∧ _))

structure KeepsCooldown (cooldown : Nat) (manager : AlertManager) (horizon : String → Nat)
    (emitted : List Alert) : Prop where
  cooldownUs : manager.cooldownUs.toNat = cooldown
  apart : (emitted.map Alert.event).Pairwise (Apart cooldown)
  covers : Covers cooldown horizon manager.memory (emitted.map Alert.event)
  newer : ∀ key last, manager.memory key = some last → horizon key ≤ last

namespace KeepsCooldown

variable {cooldown : Nat} {manager : AlertManager} {horizon : String → Nat}
  {emitted : List Alert}

theorem horizon_le (keeps : KeepsCooldown cooldown manager horizon emitted) (key : String) :
    horizon key ≤ manager.lateBefore horizon key := by
  rw [lateBefore]
  cases found : manager.memory key with
  | none => exact Nat.le_refl _
  | some last => exact keeps.newer key last found

theorem emit (keeps : KeepsCooldown cooldown manager horizon emitted) {alert : Alert}
    (onTime : manager.lateBefore horizon alert.dedupKey ≤ alert.timestamp.toNat)
    (passed : manager.isInCooldown alert.dedupKey alert.timestamp = false) :
    KeepsCooldown cooldown (manager.updateCooldown alert.dedupKey alert.timestamp) horizon
      (emitted ++ [alert]) := by
  have reached := Nat.le_trans (keeps.horizon_le alert.dedupKey) onTime
  have ordered : ∀ last, manager.memory alert.dedupKey = some last →
      last ≤ alert.timestamp.toNat := by
    intro last found
    simpa [lateBefore, found] using onTime
  have quiet := (isInCooldown_eq_false_iff ordered).mp passed
  rw [keeps.cooldownUs] at quiet
  refine ⟨keeps.cooldownUs, ?_, ?_, ?_⟩
  · rw [List.map_append, List.pairwise_append]
    refine ⟨keeps.apart, by simp, ?_⟩
    intro event member new isNew same
    rw [List.map_singleton, List.mem_singleton] at isNew
    subst isNew
    exact .inl (keeps.covers.ready reached quiet event member same)
  · rw [List.map_append, memory_updateCooldown]
    exact keeps.covers.record ordered
  · intro key last found
    rw [memory_updateCooldown] at found
    by_cases same : key = alert.dedupKey
    · rw [same, Function.update_self, Option.some.injEq] at found
      rw [same, ← found]
      exact reached
    · rw [Function.update_of_ne same] at found
      exact keeps.newer key last found

theorem filterAlerts (keeps : KeepsCooldown cooldown manager horizon emitted)
    (currentTimeUs : UInt64) (alerts : List Alert)
    (ordered : manager.inOrder horizon alerts = true) :
    KeepsCooldown cooldown (manager.filterAlerts currentTimeUs alerts).manager horizon
      (emitted ++ (manager.filterAlerts currentTimeUs alerts).finalAlerts) := by
  induction alerts generalizing manager emitted currentTimeUs with
  | nil => simpa [AlertManager.filterAlerts] using keeps
  | cons alert alerts ih =>
      simp only [inOrder, Bool.and_eq_true, decide_eq_true_eq] at ordered
      obtain ⟨onTime, rest⟩ := ordered
      simp only [AlertManager.filterAlerts]
      split
      · rename_i inCooldown
        rw [if_pos inCooldown] at rest
        exact ih keeps _ rest
      · rename_i passed
        rw [if_neg passed] at rest
        have emitted := keeps.emit onTime (Bool.not_eq_true _ ▸ passed)
        simpa [List.append_assoc] using ih emitted alert.timestamp rest

theorem cleanup {outcome : Outcome} (keeps : KeepsCooldown cooldown outcome.filtered.manager
    horizon emitted)
    (cleans : Cleans outcome.filtered.manager outcome.manager outcome.filtered.currentTimeUs []) :
    KeepsCooldown cooldown outcome.manager (outcome.horizon horizon) emitted where
  cooldownUs := cleans.cooldownUs ▸ keeps.cooldownUs
  apart := keeps.apart
  covers := by
    refine keeps.covers.forget ?_ ?_
    · intro key last found
      rcases cleans.fate key last found with stays | ⟨gone, ⟨_, old⟩ | ⟨_, evicted, _⟩⟩
      · exact .inl stays
      · rw [keeps.cooldownUs] at old
        simp only [Outcome.horizon, found, gone, Option.isSome_some, and_self, if_true]
        omega
      · simp at evicted
    · intro key
      rw [Outcome.horizon]
      split
      · exact Nat.le_max_left _ _
      · exact Nat.le_refl _
  newer key last found := by
    simp only [Outcome.horizon, found, reduceCtorEq, and_false, if_false]
    exact keeps.newer key last (cleans.kept key last found)

end KeepsCooldown

theorem init_cooldownUs {params : AlertManagerParams} (nonnegative : 0 ≤ params.cooldownSeconds) :
    ((init params).cooldownUs.toNat : Int) = params.cooldownSeconds.toInt * 1000000 := by
  have low : 0 ≤ params.cooldownSeconds.toInt := by
    simpa using Int32.le_iff_toInt_le.mp nonnegative
  have bound := params.cooldownSeconds.toInt_lt
  have seconds := toNat_toUInt64_of_nonneg low
  have million : (1000000 : UInt64).toNat = 1000000 := rfl
  simp only [init, UInt64.toNat_mul, seconds, million]
  omega

theorem keepsCooldown_of_reachable {params : AlertManagerParams} {byPriority : StdSort Alert.rank}
    {byAge : StdSort Entry.rank} {history : History}
    (reached : (machine params byPriority byAge).ReachableUnder (Timely byPriority byAge)
      history) :
    KeepsCooldown (init params).cooldownUs.toNat history.manager history.horizon
      history.emitted := by
  refine reached.invariant (fun history => KeepsCooldown _ history.manager history.horizon
    history.emitted) ?_ ?_
  · rintro history rfl
    refine ⟨rfl, by simp, by simp [Covers], ?_⟩
    intro key last found
    simp [memory_init] at found
  · intro history rawAlerts next _ keeps timely stepped
    obtain ⟨evictsNothing, ordered⟩ := timely
    simp only [machine, Option.some.injEq] at stepped
    subst stepped
    have filtered := keeps.filterAlerts 0 _ ordered
    have cleans := processAlerts_cleans byPriority byAge history.manager rawAlerts
    rw [evictsNothing] at cleans
    exact KeepsCooldown.cleanup filtered cleans

def CooldownHolds (params : AlertManagerParams) (emitted : List Alert) : Prop :=
  emitted.Pairwise fun first second => first.dedupKey = second.dedupKey →
    params.cooldownSeconds.toInt * 1000000 ≤
      ((first.timestamp.toNat - second.timestamp.toNat : Int).natAbs : Int)

instance (params : AlertManagerParams) (emitted : List Alert) :
    Decidable (CooldownHolds params emitted) :=
  inferInstanceAs (Decidable (List.Pairwise _ _))

theorem cooldownHolds_of_timely (params : AlertManagerParams) (byPriority : StdSort Alert.rank)
    (byAge : StdSort Entry.rank) (nonnegative : 0 ≤ params.cooldownSeconds) {history : History}
    (reached : (machine params byPriority byAge).ReachableUnder (Timely byPriority byAge)
      history) :
    CooldownHolds params history.emitted := by
  have apart := List.pairwise_map.mp (keepsCooldown_of_reachable reached).apart
  refine apart.imp ?_
  intro first second apart same
  have cooldown := init_cooldownUs nonnegative
  rcases apart same with earlier | later
  · simp only [Alert.event] at earlier
    omega
  · simp only [Alert.event] at later
    omega

def alertAt (dedupKey : String) (seconds : UInt64) : Alert where
  ruleName := "open_trunk"
  priority := 1
  dedupKey := dedupKey
  trackId := 7
  timestamp := seconds * 1000000

theorem cooldownHolds_of_timely_swept :
    CooldownHolds { maxHistorySize := 1, cleanupThreshold := 0 }
      [alertAt "alice" 10, alertAt "bob" 20, alertAt "alice" 26] := by
  let params : AlertManagerParams := { maxHistorySize := 1, cleanupThreshold := 0 }
  have ran : ((machine params (.insertion _) (.insertion _)).run
      (Timely (.insertion _) (.insertion _)) ⟨init params, [], fun _ => 0⟩
      [[alertAt "alice" 10], [alertAt "bob" 20], [alertAt "alice" 26]]).map History.emitted =
      some [alertAt "alice" 10, alertAt "bob" 20, alertAt "alice" 26] := by
    decide +kernel
  obtain ⟨history, ran, emitted⟩ := Option.map_eq_some_iff.mp ran
  rw [← emitted]
  exact cooldownHolds_of_timely params _ _ (by decide) ((Machine.ReachableUnder.start rfl).run ran)

/-- Two cameras see one person: the alert of the camera whose clock runs behind by
two seconds is let through as well. -/
theorem lateAlertEmitted :
    ¬ ∀ (params : AlertManagerParams) (byPriority : StdSort Alert.rank)
        (byAge : StdSort Entry.rank) (history : History), 0 ≤ params.cooldownSeconds →
      (machine params byPriority byAge).ReachableUnder (EvictsNothing byPriority byAge) history →
      CooldownHolds params history.emitted := by
  intro universal
  have ran : ((machine {} (.insertion _) (.insertion _)).run
      (EvictsNothing (.insertion _) (.insertion _)) ⟨init {}, [], fun _ => 0⟩
      [[alertAt "alice" 10], [alertAt "alice" 8]]).map History.emitted =
      some [alertAt "alice" 10, alertAt "alice" 8] := by
    decide +kernel
  obtain ⟨history, ran, emitted⟩ := Option.map_eq_some_iff.mp ran
  have kept := universal {} _ _ history (by decide) ((Machine.ReachableUnder.start rfl).run ran)
  rw [emitted] at kept
  revert kept
  decide

end AlertManager

end Iq9Pipeline.RuleProcess
