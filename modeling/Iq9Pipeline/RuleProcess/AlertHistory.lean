import Iq9Pipeline.RuleProcess.AlertCooldown

/-!
Pruning the alert history is invisible: with timestamps in order, the alert
manager emits what a reference emits that remembers every emission forever, as
long as no entry is evicted before its cooldown has ended.
-/

namespace Iq9Pipeline.RuleProcess

open Foundation

namespace AlertManager

def coolsDown (cooldownUs : UInt64) (log : List Alert) (alert : Alert) : Bool :=
  log.any fun earlier => decide (earlier.dedupKey = alert.dedupKey ∧
    earlier.timestamp ≤ alert.timestamp ∧
    alert.timestamp.toNat < earlier.timestamp.toNat + cooldownUs.toNat)

def referenceAlerts (cooldownUs : UInt64) (log : List Alert) : List Alert → List Alert
  | [] => []
  | alert :: alerts =>
      if coolsDown cooldownUs log alert then referenceAlerts cooldownUs log alerts
      else alert :: referenceAlerts cooldownUs (log ++ [alert]) alerts

def referenceCalls (byPriority : StdSort Alert.rank) (cooldownUs : UInt64) (log : List Alert) :
    List (List Alert) → List (List Alert)
  | [] => []
  | rawAlerts :: calls =>
      let emitted := referenceAlerts cooldownUs log (byPriority.sort rawAlerts)
      emitted :: referenceCalls byPriority cooldownUs (log ++ emitted) calls

def processCalls (byPriority : StdSort Alert.rank) (byAge : StdSort Entry.rank)
    (manager : AlertManager) : List (List Alert) → List (List Alert)
  | [] => []
  | rawAlerts :: calls =>
      let outcome := manager.processAlerts byPriority byAge rawAlerts
      outcome.finalAlerts :: outcome.manager.processCalls byPriority byAge calls

def processed (byPriority : StdSort Alert.rank) (calls : List (List Alert)) : List Alert :=
  (calls.map byPriority.sort).flatten

def clockAfter (clock : Nat) (alerts : List Alert) : Nat :=
  alerts.foldl (fun _ alert => alert.timestamp.toNat) clock

@[simp] theorem clockAfter_cons (clock : Nat) (alert : Alert) (alerts : List Alert) :
    clockAfter clock (alert :: alerts) = clockAfter alert.timestamp.toNat alerts := rfl

/-- No call evicts an entry younger than the cooldown by the time of the last alert processed. -/
def SparesYoung (byPriority : StdSort Alert.rank) (byAge : StdSort Entry.rank)
    (manager : AlertManager) (clock : Nat) : List (List Alert) → Prop
  | [] => True
  | rawAlerts :: calls =>
      let outcome := manager.processAlerts byPriority byAge rawAlerts
      let now := clockAfter clock (byPriority.sort rawAlerts)
      (∀ entry ∈ outcome.evicted, entry.1.toNat + manager.cooldownUs.toNat ≤ now) ∧
        outcome.manager.SparesYoung byPriority byAge now calls

/-- The history stands for the reference's log, as far as the cooldown can tell. -/
structure Simulates (manager : AlertManager) (clock : Nat) (log : List Alert) : Prop where
  past : ∀ alert ∈ log, alert.timestamp.toNat ≤ clock
  remembered : ∀ key last, manager.memory key = some last → ∃ alert ∈ log, alert.event = (key, last)
  covers : Covers manager.cooldownUs.toNat (fun _ => clock) manager.memory (log.map Alert.event)

namespace Simulates

variable {manager : AlertManager} {clock : Nat} {log : List Alert} {alert : Alert}

theorem memory_le (simulates : Simulates manager clock log) {key : String} {last : Nat}
    (found : manager.memory key = some last) : last ≤ clock := by
  obtain ⟨earlier, member, event⟩ := simulates.remembered key last found
  have before := simulates.past earlier member
  simp only [Alert.event, Prod.mk.injEq] at event
  omega

theorem isInCooldown_eq (simulates : Simulates manager clock log)
    (later : clock ≤ alert.timestamp.toNat) :
    manager.isInCooldown alert.dedupKey alert.timestamp =
      coolsDown manager.cooldownUs log alert := by
  have ordered : ∀ last, manager.memory alert.dedupKey = some last →
      last ≤ alert.timestamp.toNat :=
    fun last found => Nat.le_trans (simulates.memory_le found) later
  have checked := isInCooldown_eq_false_iff ordered
  rw [Bool.eq_iff_iff, ← not_iff_not, Bool.not_eq_true, Bool.not_eq_true, checked, coolsDown,
    List.any_eq_false]
  simp only [decide_eq_true_eq, UInt64.le_iff_toNat_le]
  constructor
  · intro quiet earlier member
    rintro ⟨same, _, near⟩
    have old := simulates.covers.ready later quiet earlier.event
      (List.mem_map_of_mem member) same
    simp only [Alert.event] at old
    omega
  · intro silent last found
    obtain ⟨earlier, member, event⟩ := simulates.remembered _ _ found
    simp only [Alert.event, Prod.mk.injEq] at event
    have before := simulates.past earlier member
    by_contra near
    exact silent earlier member ⟨event.1, by omega, by omega⟩

theorem advance (simulates : Simulates manager clock log) {now : Nat} (later : clock ≤ now) :
    Simulates manager now log where
  past alert member := Nat.le_trans (simulates.past alert member) later
  remembered := simulates.remembered
  covers := simulates.covers.forget (fun _ _ found => .inl found) (fun _ => later)

theorem emit (simulates : Simulates manager clock log)
    (later : clock ≤ alert.timestamp.toNat) :
    Simulates (manager.updateCooldown alert.dedupKey alert.timestamp) alert.timestamp.toNat
      (log ++ [alert]) where
  past earlier member := by
    rcases List.mem_append.mp member with old | new
    · exact Nat.le_trans (simulates.past earlier old) later
    · rw [List.mem_singleton.mp new]
  remembered key last found := by
    rw [memory_updateCooldown] at found
    by_cases same : key = alert.dedupKey
    · rw [same, Function.update_self, Option.some.injEq] at found
      exact ⟨alert, by simp, by simp [Alert.event, same, found]⟩
    · rw [Function.update_of_ne same] at found
      obtain ⟨earlier, member, event⟩ := simulates.remembered key last found
      exact ⟨earlier, List.mem_append_left _ member, event⟩
  covers := by
    rw [memory_updateCooldown, List.map_append]
    exact (simulates.advance later).covers.record fun last found =>
      Nat.le_trans (simulates.memory_le found) later

theorem filterAlerts (simulates : Simulates manager clock log) (currentTimeUs : UInt64)
    (alerts : List Alert) (later : ∀ alert ∈ alerts, clock ≤ alert.timestamp.toNat)
    (chronological : alerts.Pairwise fun first second => first.timestamp ≤ second.timestamp) :
    (manager.filterAlerts currentTimeUs alerts).finalAlerts =
        referenceAlerts manager.cooldownUs log alerts ∧
      Simulates (manager.filterAlerts currentTimeUs alerts).manager (clockAfter clock alerts)
        (log ++ (manager.filterAlerts currentTimeUs alerts).finalAlerts) := by
  induction alerts generalizing manager clock log currentTimeUs with
  | nil => simpa [AlertManager.filterAlerts, referenceAlerts, clockAfter] using simulates
  | cons alert alerts ih =>
      have now := later alert List.mem_cons_self
      rw [List.pairwise_cons] at chronological
      have rest : ∀ next ∈ alerts, alert.timestamp.toNat ≤ next.timestamp.toNat :=
        fun next member => UInt64.le_iff_toNat_le.mp (chronological.1 next member)
      simp only [AlertManager.filterAlerts, referenceAlerts, simulates.isInCooldown_eq now]
      split
      · exact ih (simulates.advance now) alert.timestamp rest chronological.2
      · have emitted := ih (simulates.emit now) alert.timestamp rest chronological.2
        refine ⟨congrArg _ emitted.1, ?_⟩
        simpa [List.append_assoc] using emitted.2

theorem cleanup {after : AlertManager} {nowUs : UInt64} {evicted : List Entry}
    (simulates : Simulates manager clock log) (cleans : Cleans manager after nowUs evicted)
    (onClock : nowUs.toNat ≤ clock)
    (spared : ∀ entry ∈ evicted, entry.1.toNat + manager.cooldownUs.toNat ≤ clock) :
    Simulates after clock log where
  past := simulates.past
  remembered key last found := simulates.remembered key last (cleans.kept key last found)
  covers := by
    rw [cleans.cooldownUs]
    refine simulates.covers.forget ?_ (fun _ => Nat.le_refl _)
    intro key last found
    rcases cleans.fate key last found with stays | ⟨_, ⟨_, old⟩ | ⟨entry, member, same⟩⟩
    · exact .inl stays
    · exact .inr (Nat.le_trans old onClock)
    · have old := spared entry member
      rw [same] at old
      exact .inr old

end Simulates

theorem filterAlerts_currentTimeUs (manager : AlertManager) (currentTimeUs : UInt64)
    (alerts : List Alert) :
    (manager.filterAlerts currentTimeUs alerts).currentTimeUs.toNat =
      clockAfter currentTimeUs.toNat alerts := by
  induction alerts generalizing manager currentTimeUs with
  | nil => rfl
  | cons alert alerts ih =>
      simp only [filterAlerts]
      split
      · exact ih manager alert.timestamp
      · exact ih _ alert.timestamp

theorem clockAfter_zero_le (clock : Nat) (alerts : List Alert) :
    clockAfter 0 alerts ≤ clockAfter clock alerts := by
  cases alerts with
  | nil => exact Nat.zero_le clock
  | cons alert alerts => exact Nat.le_refl _

theorem le_clockAfter {clock : Nat} {alerts : List Alert} {time : Nat} (begun : clock ≤ time)
    (ended : ∀ alert ∈ alerts, alert.timestamp.toNat ≤ time) : clockAfter clock alerts ≤ time := by
  induction alerts generalizing clock with
  | nil => exact begun
  | cons alert alerts ih =>
      exact ih (ended alert List.mem_cons_self)
        fun next member => ended next (List.mem_cons_of_mem alert member)

theorem processed_cons (byPriority : StdSort Alert.rank) (rawAlerts : List Alert)
    (calls : List (List Alert)) :
    processed byPriority (rawAlerts :: calls) =
      byPriority.sort rawAlerts ++ processed byPriority calls := rfl

theorem Simulates.processCalls_eq {manager : AlertManager} {clock : Nat} {log : List Alert}
    (simulates : Simulates manager clock log) (byPriority : StdSort Alert.rank)
    (byAge : StdSort Entry.rank) (calls : List (List Alert))
    (later : ∀ alert ∈ processed byPriority calls, clock ≤ alert.timestamp.toNat)
    (chronological : (processed byPriority calls).Pairwise fun first second =>
      first.timestamp ≤ second.timestamp)
    (spares : manager.SparesYoung byPriority byAge clock calls) :
    manager.processCalls byPriority byAge calls =
      referenceCalls byPriority manager.cooldownUs log calls := by
  induction calls generalizing manager clock log with
  | nil => rfl
  | cons rawAlerts calls ih =>
      rw [processed_cons] at later chronological
      rw [List.pairwise_append] at chronological
      obtain ⟨inCall, afterwards, across⟩ := chronological
      obtain ⟨spared, spares⟩ := spares
      have cleans := processAlerts_cleans byPriority byAge manager rawAlerts
      rw [processAlerts_filtered] at cleans
      obtain ⟨same, filtered⟩ := simulates.filterAlerts 0 (byPriority.sort rawAlerts)
        (fun alert member => later alert (List.mem_append_left _ member)) inCall
      have cooldownUs := manager.filterAlerts_cooldownUs 0 (byPriority.sort rawAlerts)
      have onClock := clockAfter_zero_le clock (byPriority.sort rawAlerts)
      rw [← UInt64.toNat_zero, ← manager.filterAlerts_currentTimeUs] at onClock
      have cleaned := filtered.cleanup cleans onClock (by rw [cooldownUs]; exact spared)
      have rest := ih cleaned ?_ afterwards spares
      · rw [cleans.cooldownUs, cooldownUs, same] at rest
        simp only [processCalls, referenceCalls, Outcome.finalAlerts, processAlerts_filtered, same,
          rest]
      · intro alert member
        refine le_clockAfter (later alert (List.mem_append_right _ member)) ?_
        intro earlier inCall
        exact UInt64.le_iff_toNat_le.mp (across earlier inCall alert member)

theorem processCalls_eq_reference (params : AlertManagerParams)
    (byPriority : StdSort Alert.rank) (byAge : StdSort Entry.rank) (calls : List (List Alert))
    (chronological : (processed byPriority calls).Pairwise fun first second =>
      first.timestamp ≤ second.timestamp)
    (spares : (init params).SparesYoung byPriority byAge 0 calls) :
    (init params).processCalls byPriority byAge calls =
      referenceCalls byPriority (init params).cooldownUs [] calls := by
  refine Simulates.processCalls_eq ⟨by simp, ?_, by simp [Covers]⟩ byPriority byAge calls
    (fun _ _ => Nat.zero_le _) chronological spares
  intro key last found
  simp [memory_init] at found

/-- The alerts of a call share the timestamp of its event, so that calls in order are
processed in order. -/
theorem processed_chronological {calls : List (List Alert)} (byPriority : StdSort Alert.rank)
    (shared : ∀ rawAlerts ∈ calls, ∀ first ∈ rawAlerts, ∀ second ∈ rawAlerts,
      first.timestamp = second.timestamp)
    (ordered : calls.flatten.Pairwise fun first second => first.timestamp ≤ second.timestamp) :
    (processed byPriority calls).Pairwise fun first second =>
      first.timestamp ≤ second.timestamp := by
  rw [List.pairwise_flatten] at ordered
  rw [processed, List.pairwise_flatten, List.pairwise_map]
  refine ⟨?_, ordered.2.imp ?_⟩
  · intro sorted member
    obtain ⟨rawAlerts, called, rfl⟩ := List.mem_map.mp member
    refine List.pairwise_of_forall_mem_list ?_
    intro first inFirst second inSecond
    rw [(byPriority.perm rawAlerts).mem_iff] at inFirst inSecond
    exact UInt64.le_of_eq (shared rawAlerts called first inFirst second inSecond)
  · intro before after across first inFirst second inSecond
    rw [(byPriority.perm _).mem_iff] at inFirst inSecond
    exact across first inFirst second inSecond

theorem processCalls_eq_reference_swept :
    let params : AlertManagerParams := { maxHistorySize := 1, cleanupThreshold := 0 }
    let calls := [[alertAt "alice" 10], [alertAt "bob" 20], [], [alertAt "alice" 26],
      [alertAt "alice" 27]]
    (init params).processCalls (.insertion _) (.insertion _) calls =
      referenceCalls (.insertion _) (init params).cooldownUs [] calls := by
  refine processCalls_eq_reference _ _ _ _ (by decide +kernel) ?_
  refine ⟨by decide +kernel, by decide +kernel, by decide +kernel, by decide +kernel,
    by decide +kernel, trivial⟩

end AlertManager

end Iq9Pipeline.RuleProcess
