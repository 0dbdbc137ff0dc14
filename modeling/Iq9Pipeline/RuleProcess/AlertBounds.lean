import Iq9Pipeline.Foundation.KeyedTable
import Iq9Pipeline.RuleProcess.AlertManager
import Mathlib.Data.Rat.Floor

/-!
What the cleanup does to the size of the alert history, for ratios in the doubles of the
code and in exact arithmetic alike: the limit holds after every call, the sweep takes
entries that have cooled down, and what has to go beyond them goes oldest first.
-/

namespace Iq9Pipeline.RuleProcess

inductive CleanupRatio
  | double (ratio : Float)
  | rational (ratio : ℚ)

def CleanupRatio.target : CleanupRatio → Nat → Nat → Nat
  | .double ratio, size, capped =>
      if 0.0 < ratio ∧ ratio < 1.0 then
        let ratioTarget := ((UInt64.ofNat size).toFloat * (1.0 - ratio)).toUInt64.toNat
        if ratioTarget < capped then ratioTarget else capped
      else if 1.0 ≤ ratio then 0
      else capped
  | .rational ratio, size, capped =>
      if 0 < ratio ∧ ratio < 1 then
        let ratioTarget := ⌊(size : ℚ) * (1 - ratio)⌋₊
        if ratioTarget < capped then ratioTarget else capped
      else if 1 ≤ ratio then 0
      else capped

theorem CleanupRatio.target_le (ratio : CleanupRatio) (size capped : Nat) :
    ratio.target size capped ≤ capped := by
  cases ratio <;>
  · simp only [target]
    split
    · split <;> omega
    · split <;> omega

namespace AlertManager

def sizeTarget (ratio : CleanupRatio) (manager : AlertManager) : Nat :=
  let size := manager.alertHistory.size
  let capped :=
    if 0 < manager.maxHistorySize ∧ manager.maxHistorySize < size then manager.maxHistorySize
    else size
  if 0 < manager.cleanupThreshold ∧ manager.cleanupThreshold < size then ratio.target size capped
  else capped

def oldest (ratio : CleanupRatio) (byAge : StdSort Entry.rank) (manager : AlertManager) :
    List Entry :=
  (byAge.sort manager.entries).take (manager.alertHistory.size - manager.sizeTarget ratio)

def swept (manager : AlertManager) (nowUs : UInt64) : AlertManager :=
  { manager with alertHistory := manager.sweepHistory nowUs }

def cleanupHistoryAt (ratio : CleanupRatio) (byAge : StdSort Entry.rank)
    (manager : AlertManager) (nowUs : UInt64) : AlertManager × List Entry :=
  if manager.alertHistory.isEmpty then (manager, [])
  else
    let swept := manager.swept nowUs
    if swept.alertHistory.size ≤ swept.sizeTarget ratio then (swept, [])
    else
      let evicted := swept.oldest ratio byAge
      (swept.evict evicted, evicted)

def processAlertsAt (ratio : CleanupRatio) (byPriority : StdSort Alert.rank)
    (byAge : StdSort Entry.rank) (manager : AlertManager) (rawAlerts : List Alert) : Outcome :=
  let filtered := manager.filterAlerts 0 (byPriority.sort rawAlerts)
  let size := filtered.manager.alertHistory.size
  let overSoftLimit := 0 < manager.cleanupThreshold ∧ manager.cleanupThreshold < size
  let overHardLimit := 0 < manager.maxHistorySize ∧ manager.maxHistorySize < size
  let cleaned :=
    if overSoftLimit ∨ overHardLimit then
      filtered.manager.cleanupHistoryAt ratio byAge filtered.currentTimeUs
    else (filtered.manager, [])
  { filtered := filtered
    manager := cleaned.1
    evicted := cleaned.2 }

variable {manager : AlertManager} {ratio : CleanupRatio} {byAge : StdSort Entry.rank}

theorem sizeTarget_le_size (manager : AlertManager) (ratio : CleanupRatio) :
    manager.sizeTarget ratio ≤ manager.alertHistory.size := by
  have least := ratio.target_le manager.alertHistory.size
  simp only [sizeTarget]
  split
  · refine (least _).trans ?_
    split <;> omega
  · split <;> omega

theorem sizeTarget_le_max (limited : 0 < manager.maxHistorySize) (ratio : CleanupRatio) :
    manager.sizeTarget ratio ≤ manager.maxHistorySize := by
  have least := ratio.target_le manager.alertHistory.size
  simp only [sizeTarget]
  split
  · refine (least _).trans ?_
    split <;> omega
  · split <;> omega

theorem entries_distinct (manager : AlertManager) :
    (manager.entries.map Prod.snd).Nodup := by
  have keys : manager.entries.map Prod.snd = manager.alertHistory.keys := by
    rw [entries, List.map_map, ← Std.TreeMap.map_fst_toList_eq_keys]
    rfl
  rw [keys]
  exact Std.TreeMap.nodup_keys

theorem lookup_of_mem_oldest {entry : Entry} (member : entry ∈ manager.oldest ratio byAge) :
    manager.alertHistory[entry.2]? = some entry.1 :=
  lookup_of_mem_sort (List.mem_of_mem_take member)

theorem length_oldest :
    (manager.oldest ratio byAge).length =
      manager.alertHistory.size - manager.sizeTarget ratio := by
  have length : (byAge.sort manager.entries).length = manager.alertHistory.size := by
    rw [(byAge.perm _).length_eq, entries, List.length_map, Std.TreeMap.length_toList]
  rw [oldest, List.length_take, length]
  omega

theorem size_evict_oldest (manager : AlertManager) (ratio : CleanupRatio)
    (byAge : StdSort Entry.rank) :
    (manager.evict (manager.oldest ratio byAge)).alertHistory.size =
      manager.sizeTarget ratio := by
  have distinct : ((manager.oldest ratio byAge).map Prod.snd).Nodup :=
    ((((byAge.perm _).map Prod.snd).nodup_iff.mpr manager.entries_distinct).sublist
      ((List.take_sublist _ _).map Prod.snd))
  have present : ∀ key ∈ (manager.oldest ratio byAge).map Prod.snd,
      key ∈ manager.alertHistory := by
    intro key named
    obtain ⟨entry, member, rfl⟩ := List.mem_map.mp named
    rw [Std.TreeMap.mem_iff_isSome_getElem?, lookup_of_mem_oldest member]
    rfl
  have erased : (manager.evict (manager.oldest ratio byAge)).alertHistory.size +
      (manager.oldest ratio byAge).length = manager.alertHistory.size := by
    simpa [evict, List.foldl_map] using
      Foundation.KeyedTable.size_foldl_erase _ _ distinct present
  have bound := manager.sizeTarget_le_size ratio
  rw [length_oldest] at erased
  omega

theorem oldest_le {entry : Entry} {key : String} {ts : UInt64}
    (goes : entry ∈ manager.oldest ratio byAge)
    (stays : (manager.evict (manager.oldest ratio byAge)).alertHistory[key]? = some ts) :
    entry.1 ≤ ts := by
  rw [evict_lookup] at stays
  split at stays
  · simp at stays
  · rename_i spared
    have listed : (ts, key) ∈ byAge.sort manager.entries := by
      rw [(byAge.perm _).mem_iff, entries, List.mem_map]
      exact ⟨(key, ts), Std.TreeMap.mem_toList_iff_getElem?_eq_some.mpr stays, rfl⟩
    have sorted := byAge.ordered manager.entries
    rw [← List.take_append_drop (manager.alertHistory.size - manager.sizeTarget ratio)
      (byAge.sort manager.entries)] at listed sorted
    rcases List.mem_append.mp listed with early | late
    · exact absurd (List.mem_map_of_mem (f := Prod.snd) early) spared
    · have order := (List.pairwise_append.mp sorted).2.2 _ goes _ late
      rw [UInt64.le_iff_toNat_le]
      simpa [Entry.rank] using order

structure SameLimits (before after : AlertManager) : Prop where
  cooldownUs : after.cooldownUs = before.cooldownUs
  maxHistorySize : after.maxHistorySize = before.maxHistorySize
  cleanupRatio : after.cleanupRatio = before.cleanupRatio

theorem SameLimits.trans {first second third : AlertManager} (same : SameLimits first second)
    (next : SameLimits second third) : SameLimits first third where
  cooldownUs := next.cooldownUs.trans same.cooldownUs
  maxHistorySize := next.maxHistorySize.trans same.maxHistorySize
  cleanupRatio := next.cleanupRatio.trans same.cleanupRatio

theorem filterAlerts_limits (manager : AlertManager) (currentTimeUs : UInt64)
    (alerts : List Alert) :
    SameLimits manager (manager.filterAlerts currentTimeUs alerts).manager := by
  induction alerts generalizing manager currentTimeUs with
  | nil => exact ⟨rfl, rfl, rfl⟩
  | cons alert alerts ih =>
      simp only [filterAlerts]
      split
      · exact ih manager _
      · have later := ih (manager.updateCooldown alert.dedupKey alert.timestamp) alert.timestamp
        exact ⟨later.cooldownUs, later.maxHistorySize, later.cleanupRatio⟩

def lastTimestamp (alerts : List Alert) : UInt64 :=
  (alerts.getLast?.map Alert.timestamp).getD 0

theorem filterAlerts_lastTimestamp (manager : AlertManager) (currentTimeUs : UInt64)
    (alerts : List Alert) :
    (manager.filterAlerts currentTimeUs alerts).currentTimeUs =
      (alerts.getLast?.map Alert.timestamp).getD currentTimeUs := by
  induction alerts generalizing manager currentTimeUs with
  | nil => rfl
  | cons alert alerts ih =>
      simp only [filterAlerts]
      split
      · rw [ih, List.getLast?_cons]
        cases alerts.getLast? <;> rfl
      · rw [ih, List.getLast?_cons]
        cases alerts.getLast? <;> rfl

theorem processAlertsAt_double (byPriority : StdSort Alert.rank) (byAge : StdSort Entry.rank)
    (manager : AlertManager) (rawAlerts : List Alert) :
    manager.processAlertsAt (.double manager.cleanupRatio) byPriority byAge rawAlerts =
      manager.processAlerts byPriority byAge rawAlerts := by
  have same := (manager.filterAlerts_limits 0 (byPriority.sort rawAlerts)).cleanupRatio
  rw [processAlertsAt, ← same]
  rfl

structure Outcome.Bounded (ratio : CleanupRatio) (params : AlertManagerParams) (nowUs : UInt64)
    (outcome : Outcome) : Prop where
  size : 0 < params.maxHistorySize →
    outcome.manager.alertHistory.size ≤ params.maxHistorySize
  kept : ∀ (key : String) (ts : UInt64), outcome.manager.alertHistory[key]? = some ts →
    outcome.filtered.manager.alertHistory[key]? = some ts
  swept : ∀ (key : String) (ts : UInt64),
    outcome.filtered.manager.alertHistory[key]? = some ts →
    outcome.manager.alertHistory[key]? = none → (ts, key) ∉ outcome.evicted →
      ts.toNat + (init params).cooldownUs.toNat ≤ nowUs.toNat
  evicted : ∀ entry ∈ outcome.evicted,
    (outcome.filtered.manager.swept nowUs).alertHistory[entry.2]? = some entry.1 ∧
      outcome.manager.alertHistory[entry.2]? = none ∧
      ∀ (key : String) (ts : UInt64), outcome.manager.alertHistory[key]? = some ts → entry.1 ≤ ts
  target : outcome.evicted ≠ [] →
    let history := outcome.filtered.manager.swept nowUs
    outcome.evicted.length = history.alertHistory.size - history.sizeTarget ratio ∧
      outcome.manager.alertHistory.size = history.sizeTarget ratio

theorem swept_lookup (nowUs : UInt64) {key : String} {ts : UInt64}
    (found : manager.alertHistory[key]? = some ts) :
    (manager.swept nowUs).alertHistory[key]? = some ts ∨
      (manager.swept nowUs).alertHistory[key]? = none ∧
        ts.toNat + manager.cooldownUs.toNat ≤ nowUs.toNat := by
  rcases manager.sweepHistory_lookup nowUs key with same | ⟨gone, _, last, remembered, old⟩
  · exact .inl (same.trans found)
  · rw [memory, found, Option.map_some, Option.some.injEq] at remembered
    exact .inr ⟨gone, remembered ▸ old⟩

theorem lookup_of_swept {nowUs : UInt64} {key : String} {ts : UInt64}
    (found : (manager.swept nowUs).alertHistory[key]? = some ts) :
    manager.alertHistory[key]? = some ts := by
  rcases manager.sweepHistory_lookup nowUs key with same | ⟨gone, _⟩
  · exact same.symm.trans found
  · exact absurd (gone.symm.trans found) (by simp)

theorem Outcome.Bounded.of_filtered {params : AlertManagerParams} {filtered : Filtered}
    (within : ¬(0 < params.maxHistorySize ∧
      params.maxHistorySize < filtered.manager.alertHistory.size)) :
    (Outcome.mk filtered filtered.manager []).Bounded ratio params filtered.currentTimeUs where
  size limited := by
    dsimp only
    omega
  kept _ _ found := found
  swept key ts found gone _ := absurd (found.symm.trans gone) (by simp)
  evicted entry member := absurd member List.not_mem_nil
  target evicts := absurd rfl evicts

theorem Outcome.Bounded.of_swept {params : AlertManagerParams} {filtered : Filtered}
    (limits : SameLimits (init params) filtered.manager)
    (fits : (filtered.manager.swept filtered.currentTimeUs).alertHistory.size ≤
      (filtered.manager.swept filtered.currentTimeUs).sizeTarget ratio) :
    (Outcome.mk filtered (filtered.manager.swept filtered.currentTimeUs) []).Bounded ratio params
      filtered.currentTimeUs where
  size limited := by
    have limit : (filtered.manager.swept filtered.currentTimeUs).maxHistorySize =
      params.maxHistorySize := limits.maxHistorySize
    have most := sizeTarget_le_max (limit ▸ limited) ratio
    exact fits.trans (limit ▸ most)
  kept _ _ found := lookup_of_swept found
  swept key ts found gone _ := by
    rcases swept_lookup filtered.currentTimeUs found with stays | ⟨_, old⟩
    · exact absurd (stays.symm.trans gone) (by simp)
    · rwa [← limits.cooldownUs]
  evicted entry member := absurd member List.not_mem_nil
  target evicts := absurd rfl evicts

theorem Outcome.Bounded.of_evicted {params : AlertManagerParams} {filtered : Filtered}
    (limits : SameLimits (init params) filtered.manager) (byAge : StdSort Entry.rank) :
    let history := filtered.manager.swept filtered.currentTimeUs
    (Outcome.mk filtered (history.evict (history.oldest ratio byAge))
      (history.oldest ratio byAge)).Bounded ratio params filtered.currentTimeUs := by
  intro history
  constructor
  · intro limited
    have limit : history.maxHistorySize = params.maxHistorySize := limits.maxHistorySize
    dsimp only
    rw [size_evict_oldest, ← limit]
    exact sizeTarget_le_max (limit ▸ limited) ratio
  · intro key ts found
    rw [evict_lookup] at found
    split at found
    · simp at found
    · exact lookup_of_swept found
  · intro key ts found gone spared
    rcases swept_lookup filtered.currentTimeUs found with stays | ⟨_, old⟩
    · rw [evict_lookup] at gone
      split at gone
      · rename_i named
        obtain ⟨entry, member, rfl⟩ := List.mem_map.mp named
        have same := (lookup_of_mem_oldest member).symm.trans stays
        exact absurd (Option.some.inj same ▸ member) spared
      · exact absurd (stays.symm.trans gone) (by simp)
    · rwa [← limits.cooldownUs]
  · intro entry member
    refine ⟨lookup_of_mem_oldest member, ?_, fun key ts => oldest_le member⟩
    rw [evict_lookup, if_pos (List.mem_map_of_mem member)]
  · intro _
    exact ⟨length_oldest, size_evict_oldest history ratio byAge⟩

theorem cleanupHistoryAt_bounded {params : AlertManagerParams} {filtered : Filtered}
    (limits : SameLimits (init params) filtered.manager) (ratio : CleanupRatio)
    (byAge : StdSort Entry.rank) :
    let cleaned := filtered.manager.cleanupHistoryAt ratio byAge filtered.currentTimeUs
    (Outcome.mk filtered cleaned.1 cleaned.2).Bounded ratio params filtered.currentTimeUs := by
  rw [cleanupHistoryAt]
  split
  · rename_i empty
    refine .of_filtered ?_
    rw [Std.TreeMap.isEmpty_eq_size_eq_zero, beq_iff_eq] at empty
    omega
  · dsimp only
    split
    · rename_i fits
      exact .of_swept limits fits
    · exact .of_evicted limits byAge

theorem cleanupHistoryAt_limits (manager : AlertManager) (ratio : CleanupRatio)
    (byAge : StdSort Entry.rank) (nowUs : UInt64) :
    SameLimits manager (manager.cleanupHistoryAt ratio byAge nowUs).1 := by
  rw [cleanupHistoryAt]
  split
  · exact ⟨rfl, rfl, rfl⟩
  · dsimp only
    split <;> exact ⟨rfl, rfl, rfl⟩

theorem processAlertsAt_limits (byPriority : StdSort Alert.rank) (byAge : StdSort Entry.rank)
    (manager : AlertManager) (ratio : CleanupRatio) (rawAlerts : List Alert) :
    SameLimits manager (manager.processAlertsAt ratio byPriority byAge rawAlerts).manager := by
  have looped := manager.filterAlerts_limits 0 (byPriority.sort rawAlerts)
  simp only [processAlertsAt]
  split
  · exact looped.trans (cleanupHistoryAt_limits _ ratio byAge _)
  · exact looped

def managerAfter (ratio : CleanupRatio) (byPriority : StdSort Alert.rank)
    (byAge : StdSort Entry.rank) (params : AlertManagerParams) (calls : List (List Alert)) :
    AlertManager :=
  calls.foldl (fun manager rawAlerts =>
    (manager.processAlertsAt ratio byPriority byAge rawAlerts).manager) (init params)

theorem managerAfter_limits (ratio : CleanupRatio) (byPriority : StdSort Alert.rank)
    (byAge : StdSort Entry.rank) (params : AlertManagerParams) (calls : List (List Alert)) :
    SameLimits (init params) (managerAfter ratio byPriority byAge params calls) :=
  List.foldlRecOn (motive := SameLimits (init params)) calls _ ⟨rfl, rfl, rfl⟩
    fun manager same rawAlerts _ =>
      same.trans (processAlertsAt_limits byPriority byAge manager ratio rawAlerts)

/-- Whatever the limits and the ratio are, every call of a run leaves a history that they
allow, and takes nothing from it but what has cooled down and the oldest of the rest. -/
theorem processAlertsAt_bounded (ratio : CleanupRatio) (byPriority : StdSort Alert.rank)
    (byAge : StdSort Entry.rank) (params : AlertManagerParams) (calls : List (List Alert))
    (rawAlerts : List Alert) :
    ((managerAfter ratio byPriority byAge params calls).processAlertsAt ratio byPriority byAge
      rawAlerts).Bounded ratio params (lastTimestamp (byPriority.sort rawAlerts)) := by
  have limits := managerAfter_limits ratio byPriority byAge params calls
  generalize managerAfter ratio byPriority byAge params calls = manager at limits ⊢
  have looped := limits.trans (manager.filterAlerts_limits 0 (byPriority.sort rawAlerts))
  rw [lastTimestamp, ← manager.filterAlerts_lastTimestamp]
  simp only [processAlertsAt]
  split
  · exact cleanupHistoryAt_bounded looped ratio byAge
  · rename_i within
    refine .of_filtered fun exceeds => within (.inr ?_)
    rw [limits.maxHistorySize]
    exact exceeds

end AlertManager

end Iq9Pipeline.RuleProcess
