import Iq9Pipeline.RuleProcess.DataTypes
import Mathlib.Data.List.Sort
import Mathlib.Data.String.Basic
import Std.Data.TreeMap.Lemmas

/-!
The alert manager (`core/AlertManager.h`): the cooldown of each dedup key, and
the history it is checked against with its stale sweep and its size limits.
-/

namespace Iq9Pipeline.RuleProcess

/-- What `std::sort` promises about a comparison of ranks; equal ranks come in any order. -/
structure StdSort {Item : Type} (rank : Item → Int) where
  sort : List Item → List Item
  perm : ∀ items, (sort items).Perm items
  ordered : ∀ items, (sort items).Pairwise fun first second => rank first ≤ rank second

def StdSort.insertion {Item : Type} (rank : Item → Int) : StdSort rank where
  sort := List.insertionSort fun first second => rank first ≤ rank second
  perm := List.perm_insertionSort _
  ordered items :=
    haveI : Std.Total fun first second : Item => rank first ≤ rank second :=
      ⟨fun _ _ => Int.le_total _ _⟩
    haveI : IsTrans Item fun first second => rank first ≤ rank second :=
      ⟨fun _ _ _ => Int.le_trans⟩
    List.pairwise_insertionSort _ items

structure AlertManagerParams where
  cooldownSeconds : Int32 := 5
  maxHistorySize : Nat := 10000
  cleanupThreshold : Nat := 8000
  cleanupRatio : Float := 0.5

structure AlertManager where
  alertHistory : Std.TreeMap String UInt64
  cooldownUs : UInt64
  maxHistorySize : Nat
  cleanupThreshold : Nat
  cleanupRatio : Float

abbrev Alert.rank (alert : Alert) : Int := alert.priority.toInt

abbrev Entry := UInt64 × String

abbrev Entry.rank (entry : Entry) : Int := entry.1.toNat

namespace AlertManager

def init (params : AlertManagerParams) : AlertManager where
  alertHistory := ∅
  cooldownUs := params.cooldownSeconds.toInt64.toUInt64 * 1000000
  maxHistorySize := params.maxHistorySize
  cleanupThreshold := params.cleanupThreshold
  cleanupRatio := params.cleanupRatio

def isInCooldown (manager : AlertManager) (key : String) (nowUs : UInt64) : Bool :=
  match manager.alertHistory[key]? with
  | none => false
  | some ts => decide (nowUs - ts < manager.cooldownUs)

def updateCooldown (manager : AlertManager) (key : String) (nowUs : UInt64) : AlertManager :=
  { manager with alertHistory := manager.alertHistory.insert key nowUs }

structure Filtered where
  manager : AlertManager
  finalAlerts : List Alert
  currentTimeUs : UInt64

def filterAlerts (manager : AlertManager) (currentTimeUs : UInt64) : List Alert → Filtered
  | [] => { manager := manager, finalAlerts := [], currentTimeUs := currentTimeUs }
  | alert :: alerts =>
      if manager.isInCooldown alert.dedupKey alert.timestamp then
        filterAlerts manager alert.timestamp alerts
      else
        let rest := filterAlerts (manager.updateCooldown alert.dedupKey alert.timestamp)
          alert.timestamp alerts
        { rest with finalAlerts := alert :: rest.finalAlerts }

def expired (manager : AlertManager) (nowUs ts : UInt64) : Bool :=
  decide (ts ≤ nowUs) && decide (manager.cooldownUs ≤ nowUs - ts)

def sweepHistory (manager : AlertManager) (nowUs : UInt64) : Std.TreeMap String UInt64 :=
  if 0 < nowUs ∧ 0 < manager.cooldownUs then
    manager.alertHistory.filter fun _ ts => !manager.expired nowUs ts
  else
    manager.alertHistory

def desiredSize (manager : AlertManager) : Nat :=
  let size := manager.alertHistory.size
  let capped :=
    if 0 < manager.maxHistorySize ∧ manager.maxHistorySize < size then manager.maxHistorySize
    else size
  if 0 < manager.cleanupThreshold ∧ manager.cleanupThreshold < size then
    if 0.0 < manager.cleanupRatio ∧ manager.cleanupRatio < 1.0 then
      let ratioTarget :=
        ((UInt64.ofNat size).toFloat * (1.0 - manager.cleanupRatio)).toUInt64.toNat
      if ratioTarget < capped then ratioTarget else capped
    else if 1.0 ≤ manager.cleanupRatio then 0
    else capped
  else capped

def entries (manager : AlertManager) : List Entry :=
  manager.alertHistory.toList.map fun entry => (entry.2, entry.1)

def evictions (byAge : StdSort Entry.rank) (manager : AlertManager) : List Entry :=
  (byAge.sort manager.entries).take (manager.alertHistory.size - manager.desiredSize)

def evict (manager : AlertManager) (entries : List Entry) : AlertManager :=
  { manager with
    alertHistory := entries.foldl (fun history entry => history.erase entry.2)
      manager.alertHistory }

def cleanupHistory (byAge : StdSort Entry.rank) (manager : AlertManager) (nowUs : UInt64) :
    AlertManager × List Entry :=
  if manager.alertHistory.isEmpty then (manager, [])
  else
    let swept := { manager with alertHistory := manager.sweepHistory nowUs }
    if swept.alertHistory.size ≤ swept.desiredSize then (swept, [])
    else
      let evicted := swept.evictions byAge
      (swept.evict evicted, evicted)

structure Outcome where
  filtered : Filtered
  manager : AlertManager
  evicted : List Entry

def processAlerts (byPriority : StdSort Alert.rank) (byAge : StdSort Entry.rank)
    (manager : AlertManager) (rawAlerts : List Alert) : Outcome :=
  let filtered := manager.filterAlerts 0 (byPriority.sort rawAlerts)
  let size := filtered.manager.alertHistory.size
  let overSoftLimit := 0 < manager.cleanupThreshold ∧ manager.cleanupThreshold < size
  let overHardLimit := 0 < manager.maxHistorySize ∧ manager.maxHistorySize < size
  let cleaned :=
    if overSoftLimit ∨ overHardLimit then
      filtered.manager.cleanupHistory byAge filtered.currentTimeUs
    else (filtered.manager, [])
  { filtered := filtered
    manager := cleaned.1
    evicted := cleaned.2 }

def Outcome.finalAlerts (outcome : Outcome) : List Alert :=
  outcome.filtered.finalAlerts

theorem processAlerts_filtered (byPriority : StdSort Alert.rank) (byAge : StdSort Entry.rank)
    (manager : AlertManager) (rawAlerts : List Alert) :
    (manager.processAlerts byPriority byAge rawAlerts).filtered =
      manager.filterAlerts 0 (byPriority.sort rawAlerts) := rfl

def memory (manager : AlertManager) (key : String) : Option Nat :=
  manager.alertHistory[key]?.map UInt64.toNat

variable {manager : AlertManager} {byAge : StdSort Entry.rank}

theorem memory_init (params : AlertManagerParams) (key : String) :
    (init params).memory key = none := by
  simp [memory, init]

theorem memory_updateCooldown (key : String) (nowUs : UInt64) :
    (manager.updateCooldown key nowUs).memory =
      Function.update manager.memory key (some nowUs.toNat) := by
  funext other
  simp only [memory, updateCooldown, Std.TreeMap.getElem?_insert, Std.LawfulEqCmp.compare_eq_iff_eq]
  by_cases same : key = other
  · subst other
    simp
  · simp [same, Function.update_of_ne (Ne.symm same), memory]

theorem isInCooldown_eq_false_iff {key : String} {nowUs : UInt64}
    (ordered : ∀ last, manager.memory key = some last → last ≤ nowUs.toNat) :
    manager.isInCooldown key nowUs = false ↔
      ∀ last, manager.memory key = some last →
        last + manager.cooldownUs.toNat ≤ nowUs.toNat := by
  simp only [memory, isInCooldown] at ordered ⊢
  cases found : manager.alertHistory[key]? with
  | none => simp
  | some ts =>
      have past : ts ≤ nowUs := UInt64.le_iff_toNat_le.mpr (ordered _ (by simp [found]))
      have difference := UInt64.toNat_sub_of_le _ _ past
      simp only [Option.map_some, Option.some.injEq, forall_eq', decide_eq_false_iff_not,
        UInt64.lt_iff_toNat_lt, difference]
      have order := UInt64.le_iff_toNat_le.mp past
      omega

theorem expired_iff {nowUs ts : UInt64} :
    manager.expired nowUs ts = true ↔ ts.toNat + manager.cooldownUs.toNat ≤ nowUs.toNat := by
  simp only [expired, Bool.and_eq_true, decide_eq_true_eq, UInt64.le_iff_toNat_le]
  constructor
  · rintro ⟨past, old⟩
    rw [UInt64.toNat_sub_of_le _ _ (UInt64.le_iff_toNat_le.mpr past)] at old
    omega
  · intro old
    have past : ts.toNat ≤ nowUs.toNat := by omega
    rw [UInt64.toNat_sub_of_le _ _ (UInt64.le_iff_toNat_le.mpr past)]
    omega

theorem sweepHistory_lookup (nowUs : UInt64) (key : String) :
    (manager.sweepHistory nowUs)[key]? = manager.alertHistory[key]? ∨
      (manager.sweepHistory nowUs)[key]? = none ∧ 0 < nowUs ∧
        ∃ last, manager.memory key = some last ∧
          last + manager.cooldownUs.toNat ≤ nowUs.toNat := by
  simp only [sweepHistory]
  split
  · rename_i sweeping
    rw [Std.TreeMap.getElem?_filter']
    cases found : manager.alertHistory[key]? with
    | none => exact .inl rfl
    | some ts =>
        by_cases old : manager.expired nowUs ts = true
        · refine .inr ⟨by simp [Option.filter, old], sweeping.1, ts.toNat, ?_, expired_iff.mp old⟩
          simp [memory, found]
        · exact .inl (by simp [Option.filter, old])
  · exact .inl rfl

theorem evict_lookup (manager : AlertManager) (evicted : List Entry) (key : String) :
    (manager.evict evicted).alertHistory[key]? =
      if key ∈ evicted.map Prod.snd then none else manager.alertHistory[key]? := by
  induction evicted generalizing manager with
  | nil => simp [evict]
  | cons entry evicted ih =>
      have rest := ih { manager with alertHistory := manager.alertHistory.erase entry.2 }
      simp only [evict, List.foldl_cons] at rest ⊢
      rw [rest, Std.TreeMap.getElem?_erase]
      by_cases same : entry.2 = key
      · simp [same]
      · have other : key ≠ entry.2 := Ne.symm same
        simp only [List.map_cons, List.mem_cons, other, false_or,
          Std.LawfulEqCmp.compare_eq_iff_eq, same, if_false]

theorem lookup_of_mem_sort {entry : Entry} (member : entry ∈ byAge.sort manager.entries) :
    manager.alertHistory[entry.2]? = some entry.1 := by
  rw [(byAge.perm _).mem_iff, entries, List.mem_map] at member
  obtain ⟨pair, listed, rfl⟩ := member
  exact Std.TreeMap.mem_toList_iff_getElem?_eq_some.mp listed

structure Cleans (before after : AlertManager) (nowUs : UInt64) (evicted : List Entry) : Prop where
  cooldownUs : after.cooldownUs = before.cooldownUs
  kept : ∀ key last, after.memory key = some last → before.memory key = some last
  fate : ∀ key last, before.memory key = some last → after.memory key = some last ∨
    after.memory key = none ∧
      (0 < nowUs ∧ last + before.cooldownUs.toNat ≤ nowUs.toNat ∨
        ∃ entry ∈ evicted, entry.1.toNat = last)

theorem Cleans.refl (manager : AlertManager) (nowUs : UInt64) :
    Cleans manager manager nowUs [] where
  cooldownUs := rfl
  kept _ _ found := found
  fate _ _ found := .inl found

theorem sweepHistory_cleans (manager : AlertManager) (nowUs : UInt64) :
    Cleans manager { manager with alertHistory := manager.sweepHistory nowUs } nowUs [] where
  cooldownUs := rfl
  kept key last found := by
    rcases manager.sweepHistory_lookup nowUs key with same | ⟨gone, _⟩
    · simpa [memory, same] using found
    · simp [memory, gone] at found
  fate key last found := by
    rcases manager.sweepHistory_lookup nowUs key with same | ⟨gone, clock, ts, remembered, old⟩
    · exact .inl (by simpa [memory, same] using found)
    · rw [remembered, Option.some.injEq] at found
      subst found
      exact .inr ⟨by simp [memory, gone], .inl ⟨clock, old⟩⟩

theorem Cleans.evict {before swept : AlertManager} {nowUs : UInt64}
    (cleans : Cleans before swept nowUs []) :
    Cleans before (swept.evict (swept.evictions byAge)) nowUs (swept.evictions byAge) where
  cooldownUs := cleans.cooldownUs
  kept key last found := by
    rw [memory, evict_lookup] at found
    split at found
    · simp at found
    · exact cleans.kept key last found
  fate key last found := by
    rcases cleans.fate key last found with stays | ⟨gone, old | ⟨_, evicted, _⟩⟩
    · by_cases chosen : key ∈ (swept.evictions byAge).map Prod.snd
      · obtain ⟨entry, member, rfl⟩ := List.mem_map.mp chosen
        refine .inr ⟨by simp [memory, evict_lookup, chosen], .inr ⟨entry, member, ?_⟩⟩
        simpa [memory, lookup_of_mem_sort (List.mem_of_mem_take member)] using stays
      · exact .inl (by simpa [memory, evict_lookup, chosen] using stays)
    · refine .inr ⟨?_, .inl old⟩
      simp only [memory, Option.map_eq_none_iff] at gone ⊢
      simp [evict_lookup, gone]
    · simp at evicted

theorem cleanupHistory_cleans (manager : AlertManager) (nowUs : UInt64) :
    Cleans manager (manager.cleanupHistory byAge nowUs).1 nowUs
      (manager.cleanupHistory byAge nowUs).2 := by
  rw [cleanupHistory]
  split
  · exact Cleans.refl manager nowUs
  · dsimp only
    split
    · exact sweepHistory_cleans manager nowUs
    · exact (sweepHistory_cleans manager nowUs).evict

theorem processAlerts_cleans (byPriority : StdSort Alert.rank) (byAge : StdSort Entry.rank)
    (manager : AlertManager) (rawAlerts : List Alert) :
    Cleans (manager.processAlerts byPriority byAge rawAlerts).filtered.manager
      (manager.processAlerts byPriority byAge rawAlerts).manager
      (manager.processAlerts byPriority byAge rawAlerts).filtered.currentTimeUs
      (manager.processAlerts byPriority byAge rawAlerts).evicted := by
  simp only [processAlerts]
  split
  · exact cleanupHistory_cleans _ _
  · exact Cleans.refl _ _

theorem filterAlerts_cooldownUs (currentTimeUs : UInt64) (alerts : List Alert) :
    (manager.filterAlerts currentTimeUs alerts).manager.cooldownUs = manager.cooldownUs := by
  induction alerts generalizing manager currentTimeUs with
  | nil => rfl
  | cons alert alerts ih =>
      simp only [filterAlerts]
      split
      · exact ih _
      · exact ih _

end AlertManager

end Iq9Pipeline.RuleProcess
