import Iq9Pipeline.MultiCam.Deduper

/-!
The deduper over a run. What it keeps is the last frame that it let through since the
last reset, so the frames that it drops in between never drift away from that one.
-/

namespace Iq9Pipeline.MultiCam.Deduper

open Foundation KeyedTable

section

variable {K : Type}

inductive Call (K : Type)
  | isInteresting (entries : List (TrackEntry K))
  | reset

def objects (naming : List UInt8 → List UInt8) (entries : List (TrackEntry K)) :
    List ((List UInt8 × UInt32) × BoxSnapshot K) :=
  (tracked entries).map fun entry => ((naming entry.label, entry.trackId), snapshot entry)

def keys (naming : List UInt8 → List UInt8) (entries : List (TrackEntry K)) :
    List (List UInt8 × UInt32) :=
  (objects naming entries).map Prod.fst

theorem records_eq (entries : List (TrackEntry K)) :
    records entries = (objects displayName entries).map fun object =>
      (joinKey object.1, object.2) := by
  simp [records, objects, makeKey]

theorem recorded_records (entries : List (TrackEntry K)) (key : List UInt8 × UInt32) :
    recorded (records entries) (joinKey key) = recorded (objects displayName entries) key := by
  rw [records_eq, recorded_map joinKey_injective]

theorem mem_records_iff (entries : List (TrackEntry K)) (key : List UInt8 × UInt32) :
    joinKey key ∈ (records entries).map Prod.fst ↔ key ∈ keys displayName entries := by
  rw [← recorded_isSome_iff, recorded_records, recorded_isSome_iff, keys]

theorem exists_of_mem_records {entries : List (TrackEntry K)} {key : TrackKey}
    (listed : key ∈ (records entries).map Prod.fst) :
    ∃ named ∈ keys displayName entries, joinKey named = key := by
  rw [records_eq, List.map_map, List.mem_map] at listed
  obtain ⟨object, member, rfl⟩ := listed
  exact ⟨object.1, List.mem_map_of_mem member, rfl⟩

variable [Field K] [LinearOrder K]

def Differs (naming : List UInt8 → List UInt8) (threshold : K)
    (last now : List (TrackEntry K)) : Prop :=
  (¬ ∀ key, key ∈ keys naming now ↔ key ∈ keys naming last) ∨
    ∃ object ∈ objects naming now, ∃ earlier ∈ objects naming last,
      object.1 = earlier.1 ∧ calculateIoU object.2 earlier.2 < threshold

theorem Matches.not_differs {threshold : K} {last now : List (TrackEntry K)}
    (distinct : (keys displayName last).Nodup)
    (same : Matches threshold (recorded (records last)) now) :
    ¬ Differs displayName threshold last now := by
  have near : ∀ object ∈ objects displayName now, ∃ box,
      recorded (objects displayName last) object.1 = some box ∧
        threshold ≤ calculateIoU object.2 box := by
    intro object listed
    have record : (joinKey object.1, object.2) ∈ records now := by
      rw [records_eq]
      exact List.mem_map_of_mem (f := fun object => (joinKey object.1, object.2)) listed
    simpa [recorded_records] using same.near _ record
  rintro (keysDiffer | ⟨object, listed, earlier, member, named, moved⟩)
  · refine keysDiffer fun key => ⟨fun listed => ?_, fun listed => ?_⟩
    · obtain ⟨object, member, rfl⟩ := List.mem_map.mp listed
      obtain ⟨box, found, _⟩ := near object member
      exact (recorded_isSome_iff _ _).mp (found ▸ rfl)
    · rw [← mem_records_iff, ← recorded_isSome_iff] at listed
      exact (mem_records_iff now key).mp (same.kept _ listed)
  · obtain ⟨box, found, close⟩ := near object listed
    rw [named, recorded_of_mem distinct member, Option.some.injEq] at found
    exact absurd (found ▸ moved) (not_lt.mpr close)

theorem matches_of_not_differs {threshold : K} {last now : List (TrackEntry K)}
    (same : ¬ Differs displayName threshold last now) :
    Matches threshold (recorded (records last)) now := by
  rw [Differs, not_or, not_not] at same
  obtain ⟨sameKeys, unmoved⟩ := same
  constructor
  · intro record listed
    rw [records_eq] at listed
    obtain ⟨object, member, rfl⟩ := List.mem_map.mp listed
    have named := (sameKeys object.1).mp (List.mem_map_of_mem member)
    obtain ⟨box, found⟩ := Option.isSome_iff_exists.mp ((recorded_isSome_iff _ _).mpr named)
    refine ⟨box, (recorded_records last _).trans found, ?_⟩
    by_contra moved
    exact unmoved ⟨object, member, _, mem_of_recorded found, rfl, not_le.mp moved⟩
  · intro key stored
    obtain ⟨named, listed, rfl⟩ := exists_of_mem_records ((recorded_isSome_iff _ _).mp stored)
    exact (mem_records_iff now named).mpr ((sameKeys named).mpr listed)

end

section

variable {K : Type} [Field K] [LinearOrder K]

structure Watched (K : Type) where
  deduper : Deduper K
  lastPassed : List (TrackEntry K)

namespace Watched

def call (watched : Watched K) : Call K → Watched K
  | .isInteresting entries =>
      let answer := watched.deduper.isInteresting entries
      ⟨answer.2, if answer.1 then entries else watched.lastPassed⟩
  | .reset => ⟨watched.deduper.reset, []⟩

def after (iouThreshold : K) (calls : List (Call K)) : Watched K :=
  calls.foldl call ⟨{ iouThreshold }, []⟩

structure Keeps (iouThreshold : K) (watched : Watched K) : Prop where
  iouThreshold : watched.deduper.iouThreshold = iouThreshold
  stored : ∀ key,
    watched.deduper.lastFrameObjects[key]? = recorded (records watched.lastPassed) key

theorem Keeps.call {iouThreshold : K} {watched : Watched K} (keeps : watched.Keeps iouThreshold)
    (call : Call K) : (watched.call call).Keeps iouThreshold := by
  cases call with
  | isInteresting entries =>
      refine ⟨(isInteresting_iouThreshold _ _).trans keeps.iouThreshold, fun key => ?_⟩
      cases passed : (watched.deduper.isInteresting entries).1 with
      | false => simp [Watched.call, passed, isInteresting_kept passed, keeps.stored]
      | true => simp [Watched.call, passed, isInteresting_stored passed]
  | reset =>
      refine ⟨keeps.iouThreshold, fun key => ?_⟩
      simp [Watched.call, reset, records, tracked, recorded]

theorem after_keeps (iouThreshold : K) (calls : List (Call K)) :
    (after iouThreshold calls).Keeps iouThreshold := by
  refine List.foldlRecOn calls Watched.call ⟨rfl, fun key => ?_⟩
    fun watched keeps call _ => keeps.call call
  simp [records, tracked, recorded]

theorem after_lastPassed (holds : List (TrackEntry K) → Prop) {calls : List (Call K)}
    (empty : holds []) (frames : ∀ entries, Call.isInteresting entries ∈ calls → holds entries)
    (iouThreshold : K) : holds (after iouThreshold calls).lastPassed := by
  refine List.foldlRecOn (motive := fun watched => holds watched.lastPassed) calls
    Watched.call ?_ fun watched held call made => ?_
  · exact empty
  · cases call with
    | reset => exact empty
    | isInteresting entries =>
        rw [Watched.call]
        split
        · exact frames entries made
        · exact held

end Watched

/-- Whatever was dropped in between, the deduper compares with the last frame it let
through, and what it drops is close to that frame. -/
theorem isInteresting_iff_differs (iouThreshold : K) (calls : List (Call K))
    (entries : List (TrackEntry K))
    (distinct : ∀ frame, Call.isInteresting frame ∈ calls ++ [.isInteresting entries] →
      (keys displayName frame).Nodup) :
    let watched := Watched.after iouThreshold calls
    ((watched.deduper.isInteresting entries).1 = true ↔
      Differs displayName iouThreshold watched.lastPassed entries) ∧
    ((watched.deduper.isInteresting entries).1 = false →
      ∀ object ∈ objects displayName entries,
        ∃ earlier ∈ objects displayName watched.lastPassed,
          object.1 = earlier.1 ∧ iouThreshold ≤ calculateIoU object.2 earlier.2) := by
  intro watched
  have keeps := Watched.after_keeps iouThreshold calls
  have lastDistinct : (keys displayName watched.lastPassed).Nodup :=
    Watched.after_lastPassed (fun frame => (keys displayName frame).Nodup) List.nodup_nil
      (fun frame made => distinct frame (List.mem_append_left _ made)) iouThreshold
  have decides : (watched.deduper.isInteresting entries).1 = false ↔
      ¬ Differs displayName iouThreshold watched.lastPassed entries := by
    rw [isInteresting_eq_false_iff, keeps.iouThreshold, funext keeps.stored]
    exact ⟨Matches.not_differs lastDistinct, matches_of_not_differs⟩
  refine ⟨?_, fun dropped object listed => ?_⟩
  · rw [← Bool.not_eq_false, decides, not_not]
  · have unmoved := decides.mp dropped
    rw [Differs, not_or, not_not] at unmoved
    have named := (unmoved.1 object.1).mp (List.mem_map_of_mem listed)
    obtain ⟨earlier, member, same⟩ := List.mem_map.mp named
    refine ⟨earlier, member, same.symm, ?_⟩
    by_contra moved
    exact unmoved.2 ⟨object, listed, earlier, member, same.symm, not_le.mp moved⟩

end

section

def labelled (label : String) (left right : ℚ) : TrackEntry ℚ :=
  ⟨JsonText.utf8 label, 1, left, 0, right, 1⟩

def drive : List (Call ℚ) :=
  [.isInteresting [labelled "car#1" 0 1], .reset, .isInteresting [labelled "car" 0 1],
    .isInteresting [labelled "car" 0 (9 / 10)]]

/-- The car has moved little since the frame in between, and far since the one before. -/
theorem isInteresting_iff_differs_drive :
    (Watched.after (3 / 4) drive).lastPassed = [labelled "car" 0 1] ∧
      Differs displayName (3 / 4) (Watched.after (3 / 4) drive).lastPassed
        [labelled "car" 0 (7 / 10)] := by
  refine ⟨by decide +kernel, (isInteresting_iff_differs (3 / 4) drive _ ?_).1.mp ?_⟩
  · intro frame made
    simp only [drive, List.cons_append, List.nil_append, List.mem_cons, Call.isInteresting.injEq,
      reduceCtorEq, List.not_mem_nil, or_false, false_or] at made
    rcases made with rfl | rfl | rfl | rfl <;> decide +kernel
  · decide +kernel

def unlabelled : Watched ℚ :=
  Watched.after (3 / 4) [.isInteresting [labelled "" 0 1]]

/-- Under the labels themselves an object without a label and one labelled unknown differ. -/
theorem unknown_not_interesting :
    (∀ frame, Call.isInteresting frame ∈
      [Call.isInteresting [labelled "" 0 1], .isInteresting [labelled "unknown" 0 1]] →
        (keys id frame).Nodup) ∧
      unlabelled.lastPassed = [labelled "" 0 1] ∧
      Differs id (3 / 4) unlabelled.lastPassed [labelled "unknown" 0 1] ∧
      (unlabelled.deduper.isInteresting [labelled "unknown" 0 1]).1 = false := by
  have passed : unlabelled.lastPassed = [labelled "" 0 1] := by decide +kernel
  refine ⟨?_, passed, ?_, by decide +kernel⟩
  · intro frame made
    simp only [List.mem_cons, Call.isInteresting.injEq, List.not_mem_nil, or_false] at made
    rcases made with rfl | rfl <;> decide +kernel
  · rw [passed]
    refine .inl fun same => ?_
    have listed := (same (JsonText.utf8 "unknown", 1)).mp (by decide +kernel)
    exact absurd listed (by decide +kernel)

end

end Iq9Pipeline.MultiCam.Deduper
