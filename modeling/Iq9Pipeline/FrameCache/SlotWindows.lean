import Iq9Pipeline.FrameCache.Nv12ToRgb
import Iq9Pipeline.FrameCache.ProducerInit
import Iq9Pipeline.FrameCache.SlotLedger
import Mathlib.Order.CompletePartialOrder
import Mathlib.Order.Interval.Set.Disjoint

/-!
Where `SubmitFrame` writes. The windows come from the configured geometry and never
move; the stores come from the geometry of the frame, which nothing compares with the
window.
-/

namespace Iq9Pipeline.FrameCache

open Foundation

def SlotPool.window (pool : SlotPool) (index : Nat) : Set Nat :=
  Set.Ico (pool.getSlotOffset index) (pool.getSlotOffset index + pool.slotStride)

structure WritesInside (pool : SlotPool) (slot : Nat) (writes : List (Int × UInt8)) : Prop where
  acquired : slot < pool.slots.length
  inside : ∀ write ∈ writes, pool.getSlotOffset slot ≤ pool.getSlotOffset slot + write.1 ∧
    pool.getSlotOffset slot + write.1 < pool.getSlotOffset slot + pool.slotStride
  disjoint : ∀ first second, first < pool.slots.length → second < pool.slots.length →
    first ≠ second → Disjoint (pool.window first) (pool.window second)
  contained : ∀ index < pool.slots.length, pool.window index ⊆ Set.Ico 0 pool.bufferSize

def Fits (config : Config) (args : FrameArgs) : Prop :=
  3 * args.width.toInt * args.height.toInt ≤ pageCeil (rgbBytes config.width config.height) ∧
    3 * args.width.toInt * (args.height.toInt - 1) < 2 ^ 31 ∧ 3 * args.width.toInt ≤ 2 ^ 31

theorem SlotPool.Layout.disjoint {pool : SlotPool} {stride count first second : Nat}
    (layout : pool.Layout stride count) (inFirst : first < count) (inSecond : second < count)
    (different : first ≠ second) : Disjoint (pool.window first) (pool.window second) := by
  rw [window, window, layout.getSlotOffset_eq inFirst, layout.getSlotOffset_eq inSecond,
    layout.slotStride, Set.Ico_disjoint_Ico]
  rcases Nat.lt_or_gt_of_ne different with below | above
  · have step : first * stride + stride ≤ second * stride := by
      rw [← Nat.succ_mul]
      exact Nat.mul_le_mul_right _ below
    omega
  · have step : second * stride + stride ≤ first * stride := by
      rw [← Nat.succ_mul]
      exact Nat.mul_le_mul_right _ above
    omega

theorem SlotPool.Layout.contained {pool : SlotPool} {stride count index : Nat}
    (layout : pool.Layout stride count) (inside : index < count) :
    pool.window index ⊆ Set.Ico 0 pool.bufferSize := by
  rw [window, layout.getSlotOffset_eq inside, layout.slotStride, layout.bufferSize]
  apply Set.Ico_subset_Ico (Nat.zero_le _)
  rw [← Nat.succ_mul, Nat.mul_comm stride]
  exact Nat.mul_le_mul_right _ inside

namespace DmaBufProducer

variable {Thread : Type} [DecidableEq Thread]

def initialised (Thread : Type) [DecidableEq Thread] (config : Config) (answers : InitAnswers) :
    Machine (DmaBufProducer Thread) (Action Thread) where
  start producer := ∃ made, InitialisedProducer.init config answers = .ok made ∧
    producer = ofPool made.slotPool made.relayMode
  step := step

theorem Effect.layout {before after : DmaBufProducer Thread} {action : Action Thread}
    {stride count : Nat} (effect : Effect before action after)
    (layout : before.slotPool.Layout stride count) : after.slotPool.Layout stride count := by
  cases effect with
  | inner _ pool _ _ => exact pool ▸ layout
  | handsOver _ _ _ => exact layout
  | submitRefused _ _ => exact layout
  | revertRefused _ _ => exact layout
  | acquired _ _ => exact layout.setState _ _
  | released _ _ => exact layout.setState _ _
  | submitted _ _ => exact layout.setState _ _
  | reverted _ _ => exact layout.setState _ _

theorem initialised_layout {config : Config} {answers : InitAnswers}
    {producer : DmaBufProducer Thread}
    (reachable : (initialised Thread config answers).Reachable producer) :
    producer.slotPool.Layout (pageCeil (rgbBytes config.width config.height))
      config.slots.toInt.toNat := by
  apply reachable.invariant fun producer : DmaBufProducer Thread =>
    producer.slotPool.Layout (pageCeil (rgbBytes config.width config.height))
      config.slots.toInt.toNat
  · rintro producer ⟨made, accepted, rfl⟩
    exact (InitialisedProducer.init_layout accepted).2.2.2
  · intro producer action next layout stepped
    exact (step_effect stepped).layout layout

theorem initialised_reachable {config : Config} {answers : InitAnswers}
    {producer : DmaBufProducer Thread}
    (reachable : (initialised Thread config answers).Reachable producer) :
    (machine Thread).Reachable producer := by
  apply reachable.project id
  · rintro producer ⟨made, accepted, rfl⟩
    exact fresh_ofPool _ (InitialisedProducer.init_ok accepted).2.2.1
  · intro producer action next stepped
    exact .inr ⟨action, stepped⟩

/-- A thread between the two cache syncs has written inside its own slot, exactly when
its frame fits the configured geometry. -/
theorem writesInside_iff {config : Config} {answers : InitAnswers}
    {producer : DmaBufProducer Thread} {thread : Thread} {args : FrameArgs} {slot : Nat}
    (nv12 : Int → UInt8) (reachable : (initialised Thread config answers).Reachable producer)
    (written : producer.pc thread = .syncEnd args slot) (wide : 0 < args.width.toInt)
    (high : 0 < args.height.toInt) :
    WritesInside producer.slotPool slot
        (nv12ToRgb24 nv12 args.uvOffset args.width args.height args.yStride) ↔
      Fits config args := by
  have layout := initialised_layout reachable
  rw [Fits, ← nv12ToRgb24_inside_iff nv12 args.uvOffset args.yStride _ wide high]
  obtain ⟨_, _, refines⟩ := reachable_refines (initialised_reachable reachable)
  constructor
  · intro writes write member
    have bounds := writes.inside write member
    rw [layout.slotStride] at bounds
    omega
  · intro bounds
    refine ⟨?_, fun write member => ?_, ?_, ?_⟩
    · have owns : (producer.pc thread).owns = some slot := by simp [written, Pc.owns]
      have inUse := refines.inUse owns
      simp only [SlotPool.state?, Option.map_eq_some_iff] at inUse
      obtain ⟨_, found, _⟩ := inUse
      exact (List.getElem?_eq_some_iff.mp found).1
    · have bound := bounds write member
      rw [layout.slotStride]
      omega
    · intro first second inFirst inSecond different
      exact layout.disjoint (layout.length ▸ inFirst) (layout.length ▸ inSecond) different
    · intro index bound
      exact layout.contained (layout.length ▸ bound)

def largeArgs : FrameArgs where
  width := 64
  height := 64
  yStride := 64
  uvOffset := 4096
  timestampNs := 1000

theorem written_small (args : FrameArgs) : ∃ producer : DmaBufProducer (Fin 1),
    (initialised (Fin 1) (geometry 32 32 1) willingAnswers).Reachable producer ∧
      producer.pc 0 = .syncEnd args 0 := by
  let actions : List (Action (Fin 1)) := [.call 0 args, .lockPoll 0, .pollRelease 0 none,
    .acquireSlot 0, .mapSlot 0, .syncStart 0 none]
  have reached : (InitialisedProducer.init (geometry 32 32 1) willingAnswers).toOption.bind
      (fun made => ((initialised (Fin 1) (geometry 32 32 1) willingAnswers).run (fun _ _ => True)
        (ofPool made.slotPool made.relayMode) actions).map fun producer => producer.pc 0) =
      some (.syncEnd args 0) := rfl
  cases accepted : InitialisedProducer.init (geometry 32 32 1) willingAnswers with
  | error reason => simp [accepted, Except.toOption] at reached
  | ok made =>
      simp only [accepted, Except.toOption, Option.bind_some] at reached
      obtain ⟨producer, ran, written⟩ := Option.map_eq_some_iff.mp reached
      exact ⟨producer, Machine.ReachableUnder.run
        (Machine.ReachableUnder.start ⟨made, accepted, rfl⟩) ran, written⟩

theorem writesInside_iff_sameGeometry : ∃ producer : DmaBufProducer (Fin 1),
    producer.pc 0 = .syncEnd demoArgs 0 ∧
      (WritesInside producer.slotPool 0
        (nv12ToRgb24 (fun _ => 0) demoArgs.uvOffset demoArgs.width demoArgs.height
          demoArgs.yStride) ↔ Fits (geometry 32 32 1) demoArgs) := by
  obtain ⟨producer, reachable, written⟩ := written_small demoArgs
  exact ⟨producer, written, writesInside_iff _ reachable written (by decide) (by decide)⟩

/-- A frame of twice the width and height runs out of its slot and of the buffer. -/
theorem writesOutside : ¬ ∀ (producer : DmaBufProducer (Fin 1)) (args : FrameArgs) (slot : Nat),
    (initialised (Fin 1) (geometry 32 32 1) willingAnswers).Reachable producer →
    producer.pc 0 = .syncEnd args slot → 0 < args.width.toInt → 0 < args.height.toInt →
    0 < args.yStride.toInt →
    WritesInside producer.slotPool slot
      (nv12ToRgb24 (fun _ => 0) args.uvOffset args.width args.height args.yStride) := by
  intro universal
  obtain ⟨producer, reachable, written⟩ := written_small largeArgs
  have writes :=
    universal producer largeArgs 0 reachable written (by decide) (by decide) (by decide)
  have layout := initialised_layout reachable
  have inside : ∀ write ∈ nv12ToRgb24 (fun _ => 0) largeArgs.uvOffset largeArgs.width
      largeArgs.height largeArgs.yStride, 0 ≤ write.1 ∧
        write.1 < ((pageCeil (rgbBytes 32 32) : Nat) : Int) := by
    intro write member
    have bounds := writes.inside write member
    rw [layout.slotStride] at bounds
    exact ⟨by omega, by have := bounds.2; simp only [geometry] at this; omega⟩
  have fits := ((nv12ToRgb24_inside_iff _ _ _ _ (by decide) (by decide)).mp inside).1
  exact absurd fits (by decide)

end DmaBufProducer

end Iq9Pipeline.FrameCache
