import Iq9Pipeline.Consumer.FrameFit
import Iq9Pipeline.Foundation.SharedMemory
import Iq9Pipeline.FrameCache.LinkSteps
import Iq9Pipeline.FrameCache.Nv12Coverage
import Iq9Pipeline.FrameCache.SlotWindows
import Iq9Pipeline.Handshake

/-!
The pixels behind the slot protocol. The stores of `Nv12ToRgb24` are steps of their own,
between the two cache syncs of a call, so that the threads write side by side while the
consumer reads.
-/

namespace Iq9Pipeline.FrameCache

open Foundation Consumer

structure Picture where
  args : FrameArgs
  nv12 : Int → UInt8

def Picture.stores (picture : Picture) : List (Int × UInt8) :=
  nv12ToRgb24 picture.nv12 picture.args.uvOffset picture.args.width picture.args.height
    picture.args.yStride

/-- The slot protocol over the buffer that both processes map; `stored` counts the stores
that a call has done. -/
structure SharedImage (Thread : Type) where
  link : DirectLink Thread
  memory : Int → UInt8
  calling : Thread → Picture
  stored : Thread → Nat
  submitted : List Picture

inductive ImageAction (Thread : Type)
  | call (thread : Thread) (picture : Picture)
  | store (thread : Thread)
  | link (action : LinkAction Thread)

namespace SharedImage

variable {Thread : Type} [DecidableEq Thread]

def Admits (image : SharedImage Thread) : LinkAction Thread → Prop
  | .producer (.call _ _) => False
  | .producer (.syncEnd thread _) => image.stored thread = (image.calling thread).stores.length
  | _ => True

instance (image : SharedImage Thread) (action : LinkAction Thread) :
    Decidable (image.Admits action) :=
  match action with
  | .producer (.call _ _) => instDecidableFalse
  | .producer (.syncEnd _ _) => Nat.decEq _ _
  | .producer (.lockPoll _) | .producer (.pollRelease _ _) | .producer (.acquireSlot _)
  | .producer (.mapSlot _) | .producer (.syncStart _ _) | .producer (.sendFrame _ _)
  | .producer (.submitSlot _) | .producer (.revertSlot _) | .producer (.releaseSlotDirect _)
  | .pollRelease _ | .sendFrame _ _ | .recvFrame | .releaseFrame _ => instDecidableTrue

def restarted (image : SharedImage Thread) : LinkAction Thread → Thread → Nat
  | .producer (.syncStart thread _) => Function.update image.stored thread 0
  | _ => image.stored

def step (image : SharedImage Thread) : ImageAction Thread → Option (SharedImage Thread)
  | .call thread picture =>
      (image.link.step (.producer (.call thread picture.args))).map fun link =>
        { image with
          link := link
          calling := Function.update image.calling thread picture
          submitted := image.submitted ++ [picture] }
  | .store thread =>
      match image.link.producer.pc thread with
      | .syncEnd _ slot =>
          (image.calling thread).stores[image.stored thread]?.map fun store =>
            { image with
              memory := Function.update image.memory
                (image.link.producer.slotPool.getSlotOffset slot + store.1) store.2
              stored := Function.update image.stored thread (image.stored thread + 1) }
      | _ => none
  | .link action =>
      if image.Admits action then
        (image.link.step action).map fun link =>
          { image with link := link, stored := image.restarted action }
      else none

def machine (Thread : Type) [DecidableEq Thread] (config : Config) (answers : InitAnswers) :
    Machine (SharedImage Thread) (ImageAction Thread) where
  start image := ∃ made, InitialisedProducer.init config answers = .ok made ∧
    made.relayMode = false ∧ image.submitted = [] ∧
    image.link = {
      producer := DmaBufProducer.ofPool made.slotPool made.relayMode
      tasks := []
      held := []
      releases := [] }
  step := step

/-- The frame has a positive size, fits the slots of the configured geometry, and none of
its offsets leaves the range of an `int`. -/
structure Convertible (config : Config) (args : FrameArgs) : Prop where
  wide : 1 ≤ args.width.toInt
  high : 1 ≤ args.height.toInt
  lines : args.width.toInt + args.width.toInt % 2 ≤ args.yStride.toInt
  loads : (args.height.toInt - 1) * args.yStride.toInt < 2 ^ 31
  fits : Fits config args

instance (config : Config) (args : FrameArgs) : Decidable (Convertible config args) :=
  decidable_of_iff
    (1 ≤ args.width.toInt ∧ 1 ≤ args.height.toInt ∧
      args.width.toInt + args.width.toInt % 2 ≤ args.yStride.toInt ∧
      (args.height.toInt - 1) * args.yStride.toInt < 2 ^ 31 ∧
      3 * args.width.toInt * args.height.toInt ≤ pageCeil (rgbBytes config.width config.height) ∧
      3 * args.width.toInt * (args.height.toInt - 1) < 2 ^ 31 ∧ 3 * args.width.toInt ≤ 2 ^ 31)
    ⟨fun ⟨wide, high, lines, loads, fits⟩ => ⟨wide, high, lines, loads, fits⟩,
      fun ⟨wide, high, lines, loads, fits⟩ => ⟨wide, high, lines, loads, fits⟩⟩

def Converts (config : Config) (_ : SharedImage Thread) : ImageAction Thread → Prop
  | .call _ picture => Convertible config picture.args
  | _ => True

instance (config : Config) (image : SharedImage Thread) (action : ImageAction Thread) :
    Decidable (Converts config image action) := by
  unfold Converts
  split <;> infer_instance

def Shows (memory : Int → UInt8) (offset : Int) (picture : Picture) : Prop :=
  let args := picture.args
  ∀ row col channel : Nat, (row : Int) < args.height.toInt → (col : Int) < args.width.toInt →
    channel < 3 →
    (bt601 (picture.nv12 (row * args.yStride.toInt + col))
      (picture.nv12 (args.uvOffset.toInt + (row / 2 : Nat) * args.yStride.toInt +
        (col / 2 * 2 : Nat)))
      (picture.nv12 (args.uvOffset.toInt + (row / 2 : Nat) * args.yStride.toInt +
        (col / 2 * 2 : Nat) + 1)))[channel]? =
      some ((memory (offset +
        (3 * (row * args.width.toInt.toNat + col) + channel : Nat))).toNat : Int)

theorem Convertible.smallOffsets {config : Config} {args : FrameArgs}
    (convertible : Convertible config args) :
    SmallOffsets args.width args.height args.yStride := by
  obtain ⟨_, rows, columns⟩ := convertible.fits
  refine ⟨convertible.loads, ?_, columns⟩
  rw [Int.mul_comm]
  exact rows

theorem Convertible.covers {config : Config} {picture : Picture}
    (convertible : Convertible config picture.args) :
    CoversImage picture.nv12 picture.args.uvOffset picture.args.width picture.args.height
      picture.args.yStride :=
  convertible.smallOffsets.coversImage _ convertible.wide convertible.lines

theorem Convertible.distinct {config : Config} {picture : Picture}
    (convertible : Convertible config picture.args) :
    (picture.stores.map Prod.fst).Nodup := by
  rw [Picture.stores, convertible.covers.stores]
  exact List.nodup_range.map Int.ofNat_injective

theorem Convertible.inside {config : Config} {picture : Picture}
    (convertible : Convertible config picture.args) {store : Int × UInt8}
    (member : store ∈ picture.stores) :
    0 ≤ store.1 ∧ store.1 < pageCeil (rgbBytes config.width config.height) :=
  (nv12ToRgb24_inside_iff picture.nv12 picture.args.uvOffset picture.args.yStride _
    convertible.wide convertible.high).mpr convertible.fits store member

theorem windows_apart {stride first second : Nat} {left right : Int} (different : first ≠ second)
    (inFirst : 0 ≤ left ∧ left < stride) (inSecond : 0 ≤ right ∧ right < stride) :
    ((first * stride : Nat) : Int) + left ≠ ((second * stride : Nat) : Int) + right := by
  rcases Nat.lt_or_gt_of_ne different with below | above
  · have next := Nat.mul_le_mul_right stride (show first + 1 ≤ second by omega)
    rw [Nat.succ_mul] at next
    omega
  · have next := Nat.mul_le_mul_right stride (show second + 1 ≤ first by omega)
    rw [Nat.succ_mul] at next
    omega

theorem Convertible.shows {config : Config} {picture : Picture} {memory : Int → UInt8}
    {offset : Int} (convertible : Convertible config picture.args)
    (held : Holds memory offset picture.stores) : Shows memory offset picture := by
  intro row col channel inRow inColumn few
  obtain ⟨byte, stored, value⟩ := convertible.covers.values row col channel inRow inColumn few
  rw [held _ stored]
  exact value

structure Tracked (config : Config) (image : SharedImage Thread) : Prop where
  calling : ∀ thread args, (image.link.producer.pc thread).args = some args →
    (image.calling thread).args = args ∧ image.calling thread ∈ image.submitted
  convertible : ∀ picture ∈ image.submitted, Convertible config picture.args
  converting : ∀ thread args slot, image.link.producer.pc thread = .syncEnd args slot →
    Holds image.memory (slot * pageCeil (rgbBytes config.width config.height) : Nat)
      ((image.calling thread).stores.take (image.stored thread))
  converted : ∀ thread args slot, image.link.producer.pc thread = .sendFrame args slot →
    Holds image.memory (slot * pageCeil (rgbBytes config.width config.height) : Nat)
      (image.calling thread).stores
  sent : ∀ packet ∈ image.link.tasks ++ image.link.held, ∃ picture ∈ image.submitted,
    packet = taskPacket picture.args packet.slotIndex.toNat ∧
      Holds image.memory
        (packet.slotIndex.toNat * pageCeil (rgbBytes config.width config.height) : Nat)
        picture.stores

variable {config : Config} {answers : InitAnswers} {image next : SharedImage Thread}

theorem link_reachable {allowed : SharedImage Thread → ImageAction Thread → Prop}
    (reachable : (machine Thread config answers).ReachableUnder allowed image) :
    (DirectLink.machine Thread).Reachable image.link := by
  apply reachable.reachable.project SharedImage.link
  · rintro image ⟨made, initialised, direct, _, link⟩
    rw [link]
    exact ⟨DmaBufProducer.fresh_ofPool _ (InitialisedProducer.init_ok initialised).2.2.1, direct,
      rfl, rfl, rfl⟩
  · intro image action next stepped
    cases action with
    | call thread picture =>
        obtain ⟨link, moved, rfl⟩ := Option.map_eq_some_iff.mp stepped
        exact .inr ⟨.producer (.call thread picture.args), moved⟩
    | store thread =>
        simp only [machine, step] at stepped
        split at stepped
        · obtain ⟨store, _, rfl⟩ := Option.map_eq_some_iff.mp stepped
          exact .inl rfl
        · simp at stepped
    | link action =>
        obtain ⟨_, mapped⟩ := Option.ite_none_right_eq_some.mp stepped
        obtain ⟨link, moved, rfl⟩ := Option.map_eq_some_iff.mp mapped
        exact .inr ⟨action, moved⟩

theorem link_layout {allowed : SharedImage Thread → ImageAction Thread → Prop}
    (reachable : (machine Thread config answers).ReachableUnder allowed image) :
    image.link.producer.slotPool.Layout (pageCeil (rgbBytes config.width config.height))
      config.slots.toInt.toNat := by
  have kept : ∀ {link after : DirectLink Thread} {action : LinkAction Thread},
      link.step action = some after →
      link.producer.slotPool.Layout (pageCeil (rgbBytes config.width config.height))
        config.slots.toInt.toNat →
      after.producer.slotPool.Layout (pageCeil (rgbBytes config.width config.height))
        config.slots.toInt.toNat := by
    intro link after action moved layout
    rcases DirectLink.step_producer moved with same | ⟨inner, stepped, _⟩
    · exact same ▸ layout
    · exact (DmaBufProducer.step_effect stepped).layout layout
  apply reachable.invariant fun image : SharedImage Thread =>
    image.link.producer.slotPool.Layout (pageCeil (rgbBytes config.width config.height))
      config.slots.toInt.toNat
  · rintro image ⟨made, initialised, _, _, link⟩
    rw [link]
    exact (InitialisedProducer.init_layout initialised).2.2.2
  · intro image action next _ layout _ stepped
    cases action with
    | call thread picture =>
        obtain ⟨link, moved, rfl⟩ := Option.map_eq_some_iff.mp stepped
        exact kept moved layout
    | store thread =>
        simp only [machine, step] at stepped
        split at stepped
        · obtain ⟨store, _, rfl⟩ := Option.map_eq_some_iff.mp stepped
          exact layout
        · simp at stepped
    | link action =>
        obtain ⟨_, mapped⟩ := Option.ite_none_right_eq_some.mp stepped
        obtain ⟨link, moved, rfl⟩ := Option.map_eq_some_iff.mp mapped
        exact kept moved layout

theorem Tracked.call {thread : Thread} {picture : Picture} (tracked : Tracked config image)
    (convertible : Convertible config picture.args)
    (stepped : image.step (.call thread picture) = some next) : Tracked config next := by
  obtain ⟨link, moved, rfl⟩ := Option.map_eq_some_iff.mp stepped
  obtain ⟨producer, called, rfl⟩ := DirectLink.step_inner moved
  simp only [DmaBufProducer.step] at called
  split at called <;> simp only [Option.some.injEq, reduceCtorEq] at called
  subst producer
  have later : ∀ {other : Picture}, other ∈ image.submitted →
      other ∈ image.submitted ++ [picture] := fun member => List.mem_append_left _ member
  have unmoved : ∀ {other : Thread}, other ≠ thread →
      Function.update image.link.producer.pc thread (.lockPoll picture.args) other =
        image.link.producer.pc other := fun different => Function.update_of_ne different _ _
  refine ⟨?_, ?_, ?_, ?_, ?_⟩
  · intro other args known
    by_cases self : other = thread
    · subst other
      simp only [DmaBufProducer.pc_goto, Function.update_self, Pc.args, Option.some.injEq] at known
      simp [known]
    · simp only [DmaBufProducer.pc_goto, unmoved self] at known
      simp only [Function.update_of_ne self]
      exact (tracked.calling other args known).imp_right later
  · intro other member
    rcases List.mem_append.mp member with earlier | new
    · exact tracked.convertible other earlier
    · exact List.mem_singleton.mp new ▸ convertible
  · intro other args slot pc
    by_cases self : other = thread
    · simp [self] at pc
    · simp only [DmaBufProducer.pc_goto, unmoved self] at pc
      simp only [Function.update_of_ne self]
      exact tracked.converting other args slot pc
  · intro other args slot pc
    by_cases self : other = thread
    · simp [self] at pc
    · simp only [DmaBufProducer.pc_goto, unmoved self] at pc
      simp only [Function.update_of_ne self]
      exact tracked.converted other args slot pc
  · intro packet member
    obtain ⟨shown, earlier, facts⟩ := tracked.sent packet member
    exact ⟨shown, later earlier, facts⟩

omit [DecidableEq Thread] in
theorem Convertible.keeps {writing other : Picture} {slot holder : Nat} {store : Int × UInt8}
    {stores : List (Int × UInt8)} (convertible : Convertible config writing.args)
    (fits : Convertible config other.args) (part : stores ⊆ other.stores)
    (member : store ∈ writing.stores) (different : holder ≠ slot)
    (held : Holds image.memory
      (holder * pageCeil (rgbBytes config.width config.height) : Nat) stores) :
    Holds (Function.update image.memory
        ((slot * pageCeil (rgbBytes config.width config.height) : Nat) + store.1) store.2)
      (holder * pageCeil (rgbBytes config.width config.height) : Nat) stores :=
  held.store_elsewhere store.2 fun _ earlier =>
    windows_apart different (fits.inside (part earlier)) (convertible.inside member)

theorem Tracked.store {thread : Thread} {ledger : Ledger Nat Thread}
    (tracked : Tracked config image) (refines : image.link.producer.Refines ledger)
    (accounted : image.link.Accounted)
    (layout : image.link.producer.slotPool.Layout
      (pageCeil (rgbBytes config.width config.height)) config.slots.toInt.toNat)
    (stepped : image.step (.store thread) = some next) : Tracked config next := by
  simp only [step] at stepped
  split at stepped
  · rename_i args slot pc
    obtain ⟨store, due, rfl⟩ := Option.map_eq_some_iff.mp stepped
    have owns : (image.link.producer.pc thread).owns = some slot := by simp [pc, Pc.owns]
    have inUse := refines.inUse owns
    have bound : slot < config.slots.toInt.toNat := by
      simp only [SlotPool.state?, Option.map_eq_some_iff] at inUse
      obtain ⟨_, found, _⟩ := inUse
      exact layout.length ▸ (List.getElem?_eq_some_iff.mp found).1
    have ours := (tracked.calling thread args (by simp [pc, Pc.args])).2
    have convertible := tracked.convertible _ ours
    have member := List.mem_of_getElem? due
    have nobody : ∀ {other : Thread} {holder : Nat}, other ≠ thread →
        (image.link.producer.pc other).owns = some holder → holder ≠ slot := by
      intro other holder different held same
      exact different (refines.exclusive (same ▸ held) owns)
    rw [layout.getSlotOffset_eq bound]
    refine ⟨tracked.calling, tracked.convertible, ?_, ?_, ?_⟩
    · intro other args' holder converting
      change image.link.producer.pc other = .syncEnd args' holder at converting
      by_cases self : other = thread
      · subst other
        rw [pc, Pc.syncEnd.injEq] at converting
        obtain ⟨rfl, rfl⟩ := converting
        simp only [Function.update_self]
        exact (tracked.converting thread args slot pc).store_next convertible.distinct due
      · simp only [Function.update_of_ne self]
        have theirs := (tracked.calling other args' (by simp [converting, Pc.args])).2
        exact convertible.keeps (tracked.convertible _ theirs) (List.take_subset _ _) member
          (nobody self (by simp [converting, Pc.owns]))
          (tracked.converting other args' holder converting)
    · intro other args' holder converted
      change image.link.producer.pc other = .sendFrame args' holder at converted
      have different : other ≠ thread := by
        rintro rfl
        simp [pc] at converted
      have theirs := (tracked.calling other args' (by simp [converted, Pc.args])).2
      exact convertible.keeps (tracked.convertible _ theirs) (List.Subset.refl _) member
        (nobody different (by simp [converted, Pc.owns]))
        (tracked.converted other args' holder converted)
    · intro packet received
      obtain ⟨picture, listed, named, held⟩ := tracked.sent packet received
      refine ⟨picture, listed, named, ?_⟩
      have owed : packet.slotIndex.toNat ∈ image.link.owed := by
        rw [DirectLink.owed, ← List.append_assoc, ← List.map_append]
        exact List.mem_append_left _ (List.mem_map_of_mem received)
      have different : packet.slotIndex.toNat ≠ slot := by
        intro same
        rcases accounted.outstanding _ owed with onFlight | ⟨other, handed⟩
        · simp [same, inUse] at onFlight
        · have alone := refines.exclusive (Pc.owns_of_handedOver handed) (same ▸ owns)
          simp [alone, pc, Pc.handedOver] at handed
      exact convertible.keeps (tracked.convertible _ listed) (List.Subset.refl _) member
        different held
  · simp at stepped

theorem restarted_cases (action : LinkAction Thread) (thread : Thread) :
    image.restarted action thread = 0 ∨ image.restarted action thread = image.stored thread := by
  unfold restarted
  split
  · rename_i actor _
    by_cases self : thread = actor
    · simp [self]
    · simp [self]
  · exact .inr rfl

theorem Tracked.link {action : LinkAction Thread} {ledger : Ledger Nat Thread}
    (tracked : Tracked config image) (refines : image.link.producer.Refines ledger)
    (stepped : image.step (.link action) = some next) : Tracked config next := by
  obtain ⟨admits, mapped⟩ := Option.ite_none_right_eq_some.mp stepped
  obtain ⟨after, moved, rfl⟩ := Option.map_eq_some_iff.mp mapped
  have advance : ∀ thread, after.producer.pc thread = image.link.producer.pc thread ∨
      ∃ inner, DmaBufProducer.Advance image.link.producer.relayMode thread inner
          (image.link.producer.pc thread) (after.producer.pc thread) ∧
        (action = .producer inner ∨ ∀ thread args failure, inner ≠ .call thread args ∧
          inner ≠ .syncStart thread failure ∧ inner ≠ .syncEnd thread failure) := by
    intro thread
    rcases DirectLink.step_producer moved with same | ⟨inner, produced, which⟩
    · exact .inl (same ▸ rfl)
    · exact .inr ⟨inner, DmaBufProducer.step_advance produced thread, which⟩
  refine ⟨?_, tracked.convertible, ?_, ?_, ?_⟩
  · intro thread args known
    apply tracked.calling thread args
    change (after.producer.pc thread).args = some args at known
    rcases advance thread with same | ⟨inner, advanced, which⟩
    · rwa [same] at known
    · rcases advanced.args_before known with before | rfl
      · exact before
      · rcases which with rfl | neither
        · exact absurd admits id
        · exact absurd rfl (neither thread args none).1
  · intro thread args slot pc
    change after.producer.pc thread = .syncEnd args slot at pc
    change Holds image.memory _ (List.take (image.restarted action thread) _)
    rcases restarted_cases action thread with fresh | unchanged
    · rw [fresh, List.take_zero]
      exact .nil _ _
    · rcases advance thread with same | ⟨inner, advanced, which⟩
      · rw [unchanged]
        exact tracked.converting thread args slot (same ▸ pc)
      · rcases advanced.before_syncEnd pc with before | rfl
        · rw [unchanged]
          exact tracked.converting thread args slot before
        · rcases which with rfl | neither
          · rw [restarted, Function.update_self, List.take_zero]
            exact .nil _ _
          · exact absurd rfl (neither thread args none).2.1
  · intro thread args slot pc
    change after.producer.pc thread = .sendFrame args slot at pc
    rcases advance thread with same | ⟨inner, advanced, which⟩
    · exact tracked.converted thread args slot (same ▸ pc)
    · rcases advanced.before_sendFrame pc with before | ⟨before, rfl⟩
      · exact tracked.converted thread args slot before
      · rcases which with rfl | neither
        · have whole := tracked.converting thread args slot before
          rwa [show image.stored thread = (image.calling thread).stores.length from admits,
            List.take_length] at whole
        · exact absurd rfl (neither thread args none).2.2
  · intro packet received
    rcases DirectLink.step_packets moved received with earlier | ⟨thread, args, slot, pc, rfl⟩
    · exact tracked.sent packet earlier
    · obtain ⟨given, listed⟩ := tracked.calling thread args (by simp [pc, Pc.args])
      have inUse := refines.inUse (show (image.link.producer.pc thread).owns = some slot by
        simp [pc, Pc.owns])
      have named : (UInt32.ofNat slot).toNat = slot :=
        UInt32.toNat_ofNat_of_lt' (Nat.lt_trans (SlotPool.state?_bound inUse) (by decide))
      refine ⟨image.calling thread, listed, ?_, ?_⟩
      · rw [given]
        simp only [taskPacket, named]
      · simp only [taskPacket, named]
        exact tracked.converted thread args slot pc

theorem reachable_tracked
    (reachable : (machine Thread config answers).ReachableUnder (Converts config) image) :
    Tracked config image := by
  apply reachable.invariant (Tracked config)
  · rintro image ⟨made, _, _, submitted, link⟩
    refine ⟨?_, ?_, ?_, ?_, ?_⟩
    · intro thread args known
      simp [link, DmaBufProducer.ofPool, Pc.args] at known
    · simp [submitted]
    · intro thread args slot pc
      simp [link, DmaBufProducer.ofPool] at pc
    · intro thread args slot pc
      simp [link, DmaBufProducer.ofPool] at pc
    · simp [link]
  · intro image action next earlier tracked converts stepped
    have link := link_reachable earlier
    obtain ⟨_, _, refines⟩ :=
      DmaBufProducer.reachable_refines (DirectLink.producer_reachable link)
    cases action with
    | call thread picture => exact tracked.call converts stepped
    | store thread =>
        exact tracked.store refines (DirectLink.reachable_accounted link) (link_layout earlier)
          stepped
    | link action => exact tracked.link refines stepped

theorem toNat_of_positive {value : Int32} (positive : 1 ≤ value.toInt) :
    value.toUInt32.toNat = value.toInt.toNat := by
  have nonnegative : 0 ≤ castInt value.toUInt32 :=
    (show castInt value.toUInt32 = value.toInt from rfl) ▸ by omega
  have exactly := castInt_toNat nonnegative
  rw [show castInt value.toUInt32 = value.toInt from rfl] at exactly
  omega

theorem Convertible.frameSize {args : FrameArgs} (convertible : Convertible config args)
    (slot : Nat) : 0 < frameSize (taskPacket args slot) ∧
      frameSize (taskPacket args slot) ≤ pageCeil (rgbBytes config.width config.height) := by
  have wide := convertible.wide
  have high := convertible.high
  have fits := convertible.fits.1
  have size : Consumer.frameSize (taskPacket args slot) =
      args.width.toInt.toNat * args.height.toInt.toNat * 3 := by
    simp only [Consumer.frameSize, taskPacket, toNat_of_positive wide, toNat_of_positive high]
    rfl
  rw [size]
  refine ⟨Nat.mul_pos (Nat.mul_pos (by omega) (by omega)) (by decide), ?_⟩
  zify
  rw [Int.toNat_of_nonneg (by omega), Int.toNat_of_nonneg (by omega), mul_comm _ (3 : Int),
    ← mul_assoc]
  exact fits

/-- Whenever a task packet is on its way to the consumer or held there, the consumer can map
its frame and finds the submitted picture in it, whatever the other threads do meanwhile. -/
theorem shown_of_received {made : InitialisedProducer} {replies : HandshakeAnswers}
    {consumer : DmaBufConsumer} {packet : IQ9TaskPacket}
    (initialised : InitialisedProducer.init config answers = .ok made)
    (transferred : replies.recvPacket = .ok made.packet)
    (accepted : DmaBufConsumer.new.init replies = .ok consumer)
    (small : pageCeil (rgbBytes config.width config.height) * config.slots.toInt.toNat < 2 ^ 32)
    (reachable : (machine Thread config answers).ReachableUnder (Converts config) image)
    (received : packet ∈ image.link.tasks ++ image.link.held) :
    ∃ picture ∈ image.submitted, ∃ frame, consumer.mapFrame packet = .ok frame ∧
      frame.width = picture.args.width.toUInt32 ∧ frame.height = picture.args.height.toUInt32 ∧
      frame.timestampNs = picture.args.timestampNs ∧
      Shows image.memory frame.slotOffset picture := by
  have tracked := reachable_tracked reachable
  have link := link_reachable reachable
  have layout := link_layout reachable
  obtain ⟨_, _, refines⟩ :=
    DmaBufProducer.reachable_refines (DirectLink.producer_reachable link)
  obtain ⟨picture, listed, named, held⟩ := tracked.sent packet received
  have convertible := tracked.convertible picture listed
  have agrees := layoutAgrees_of_lt initialised transferred accepted small
  obtain ⟨_, _, _, slotCount, _⟩ := InitialisedProducer.init_ok initialised
  obtain ⟨positive, slotStride, _⟩ := InitialisedProducer.init_layout initialised
  have ready := DmaBufConsumer.ready_of_init transferred accepted
  have stride : consumer.slotStride = pageCeil (rgbBytes config.width config.height) :=
    agrees.slotStride.trans slotStride
  have owed : packet.slotIndex.toNat ∈ image.link.owed := by
    rw [DirectLink.owed, ← List.append_assoc, ← List.map_append]
    exact List.mem_append_left _ (List.mem_map_of_mem received)
  have present : packet.slotIndex.toNat < image.link.producer.slotPool.slots.length := by
    have known : ∃ state, image.link.producer.slotPool.state? packet.slotIndex.toNat =
        some state := by
      rcases (DirectLink.reachable_accounted link).outstanding _ owed with onFlight | ⟨_, handed⟩
      · exact ⟨_, onFlight⟩
      · exact ⟨_, refines.inUse (Pc.owns_of_handedOver handed)⟩
    obtain ⟨_, found⟩ := known
    simp only [SlotPool.state?, Option.map_eq_some_iff] at found
    obtain ⟨_, found, _⟩ := found
    exact (List.getElem?_eq_some_iff.mp found).1
  rw [layout.length] at present
  obtain ⟨nonempty, inSlot⟩ := convertible.frameSize packet.slotIndex.toNat
  rw [← named] at nonempty inSlot
  have limit := ready.stride_le
  simp only [kMaxBufferSize] at limit
  have exactSize : frameSize packet % 2 ^ 64 = frameSize packet := Nat.mod_eq_of_lt (by omega)
  have magic : packet.magic = iq9TaskMagic := by
    rw [named]
    rfl
  have inRange : (packet.slotIndex.toNat : Int) < consumer.slotCount := by
    rw [agrees.slotCount, slotCount]
    omega
  have mapped := (DmaBufConsumer.mapFrame_ok_iff ready).mpr
    ⟨magic, inRange, by omega, by omega, rfl⟩
  refine ⟨picture, listed, _, mapped, ?_, ?_, ?_, ?_⟩
  · rw [named]
    rfl
  · rw [named]
    rfl
  · rw [named]
    rfl
  · rw [stride]
    exact convertible.shows held

def greyPixel : Picture where
  args := ⟨1, 1, 2, 2, 1000⟩
  nv12 _ := 128

def pixelPair : Picture where
  args := ⟨2, 1, 2, 2, 2000⟩
  nv12 place := UInt8.ofNat (40 + 50 * place.toNat)

/-- Two threads store their pictures at the same time, and the consumer holds both. -/
theorem shown_of_received_pair : ∃ (image : SharedImage (Fin 2)) (consumer : DmaBufConsumer),
    image.link.held = [taskPacket pixelPair.args 1, taskPacket greyPixel.args 0] ∧
    ∀ packet ∈ image.link.held, ∃ picture ∈ image.submitted, ∃ frame,
      consumer.mapFrame packet = .ok frame ∧
      frame.width = picture.args.width.toUInt32 ∧ frame.height = picture.args.height.toUInt32 ∧
      frame.timestampNs = picture.args.timestampNs ∧
      Shows image.memory frame.slotOffset picture := by
  let entry (thread : Fin 2) : List (ImageAction (Fin 2)) := [
    .link (.producer (.lockPoll thread)), .link (.pollRelease thread),
    .link (.producer (.acquireSlot thread)), .link (.producer (.mapSlot thread)),
    .link (.producer (.syncStart thread none))]
  let exit (thread : Fin 2) : List (ImageAction (Fin 2)) := [
    .link (.producer (.syncEnd thread none)), .link (.sendFrame thread none), .link .recvFrame]
  let actions : List (ImageAction (Fin 2)) :=
    [.call 0 greyPixel, .call 1 pixelPair] ++ entry 0 ++ entry 1 ++
      [.store 0, .store 1, .store 1, .store 0, .store 1, .store 1, .store 1, .store 1] ++ exit 1 ++
      [.store 0] ++ exit 0
  let fresh (made : InitialisedProducer) : SharedImage (Fin 2) := {
    link := {
      producer := DmaBufProducer.ofPool made.slotPool made.relayMode
      tasks := []
      held := []
      releases := [] }
    memory := fun _ => 0
    calling := fun _ => greyPixel
    stored := fun _ => 0
    submitted := [] }
  have reached : (InitialisedProducer.init (geometry 2 1 2) willingAnswers).toOption.bind
      (fun made => ((machine (Fin 2) (geometry 2 1 2) willingAnswers).run
        (Converts (geometry 2 1 2)) (fresh made) actions).map fun image => image.link.held) =
      some [taskPacket pixelPair.args 1, taskPacket greyPixel.args 0] := rfl
  cases initialised : InitialisedProducer.init (geometry 2 1 2) willingAnswers with
  | error reason => simp [initialised, Except.toOption] at reached
  | ok made =>
      simp only [initialised, Except.toOption, Option.bind_some] at reached
      obtain ⟨image, ran, held⟩ := Option.map_eq_some_iff.mp reached
      have direct : made.relayMode = false := by
        have mode : (InitialisedProducer.init (geometry 2 1 2) willingAnswers).toOption.map
            InitialisedProducer.relayMode = some false := rfl
        rw [initialised] at mode
        exact Option.some.inj mode
      have packet : made.packet = (geometry 2 1 2).initPacket :=
        (InitialisedProducer.init_ok initialised).2.2.2.2.2.2
      obtain ⟨consumer, accepted⟩ : ∃ consumer, DmaBufConsumer.new.init
          (willingReplies (geometry 2 1 2).initPacket) = .ok consumer := ⟨_, rfl⟩
      rw [← packet] at accepted
      have reachable : (machine (Fin 2) (geometry 2 1 2) willingAnswers).ReachableUnder
          (Converts (geometry 2 1 2)) image :=
        .run (.start ⟨made, initialised, direct, rfl, rfl⟩) ran
      exact ⟨image, consumer, held, fun packet received =>
        shown_of_received initialised rfl accepted (by decide) reachable
          (List.mem_append_right _ received)⟩

end SharedImage

end Iq9Pipeline.FrameCache
