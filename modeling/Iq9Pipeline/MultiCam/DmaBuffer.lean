import Iq9Pipeline.Foundation.Handles
import Iq9Pipeline.Foundation.Machine
import Mathlib.Algebra.BigOperators.Group.Finset.Basic
import Mathlib.Algebra.BigOperators.Group.Finset.Piecewise
import Mathlib.Algebra.Order.Group.Multiset
import Mathlib.Data.Fintype.Basic

/-!
`DmaBuffer` (`mem_management/dma_buffer.cpp`): a DMA-heap descriptor, its mapping and the
OpenCL object that imports them, with the moves that hand them from one object to another.
Every answer of the kernel and of the OpenCL driver is free.
-/

namespace Iq9Pipeline.MultiCam

open Foundation HandleCall

inductive QnnHandle
  | log
  | backend
  | profile
  | platformInfo
  | device
  | context
  | systemContext
deriving DecidableEq

/-- What the face module acquires of the system. A mapping is known with its length, which
`munmap` has to name again. -/
inductive Resource
  | descriptor (fd : Nat)
  | mapping (address size : Nat)
  | memObject (mem : Nat)
  | context (id : Nat)
  | commandQueue (id : Nat)
  | program (id : Nat)
  | kernel (id : Nat)
  | library (id : Nat)
  | qnn (kind : QnnHandle) (id : Nat)
  | allocation (id : Nat)
  | videoFrame (id : Nat)
deriving DecidableEq

abbrev SystemCall := HandleCall Resource

/-- The members of `DmaBuffer`; a null pointer and a descriptor of -1 are `none`. -/
structure DmaBuffer where
  fd : Option Nat
  vaddr : Option Nat
  size : Nat
  clBuf : Option Nat
  ocl : Bool
  mapped : vaddr.isSome = fd.isSome
  bound : clBuf.isSome = true → fd.isSome = true ∧ ocl = true

namespace DmaBuffer

def empty : DmaBuffer where
  fd := none
  vaddr := none
  size := 0
  clBuf := none
  ocl := false
  mapped := rfl
  bound := nofun

def owned (buffer : DmaBuffer) : Multiset Resource :=
  Staged.holding buffer.clBuf .memObject +
    (Staged.holding buffer.vaddr (.mapping · buffer.size) +
      Staged.holding buffer.fd .descriptor)

structure InitAnswers where
  openHeap : Option Nat
  alloc : Option Nat
  map : Option Nat

def init (buffer : DmaBuffer) (size : Nat) (answers : InitAnswers) :
    Staged DmaBuffer Resource :=
  if uninitialized : buffer.fd.isSome = false then
    match answers.openHeap, answers.alloc, answers.map with
    | none, _, _ => ⟨buffer, [], false⟩
    | some heap, none, _ =>
        ⟨buffer, [.acquire (.descriptor heap), .release (.descriptor heap)], false⟩
    | some heap, some fd, none =>
        ⟨buffer, [.acquire (.descriptor heap), .acquire (.descriptor fd),
          .release (.descriptor heap), .release (.descriptor fd)], false⟩
    | some heap, some fd, some address =>
        ⟨{ buffer with
            fd := some fd
            vaddr := some address
            size := size
            mapped := rfl
            bound := fun bound =>
              absurd (buffer.bound bound).1 (uninitialized ▸ Bool.false_ne_true) },
          [.acquire (.descriptor heap), .acquire (.descriptor fd),
            .release (.descriptor heap), .acquire (.mapping address size)], true⟩
  else ⟨buffer, [], false⟩

def bindOpenCl (buffer : DmaBuffer) (createBuffer : Option Nat) : Staged DmaBuffer Resource :=
  if initialized : buffer.fd.isSome = true then
    if buffer.clBuf.isSome then ⟨buffer, [], false⟩
    else
      match createBuffer with
      | none => ⟨{ buffer with clBuf := none, ocl := false, bound := nofun }, [], false⟩
      | some mem =>
          ⟨{ buffer with clBuf := some mem, ocl := true, bound := fun _ => ⟨initialized, rfl⟩ },
            [.acquire (.memObject mem)], true⟩
  else ⟨buffer, [], false⟩

def destroy (buffer : DmaBuffer) : Staged DmaBuffer Resource where
  object := empty
  calls := (if buffer.ocl then Staged.giveBack buffer.clBuf .memObject else []) ++
    (Staged.giveBack buffer.vaddr (.mapping · buffer.size) ++
      Staged.giveBack buffer.fd .descriptor)
  ok := true

theorem transfers_alloc (heap fd : Nat) (before : Multiset Resource) :
    Transfers [.acquire (.descriptor heap), .acquire (.descriptor fd),
      .release (.descriptor heap)] before (.descriptor fd ::ₘ before) :=
  (Transfers.acquire _ _).append
    ((Transfers.acquire _ _).append (Transfers.release_under _ _ _))

theorem keeps_init (buffer : DmaBuffer) (size : Nat) (answers : InitAnswers) :
    (buffer.init size answers).Keeps owned buffer.owned := by
  rw [init]
  split
  · rename_i uninitialized
    have unbound : buffer.clBuf = none := by
      by_contra holds
      have := (buffer.bound (Option.isSome_iff_ne_none.mpr holds)).1
      exact absurd this (by simp [uninitialized])
    have unmapped : buffer.vaddr = none := by
      rw [← Option.isNone_iff_eq_none, ← Option.not_isSome, buffer.mapped, uninitialized]
      rfl
    have closed : buffer.fd = none := by
      rwa [Option.isSome_eq_false_iff, Option.isNone_iff_eq_none] at uninitialized
    split
    · exact Transfers.nil _
    · exact (Transfers.acquire _ _).append (Transfers.release _ _)
    · rename_i heap fd _ _ _
      exact (transfers_alloc heap fd _).append (Transfers.release _ _)
    · rename_i heap fd address _ _ _
      have after := (transfers_alloc heap fd buffer.owned).append
        (Transfers.acquire (.mapping address size) _)
      simp only [Staged.Keeps, owned, Staged.holding, unbound, unmapped, closed, Option.elim_none,
        Option.elim_some, zero_add, Multiset.singleton_add] at after ⊢
      exact after
  · exact Transfers.nil _

theorem keeps_bindOpenCl (buffer : DmaBuffer) (createBuffer : Option Nat) :
    (buffer.bindOpenCl createBuffer).Keeps owned buffer.owned := by
  rw [bindOpenCl]
  split
  · split
    · exact Transfers.nil _
    · rename_i unbound
      rw [Option.not_isSome_iff_eq_none] at unbound
      cases createBuffer with
      | none =>
          simp only [Staged.Keeps, owned, unbound]
          exact Transfers.nil _
      | some mem =>
          have acquired := Transfers.acquire (.memObject mem) buffer.owned
          simp only [Staged.Keeps, owned, unbound, Staged.holding, Option.elim_none,
            Option.elim_some, zero_add, Multiset.singleton_add] at acquired ⊢
          exact acquired
  · exact Transfers.nil _

theorem keeps_destroy (buffer : DmaBuffer) : buffer.destroy.Keeps owned buffer.owned := by
  have released : Transfers (if buffer.ocl then Staged.giveBack buffer.clBuf .memObject else [])
      buffer.owned (Staged.holding buffer.vaddr (.mapping · buffer.size) +
        Staged.holding buffer.fd .descriptor) := by
    split
    · exact Staged.transfers_giveBack _ _ _
    · rename_i unloaded
      have unbound : buffer.clBuf = none := by
        by_contra holds
        exact unloaded (buffer.bound (Option.isSome_iff_ne_none.mpr holds)).2
      rw [owned, unbound, Staged.holding, Option.elim_none, zero_add]
      exact Transfers.nil _
  have unmapped := Staged.transfers_giveBack buffer.vaddr (.mapping · buffer.size)
    (Staged.holding buffer.fd Resource.descriptor)
  have closed := Staged.transfers_giveBack buffer.fd Resource.descriptor 0
  rw [add_zero] at closed
  exact released.append (unmapped.append closed)

theorem clears_destroy (buffer : DmaBuffer) : Transfers buffer.destroy.calls buffer.owned 0 :=
  keeps_destroy buffer

end DmaBuffer

structure DmaBuffers (Id : Type) where
  buffer : Id → Option DmaBuffer
  calls : List SystemCall

inductive BufferAction (Id : Type)
  | construct (id : Id)
  | destruct (id : Id)
  | init (id : Id) (size : Nat) (answers : DmaBuffer.InitAnswers)
  | bindOpenCl (id : Id) (createBuffer : Option Nat)
  | destroy (id : Id)
  | moveConstruct (target source : Id)
  | moveAssign (target source : Id)

namespace DmaBuffers

variable {Id : Type} [DecidableEq Id]

def apply (buffers : DmaBuffers Id) (id : Id)
    (operation : DmaBuffer → Staged DmaBuffer Resource) : Option (DmaBuffers Id) :=
  (buffers.buffer id).map fun buffer =>
    { buffer := Function.update buffers.buffer id (some (operation buffer).object)
      calls := buffers.calls ++ (operation buffer).calls }

def step (buffers : DmaBuffers Id) : BufferAction Id → Option (DmaBuffers Id)
  | .construct id =>
      match buffers.buffer id with
      | none => some { buffers with buffer := Function.update buffers.buffer id (some .empty) }
      | some _ => none
  | .destruct id =>
      (buffers.buffer id).map fun buffer =>
        { buffer := Function.update buffers.buffer id none
          calls := buffers.calls ++ buffer.destroy.calls }
  | .init id size answers => buffers.apply id fun buffer => buffer.init size answers
  | .bindOpenCl id createBuffer => buffers.apply id fun buffer => buffer.bindOpenCl createBuffer
  | .destroy id => buffers.apply id DmaBuffer.destroy
  | .moveConstruct target source =>
      match buffers.buffer target, buffers.buffer source with
      | none, some moved =>
          some { buffers with
            buffer := Function.update (Function.update buffers.buffer target (some moved))
              source (some .empty) }
      | _, _ => none
  | .moveAssign target source =>
      match buffers.buffer target, buffers.buffer source with
      | some old, some moved =>
          if target = source then some buffers
          else some {
            buffer := Function.update (Function.update buffers.buffer target (some moved))
              source (some .empty)
            calls := buffers.calls ++ old.destroy.calls }
      | _, _ => none

def machine (Id : Type) [DecidableEq Id] : Machine (DmaBuffers Id) (BufferAction Id) where
  start buffers := (∀ id, buffers.buffer id = none) ∧ buffers.calls = []
  step := step

def ownedBy (buffer : Option DmaBuffer) : Multiset Resource :=
  buffer.elim 0 DmaBuffer.owned

def owned [Fintype Id] (buffers : DmaBuffers Id) : Multiset Resource :=
  ∑ id, ownedBy (buffers.buffer id)

section

variable [Fintype Id]

theorem sum_update (buffer : Id → Option DmaBuffer) (id : Id) (value : Option DmaBuffer) :
    ∑ other, ownedBy (Function.update buffer id value other) =
      ownedBy value + ∑ other ∈ Finset.univ.erase id, ownedBy (buffer other) := by
  rw [← Finset.add_sum_erase _ _ (Finset.mem_univ id), Function.update_self]
  congr 1
  apply Finset.sum_congr rfl
  intro other member
  rw [Function.update_of_ne (Finset.ne_of_mem_erase member)]

theorem owned_eq (buffers : DmaBuffers Id) (id : Id) :
    buffers.owned = ownedBy (buffers.buffer id) +
      ∑ other ∈ Finset.univ.erase id, ownedBy (buffers.buffer other) :=
  (Finset.add_sum_erase _ _ (Finset.mem_univ id)).symm

theorem sum_move (buffer : Id → Option DmaBuffer) {target source : Id}
    (different : target ≠ source) (moved : DmaBuffer) :
    ∑ other, ownedBy (Function.update (Function.update buffer target (some moved)) source
        (some .empty) other) =
      moved.owned + ∑ other ∈ (Finset.univ.erase source).erase target, ownedBy (buffer other) := by
  have emptied : ownedBy (some DmaBuffer.empty) = 0 := rfl
  have listed : target ∈ Finset.univ.erase source :=
    Finset.mem_erase.mpr ⟨different, Finset.mem_univ target⟩
  rw [sum_update, emptied, zero_add, ← Finset.add_sum_erase _ _ listed, Function.update_self]
  congr 1
  apply Finset.sum_congr rfl
  intro other member
  rw [Function.update_of_ne (Finset.ne_of_mem_erase member)]

theorem owned_eq_both (buffers : DmaBuffers Id) {target source : Id} (different : target ≠ source) :
    buffers.owned = ownedBy (buffers.buffer source) + (ownedBy (buffers.buffer target) +
      ∑ other ∈ (Finset.univ.erase source).erase target, ownedBy (buffers.buffer other)) := by
  have listed : target ∈ Finset.univ.erase source :=
    Finset.mem_erase.mpr ⟨different, Finset.mem_univ target⟩
  rw [owned_eq buffers source, ← Finset.add_sum_erase _ _ listed]

variable {buffers next : DmaBuffers Id}

theorem accounts_apply {id : Id} {operation : DmaBuffer → Staged DmaBuffer Resource}
    (keeps : ∀ buffer, (operation buffer).Keeps DmaBuffer.owned buffer.owned)
    (stepped : buffers.apply id operation = some next) : Accounts calls owned buffers next := by
  obtain ⟨buffer, present, rfl⟩ := Option.map_eq_some_iff.mp stepped
  refine ⟨(operation buffer).calls, rfl, ?_⟩
  rw [owned_eq buffers id, present, owned, sum_update]
  exact (keeps buffer).beside _

theorem step_accounts {action : BufferAction Id} (stepped : buffers.step action = some next) :
    Accounts calls owned buffers next := by
  cases action with
  | construct id =>
      simp only [step] at stepped
      split at stepped
      · rename_i absent
        obtain rfl := Option.some.inj stepped
        refine accounts_silent rfl ?_
        rw [owned, sum_update, owned_eq buffers id, absent]
        rfl
      · simp at stepped
  | destruct id =>
      obtain ⟨buffer, present, rfl⟩ := Option.map_eq_some_iff.mp stepped
      refine ⟨buffer.destroy.calls, rfl, ?_⟩
      rw [owned_eq buffers id, present, owned, sum_update]
      exact (DmaBuffer.keeps_destroy buffer).beside _
  | init id size answers => exact accounts_apply (fun _ => DmaBuffer.keeps_init _ _ _) stepped
  | bindOpenCl id createBuffer =>
      exact accounts_apply (fun _ => DmaBuffer.keeps_bindOpenCl _ _) stepped
  | destroy id => exact accounts_apply DmaBuffer.keeps_destroy stepped
  | moveConstruct target source =>
      simp only [step] at stepped
      split at stepped
      · rename_i moved absent present
        obtain rfl := Option.some.inj stepped
        have different : target ≠ source := by
          rintro rfl
          simp [absent] at present
        refine accounts_silent rfl ?_
        rw [owned, sum_move _ different, owned_eq_both buffers different, present, absent]
        exact congrArg _ (zero_add _).symm
      · simp at stepped
  | moveAssign target source =>
      simp only [step] at stepped
      split at stepped
      · rename_i old moved present given
        split at stepped
        · obtain rfl := Option.some.inj stepped
          exact accounts_silent rfl rfl
        · rename_i different
          obtain rfl := Option.some.inj stepped
          refine ⟨old.destroy.calls, rfl, ?_⟩
          rw [owned_eq_both buffers different, present, given]
          change Transfers _ _ (∑ other, ownedBy (Function.update (Function.update buffers.buffer
            target (some moved)) source (some .empty) other))
          rw [sum_move _ different]
          have destroyed := (DmaBuffer.keeps_destroy old).beside (moved.owned +
            ∑ other ∈ (Finset.univ.erase source).erase target, ownedBy (buffers.buffer other))
          rw [show DmaBuffer.owned old.destroy.object = 0 from rfl, zero_add,
            add_left_comm] at destroyed
          exact destroyed
      · simp at stepped

theorem reachable_transfers (reachable : (machine Id).Reachable buffers) :
    Transfers buffers.calls 0 buffers.owned := by
  apply Machine.Reachable.transfers _ (fun _ _ _ => step_accounts) reachable
  rintro buffers ⟨absent, silent⟩
  exact ⟨silent, Finset.sum_eq_zero fun id _ => by rw [absent id]; rfl⟩

/-- In every run, whatever the system answers, each release is of something live and what is
live is what the buffers hold. No two of them hold the same, as long as the system hands out only
what is not live. -/
theorem eachReleasedOnce (reachable : (machine Id).Reachable buffers) :
    Proper 0 buffers.calls ∧ liveAfter 0 buffers.calls = buffers.owned ∧
      (Answered 0 buffers.calls → buffers.owned.Nodup) ∧
      ((∀ id, buffers.buffer id = none) → liveAfter 0 buffers.calls = 0) := by
  obtain ⟨proper, left⟩ := (reachable_transfers reachable).whole
  refine ⟨proper, left, fun answered => left ▸ answered.nodup Multiset.nodup_zero, fun absent => ?_⟩
  rw [left]
  exact Finset.sum_eq_zero fun id _ => by rw [absent id]; rfl

end

theorem eachReleasedOnce_moved : ∃ buffers : DmaBuffers (Fin 2),
    buffers.calls.length = 8 ∧ Proper 0 buffers.calls ∧
      liveAfter 0 buffers.calls = buffers.owned ∧ buffers.owned.Nodup ∧
      ((∀ id, buffers.buffer id = none) → liveAfter 0 buffers.calls = 0) := by
  let actions : List (BufferAction (Fin 2)) := [.construct 0, .init 0 64 ⟨some 3, some 4, some 1⟩,
    .bindOpenCl 0 (some 7), .moveConstruct 1 0, .destruct 0, .destruct 1]
  have reached : ((machine (Fin 2)).run (fun _ _ => True) ⟨fun _ => none, []⟩ actions).map
      DmaBuffers.calls = some [.acquire (.descriptor 3), .acquire (.descriptor 4),
        .release (.descriptor 3), .acquire (.mapping 1 64), .acquire (.memObject 7),
        .release (.memObject 7), .release (.mapping 1 64), .release (.descriptor 4)] := rfl
  obtain ⟨buffers, ran, calls⟩ := Option.map_eq_some_iff.mp reached
  have reachable : (machine (Fin 2)).Reachable buffers :=
    Machine.ReachableUnder.run (Machine.ReachableUnder.start ⟨fun _ => rfl, rfl⟩) ran
  have answered : Answered 0 buffers.calls := by
    rw [calls]
    decide
  obtain ⟨proper, left, distinct, nothing⟩ := eachReleasedOnce reachable
  exact ⟨buffers, by rw [calls]; rfl, proper, left, distinct answered, nothing⟩

end DmaBuffers

end Iq9Pipeline.MultiCam
