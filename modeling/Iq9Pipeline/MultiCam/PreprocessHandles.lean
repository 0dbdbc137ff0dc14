import Iq9Pipeline.MultiCam.DmaBuffer
import Mathlib.Tactic.Abel

/-!
What `FacePreprocess` acquires of OpenCL and of the kernel, stage by stage, and gives back
where a stage fails. Every answer of the system is free.
-/

namespace Iq9Pipeline.MultiCam

open Foundation HandleCall

structure PreprocessKernel where
  prog : Option Nat
  kernel : Option Nat
  out : DmaBuffer

namespace PreprocessKernel

def empty : PreprocessKernel :=
  ⟨none, none, .empty⟩

def owned (part : PreprocessKernel) : Multiset Resource :=
  part.out.owned + (Staged.holding part.kernel .kernel + Staged.holding part.prog .program)

structure ProgramAnswers where
  source : Bool
  program : Option Nat
  build : Bool
  kernel : Option Nat

def releaseProgram (part : PreprocessKernel) : Staged PreprocessKernel Resource where
  object := { part with prog := none }
  calls := Staged.giveBack part.prog .program
  ok := true

def buildProgram (part : PreprocessKernel) (answers : ProgramAnswers) :
    Staged PreprocessKernel Resource :=
  (Staged.check answers.source part).andThen fun part =>
  (Staged.obtain answers.program .program (fun id => { part with prog := some id })
    part).andThen fun part =>
  ((Staged.check answers.build part).andThen fun part =>
    Staged.obtain answers.kernel .kernel (fun id => { part with kernel := some id })
      part).orElse releaseProgram

structure OutputAnswers where
  init : DmaBuffer.InitAnswers
  bind : Option Nat

def allocate (part : PreprocessKernel) (size : Nat) (answers : OutputAnswers) :
    Staged PreprocessKernel Resource :=
  ((part.out.init size answers.init).andThen fun out =>
    out.bindOpenCl answers.bind).inside fun out => { part with out := out }

theorem keeps_releaseProgram (part : PreprocessKernel) :
    part.releaseProgram.Keeps owned part.owned := by
  have released := (Staged.clears_giveBack part.prog Resource.program).beside
    (part.out.owned + Staged.holding part.kernel Resource.kernel)
  have split : part.owned = Staged.holding part.prog .program +
      (part.out.owned + Staged.holding part.kernel .kernel) := by
    rw [owned]
    abel
  have left : owned part.releaseProgram.object =
      0 + (part.out.owned + Staged.holding part.kernel .kernel) := by
    rw [owned]
    simp [releaseProgram, Staged.holding]
  rw [Staged.Keeps, split, left]
  exact released

theorem keeps_buildProgram {part : PreprocessKernel} (answers : ProgramAnswers)
    (unbuilt : part.prog = none ∧ part.kernel = none) :
    (part.buildProgram answers).Keeps owned part.owned := by
  obtain ⟨noProgram, noKernel⟩ := unbuilt
  apply Staged.keeps_checkThen
  apply Staged.keeps_obtainThen
  · intro id
    simp only [owned, noProgram, Staged.holding, Option.elim_none, Option.elim_some, add_zero]
    rw [← Multiset.singleton_add]
    abel
  · intro program
    apply Staged.Keeps.orElse _ (keeps_releaseProgram _)
    apply Staged.keeps_checkThen
    apply Staged.keeps_obtain
    intro id
    simp only [owned, noKernel, Staged.holding, Option.elim_none, Option.elim_some, zero_add]
    rw [← Multiset.singleton_add]
    abel

theorem keeps_allocate (part : PreprocessKernel) (size : Nat) (answers : OutputAnswers) :
    (part.allocate size answers).Keeps owned part.owned := by
  have allocated : ((part.out.init size answers.init).andThen fun out =>
      out.bindOpenCl answers.bind).Keeps DmaBuffer.owned part.out.owned :=
    (DmaBuffer.keeps_init part.out size answers.init).andThen fun _ =>
      DmaBuffer.keeps_bindOpenCl _ answers.bind
  have splits (out : DmaBuffer) : owned { part with out := out } = DmaBuffer.owned out +
      (Staged.holding part.kernel .kernel + Staged.holding part.prog .program) := rfl
  exact allocated.inside splits

end PreprocessKernel

/-- The handles of `FacePreprocess`. Its loader is the singleton, which is never unloaded. -/
structure PreprocessHandles where
  ctx : Option Nat
  queue : Option Nat
  scrfd : PreprocessKernel
  arcface : PreprocessKernel
  initialized : Bool

namespace PreprocessHandles

def empty : PreprocessHandles :=
  ⟨none, none, .empty, .empty, false⟩

def owned (gpu : PreprocessHandles) : Multiset Resource :=
  gpu.scrfd.out.owned + (gpu.arcface.out.owned +
    (Staged.holding gpu.scrfd.kernel .kernel + (Staged.holding gpu.arcface.kernel .kernel +
      (Staged.holding gpu.scrfd.prog .program + (Staged.holding gpu.arcface.prog .program +
        (Staged.holding gpu.queue .commandQueue + Staged.holding gpu.ctx .context))))))

structure InitAnswers where
  loader : Bool
  platform : Bool
  device : Bool
  context : Option Nat
  queue : Option Nat
  scrfdProgram : PreprocessKernel.ProgramAnswers
  arcfaceProgram : PreprocessKernel.ProgramAnswers
  scrfdOut : PreprocessKernel.OutputAnswers
  arcfaceOut : PreprocessKernel.OutputAnswers

def scrfdOutputBytes : Nat :=
  3 * 640 * 640 * 4

def arcfaceOutputBytes : Nat :=
  3 * 112 * 112 * 4

def destroy (gpu : PreprocessHandles) : Staged PreprocessHandles Resource where
  object := empty
  calls := gpu.scrfd.out.destroy.calls ++ (gpu.arcface.out.destroy.calls ++
    (Staged.giveBack gpu.scrfd.kernel .kernel ++ (Staged.giveBack gpu.arcface.kernel .kernel ++
      (Staged.giveBack gpu.scrfd.prog .program ++ (Staged.giveBack gpu.arcface.prog .program ++
        (Staged.giveBack gpu.queue .commandQueue ++ Staged.giveBack gpu.ctx .context))))))
  ok := true

def init (gpu : PreprocessHandles) (answers : InitAnswers) : Staged PreprocessHandles Resource :=
  if gpu.initialized || !answers.loader then ⟨gpu, [], false⟩
  else
    ((Staged.check answers.platform gpu).andThen fun gpu =>
      (Staged.check answers.device gpu).andThen fun gpu =>
      (Staged.obtain answers.context .context (fun id => { gpu with ctx := some id })
        gpu).andThen fun gpu =>
      (Staged.obtain answers.queue .commandQueue (fun id => { gpu with queue := some id })
        gpu).andThen fun gpu =>
      ((gpu.scrfd.buildProgram answers.scrfdProgram).inside
        fun part => { gpu with scrfd := part }).andThen fun gpu =>
      ((gpu.arcface.buildProgram answers.arcfaceProgram).inside
        fun part => { gpu with arcface := part }).andThen fun gpu =>
      ((gpu.scrfd.allocate scrfdOutputBytes answers.scrfdOut).inside
        fun part => { gpu with scrfd := part }).andThen fun gpu =>
      ((gpu.arcface.allocate arcfaceOutputBytes answers.arcfaceOut).inside
        fun part => { gpu with arcface := part }).andThen fun gpu =>
      Staged.check true { gpu with initialized := true }).orElse destroy

theorem clears_destroy (gpu : PreprocessHandles) : Transfers gpu.destroy.calls gpu.owned 0 := by
  refine (DmaBuffer.clears_destroy gpu.scrfd.out).clear ?_
  refine (DmaBuffer.clears_destroy gpu.arcface.out).clear ?_
  refine (Staged.clears_giveBack gpu.scrfd.kernel Resource.kernel).clear ?_
  refine (Staged.clears_giveBack gpu.arcface.kernel Resource.kernel).clear ?_
  refine (Staged.clears_giveBack gpu.scrfd.prog Resource.program).clear ?_
  refine (Staged.clears_giveBack gpu.arcface.prog Resource.program).clear ?_
  refine (Staged.clears_giveBack gpu.queue Resource.commandQueue).clear ?_
  exact Staged.clears_giveBack gpu.ctx Resource.context

theorem keeps_destroy (gpu : PreprocessHandles) : gpu.destroy.Keeps owned gpu.owned :=
  clears_destroy gpu

theorem owned_scrfd (gpu : PreprocessHandles) (part : PreprocessKernel) :
    owned { gpu with scrfd := part } = part.owned + (gpu.arcface.owned +
      (Staged.holding gpu.queue .commandQueue + Staged.holding gpu.ctx .context)) := by
  simp only [owned, PreprocessKernel.owned]
  abel

theorem owned_arcface (gpu : PreprocessHandles) (part : PreprocessKernel) :
    owned { gpu with arcface := part } = part.owned + (gpu.scrfd.owned +
      (Staged.holding gpu.queue .commandQueue + Staged.holding gpu.ctx .context)) := by
  simp only [owned, PreprocessKernel.owned]
  abel

theorem keeps_init {gpu : PreprocessHandles} (answers : InitAnswers)
    (unset : gpu.initialized = false → gpu = empty) :
    (gpu.init answers).Keeps owned gpu.owned := by
  rw [init]
  split
  · exact Transfers.nil _
  · rename_i begun
    obtain rfl := unset (by simp at begun; exact begun.1)
    apply Staged.Keeps.orElse _ (keeps_destroy _)
    apply Staged.keeps_checkThen
    apply Staged.keeps_checkThen
    refine Staged.keeps_obtainThen (fun id => rfl) fun context => ?_
    refine Staged.keeps_obtainThen (fun id => rfl) fun queue => ?_
    have unbuilt : PreprocessKernel.empty.prog = none ∧ PreprocessKernel.empty.kernel = none :=
      ⟨rfl, rfl⟩
    have scrfdBuilt := (PreprocessKernel.keeps_buildProgram answers.scrfdProgram unbuilt).inside
      (owned_scrfd ⟨some context, some queue, .empty, .empty, false⟩)
    refine Staged.Keeps.andThen scrfdBuilt fun _ => ?_
    generalize PreprocessKernel.buildProgram _ _ = scrfd
    have arcfaceBuilt :=
      (PreprocessKernel.keeps_buildProgram answers.arcfaceProgram unbuilt).inside
        (owned_arcface ⟨some context, some queue, scrfd.object, .empty, false⟩)
    refine Staged.Keeps.andThen arcfaceBuilt fun _ => ?_
    generalize PreprocessKernel.buildProgram _ _ = arcface
    have scrfdAllocated :=
      (PreprocessKernel.keeps_allocate scrfd.object scrfdOutputBytes answers.scrfdOut).inside
        (owned_scrfd ⟨some context, some queue, scrfd.object, arcface.object, false⟩)
    refine Staged.Keeps.andThen scrfdAllocated fun _ => ?_
    generalize PreprocessKernel.allocate _ _ _ = scrfdOut
    have arcfaceAllocated :=
      (PreprocessKernel.keeps_allocate arcface.object arcfaceOutputBytes answers.arcfaceOut).inside
        (owned_arcface ⟨some context, some queue, scrfdOut.object, arcface.object, false⟩)
    exact Staged.Keeps.andThen arcfaceAllocated fun _ => Transfers.nil _

end PreprocessHandles

end Iq9Pipeline.MultiCam
